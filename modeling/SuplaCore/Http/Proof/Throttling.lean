import SuplaCore.Http.Throttling

/-!
# When a channel is throttled

The counter of a channel is the length of its burst: the calls that are counted for it, back to the
last pause of the reset time. The delay is the long one from the threshold on (`getDelayTime_fst`).
-/

namespace Http.Throttling

variable {p : Throttling}

/-! ## Bursts -/

/-- A call that is counted: the default delay is shorter than the reset time. -/
def Counts (p : Throttling) (channelId : Int) (c : Call) : Bool :=
  c.channelId = channelId ∧ p.getDefaultDelayTime c.func < getResetTimeUs c.func

/-- The calls that are counted for a channel. -/
def counted (p : Throttling) (channelId : Int) (cs : List Call) : List Call :=
  cs.filter (p.Counts channelId)

/-- The calls since the last pause, of calls of which the last one comes first. -/
def burst : List Call → Nat
  | [] => 0
  | [_] => 1
  | c :: d :: cs => if c.now - d.now ≥ getResetTimeUs c.func then 1 else burst (d :: cs) + 1

theorem burst_pos (c : Call) (cs : List Call) : 0 < burst (c :: cs) := by
  cases cs with
  | nil => exact Nat.zero_lt_one
  | cons d cs =>
    rw [burst]
    split
    · exact Nat.zero_lt_one
    · exact Nat.succ_pos _

/-- The item that some calls leave to their channel. -/
def itemOf (channelId : Int) : List Call → Option Item
  | [] => none
  | c :: cs => some ⟨channelId, c.now, BitVec.ofNat 32 (burst (c :: cs))⟩

theorem getCounterThreadshold_ge (func : Int) : 5 ≤ getCounterThreadshold func := by
  unfold getCounterThreadshold
  split
  · decide
  · split <;> decide

/-! ## One call -/

/-- What a call does to the item of its channel, which may have to be made first. -/
def renew (p : Throttling) (c : Call) (item : Option Item) : Int × Item :=
  p.hit c.func c.now (item.getD ⟨c.channelId, c.now, 0⟩)

theorem hitItem_fst (c : Call) (items : List Item) :
    (p.hitItem c.channelId c.func c.now items).1 =
      (p.renew c (items.find? (·.channelId = c.channelId))).1 := by
  induction items with
  | nil => rfl
  | cons it items ih =>
    rw [hitItem]
    by_cases hit : it.channelId = c.channelId
    · simp [hit, renew]
    · simp [hit, ih]

theorem channelId_hit (func now : Int) (it : Item) :
    (p.hit func now it).2.channelId = it.channelId := by
  unfold hit
  dsimp only
  split
  · rfl
  · split <;> rfl

theorem find?_hitItem (c : Call) (items : List Item) (channelId : Int) :
    (p.hitItem c.channelId c.func c.now items).2.find? (·.channelId = channelId) =
      if channelId = c.channelId then
        some (p.renew c (items.find? (·.channelId = c.channelId))).2
      else items.find? (·.channelId = channelId) := by
  induction items with
  | nil =>
    rw [hitItem]
    by_cases h : channelId = c.channelId
    · simp [h, renew, channelId_hit]
    · simp [h, channelId_hit, Ne.symm h]
  | cons it items ih =>
    rw [hitItem]
    by_cases hit : it.channelId = c.channelId
    · by_cases h : channelId = c.channelId
      · simp [hit, h, renew, channelId_hit]
      · simp [hit, h, channelId_hit, Ne.symm h]
    · by_cases h : channelId = c.channelId
      · simpa [hit, h] using ih
      · by_cases hi : it.channelId = channelId
        · simp [hi, h]
        · simp [hit, hi, h, ih]

theorem toNat_counter (n : Nat) : (BitVec.ofNat 32 n).toNat = n % counterSize :=
  BitVec.toNat_ofNat n 32

/-- A call lengthens the burst of its channel or starts a new one. -/
theorem renew_itemOf (c : Call) (cs : List Call) :
    p.renew c (itemOf c.channelId cs) =
      (if burst (c :: cs) % counterSize ≥ getCounterThreadshold c.func then
          p.getDelayTimeOverThreadshold c.func else p.getDefaultDelayTime c.func,
        ⟨c.channelId, c.now, BitVec.ofNat 32 (burst (c :: cs))⟩) := by
  have hlow := getCounterThreadshold_ge c.func
  have hpos : ¬ (0 : Int) ≥ getResetTimeUs c.func :=
    Int.not_le.mpr (by unfold getResetTimeUs; decide)
  cases cs with
  | nil =>
    have hone : ¬ (1 : Nat) ≥ getCounterThreadshold c.func := by omega
    show p.hit c.func c.now ⟨c.channelId, c.now, 0⟩ = _
    rw [hit, burst]
    dsimp only
    rw [Int.sub_self, if_neg hpos, show ((0 : BitVec 32) + 1).toNat = 1 from rfl, if_neg hone,
      show 1 % counterSize = 1 from rfl, if_neg hone]
    rfl
  | cons d cs =>
    show p.hit c.func c.now ⟨c.channelId, d.now, BitVec.ofNat 32 (burst (d :: cs))⟩ = _
    rw [hit, burst]
    dsimp only
    by_cases hpause : c.now - d.now ≥ getResetTimeUs c.func
    · have hone : ¬ (1 : Nat) ≥ getCounterThreadshold c.func := by omega
      rw [if_pos hpause, if_pos hpause, show 1 % counterSize = 1 from rfl, if_neg hone]
      rfl
    · have hcounter : BitVec.ofNat 32 (burst (d :: cs)) + 1 =
          BitVec.ofNat 32 (burst (d :: cs) + 1) := (BitVec.ofNat_add _ _).symm
      rw [if_neg hpause, if_neg hpause, hcounter, toNat_counter]
      split <;> rfl

/-- What both delays of a service are not below, a call is not told less than. -/
theorem le_getDelayTime {d : Int}
    (hd : ∀ func, d ≤ p.getDefaultDelayTime func ∧ d ≤ p.getDelayTimeOverThreadshold func)
    (channelId func now : Int) (items : List Item) :
    d ≤ (p.getDelayTime channelId func now items).1 := by
  have hhit : ∀ it, d ≤ (p.hit func now it).1 := by
    intro it
    unfold hit
    dsimp only
    split
    · exact (hd func).1
    · split
      · exact (hd func).2
      · exact (hd func).1
  rw [getDelayTime]
  split
  · exact (hd func).1
  · rw [hitItem_fst ⟨channelId, func, now⟩]
    exact hhit _

/-! ## Any calls -/

theorem counted_cons_of_ne {channelId : Int} {c : Call} {cs : List Call}
    (h : channelId ≠ c.channelId) : p.counted channelId (c :: cs) = p.counted channelId cs := by
  simp [counted, Counts, Ne.symm h]

/-- **The items are the bursts**: after any calls a channel has the item of the calls that were
counted for it. -/
theorem find?_itemsAfter (cs : List Call) (channelId : Int) :
    (p.itemsAfter cs).find? (·.channelId = channelId) =
      itemOf channelId (p.counted channelId cs) := by
  induction cs generalizing channelId with
  | nil => rfl
  | cons c cs ih =>
    rw [itemsAfter, getDelayTime]
    by_cases hcount : p.getDefaultDelayTime c.func ≥ getResetTimeUs c.func
    · have hskip : p.counted channelId (c :: cs) = p.counted channelId cs := by
        simp [counted, Counts, Int.not_lt.mpr hcount]
      rw [if_pos hcount, hskip, ih]
    · rw [if_neg hcount, find?_hitItem, ih, ih]
      by_cases h : channelId = c.channelId
      · subst h
        have hcons : p.counted c.channelId (c :: cs) = c :: p.counted c.channelId cs := by
          simp [counted, Counts, Int.not_le.mp hcount]
        rw [if_pos rfl, renew_itemOf, hcons]
        rfl
      · rw [if_neg h, counted_cons_of_ne h]

/-- **When a channel is throttled**: after any calls for any channels, a call gets the long delay
exactly when the burst of its channel has reached the threshold of its function, and the default
one otherwise. Functions whose default delay is not below the reset time are not throttled. -/
theorem getDelayTime_fst (p : Throttling) (cs : List Call) (c : Call) :
    (p.getDelayTime c.channelId c.func c.now (p.itemsAfter cs)).1 =
      if p.getDefaultDelayTime c.func < getResetTimeUs c.func ∧
          burst (c :: p.counted c.channelId cs) % counterSize ≥ getCounterThreadshold c.func then
        p.getDelayTimeOverThreadshold c.func
      else p.getDefaultDelayTime c.func := by
  rw [getDelayTime]
  by_cases hcount : p.getDefaultDelayTime c.func ≥ getResetTimeUs c.func
  · rw [if_pos hcount, if_neg fun h => Int.not_lt.mpr hcount h.1]
  · rw [if_neg hcount, hitItem_fst, find?_itemsAfter, renew_itemOf]
    simp only [Int.not_le.mp hcount, true_and]

end Http.Throttling
