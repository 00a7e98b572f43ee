import SuplaCore.Push.Throttling

/-!
# How far the limit holds

The counter of a window stands for the runs that were counted in it and have not ended without a
message (`Item.Counted`). It stays true as long as only such a run takes it back, `any_sent` tells
what was sent, and the notice is not armed again behind a counter that falls back to the limit
(`Kept`). Then no window delivers more than the limit and a second notice (`within_limit`).
-/

namespace Push

open Sys

variable {cfg : Config} {s s' : State} {user : Int} {i j w : Nat}

/-! ## The property -/

/-- The runs of which something was sent in a window. -/
def State.delivered (s : State) (user : Int) (w : Nat) (notice : Bool) : Finset Nat :=
  ((s.sent.filter fun e => e.user = user ∧ e.window = w ∧ e.notice = notice).map (·.run)).toFinset

/-- What a window may deliver: as many notifications as the limit says, and one notice. -/
def Bounded (cfg : Config) (s : State) (user : Int) (w : Nat) : Prop :=
  (s.delivered user w false).card ≤ (cfg.getLimit user).toNat ∧
    (s.delivered user w true).card ≤ 1

instance : Decidable (Bounded cfg s user w) := inferInstanceAs (Decidable (_ ∧ _))

theorem mem_delivered {notice : Bool} :
    j ∈ s.delivered user w notice ↔ ∃ e ∈ s.sent, e.run = j ∧ e.user = user ∧ e.window = w ∧
      e.notice = notice := by
  simp only [State.delivered, List.mem_toFinset, List.mem_map, List.mem_filter, decide_eq_true_eq]
  constructor
  · rintro ⟨e, ⟨he, hu, hw, hn⟩, hrun⟩
    exact ⟨e, he, hrun, hu, hw, hn⟩
  · rintro ⟨e, he, hrun, hu, hw, hn⟩
    exact ⟨e, ⟨he, hu, hw, hn⟩, hrun⟩

/-! ## The condition -/

/-- A run is counted in a window: it was admitted or refused there and has not ended without a
message. -/
def Run.CountsIn (r : Run) (user : Int) (w : Nat) : Prop :=
  r.user = user ∧ r.kind ≠ .empty ∧ r.window = w ∧ (r.pc = .done → r.anySent = true)

/-- Something was sent for a run. -/
def State.WasSent (s : State) (i : Nat) : Prop := ∃ e ∈ s.sent, e.run = i

/-- Taking one back from the counter leaves it true: the run was counted in this window, and no
notice of the window loses its place. -/
def State.MayReturn (s : State) (i : Nat) (it : Item) : Prop :=
  (s.runs i).CountsIn (s.runs i).user it.window ∧
    ((s.runs i).kind = .limitExceeded ∨ it.limit + 1 < it.counter ∨
      ∀ j, (s.runs j).CountsIn (s.runs i).user it.window → (s.runs j).kind ≠ .limitExceeded)

/-- **The condition**: the limit is no negative number and the counter has not run over; a message
leaves in the window in which its run was counted; and at the end of a run `any_sent` tells
whether something was sent, and where nothing was, the counter is 0 or the run may take one
back. -/
def Kept (cfg : Config) (s : State) : Act → Prop
  | .request _ user recipients now _ => recipients.totalCount > 0 → 0 ≤ cfg.getLimit user ∧
      (((s.items user).getD .new).refresh cfg user now).counter + 1 < uintSize
  | .send i answer => answer = .sent → (s.runs i).window = s.window (s.runs i).user
  | .next _ => True
  | .finish i => (s.runs i).anySent = false → ¬ s.WasSent i ∧
      ∀ it, s.items (s.runs i).user = some it → it.counter = 0 ∨ s.MayReturn i it

/-! ## The invariant -/

/-- The counter of a window and the runs it stands for. -/
structure Item.Counted (cfg : Config) (s : State) (user : Int) (it : Item) (ids : Finset Nat) :
    Prop where
  mem : ∀ j, j ∈ ids ↔ (s.runs j).CountsIn user it.window
  card : ids.card = it.counter
  limit : it.limit ≤ (cfg.getLimit user).toNat
  originals : (ids.filter fun j => (s.runs j).kind = .original).card ≤ it.limit
  exceeded : ∀ j ∈ ids, (s.runs j).kind = .limitExceeded → it.limit + 1 ≤ it.counter
  once : ∀ j ∈ ids, (s.runs j).kind = .limitExceeded →
    ∀ k ∈ ids, (s.runs k).kind = .limitExceeded → j = k

structure Inv (cfg : Config) (s : State) : Prop where
  fresh : ∀ j, (s.runs j).pc = .fresh → s.runs j = .new
  silent : ∀ j, (s.runs j).kind = .empty ∨ (s.runs j).kind = .refused →
    ∀ p, (s.runs j).recipients.count p = 0
  window : ∀ j, (s.runs j).window ≤ s.window (s.runs j).user
  noItem : ∀ j, s.items (s.runs j).user = none → (s.runs j).kind = .empty
  sent : ∀ e ∈ s.sent, (s.runs e.run).CountsIn e.user e.window ∧
    (s.runs e.run).kind = if e.notice then .limitExceeded else .original
  counted : ∀ user it, s.items user = some it → ∃ ids, it.Counted cfg s user ids
  past : ∀ user, ∀ w < s.window user, Bounded cfg s user w

theorem State.window_some {it : Item} (h : s.items user = some it) : s.window user = it.window := by
  rw [State.window, h, Option.getD_some]

theorem Inv.init : Inv cfg .init where
  fresh _ _ := rfl
  silent _ _ p := by cases p <;> rfl
  window _ := Nat.zero_le _
  noItem _ _ := rfl
  sent _ he := absurd he List.not_mem_nil
  counted _ _ h := by cases h
  past _ _ h := absurd h (Nat.not_lt_zero _)

/-- The window that is open keeps to the bounds. -/
theorem Inv.current (hinv : Inv cfg s) (user : Int) : Bounded cfg s user (s.window user) := by
  cases hitem : s.items user with
  | none =>
    have hempty : ∀ notice, s.delivered user (s.window user) notice = ∅ := by
      intro notice
      refine Finset.eq_empty_of_forall_notMem fun j hj => ?_
      obtain ⟨e, he, rfl, rfl, -, -⟩ := mem_delivered.mp hj
      obtain ⟨⟨huser, hkind, -⟩, -⟩ := hinv.sent e he
      exact hkind (hinv.noItem _ (huser ▸ hitem))
    unfold Bounded
    rw [hempty, hempty, Finset.card_empty]
    exact ⟨Nat.zero_le _, Nat.zero_le _⟩
  | some it =>
    obtain ⟨ids, hc⟩ := hinv.counted user it hitem
    have hmem : ∀ {j : Nat} {notice : Bool}, j ∈ s.delivered user (s.window user) notice →
        j ∈ ids ∧ (s.runs j).kind = if notice then .limitExceeded else .original := by
      intro j notice hj
      obtain ⟨e, he, rfl, rfl, hw, rfl⟩ := mem_delivered.mp hj
      obtain ⟨hcounts, hkind⟩ := hinv.sent e he
      rw [State.window_some hitem] at hw
      exact ⟨(hc.mem _).mpr (hw ▸ hcounts), hkind⟩
    constructor
    · calc (s.delivered user (s.window user) false).card
          ≤ (ids.filter fun j => (s.runs j).kind = .original).card :=
            Finset.card_le_card fun j hj => Finset.mem_filter.mpr (hmem hj)
        _ ≤ it.limit := hc.originals
        _ ≤ (cfg.getLimit user).toNat := hc.limit
    · refine Finset.card_le_one.mpr fun j hj k hk => ?_
      exact hc.once j (hmem hj).1 (hmem hj).2 k (hmem hk).1 (hmem hk).2

theorem Inv.bounded (hinv : Inv cfg s) (user : Int) (w : Nat) : Bounded cfg s user w := by
  rcases Nat.lt_trichotomy w (s.window user) with hlt | rfl | hgt
  · exact hinv.past user w hlt
  · exact hinv.current user
  · have hempty : ∀ notice, s.delivered user w notice = ∅ := by
      intro notice
      refine Finset.eq_empty_of_forall_notMem fun j hj => ?_
      obtain ⟨e, he, rfl, rfl, rfl, -⟩ := mem_delivered.mp hj
      obtain ⟨⟨huser, -, hwindow, -⟩, -⟩ := hinv.sent e he
      have := hinv.window e.run
      rw [huser, hwindow] at this
      omega
    unfold Bounded
    rw [hempty, hempty, Finset.card_empty]
    exact ⟨Nat.zero_le _, Nat.zero_le _⟩

/-! ## What the steps leave alone -/

/-- Where every run counts as before, so does the counter. -/
theorem Item.Counted.congr {it : Item} {ids : Finset Nat} (h : it.Counted cfg s user ids)
    (hcounts : ∀ j, (s'.runs j).CountsIn user it.window ↔ (s.runs j).CountsIn user it.window)
    (hkind : ∀ j ∈ ids, (s'.runs j).kind = (s.runs j).kind) : it.Counted cfg s' user ids where
  mem j := (h.mem j).trans (hcounts j).symm
  card := h.card
  limit := h.limit
  originals := by
    rw [Finset.filter_congr fun j hj => by rw [hkind j hj]]
    exact h.originals
  exceeded j hj hk := h.exceeded j hj (hkind j hj ▸ hk)
  once j hj hjk k hk hkk := h.once j hj (hkind j hj ▸ hjk) k hk (hkind k hk ▸ hkk)

theorem State.setRun_runs (s : State) (i j : Nat) (r : Run) :
    (s.setRun i r).runs j = if j = i then r else s.runs j := rfl

/-- A run on its way: what it delivers, for whom and in which window it was counted stay. -/
structure Run.Goes (r r' : Run) : Prop where
  user : r'.user = r.user
  kind : r'.kind = r.kind
  window : r'.window = r.window
  recipients : r'.recipients = r.recipients
  started : r'.pc ≠ .fresh
  counts : (r'.pc = .done → r'.anySent = true) ↔ (r.pc = .done → r.anySent = true)

theorem Run.Goes.countsIn {r r' : Run} (h : r.Goes r') :
    r'.CountsIn user w ↔ r.CountsIn user w := by
  rw [CountsIn, CountsIn, h.user, h.kind, h.window, h.counts]

theorem Inv.setRun (hinv : Inv cfg s) {r : Run} (h : (s.runs i).Goes r) :
    Inv cfg (s.setRun i r) := by
  have hpair : ∀ j, (s.setRun i r).runs j = s.runs j ∨ (s.runs j).Goes ((s.setRun i r).runs j) := by
    intro j
    rw [State.setRun_runs]
    split
    · rename_i heq
      exact .inr (heq ▸ h)
    · exact .inl rfl
  have hcounts : ∀ user w j, ((s.setRun i r).runs j).CountsIn user w ↔
      (s.runs j).CountsIn user w := by
    intro user w j
    rcases hpair j with heq | hgoes
    · rw [heq]
    · exact hgoes.countsIn
  have hkind : ∀ j, ((s.setRun i r).runs j).kind = (s.runs j).kind := by
    intro j
    rcases hpair j with heq | hgoes
    · rw [heq]
    · exact hgoes.kind
  constructor
  case fresh =>
    intro j hj
    rcases hpair j with heq | hgoes
    · rw [heq] at hj ⊢
      exact hinv.fresh j hj
    · exact absurd hj hgoes.started
  case silent =>
    intro j hj p
    rw [hkind] at hj
    rcases hpair j with heq | hgoes
    · rw [heq]
      exact hinv.silent j hj p
    · rw [hgoes.recipients]
      exact hinv.silent j hj p
  case window =>
    intro j
    rcases hpair j with heq | hgoes
    · rw [heq]
      exact hinv.window j
    · rw [hgoes.window, hgoes.user]
      exact hinv.window j
  case noItem =>
    intro j hj
    rw [hkind]
    rcases hpair j with heq | hgoes
    · exact hinv.noItem j (heq ▸ hj)
    · exact hinv.noItem j (hgoes.user ▸ hj)
  case sent =>
    intro e he
    rw [hcounts, hkind]
    exact hinv.sent e he
  case counted =>
    intro user it hit
    obtain ⟨ids, hc⟩ := hinv.counted user it hit
    exact ⟨ids, hc.congr (hcounts user it.window) fun j _ => hkind j⟩
  case past => exact hinv.past

/-! ## Sending -/

theorem Run.goes_on {r r' : Run} {p : Platform} {a : Nat} (hpc : r.pc = .sending p a)
    (hsame : r'.user = r.user ∧ r'.kind = r.kind ∧ r'.window = r.window ∧
      r'.recipients = r.recipients) (hpc' : r'.pc ≠ .fresh ∧ r'.pc ≠ .done) : r.Goes r' := by
  refine ⟨hsame.1, hsame.2.1, hsame.2.2.1, hsame.2.2.2, hpc'.1, ?_⟩
  constructor
  · intro _ hdone
    rw [hpc] at hdone
    cases hdone
  · intro _ hdone
    exact absurd hdone hpc'.2

theorem Run.goes_send {r : Run} {p : Platform} {a : Nat} (hpc : r.pc = .sending p a)
    (answer : SendAnswer) : r.Goes (r.send p a answer) := by
  refine goes_on hpc ?_ ?_
  · cases answer <;> exact ⟨rfl, rfl, rfl, rfl⟩
  · cases answer <;> exact ⟨(by intro h; cases h), (by intro h; cases h)⟩

theorem Run.goes_next {r : Run} {p : Platform} {a : Nat} (hpc : r.pc = .sending p a) :
    r.Goes (r.next p) := by
  refine goes_on hpc ?_ ?_
  · cases p <;> exact ⟨rfl, rfl, rfl, rfl⟩
  · cases p <;> exact ⟨(by intro h; cases h), (by intro h; cases h)⟩

/-- A run that has a recipient was admitted. -/
theorem Inv.deliver (hinv : Inv cfg s) {p : Platform} {a : Nat}
    (ha : a < (s.runs i).recipients.count p) :
    (s.runs i).kind = if decide ((s.runs i).kind = .limitExceeded) then .limitExceeded
      else .original := by
  cases hk : (s.runs i).kind with
  | empty => exact absurd ha (hinv.silent i (.inl hk) p ▸ Nat.not_lt_zero a)
  | refused => exact absurd ha (hinv.silent i (.inr hk) p ▸ Nat.not_lt_zero a)
  | original => rfl
  | limitExceeded => rfl

theorem Inv.send (hinv : Inv cfg s) {p : Platform} {a : Nat} {answer : SendAnswer}
    (hpc : (s.runs i).pc = .sending p a) (ha : a < (s.runs i).recipients.count p)
    (hown : answer = .sent → (s.runs i).window = s.window (s.runs i).user) :
    Inv cfg (send s i p a answer) := by
  have hset : Inv cfg (s.setRun i ((s.runs i).send p a answer)) :=
    hinv.setRun (Run.goes_send hpc answer)
  have hdeliver := hinv.deliver ha
  by_cases hsent : answer = .sent
  · have hstate : Push.send s i p a answer =
        { s.setRun i ((s.runs i).send p a answer) with sent := s.message i :: s.sent } := by
      rw [Push.send, if_pos hsent]
    have hgoes := Run.goes_send hpc answer
    have hcounts : (s.runs i).CountsIn (s.runs i).user (s.runs i).window := by
      refine ⟨rfl, fun hk => ?_, rfl, fun hd => ?_⟩
      · rw [hinv.silent i (.inl hk) p] at ha
        omega
      · rw [hpc] at hd
        cases hd
    -- the message belongs to the window that is open, so no earlier one delivers more
    have hpast : ∀ user, ∀ w < s.window user, ∀ notice,
        (Push.send s i p a answer).delivered user w notice = s.delivered user w notice := by
      intro user w hw notice
      ext j
      rw [mem_delivered, mem_delivered, hstate]
      refine ⟨fun ⟨e, he, h⟩ => ?_, fun ⟨e, he, h⟩ => ⟨e, List.mem_cons_of_mem _ he, h⟩⟩
      rcases List.mem_cons.mp he with rfl | he
      · obtain ⟨-, rfl, rfl, -⟩ := h
        exact absurd hw (Nat.lt_irrefl _)
      · exact ⟨e, he, h⟩
    refine ⟨?_, ?_, ?_, ?_, ?_, ?_, ?_⟩
    · rw [hstate]
      exact hset.fresh
    · rw [hstate]
      exact hset.silent
    · rw [hstate]
      exact hset.window
    · rw [hstate]
      exact hset.noItem
    · rw [hstate]
      intro e he
      rcases List.mem_cons.mp he with rfl | he
      · have hrun : (s.setRun i ((s.runs i).send p a answer)).runs (s.message i).run =
            (s.runs i).send p a answer := if_pos rfl
        change ((s.setRun i ((s.runs i).send p a answer)).runs (s.message i).run).CountsIn _ _ ∧
          ((s.setRun i ((s.runs i).send p a answer)).runs (s.message i).run).kind = _
        rw [hrun, hgoes.countsIn, hgoes.kind]
        have hwindow : (s.message i).window = (s.runs i).window := (hown hsent).symm
        rw [hwindow]
        exact ⟨hcounts, hdeliver⟩
      · exact hset.sent e he
    · intro user it hit
      rw [hstate] at hit ⊢
      obtain ⟨ids, hc⟩ := hset.counted user it hit
      exact ⟨ids, hc.congr (fun _ => Iff.rfl) fun _ _ => rfl⟩
    · intro user w hw
      have hw' : w < s.window user := by
        rw [hstate] at hw
        exact hw
      unfold Bounded
      rw [hpast user w hw', hpast user w hw']
      exact hinv.past user w hw'
  · have hstate : Push.send s i p a answer = s.setRun i ((s.runs i).send p a answer) := by
      rw [Push.send, if_neg hsent]
      rfl
    rw [hstate]
    exact hset

/-! ## The end of a run -/

theorem onMessageNotSent_window (item : Option Item) :
    ((onMessageNotSent item).getD .new).window = (item.getD .new).window := by
  cases item with
  | none => rfl
  | some it =>
    rw [onMessageNotSent, Option.map_some]
    split <;> rfl

theorem onMessageNotSent_none {item : Option Item} (h : onMessageNotSent item = none) :
    item = none := by
  cases item with
  | none => rfl
  | some it => cases h

/-- The counter without a run that was counted: what remains is counted as before. -/
theorem Item.Counted.erase {it : Item} {ids : Finset Nat} (h : it.Counted cfg s user ids)
    (hi : (s.runs i).CountsIn user it.window)
    (hnotice : (s.runs i).kind = .limitExceeded ∨ it.limit + 1 < it.counter ∨
      ∀ j, (s.runs j).CountsIn user it.window → (s.runs j).kind ≠ .limitExceeded)
    (hrest : ∀ j, j ≠ i → s'.runs j = s.runs j)
    (hend : ¬ (s'.runs i).CountsIn user it.window) :
    { it with counter := it.counter - 1 }.Counted cfg s' user (ids.erase i) := by
  have hmem : i ∈ ids := (h.mem i).mpr hi
  have hkind : ∀ j ∈ ids.erase i, s'.runs j = s.runs j ∧ j ∈ ids := fun j hj =>
    ⟨hrest j (Finset.ne_of_mem_erase hj), Finset.mem_of_mem_erase hj⟩
  constructor
  case mem =>
    intro j
    rw [Finset.mem_erase]
    by_cases hj : j = i
    · rw [hj]
      exact ⟨fun h => absurd rfl h.1, fun h => absurd h hend⟩
    · rw [hrest j hj, ← h.mem j]
      exact ⟨fun h => h.2, fun h => ⟨hj, h⟩⟩
  case card => rw [Finset.card_erase_of_mem hmem, h.card]
  case limit => exact h.limit
  case originals =>
    refine Nat.le_trans (Finset.card_le_card fun j hj => ?_) h.originals
    obtain ⟨hj, hk⟩ := Finset.mem_filter.mp hj
    obtain ⟨heq, hj⟩ := hkind j hj
    exact Finset.mem_filter.mpr ⟨hj, heq ▸ hk⟩
  case exceeded =>
    intro j hj hk
    have hne := Finset.ne_of_mem_erase hj
    obtain ⟨heq, hj⟩ := hkind j hj
    rw [heq] at hk
    change it.limit + 1 ≤ it.counter - 1
    rcases hnotice with hi' | hlt | hnone
    · exact absurd (h.once j hj hk i hmem hi') hne
    · omega
    · exact absurd hk (hnone j ((h.mem j).mp hj))
  case once =>
    intro j hj hjk k hk hkk
    obtain ⟨hjeq, hj⟩ := hkind j hj
    obtain ⟨hkeq, hk⟩ := hkind k hk
    exact h.once j hj (hjeq ▸ hjk) k hk (hkeq ▸ hkk)

/-- `s'` is `s` after the end of the run `i`, of which nothing was sent. -/
structure Undelivered (s : State) (i : Nat) (s' : State) : Prop where
  unsent : (s.runs i).anySent ≠ true
  run : s'.runs i = { s.runs i with pc := .done }
  others : ∀ j, j ≠ i → s'.runs j = s.runs j
  items : ∀ u, s'.items u = if u = (s.runs i).user
    then onMessageNotSent (s.items (s.runs i).user) else s.items u
  sent : s'.sent = s.sent

theorem undelivered_finish (hany : (s.runs i).anySent ≠ true) :
    Undelivered s i (Push.finish s i) := by
  have hstate : Push.finish s i = (s.setItem (s.runs i).user
      (onMessageNotSent (s.items (s.runs i).user))).setRun i { s.runs i with pc := .done } := by
    rw [Push.finish, if_neg hany]
  rw [hstate]
  constructor
  case unsent => exact hany
  case run => exact if_pos rfl
  case others => exact fun j hj => if_neg hj
  case items => exact fun u => rfl
  case sent => rfl

namespace Undelivered

variable (h : Undelivered s i s')
include h

theorem window (u : Int) : s'.window u = s.window u := by
  rw [State.window, h.items u]
  split
  · rename_i hu
    rw [hu, onMessageNotSent_window, State.window]
  · rfl

/-- The run is not counted any more. -/
theorem not_countsIn (u : Int) (w : Nat) : ¬ (s'.runs i).CountsIn u w := by
  intro hc
  rw [h.run] at hc
  exact h.unsent (hc.2.2.2 rfl)

/-- Of a run only its end is new. -/
theorem same (j : Nat) : (s'.runs j).kind = (s.runs j).kind ∧
    (s'.runs j).recipients = (s.runs j).recipients ∧
    (s'.runs j).window = (s.runs j).window ∧ (s'.runs j).user = (s.runs j).user := by
  by_cases hj : j = i
  · rw [hj, h.run]
    exact ⟨rfl, rfl, rfl, rfl⟩
  · rw [h.others j hj]
    exact ⟨rfl, rfl, rfl, rfl⟩

/-- A counter that the run was not counted in stands for the same runs. -/
theorem counted_congr {it : Item} {ids : Finset Nat} (hc : it.Counted cfg s user ids)
    (hi : ¬ (s.runs i).CountsIn user it.window) : it.Counted cfg s' user ids := by
  refine hc.congr (fun j => ?_) fun j _ => (h.same j).1
  by_cases hj : j = i
  · rw [hj]
    exact ⟨fun hnew => absurd hnew (h.not_countsIn _ _), fun hold => absurd hold hi⟩
  · rw [h.others j hj]

/-- The counter of the user of the run. -/
theorem counted_own {old : Item} {ids : Finset Nat}
    (hc : old.Counted cfg s (s.runs i).user ids) (hreturn : old.counter = 0 ∨ s.MayReturn i old) :
    ∃ ids', Item.Counted cfg s' (s.runs i).user
      (if old.counter > 0 then { old with counter := old.counter - 1 } else old) ids' := by
  by_cases hpos : old.counter > 0
  · obtain ⟨hi, hnotice⟩ := hreturn.resolve_left (by omega)
    rw [if_pos hpos]
    exact ⟨ids.erase i, hc.erase hi hnotice h.others (h.not_countsIn _ _)⟩
  · have hempty : ids = ∅ := Finset.card_eq_zero.mp (by rw [hc.card]; omega)
    subst hempty
    rw [if_neg hpos]
    exact ⟨∅, h.counted_congr hc fun hi => absurd ((hc.mem i).mpr hi) (Finset.notMem_empty i)⟩

end Undelivered

theorem Inv.undelivered (hinv : Inv cfg s) (h : Undelivered s i s') (hsent : ¬ s.WasSent i)
    (hreturn : ∀ it, s.items (s.runs i).user = some it → it.counter = 0 ∨ s.MayReturn i it) :
    Inv cfg s' := by
  constructor
  case fresh =>
    intro j hj
    by_cases hij : j = i
    · rw [hij, h.run] at hj
      cases hj
    · rw [h.others j hij] at hj ⊢
      exact hinv.fresh j hj
  case silent =>
    intro j hj p
    rw [(h.same j).1] at hj
    rw [(h.same j).2.1]
    exact hinv.silent j hj p
  case window =>
    intro j
    rw [(h.same j).2.2.1, (h.same j).2.2.2, h.window]
    exact hinv.window j
  case noItem =>
    intro j hj
    rw [(h.same j).2.2.2, h.items] at hj
    rw [(h.same j).1]
    split at hj
    · rename_i hu
      exact hinv.noItem j (hu ▸ onMessageNotSent_none hj)
    · exact hinv.noItem j hj
  case sent =>
    intro e he
    rw [h.sent] at he
    rw [h.others e.run fun heq => hsent ⟨e, he, heq⟩]
    exact hinv.sent e he
  case counted =>
    intro u it hit
    rw [h.items] at hit
    split at hit
    · rename_i hu
      cases hold : s.items (s.runs i).user with
      | none =>
        rw [hold] at hit
        cases hit
      | some old =>
        obtain ⟨ids, hc⟩ := hinv.counted _ old hold
        rw [hold, onMessageNotSent, Option.map_some] at hit
        cases hit
        rw [hu]
        exact h.counted_own hc (hreturn old hold)
    · rename_i hu
      obtain ⟨ids, hc⟩ := hinv.counted u it hit
      exact ⟨ids, h.counted_congr hc fun hi => hu hi.1.symm⟩
  case past =>
    intro u w hw
    unfold Bounded State.delivered
    rw [h.sent]
    exact hinv.bounded u w

theorem Inv.finish (hinv : Inv cfg s) (hok : Kept cfg s (.finish i)) : Inv cfg (finish s i) := by
  by_cases hany : (s.runs i).anySent = true
  · have hstate : Push.finish s i = s.setRun i { s.runs i with pc := .done } := by
      rw [Push.finish, if_pos hany]
    rw [hstate]
    refine hinv.setRun ⟨rfl, rfl, rfl, rfl, (by intro h; cases h), ?_⟩
    exact ⟨fun _ _ => hany, fun _ _ => hany⟩
  · obtain ⟨hsent, hreturn⟩ := hok (Bool.not_eq_true _ ▸ hany)
    exact hinv.undelivered (undelivered_finish hany) hsent hreturn

/-! ## A request -/

theorem toUnsigned_le {x : Int} (h : 0 ≤ x) : toUnsigned x ≤ x.toNat := by
  unfold toUnsigned uintSize
  omega

theorem Item.refresh_eq (cfg : Config) (user now : Int) (it : Item) :
    it.firstTime ≠ 0 ∧ it.refresh cfg user now = it ∨
      it.refresh cfg user now = ⟨now, toUnsigned (cfg.getLimit user), 0, it.window + 1⟩ := by
  unfold refresh
  dsimp only
  by_cases hend : it.firstTime ≠ 0 ∧ now - it.firstTime ≥ (cfg.timeWindowSec : Int)
  · rw [if_pos hend, if_pos rfl]
    exact .inr rfl
  · rw [if_neg hend]
    by_cases hunset : it.firstTime = 0
    · rw [if_pos hunset]
      exact .inr rfl
    · rw [if_neg hunset]
      exact .inl ⟨hunset, rfl⟩

theorem Item.refresh_window (cfg : Config) (user now : Int) (it : Item) :
    it.window ≤ (it.refresh cfg user now).window := by
  rcases it.refresh_eq cfg user now with ⟨-, heq⟩ | heq <;> rw [heq]
  exact Nat.le_succ _

/-- A window that goes on is counted as before, and nothing is counted yet in a new one. -/
theorem Inv.refresh (hinv : Inv cfg s) (hlimit : 0 ≤ cfg.getLimit user) (now : Int) :
    ∃ ids, (((s.items user).getD .new).refresh cfg user now).Counted cfg s user ids := by
  rcases ((s.items user).getD .new).refresh_eq cfg user now with ⟨hset, heq⟩ | heq
  · rw [heq]
    cases hitem : s.items user with
    | none =>
      rw [hitem] at hset
      exact absurd rfl hset
    | some it => exact hinv.counted user it hitem
  · rw [heq]
    refine ⟨∅, fun j => ⟨fun h => absurd h (Finset.notMem_empty j), fun h => ?_⟩, rfl,
      toUnsigned_le hlimit, Nat.zero_le _, fun j hj => absurd hj (Finset.notMem_empty j),
      fun j hj => absurd hj (Finset.notMem_empty j)⟩
    have hle := hinv.window j
    rw [h.1, h.2.2.1, State.window] at hle
    exact absurd hle (Nat.not_succ_le_self _)

/-- One more run is counted. -/
theorem Item.Counted.count {it : Item} {ids : Finset Nat} (h : it.Counted cfg s user ids)
    (hfit : it.counter + 1 < uintSize) (hi : ¬ (s.runs i).CountsIn user it.window)
    {recipients reloaded : Recipients} (hrest : ∀ j, j ≠ i → s'.runs j = s.runs j)
    (hrun : s'.runs i = .start user (it.count.possible.deliver recipients reloaded).1
      it.count.window (it.count.possible.deliver recipients reloaded).2) :
    it.count.Counted cfg s' user (insert i ids) := by
  have hnew : i ∉ ids := fun hm => hi ((h.mem i).mp hm)
  have hcounter : it.count.counter = it.counter + 1 := Nat.mod_eq_of_lt hfit
  have hold : ∀ j ∈ ids, s'.runs j = s.runs j := fun j hj =>
    hrest j fun heq => hnew (heq ▸ hj)
  have hkind : (s'.runs i).kind = (it.count.possible.deliver recipients reloaded).1 := by
    rw [hrun]
    rfl
  have horiginal : (s'.runs i).kind = .original → it.counter + 1 ≤ it.limit := by
    intro hk
    rw [hkind, Possible.deliver] at hk
    split at hk
    · rename_i hres
      exact hcounter ▸ of_decide_eq_true hres
    · split at hk <;> cases hk
  have hexceeded : (s'.runs i).kind = .limitExceeded → it.counter = it.limit := by
    intro hk
    rw [hkind, Possible.deliver] at hk
    split at hk
    · cases hk
    · split at hk
      · rename_i hfirst
        obtain ⟨hgt, heq⟩ := of_decide_eq_true hfirst
        have hle := Nat.mod_le (it.limit + 1) uintSize
        have hlimit : it.count.limit = it.limit := rfl
        rw [hcounter, hlimit] at hgt heq
        omega
      · cases hk
  constructor
  case mem =>
    intro j
    rw [Finset.mem_insert]
    by_cases hj : j = i
    · rw [hj, hrun]
      refine ⟨fun _ => ⟨rfl, ?_, rfl, fun hd => by cases hd⟩, fun _ => .inl rfl⟩
      change (it.count.possible.deliver recipients reloaded).1 ≠ .empty
      unfold Possible.deliver
      split
      · intro h; cases h
      · split <;> (intro h; cases h)
    · rw [hrest j hj]
      exact ⟨fun hm => (h.mem j).mp (hm.resolve_left hj), fun hc => .inr ((h.mem j).mpr hc)⟩
  case card => rw [Finset.card_insert_of_notMem hnew, h.card, hcounter]
  case limit => exact h.limit
  case originals =>
    rw [Finset.filter_insert, Finset.filter_congr fun j hj => by rw [hold j hj]]
    split
    · rename_i hk
      calc (insert i (ids.filter fun j => (s.runs j).kind = .original)).card
          ≤ (ids.filter fun j => (s.runs j).kind = .original).card + 1 := Finset.card_insert_le _ _
        _ ≤ ids.card + 1 := Nat.succ_le_succ (Finset.card_filter_le _ _)
        _ ≤ it.limit := h.card ▸ horiginal hk
    · exact h.originals
  case exceeded =>
    intro j hj hk
    rw [hcounter]
    change it.limit + 1 ≤ _
    rcases Finset.mem_insert.mp hj with rfl | hj
    · exact Nat.succ_le_succ (hexceeded hk).ge
    · exact Nat.le_succ_of_le (h.exceeded j hj (hold j hj ▸ hk))
  case once =>
    -- where the new run is the notice, the counter was at the limit, so there was none before
    have hfirst : ∀ j ∈ ids, (s'.runs j).kind = .limitExceeded →
        (s'.runs i).kind ≠ .limitExceeded := by
      intro j hj hk hki
      have := h.exceeded j hj (hold j hj ▸ hk)
      have := hexceeded hki
      omega
    intro j hj hjk k hk hkk
    rcases Finset.mem_insert.mp hj with rfl | hjs
    · rcases Finset.mem_insert.mp hk with rfl | hks
      · rfl
      · exact absurd hjk (hfirst k hks hkk)
    · rcases Finset.mem_insert.mp hk with rfl | hks
      · exact absurd hkk (hfirst j hjs hjk)
      · exact h.once j hjs (hold j hjs ▸ hjk) k hks (hold k hks ▸ hkk)

theorem Run.new_not_counts {r : Run} (h : r = .new) : ¬ r.CountsIn user w := by
  rintro ⟨-, hkind, -⟩
  exact hkind (h ▸ rfl)

theorem Possible.deliver_silent (p : Possible) (recipients reloaded : Recipients)
    (h : (p.deliver recipients reloaded).1 = .empty ∨ (p.deliver recipients reloaded).1 = .refused)
    (platform : Platform) : (p.deliver recipients reloaded).2.count platform = 0 := by
  revert h
  unfold deliver
  split
  · rintro (h | h) <;> cases h
  · split
    · rintro (h | h) <;> cases h
    · cases platform <;> exact fun _ => rfl

/-- A fresh run starts: the others stay as they are, and nothing was sent for it. -/
theorem Inv.start (hinv : Inv cfg s) (hfresh : (s.runs i).pc = .fresh) {kind : Kind}
    {recipients : Recipients} (hsent : s'.sent = s.sent)
    (hrest : ∀ j, j ≠ i → s'.runs j = s.runs j)
    (hrun : s'.runs i = .start user kind w recipients)
    (hsilent : kind = .empty ∨ kind = .refused → ∀ p, recipients.count p = 0)
    (hwindow : ∀ u, s.window u ≤ s'.window u) (hw : w ≤ s'.window user)
    (hitems : ∀ u, s'.items u = none → s.items u = none)
    (hkind : s'.items user = none → kind = .empty)
    (hcounted : ∀ u it, s'.items u = some it → ∃ ids, it.Counted cfg s' u ids) : Inv cfg s' := by
  constructor
  case fresh =>
    intro j hj
    by_cases hij : j = i
    · rw [hij, hrun] at hj
      cases hj
    · rw [hrest j hij] at hj ⊢
      exact hinv.fresh j hj
  case silent =>
    intro j hj p
    by_cases hij : j = i
    · rw [hij, hrun] at hj ⊢
      exact hsilent hj p
    · rw [hrest j hij] at hj ⊢
      exact hinv.silent j hj p
  case window =>
    intro j
    by_cases hij : j = i
    · rw [hij, hrun]
      exact hw
    · rw [hrest j hij]
      exact Nat.le_trans (hinv.window j) (hwindow _)
  case noItem =>
    intro j hj
    by_cases hij : j = i
    · rw [hij, hrun] at hj ⊢
      exact hkind hj
    · rw [hrest j hij] at hj ⊢
      exact hinv.noItem j (hitems _ hj)
  case sent =>
    intro e he
    rw [hsent] at he
    have hold := hinv.sent e he
    have hne : e.run ≠ i := by
      intro heq
      rw [heq] at hold
      exact Run.new_not_counts (hinv.fresh i hfresh) hold.1
    rw [hrest e.run hne]
    exact hold
  case counted => exact hcounted
  case past =>
    intro u v _
    unfold Bounded State.delivered
    rw [hsent]
    exact hinv.bounded u v

theorem Inv.request (hinv : Inv cfg s) {recipients reloaded : Recipients} {now : Int}
    (hfresh : (s.runs i).pc = .fresh)
    (hok : Kept cfg s (.request i user recipients now reloaded)) :
    Inv cfg (request cfg s i user recipients now reloaded) := by
  have hnew : ∀ u v, ¬ (s.runs i).CountsIn u v := fun _ _ =>
    Run.new_not_counts (hinv.fresh i hfresh)
  by_cases hany : recipients.totalCount > 0
  · obtain ⟨hlimit, hfit⟩ := hok hany
    obtain ⟨ids, hc⟩ := hinv.refresh hlimit now
    have hle := ((s.items user).getD .new).refresh_window cfg user now
    obtain ⟨it, hit⟩ : ∃ it, it = ((s.items user).getD .new).refresh cfg user now := ⟨_, rfl⟩
    have hstate : Push.request cfg s i user recipients now reloaded =
        (s.setItem user (some it.count)).setRun i
          (.start user (it.count.possible.deliver recipients reloaded).1 it.count.window
            (it.count.possible.deliver recipients reloaded).2) := by
      rw [Push.request, if_pos hany, hit]
      rfl
    rw [← hit] at hc hfit hle
    rw [hstate]
    have hitems : ∀ u, u ≠ user →
        (s.setItem user (some it.count)).items u = s.items u := fun u hu => if_neg hu
    have hitem : (s.setItem user (some it.count)).items user = some it.count := if_pos rfl
    have hwindow : ∀ u, s.window u ≤ (s.setItem user (some it.count)).window u := by
      intro u
      by_cases hu : u = user
      · rw [hu, State.window_some hitem]
        exact hle
      · rw [State.window, State.window, hitems u hu]
    refine hinv.start hfresh rfl (fun j hj => if_neg hj) (if_pos rfl)
      (Possible.deliver_silent _ _ _) hwindow ?_ (fun u hu => ?_) (fun hu => ?_)
      fun u it' hit' => ?_
    · exact (State.window_some hitem).ge
    · by_cases huser : u = user
      · rw [huser] at hu
        cases hitem.symm.trans hu
      · exact (hitems u huser).symm.trans hu
    · cases hitem.symm.trans hu
    · by_cases huser : u = user
      · subst huser
        cases hitem.symm.trans hit'
        exact ⟨insert i ids, hc.count hfit (hnew _ _) (fun j hj => if_neg hj) (if_pos rfl)⟩
      · obtain ⟨ids', hc'⟩ := hinv.counted u it' ((hitems u huser).symm.trans hit')
        have hi : i ∉ ids' := fun hm => hnew _ _ ((hc'.mem i).mp hm)
        refine ⟨ids', hc'.congr (fun j => ?_) fun j hj => ?_⟩
        · rw [State.setRun_runs]
          split
          · rename_i hj
            exact ⟨fun h => absurd h.1.symm huser, fun h => absurd (hj ▸ h) (hnew _ _)⟩
          · exact Iff.rfl
        · rw [State.setRun_runs, if_neg (show j ≠ i from fun heq => hi (heq ▸ hj))]
          rfl
  · have hnone : ∀ p, recipients.count p = 0 := by
      intro p
      unfold Recipients.totalCount at hany
      cases p <;> (simp only [Recipients.count]; omega)
    rw [Push.request, if_neg hany]
    refine hinv.start hfresh rfl (fun j hj => if_neg hj) (if_pos rfl) (fun _ => hnone)
      (fun _ => Nat.le_refl _) (Nat.zero_le _) (fun _ h => h) (fun _ => rfl) fun u it hit => ?_
    obtain ⟨ids, hc⟩ := hinv.counted u it hit
    have hi : i ∉ ids := fun hm => hnew _ _ ((hc.mem i).mp hm)
    refine ⟨ids, hc.congr (fun j => ?_) fun j hj => ?_⟩
    · rw [State.setRun_runs]
      split
      · rename_i hj
        exact ⟨fun h => absurd rfl h.2.1, fun h => absurd (hj ▸ h) (hnew _ _)⟩
      · exact Iff.rfl
    · rw [State.setRun_runs, if_neg (show j ≠ i from fun heq => hi (heq ▸ hj))]

/-! ## The runs -/

theorem Inv.step (hinv : Inv cfg s) {a : Act} (hok : Kept cfg s a) (hs : step cfg s a = some s') :
    Inv cfg s' := by
  cases a with
  | request i user recipients now reloaded =>
    rw [Push.step] at hs
    split at hs
    · rename_i hpc
      cases hs
      exact hinv.request hpc hok
    · cases hs
  | send i answer =>
    rw [Push.step] at hs
    split at hs
    · rename_i p a hpc
      split at hs
      · rename_i ha
        cases hs
        exact hinv.send hpc ha hok
      · cases hs
    · cases hs
  | next i =>
    rw [Push.step] at hs
    split at hs
    · rename_i p a hpc
      split at hs
      · cases hs
      · cases hs
        exact hinv.setRun (Run.goes_next hpc)
    · cases hs
  | finish i =>
    rw [Push.step] at hs
    split at hs
    · cases hs
      exact hinv.finish hok
    · cases hs

/-- **The limit holds** in every run whose steps keep to the condition: of no user more
notifications are delivered in a window than the limit says, and no second notice. -/
theorem within_limit (h : Reach (machine cfg) (Kept cfg) s) (user : Int) (w : Nat) :
    Bounded cfg s user w :=
  (h.invariant (P := Inv cfg) (fun s hs => by cases hs; exact .init)
    fun hok hinv hs => hinv.step hok hs).bounded user w

/-- A limit of one notification in an hour. -/
def oneAnHour : Config := ⟨3600, fun _ => 1⟩

/-- A run of user 7 with one Android recipient, which the message reaches. -/
def deliverOne (i : Nat) (now : Int) : List Act :=
  [.request i 7 ⟨1, 0, 0⟩ now ⟨1, 0, 0⟩, .send i .sent, .next i, .next i, .finish i]

/-- A run of user 7 for which there is no recipient. -/
def deliverNothing (i : Nat) (now : Int) : List Act :=
  [.request i 7 ⟨0, 0, 0⟩ now ⟨0, 0, 0⟩, .next i, .next i, .finish i]

/-- One message is within the limit. -/
theorem within_limit_one : ∃ s, (machine oneAnHour).run .init (deliverOne 0 100) = some s ∧
    s.delivered 7 1 false = {0} ∧ Bounded oneAnHour s 7 1 := by
  have hsent : ∀ r : Run, r.anySent = true → ¬ r.anySent = false := fun r h => by
    rw [h]
    intro h
    cases h
  have hinit : Reach (machine oneAnHour) (Kept oneAnHour) .init := .init rfl
  have hrequest := hinit.act (.request 0 7 ⟨1, 0, 0⟩ 100 ⟨1, 0, 0⟩)
    (fun _ => ⟨by decide, by decide⟩) rfl
  have hsend := hrequest.act (.send 0 .sent) (fun _ => rfl) rfl
  have hnext := (hsend.act (.next 0) trivial rfl).act (.next 0) trivial rfl
  have hfinish := hnext.act (.finish 0) (fun h => absurd h (hsent _ rfl)) rfl
  exact ⟨_, rfl, by decide, within_limit hfinish 7 1⟩

/-- **A message for nobody is paid for by another**: a run without recipients takes one back that
it never counted, and a second notification is delivered where the limit is one. -/
theorem limit_passed : ∃ s, Reach (machine oneAnHour) Any s ∧ ¬ Bounded oneAnHour s 7 1 := by
  have hrun : (machine oneAnHour).run .init
      (deliverOne 0 100 ++ deliverNothing 1 101 ++ deliverOne 2 102) = some _ := rfl
  exact ⟨_, Reach.run (.init rfl) hrun, by decide⟩

end Push
