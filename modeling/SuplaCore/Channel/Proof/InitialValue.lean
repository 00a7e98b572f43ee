import SuplaCore.Channel.ElectricityMeterConfig

/-!
# A single initial value is spread over the phases

A negative value is taken off in rounds (`Halts`): each round takes a share from every phase that is
supported and not empty (`rest`), and the next round has to take what is missing. It is missing
`a - t` where `a` is what the round was to take and `t` what *all* rounds have taken, so the second
round is right and there is no third one: where the second round still misses something, it is
lost (`ShortTwice`).
-/

namespace Channel.EmConfig

/-! ## Flags -/

theorem unsupported_eq {p : Nat} (hp : p < 16) (flags : BitVec 32) :
    unsupported flags p = flags.getLsbD (16 + p) := by
  unfold unsupported unsupportedFlag
  rw [BitVec.and_twoPow]
  cases flags.getLsbD (16 + p) with
  | false => simp
  | true =>
    have hne : BitVec.twoPow 32 (16 + p) ≠ 0 := by
      intro h
      have hbit := congrArg (fun b => b.getLsbD (16 + p)) h
      simp only [BitVec.getLsbD_twoPow, BitVec.ofNat_eq_ofNat, BitVec.getLsbD_zero] at hbit
      simp at hbit
      omega
    simpa using hne

theorem unsupported_or {p q : Nat} (hp : p < 16) (flags : BitVec 32) :
    unsupported (flags ||| unsupportedFlag q) p = (unsupported flags p || decide (p = q)) := by
  rw [unsupported_eq hp, unsupported_eq hp, BitVec.getLsbD_or]
  unfold unsupportedFlag
  rw [BitVec.getLsbD_twoPow]
  congr 1
  by_cases h : p = q
  · simp [h]
    omega
  · simp [h]
    omega

theorem unsupported_markZero {p q : Nat} (hp : p < 16) (value : Three Nat)
    (flags : BitVec 32) : unsupported (markZero q value flags) p =
      (unsupported flags p || (decide (p = q) && decide (value.get q = 0))) := by
  unfold markZero
  by_cases h : value.get q = 0
  · rw [if_pos h, unsupported_or hp]
    simp [h]
  · rw [if_neg h]
    simp [h]

/-! ## Integers -/

theorem toInt64_of {n : Int} (h : isInt64 n) : toInt64 n = n := by
  unfold isInt64 at h
  unfold toInt64
  omega

/-- Taking off a number that is not larger than an `_supla_int64_t` allows. -/
theorem addTo_neg {s value : Nat} {substracted : Int} (hs : s ≤ 9223372036854775808)
    (hvalue : value ≤ uint64Max) (hsub : isInt64 (substracted - min s value)) :
    addTo (-s) value substracted = (value - s, substracted - min s value) := by
  unfold uint64Max at hvalue
  unfold isInt64 at hsub
  unfold addTo toUInt64 toInt64
  by_cases h0 : s = 0
  · subst h0
    simp
    omega
  · rw [if_pos (by omega)]
    simp only [Prod.mk.injEq]
    split <;> omega

/-! ## Shares -/

/-- The phases that a share is taken from, of those that are supported. -/
def active (g : Three Bool) (v : Three Nat) : Three Bool :=
  ⟨g.p1 && decide (v.p1 ≠ 0), g.p2 && decide (v.p2 ≠ 0), g.p3 && decide (v.p3 ≠ 0)⟩

/-- The share of a phase in `a`. -/
def share (a : Nat) (act : Three Bool) (p : Nat) : Nat :=
  let count := act.p1.toNat + act.p2.toNat + act.p3.toNat
  let first := if !act.p2 then 3 else if !act.p1 then 2 else 1
  if act.get p then a / count + if first = p then a % count else 0 else 0

/-- What a round leaves. -/
def rest (a : Nat) (act : Three Bool) (v : Three Nat) : Three Nat :=
  ⟨v.p1 - share a act 1, v.p2 - share a act 2, v.p3 - share a act 3⟩

/-- What a round takes. -/
def taken (a : Nat) (act : Three Bool) (v : Three Nat) : Nat :=
  min (share a act 1) v.p1 + min (share a act 2) v.p2 + min (share a act 3) v.p3

/-- Another round follows the one that takes `a` when `t` was taken before. -/
def Next (a t : Nat) (act : Three Bool) (v : Three Nat) : Prop :=
  taken a act v ≠ 0 ∧ t + taken a act v < a ∧
    (0 < (rest a act v).p1 ∨ 0 < (rest a act v).p2 ∨ 0 < (rest a act v).p3)

instance (a t : Nat) (act : Three Bool) (v : Three Nat) : Decidable (Next a t act v) :=
  inferInstanceAs (Decidable (_ ∧ _ ∧ (_ ∨ _ ∨ _)))

/-- The rounds from one that takes `a`, when `t` was taken before, to what is left in the end. -/
inductive Halts : (a t : Nat) → (g : Three Bool) → (v r : Three Nat) → Prop
  | stop {a t : Nat} {g : Three Bool} {v : Three Nat} : ¬ Next a t (active g v) v →
      Halts a t g v (rest a (active g v) v)
  | next {a t : Nat} {g : Three Bool} {v r : Three Nat} : Next a t (active g v) v →
      Halts (a - (t + taken a (active g v) v)) (t + taken a (active g v) v) (active g v)
        (rest a (active g v) v) r → Halts a t g v r

variable {a t : Nat} {g : Three Bool} {v r : Three Nat}

/-- With nothing to take it from, nothing is taken. -/
theorem Halts.none (h : active g v = ⟨false, false, false⟩) : Halts a t g v v := by
  have hrest : rest a (active g v) v = v := by
    rw [h]
    rfl
  have hnext : ¬ Next a t (active g v) v := by
    rintro ⟨hne, -⟩
    rw [h] at hne
    exact hne (by simp [taken, share, Three.get])
  simpa only [hrest] using Halts.stop hnext

/-- One of the three phases. -/
def isPhase (p : Nat) : Prop := p = 1 ∨ p = 2 ∨ p = 3

/-- What is taken from a single phase. -/
theorem Halts.one {p : Nat} (hp : isPhase p)
    (h : active g v = (⟨false, false, false⟩ : Three Bool).set p true) :
    Halts a t g v (v.set p (v.get p - a)) := by
  have hrest : rest a (active g v) v = v.set p (v.get p - a) := by
    rw [h]
    rcases hp with rfl | rfl | rfl <;>
      simp [rest, share, Three.set, Three.get, Nat.mod_one]
  have htaken : taken a (active g v) v = min a (v.get p) := by
    rw [h]
    rcases hp with rfl | rfl | rfl <;>
      simp [taken, share, Three.set, Three.get, Nat.mod_one]
  rw [← hrest]
  by_cases hnext : Next a t (active g v) v
  · refine .next hnext (.none ?_)
    have hshort := hnext.2.1
    rw [htaken] at hshort
    have hzero : v.get p - a = 0 := by omega
    rw [hrest, h, hzero]
    rcases hp with rfl | rfl | rfl <;> simp [active, Three.set]
  · exact .stop hnext

/-- The phases `y` and `z` that follow `x`; the first of two phases is the one behind the third. -/
def Cyclic (x y z : Nat) : Prop :=
  (x = 1 ∧ y = 2 ∧ z = 3) ∨ (x = 2 ∧ y = 3 ∧ z = 1) ∨ (x = 3 ∧ y = 1 ∧ z = 2)

theorem Cyclic.phase_x {x y z : Nat} (h : Cyclic x y z) : isPhase x := by
  unfold Cyclic at h
  unfold isPhase
  omega

theorem Cyclic.phase_y {x y z : Nat} (h : Cyclic x y z) : isPhase y := by
  unfold Cyclic at h
  unfold isPhase
  omega

theorem Cyclic.phase_z {x y z : Nat} (h : Cyclic x y z) : isPhase z := by
  unfold Cyclic at h
  unfold isPhase
  omega

/-- A phase that a share is taken from is not empty. -/
theorem ne_of_active {p : Nat} (hp : isPhase p) (h : (active g v).get p = true) :
    v.get p ≠ 0 := by
  rcases hp with rfl | rfl | rfl
  all_goals
    simp only [active, Three.get, reduceIte, Nat.reduceEqDiff, Bool.and_eq_true,
      decide_eq_true_eq] at h
    exact h.2

/-- The shares of two phases. -/
def half (a : Nat) : Nat × Nat := (a / 2 + a % 2, a / 2)

/-- What is left of two phases in the end. -/
def pairRest (a t vy vz : Nat) : Nat × Nat :=
  let t' := t + (min (half a).1 vy + min (half a).2 vz)
  (vy - (half a).1 - (a - t'), vz - (half a).2 - (a - t'))

section Two

variable {x y z : Nat}

theorem rest_two (hc : Cyclic x y z) : rest a ((⟨true, true, true⟩ : Three Bool).set x false) v =
    (v.set y (v.get y - (half a).1)).set z (v.get z - (half a).2) := by
  rcases hc with ⟨rfl, rfl, rfl⟩ | ⟨rfl, rfl, rfl⟩ | ⟨rfl, rfl, rfl⟩ <;>
    simp [rest, share, half, Three.set, Three.get]

theorem taken_two (hc : Cyclic x y z) : taken a ((⟨true, true, true⟩ : Three Bool).set x false) v =
    min (half a).1 (v.get y) + min (half a).2 (v.get z) := by
  rcases hc with ⟨rfl, rfl, rfl⟩ | ⟨rfl, rfl, rfl⟩ | ⟨rfl, rfl, rfl⟩ <;>
    simp only [taken, share, half, Three.set, Three.get, reduceIte, Bool.not_true,
      Bool.not_false, Bool.toNat_true, Bool.toNat_false, Nat.reduceAdd, Nat.reduceEqDiff,
      Bool.false_eq_true, Nat.zero_min, Nat.zero_add, Nat.add_zero]
  omega

theorem active_two (hc : Cyclic x y z) (m n : Nat) :
    active ((⟨true, true, true⟩ : Three Bool).set x false) ((v.set y m).set z n) =
      ((⟨false, false, false⟩ : Three Bool).set y (decide (m ≠ 0))).set z (decide (n ≠ 0)) := by
  rcases hc with ⟨rfl, rfl, rfl⟩ | ⟨rfl, rfl, rfl⟩ | ⟨rfl, rfl, rfl⟩ <;> rfl

theorem any_two (hc : Cyclic x y z) {m n : Nat} (h : 0 < m ∨ 0 < n) :
    0 < ((v.set y m).set z n).p1 ∨ 0 < ((v.set y m).set z n).p2 ∨
      0 < ((v.set y m).set z n).p3 := by
  rcases hc with ⟨rfl, rfl, rfl⟩ | ⟨rfl, rfl, rfl⟩ | ⟨rfl, rfl, rfl⟩ <;>
    simp only [Three.set, reduceIte, Nat.reduceEqDiff] <;> omega

/-- What is taken from two phases. -/
theorem Halts.two (hc : Cyclic x y z)
    (h : active g v = (⟨true, true, true⟩ : Three Bool).set x false) :
    Halts a t g v ((v.set y (pairRest a t (v.get y) (v.get z)).1).set z
      (pairRest a t (v.get y) (v.get z)).2) := by
  have hrest := rest_two (a := a) (v := v) hc
  have htaken := taken_two (a := a) (v := v) hc
  have hactive : active (active g v) (rest a (active g v) v) =
      ((⟨false, false, false⟩ : Three Bool).set y (decide (v.get y - (half a).1 ≠ 0))).set z
        (decide (v.get z - (half a).2 ≠ 0)) := by
    rw [h, hrest, active_two hc]
  rw [← h] at hrest htaken
  have hne : v.get y ≠ 0 := by
    have hy : (active g v).get y = true := by
      rw [h]
      rcases hc with ⟨rfl, rfl, rfl⟩ | ⟨rfl, rfl, rfl⟩ | ⟨rfl, rfl, rfl⟩ <;> rfl
    exact ne_of_active hc.phase_y hy
  by_cases hnext : Next a t (active g v) v
  · have hlt := hnext.2.1
    rw [htaken] at hlt
    refine .next hnext ?_
    rw [htaken]
    by_cases hy : v.get y - (half a).1 = 0 <;> by_cases hz : v.get z - (half a).2 = 0
    · -- Both are empty.
      have hnone : active (active g v) (rest a (active g v) v) = ⟨false, false, false⟩ := by
        rw [hactive]
        rcases hc with ⟨rfl, rfl, rfl⟩ | ⟨rfl, rfl, rfl⟩ | ⟨rfl, rfl, rfl⟩ <;>
          simp [hy, hz, Three.set]
      have hr := Halts.none (a := a - (t + (min (half a).1 (v.get y) + min (half a).2 (v.get z))))
        (t := t + (min (half a).1 (v.get y) + min (half a).2 (v.get z))) hnone
      unfold pairRest
      simpa only [hrest, hy, hz, Nat.zero_sub] using hr
    · -- The second one has something left.
      have hsome : active (active g v) (rest a (active g v) v) =
          (⟨false, false, false⟩ : Three Bool).set z true := by
        rw [hactive]
        rcases hc with ⟨rfl, rfl, rfl⟩ | ⟨rfl, rfl, rfl⟩ | ⟨rfl, rfl, rfl⟩ <;>
          simp [hy, hz, Three.set]
      have hr := Halts.one (a := a - (t + (min (half a).1 (v.get y) + min (half a).2 (v.get z))))
        (t := t + (min (half a).1 (v.get y) + min (half a).2 (v.get z))) hc.phase_z hsome
      unfold pairRest
      rw [hrest] at hr ⊢
      rw [hy] at hr ⊢
      rcases hc with ⟨rfl, rfl, rfl⟩ | ⟨rfl, rfl, rfl⟩ | ⟨rfl, rfl, rfl⟩ <;>
        simpa [Three.set, Three.get] using hr
    · -- The first one has something left.
      have hsome : active (active g v) (rest a (active g v) v) =
          (⟨false, false, false⟩ : Three Bool).set y true := by
        rw [hactive]
        rcases hc with ⟨rfl, rfl, rfl⟩ | ⟨rfl, rfl, rfl⟩ | ⟨rfl, rfl, rfl⟩ <;>
          simp [hy, hz, Three.set]
      have hr := Halts.one (a := a - (t + (min (half a).1 (v.get y) + min (half a).2 (v.get z))))
        (t := t + (min (half a).1 (v.get y) + min (half a).2 (v.get z))) hc.phase_y hsome
      unfold pairRest
      rw [hrest] at hr ⊢
      rw [hz] at hr ⊢
      rcases hc with ⟨rfl, rfl, rfl⟩ | ⟨rfl, rfl, rfl⟩ | ⟨rfl, rfl, rfl⟩ <;>
        simpa [Three.set, Three.get] using hr
    · -- No share was short, so nothing is missing.
      unfold half at *
      dsimp only at *
      omega
  · have hdone : pairRest a t (v.get y) (v.get z) =
        (v.get y - (half a).1, v.get z - (half a).2) := by
      have hany := any_two (v := v) hc (m := v.get y - (half a).1) (n := v.get z - (half a).2)
      unfold Next at hnext
      rw [htaken, hrest] at hnext
      unfold pairRest
      rw [Prod.mk.injEq]
      by_cases hempty : 0 < v.get y - (half a).1 ∨ 0 < v.get z - (half a).2
      · have hstop : a ≤ t + (min (half a).1 (v.get y) + min (half a).2 (v.get z)) := by
          by_contra hlt
          refine hnext ⟨?_, by omega, hany hempty⟩
          unfold half at *
          dsimp only at *
          omega
        omega
      · omega
    rw [hdone, ← hrest]
    exact .stop hnext

/-- The share of a phase when there are three. -/
def third (a p : Nat) : Nat := a / 3 + if p = 1 then a % 3 else 0

/-- What the first round leaves of a phase. -/
def spare (a : Nat) (v : Three Nat) (p : Nat) : Nat := v.get p - third a p

/-- The share of one phase cannot be taken from it and is spread over the other two, and now the
share of one of these cannot be taken from it, while the last one has enough left. -/
def ShortTwice (a : Nat) (v : Three Nat) : Prop :=
  ∃ x y z, Cyclic x y z ∧ v.get x < third a x ∧ third a y < v.get y ∧ third a z < v.get z ∧
    ((spare a v y < (half (third a x - v.get x)).1 ∧
        (half (third a x - v.get x)).2 < spare a v z) ∨
      ((half (third a x - v.get x)).1 < spare a v y ∧
        spare a v z < (half (third a x - v.get x)).2))

def total (v : Three Nat) : Nat := v.p1 + v.p2 + v.p3

theorem rest_three : rest a ⟨true, true, true⟩ v = ⟨spare a v 1, spare a v 2, spare a v 3⟩ := by
  simp [rest, share, spare, third, Three.get]

theorem taken_three (hc : Cyclic x y z) : taken a ⟨true, true, true⟩ v =
    min (third a x) (v.get x) + min (third a y) (v.get y) + min (third a z) (v.get z) := by
  rcases hc with ⟨rfl, rfl, rfl⟩ | ⟨rfl, rfl, rfl⟩ | ⟨rfl, rfl, rfl⟩ <;>
    simp [taken, share, third, Three.get] <;> omega

/-- Which phase is short is seen by what is left. -/
theorem shortTwice_iff (hc : Cyclic x y z) (hx : spare a v x = 0) (hy : spare a v y ≠ 0)
    (hz : spare a v z ≠ 0) (hshort : v.get x < third a x) :
    ShortTwice a v ↔
      (spare a v y < (half (third a x - v.get x)).1 ∧
        (half (third a x - v.get x)).2 < spare a v z) ∨
      ((half (third a x - v.get x)).1 < spare a v y ∧
        spare a v z < (half (third a x - v.get x)).2) := by
  constructor
  · rintro ⟨x', y', z', hc', hx', hy', hz', hor⟩
    have hx'' : spare a v x' = 0 := Nat.sub_eq_zero_of_le (Nat.le_of_lt hx')
    have heq : x' = x ∧ y' = y ∧ z' = z := by
      rcases hc with ⟨rfl, rfl, rfl⟩ | ⟨rfl, rfl, rfl⟩ | ⟨rfl, rfl, rfl⟩ <;>
        rcases hc' with ⟨rfl, rfl, rfl⟩ | ⟨rfl, rfl, rfl⟩ | ⟨rfl, rfl, rfl⟩ <;>
        first
        | exact ⟨rfl, rfl, rfl⟩
        | exact absurd hx'' hy
        | exact absurd hx'' hz
    obtain ⟨rfl, rfl, rfl⟩ := heq
    exact hor
  · intro hor
    refine ⟨x, y, z, hc, hshort, ?_, ?_, hor⟩ <;> unfold spare at hy hz <;> omega

/-- It needs two phases of which something is left. -/
theorem not_shortTwice (hc : Cyclic x y z) (hx : spare a v x = 0) (hy : spare a v y = 0) :
    ¬ ShortTwice a v := by
  rintro ⟨x', y', z', hc', -, hy', hz', -⟩
  have hy'' : spare a v y' ≠ 0 := Nat.sub_ne_zero_of_lt hy'
  have hz'' : spare a v z' ≠ 0 := Nat.sub_ne_zero_of_lt hz'
  rcases hc with ⟨rfl, rfl, rfl⟩ | ⟨rfl, rfl, rfl⟩ | ⟨rfl, rfl, rfl⟩ <;>
    rcases hc' with ⟨rfl, rfl, rfl⟩ | ⟨rfl, rfl, rfl⟩ | ⟨rfl, rfl, rfl⟩ <;>
    first
    | exact hy'' hx
    | exact hy'' hy
    | exact hz'' hx

theorem third_sum (hc : Cyclic x y z) : third a x + third a y + third a z = a := by
  rcases hc with ⟨rfl, rfl, rfl⟩ | ⟨rfl, rfl, rfl⟩ | ⟨rfl, rfl, rfl⟩ <;> simp [third] <;> omega

theorem total_eq (hc : Cyclic x y z) (v : Three Nat) : total v = v.get x + v.get y + v.get z := by
  rcases hc with ⟨rfl, rfl, rfl⟩ | ⟨rfl, rfl, rfl⟩ | ⟨rfl, rfl, rfl⟩ <;>
    simp [total, Three.get] <;> omega

theorem get_set (hc : Cyclic x y z) (m n : Nat) :
    ((v.set y m).set z n).get x = v.get x ∧ ((v.set y m).set z n).get y = m ∧
      ((v.set y m).set z n).get z = n := by
  rcases hc with ⟨rfl, rfl, rfl⟩ | ⟨rfl, rfl, rfl⟩ | ⟨rfl, rfl, rfl⟩ <;>
    exact ⟨rfl, rfl, rfl⟩

theorem spare_get {p : Nat} (hp : isPhase p) :
    (⟨spare a v 1, spare a v 2, spare a v 3⟩ : Three Nat).get p = spare a v p := by
  rcases hp with rfl | rfl | rfl <;> rfl

theorem half_sum (n : Nat) : (half n).1 + (half n).2 = n := by
  unfold half
  dsimp only
  omega

/-- What is missing after the first round is not more than what it took: there is no third one. -/
theorem pairRest_last {n vy vz : Nat} (h : n ≤ t) :
    pairRest n t vy vz = (vy - (half n).1, vz - (half n).2) := by
  have hzero : n - (t + (min (half n).1 vy + min (half n).2 vz)) = 0 := by omega
  unfold pairRest
  dsimp only
  rw [hzero]
  rfl

/-- Two differences add up to the difference of the sums unless just one is cut off. -/
theorem sub_add_sub_eq_iff {y z m n : Nat} : y - m + (z - n) = y + z - (m + n) ↔
    ¬ ((y < m ∧ n < z) ∨ (m < y ∧ z < n)) := by
  omega

theorem Cyclic.cases {x y z p : Nat} (h : Cyclic x y z) (hp : isPhase p) :
    p = x ∨ p = y ∨ p = z := by
  unfold Cyclic at h
  unfold isPhase at hp
  omega

/-- One phase is short in the first round. -/
theorem Halts.three_two (hc : Cyclic x y z) (h : active g v = ⟨true, true, true⟩)
    (hnext : Next a 0 (active g v) v) (hx : spare a v x = 0) (hy : spare a v y ≠ 0)
    (hz : spare a v z ≠ 0) :
    ∃ r, Halts a 0 g v r ∧ (∀ p, isPhase p → r.get p ≤ v.get p) ∧
      (total r = total v - a ↔ ¬ ShortTwice a v) := by
  have hsum := third_sum (a := a) hc
  have htaken : taken a (active g v) v = v.get x + third a y + third a z := by
    rw [h, taken_three hc]
    unfold spare at hx hy hz
    have hlt := hnext.2.1
    rw [h, taken_three hc] at hlt
    omega
  have hlt := hnext.2.1
  rw [htaken] at hlt
  have hshort : v.get x < third a x := by omega
  have hleft : a - (0 + taken a (active g v) v) = third a x - v.get x := by omega
  have hlast : third a x - v.get x ≤ 0 + (v.get x + third a y + third a z) := by
    have hne : v.get x ≠ 0 := ne_of_active hc.phase_x (by
      rw [h]
      rcases hc.phase_x with rfl | rfl | rfl <;> rfl)
    have hge : a / 3 ≤ third a y ∧ a / 3 ≤ third a z := ⟨Nat.le_add_right _ _, Nat.le_add_right _ _⟩
    omega
  have hrest : rest a (active g v) v = ⟨spare a v 1, spare a v 2, spare a v 3⟩ := by
    rw [h, rest_three]
  have hactive : active (active g v) (rest a (active g v) v) =
      (⟨true, true, true⟩ : Three Bool).set x false := by
    rw [h, rest_three]
    rcases hc with ⟨rfl, rfl, rfl⟩ | ⟨rfl, rfl, rfl⟩ | ⟨rfl, rfl, rfl⟩ <;>
      simp [active, Three.set, hx, hy, hz]
  have hr := Halts.two (a := a - (0 + taken a (active g v) v)) (t := 0 + taken a (active g v) v)
    hc hactive
  rw [hleft, htaken, hrest, spare_get hc.phase_y, spare_get hc.phase_z,
    pairRest_last hlast] at hr
  obtain ⟨ex, ey, ez⟩ := get_set hc (v := ⟨spare a v 1, spare a v 2, spare a v 3⟩)
    (spare a v y - (half (third a x - v.get x)).1) (spare a v z - (half (third a x - v.get x)).2)
  have hhalf := half_sum (third a x - v.get x)
  refine ⟨_, .next hnext (by rwa [hleft, htaken, hrest]), fun p hp => ?_, ?_⟩
  · obtain rfl | rfl | rfl := hc.cases hp
    · rw [ex, spare_get hp]
      exact Nat.sub_le _ _
    · rw [ey]
      exact Nat.le_trans (Nat.sub_le _ _) (Nat.sub_le _ _)
    · rw [ez]
      exact Nat.le_trans (Nat.sub_le _ _) (Nat.sub_le _ _)
  · have htotal : v.get x + v.get y + v.get z - a = spare a v y + spare a v z -
        ((half (third a x - v.get x)).1 + (half (third a x - v.get x)).2) := by
      have hy' : third a y < v.get y := Nat.lt_of_sub_ne_zero hy
      have hz' : third a z < v.get z := Nat.lt_of_sub_ne_zero hz
      clear hrest hactive hr ex ey ez hlast hleft hlt htaken hnext
      rw [hhalf]
      unfold spare
      omega
    rw [shortTwice_iff hc hx hy hz hshort, total_eq hc, total_eq hc, ex, ey, ez,
      spare_get hc.phase_x, hx, Nat.zero_add, htotal]
    exact sub_add_sub_eq_iff

/-- Two phases are short in the first round. -/
theorem Halts.three_one (hc : Cyclic x y z) (h : active g v = ⟨true, true, true⟩)
    (hnext : Next a 0 (active g v) v) (hx : spare a v x = 0) (hy : spare a v y = 0)
    (hz : spare a v z ≠ 0) :
    ∃ r, Halts a 0 g v r ∧ (∀ p, isPhase p → r.get p ≤ v.get p) ∧
      (total r = total v - a ↔ ¬ ShortTwice a v) := by
  have hrest : rest a (active g v) v = ⟨spare a v 1, spare a v 2, spare a v 3⟩ := by
    rw [h, rest_three]
  have hactive : active (active g v) (rest a (active g v) v) =
      (⟨false, false, false⟩ : Three Bool).set z true := by
    rw [h, rest_three]
    rcases hc with ⟨rfl, rfl, rfl⟩ | ⟨rfl, rfl, rfl⟩ | ⟨rfl, rfl, rfl⟩ <;>
      simp [active, Three.set, hx, hy, hz]
  have hr := Halts.one (a := a - (0 + taken a (active g v) v)) (t := 0 + taken a (active g v) v)
    hc.phase_z hactive
  have htaken := taken_three (a := a) (v := v) hc
  have hsum := third_sum (a := a) hc
  rw [← h] at htaken
  have hget : ∀ n, (((⟨spare a v 1, spare a v 2, spare a v 3⟩ : Three Nat).set z n).get x = 0 ∧
      ((⟨spare a v 1, spare a v 2, spare a v 3⟩ : Three Nat).set z n).get y = 0 ∧
      ((⟨spare a v 1, spare a v 2, spare a v 3⟩ : Three Nat).set z n).get z = n) := by
    intro n
    rcases hc with ⟨rfl, rfl, rfl⟩ | ⟨rfl, rfl, rfl⟩ | ⟨rfl, rfl, rfl⟩ <;> exact ⟨hx, hy, rfl⟩
  refine ⟨_, .next hnext hr, fun p hp => ?_, ?_⟩
  · rw [hrest, spare_get hc.phase_z]
    obtain rfl | rfl | rfl := hc.cases hp
    · rw [(hget _).1]
      exact Nat.zero_le _
    · rw [(hget _).2.1]
      exact Nat.zero_le _
    · rw [(hget _).2.2]
      exact Nat.le_trans (Nat.sub_le _ _) (Nat.sub_le _ _)
  · rw [iff_true_right (not_shortTwice hc hx hy), total_eq hc, total_eq hc, hrest,
      spare_get hc.phase_z, (hget _).1, (hget _).2.1, (hget _).2.2, htaken]
    unfold spare at *
    omega

/-- What is taken from three phases. -/
theorem Halts.three (h : active g v = ⟨true, true, true⟩) :
    ∃ r, Halts a 0 g v r ∧ (∀ p, isPhase p → r.get p ≤ v.get p) ∧
      (total r = total v - a ↔ ¬ ShortTwice a v) := by
  have hc1 : Cyclic 1 2 3 := Or.inl ⟨rfl, rfl, rfl⟩
  have hc2 : Cyclic 2 3 1 := Or.inr (Or.inl ⟨rfl, rfl, rfl⟩)
  have hc3 : Cyclic 3 1 2 := Or.inr (Or.inr ⟨rfl, rfl, rfl⟩)
  have hrest : rest a (active g v) v = ⟨spare a v 1, spare a v 2, spare a v 3⟩ := by
    rw [h, rest_three]
  have hle : ∀ p, isPhase p → (rest a (active g v) v).get p ≤ v.get p := by
    intro p hp
    rw [hrest, spare_get hp]
    exact Nat.sub_le _ _
  by_cases hnext : Next a 0 (active g v) v
  · by_cases h1 : spare a v 1 = 0 <;> by_cases h2 : spare a v 2 = 0 <;>
      by_cases h3 : spare a v 3 = 0
    · -- A round follows only where something is left.
      obtain ⟨-, -, hany⟩ := hnext
      rw [hrest, h1, h2, h3] at hany
      dsimp only at hany
      omega
    · exact Halts.three_one hc1 h hnext h1 h2 h3
    · exact Halts.three_one hc3 h hnext h3 h1 h2
    · exact Halts.three_two hc1 h hnext h1 h2 h3
    · exact Halts.three_one hc2 h hnext h2 h3 h1
    · exact Halts.three_two hc2 h hnext h2 h3 h1
    · exact Halts.three_two hc3 h hnext h3 h1 h2
    · -- No share was short.
      have hlt := hnext.2.1
      have hsum := third_sum (a := a) hc1
      rw [h, taken_three hc1] at hlt
      unfold spare at h1 h2 h3
      omega
  · have htotal : total (rest a (active g v) v) = spare a v 1 + spare a v 2 + spare a v 3 := by
      rw [hrest]
      rfl
    have hsum := third_sum (a := a) hc1
    refine ⟨_, .stop hnext, hle, ?_⟩
    rw [htotal, total_eq hc1]
    by_cases hempty : spare a v 1 = 0 ∧ spare a v 2 = 0 ∧ spare a v 3 = 0
    · rw [iff_true_right (not_shortTwice hc1 hempty.1 hempty.2.1)]
      unfold spare at *
      omega
    · have henough : ∀ p, isPhase p → third a p ≤ v.get p := by
        have htaken : a ≤ taken a (active g v) v := by
          by_contra hlt
          refine hnext ⟨?_, by omega, ?_⟩
          · have hne : v.get 1 ≠ 0 := ne_of_active (Or.inl rfl) (by rw [h]; rfl)
            have hfirst : third a 1 = a / 3 + a % 3 := rfl
            rw [h, taken_three hc1]
            omega
          · rw [hrest]
            dsimp only
            omega
        rw [h, taken_three hc1] at htaken
        rintro p (rfl | rfl | rfl) <;> omega
      rw [iff_true_right]
      · have h1 := henough 1 (Or.inl rfl)
        have h2 := henough 2 (Or.inr (Or.inl rfl))
        have h3 := henough 3 (Or.inr (Or.inr rfl))
        unfold spare
        omega
      · rintro ⟨x, y, z, hc, hx, -⟩
        exact absurd (henough x hc.phase_x) (Nat.not_le.mpr hx)

end Two

/-! ## The rounds of the code -/

/-- The flags of the phases that a share is taken from. -/
def Marks (flags : BitVec 32) (act : Three Bool) : Prop :=
  ∀ p, isPhase p → unsupported flags p = !act.get p

theorem isPhase.lt {p : Nat} (h : isPhase p) : p < 16 := by
  unfold isPhase at h
  omega

theorem isPhase_one : isPhase 1 := Or.inl rfl

theorem isPhase_two : isPhase 2 := Or.inr (Or.inl rfl)

theorem isPhase_three : isPhase 3 := Or.inr (Or.inr rfl)

theorem tdiv_neg_nat (a k : Nat) : (-(a : Int)).tdiv k = -((a / k : Nat) : Int) := by
  rw [Int.neg_tdiv, Int.ofNat_tdiv]

variable {act : Three Bool} {flags : BitVec 32} {p : Nat}

/-- The numbers that a share is computed from. -/
theorem addition_eq (hm : Marks flags act) (hp : isPhase p) (hact : act.get p = true) (n : Int) :
    ∃ k : Nat, k = act.p1.toNat + act.p2.toNat + act.p3.toNat ∧
      addition n true p flags =
        if (if !act.p2 then 3 else if !act.p1 then 2 else 1) = p then
          some (n.tdiv k + (n - n.tdiv k * k))
        else some (n.tdiv k) := by
  have h1 : unsupported flags 1 = !act.p1 := hm 1 isPhase_one
  have h2 : unsupported flags 2 = !act.p2 := hm 2 isPhase_two
  have h3 : unsupported flags 3 = !act.p3 := hm 3 isPhase_three
  have hcount : phaseCount flags = act.p1.toNat + act.p2.toNat + act.p3.toNat := by
    unfold phaseCount
    rw [h1, h2, h3]
    cases act.p1 <;> cases act.p2 <;> cases act.p3 <;> rfl
  have hne : act.p1.toNat + act.p2.toNat + act.p3.toNat ≠ 0 := by
    rcases hp with rfl | rfl | rfl
    · have : act.p1 = true := hact
      simp [this]
    · have : act.p2 = true := hact
      simp [this]
    · have : act.p3 = true := hact
      simp [this]
  refine ⟨_, rfl, ?_⟩
  unfold addition firstSupportedPhase
  rw [if_pos rfl, hcount, h1, h2]
  dsimp only
  rw [if_neg hne]

theorem share_eq (a : Nat) (hact : act.get p = true) : share a act p =
    a / (act.p1.toNat + act.p2.toNat + act.p3.toNat) +
      if (if !act.p2 then 3 else if !act.p1 then 2 else 1) = p then
        a % (act.p1.toNat + act.p2.toNat + act.p3.toNat) else 0 := by
  unfold share
  dsimp only
  rw [if_pos hact]

/-- A phase is given its share, as a negative number. -/
theorem addition_neg (hm : Marks flags act) (hp : isPhase p) (hact : act.get p = true) :
    addition (-a) true p flags = some (-(share a act p : Int)) := by
  obtain ⟨k, hk, heq⟩ := addition_eq hm hp hact (-a)
  rw [heq, share_eq a hact, tdiv_neg_nat, ← hk]
  by_cases hf : (if !act.p2 then 3 else if !act.p1 then 2 else 1) = p
  · have hmul : ((a / k : Nat) : Int) * k + ((a % k : Nat) : Int) = a := by
      rw [Int.mul_comm]
      exact_mod_cast Nat.div_add_mod a k
    rw [if_pos hf, if_pos hf, Option.some.injEq, Int.neg_mul]
    push_cast at hmul ⊢
    omega
  · rw [if_neg hf, if_neg hf, Nat.add_zero]

/-- A phase is given its share. -/
theorem addition_nonneg (hm : Marks flags act) (hp : isPhase p) (hact : act.get p = true) :
    addition a true p flags = some (share a act p : Int) := by
  obtain ⟨k, hk, heq⟩ := addition_eq hm hp hact a
  rw [heq, share_eq a hact, ← hk, ← Int.ofNat_tdiv]
  by_cases hf : (if !act.p2 then 3 else if !act.p1 then 2 else 1) = p
  · have hmul : ((a / k : Nat) : Int) * k + ((a % k : Nat) : Int) = a := by
      rw [Int.mul_comm]
      exact_mod_cast Nat.div_add_mod a k
    rw [if_pos hf, if_pos hf, Option.some.injEq]
    push_cast at hmul ⊢
    omega
  · rw [if_neg hf, if_neg hf, Nat.add_zero]

variable {D : Type} [CounterDouble D] {c : Config D} {var : BitVec 32} {forAll : Bool}

theorem share_of_inactive (hact : act.get p = false) : share a act p = 0 := by
  unfold share
  dsimp only
  rw [if_neg (by rw [hact]; exact Bool.false_ne_true)]

variable (c var) in
/-- One phase of a round. -/
theorem roundPhase_neg {s : Loop} (hp : isPhase p) (hm : Marks s.flags act)
    (hinit : s.initialValue = -(a : Int)) (hsub : s.substracted = -(t : Int))
    (hbound : t + share a act p ≤ 9223372036854775808) (hfits : s.value.get p ≤ uint64Max) :
    roundPhase c var true p s =
      some ({ s with
              value := s.value.set p (s.value.get p - share a act p)
              substracted := -((t + min (share a act p) (s.value.get p) : Nat) : Int) },
            decide (min (share a act p) (s.value.get p) ≠ 0)) := by
  have hset : s.value.set p (s.value.get p) = s.value := by
    rcases hp with rfl | rfl | rfl <;> rfl
  unfold roundPhase addInitialValuePhase
  rw [hm p hp]
  cases hact : act.get p with
  | false =>
    rw [share_of_inactive hact, Nat.zero_min, Nat.sub_zero, hset]
    simp [hset, hsub]
  | true =>
    have hle : isInt64 (s.substracted - (min (share a act p) (s.value.get p) : Nat)) := by
      unfold isInt64
      omega
    have hadd := addTo_neg (s := share a act p) (by omega) hfits hle
    rw [if_neg (by simp), hinit, addition_neg hm hp hact, Option.map_some, hadd, hsub]
    simp only [Option.map_some, Option.some.injEq, Prod.mk.injEq, Bool.not_true,
      Bool.false_eq_true, if_false, decide_eq_decide]
    refine ⟨?_, ?_⟩
    · congr 1
      push_cast
      omega
    · omega

theorem share_sum_le (a : Nat) (act : Three Bool) :
    share a act 1 + share a act 2 + share a act 3 ≤ a := by
  obtain ⟨b1, b2, b3⟩ := act
  cases b1 <;> cases b2 <;> cases b3 <;> simp [share, Three.get] <;> omega

/-- The variables before a round that is to take `a`, with `t` taken before. -/
structure Before (s : Loop) (a t : Nat) (g : Three Bool) (v : Three Nat) : Prop where
  initialValue : s.initialValue = -(a : Int)
  pos : 0 < a
  substracted : s.substracted = -(t : Int)
  bound : a + t ≤ 9223372036854775808
  value : s.value = v
  fits : ∀ p, isPhase p → v.get p ≤ uint64Max
  flags : Marks s.flags g

/-- The flags of a round. -/
theorem Before.marks {s : Loop} (h : Before s a t g v) :
    Marks (markZero 3 s.value (markZero 2 s.value (markZero 1 s.value s.flags))) (active g v) := by
  intro p hp
  rw [unsupported_markZero hp.lt, unsupported_markZero hp.lt, unsupported_markZero hp.lt,
    h.flags p hp, h.value]
  rcases hp with rfl | rfl | rfl <;> simp [Three.get, active, Bool.not_and]

variable (c var) in
/-- **A round of the code.** -/
theorem Before.round {s : Loop} (h : Before s a t g v) :
    ∃ s', EmConfig.round c var true s = some (s', decide (Next a t (active g v) v)) ∧
      s'.value = rest a (active g v) v ∧
      (Next a t (active g v) v → Before s' (a - (t + taken a (active g v) v))
        (t + taken a (active g v) v) (active g v) (rest a (active g v) v)) := by
  have hshares := share_sum_le a (active g v)
  have hbound := h.bound
  have hneg : s.initialValue < 0 := by
    rw [h.initialValue]
    have := h.pos
    omega
  have hmarks := h.marks
  obtain ⟨initial, flags0, value, sub⟩ := s
  obtain ⟨hinit, -, hsub, -, hv, hfits, -⟩ := h
  dsimp only at hinit hsub hv hneg hmarks
  subst hv
  generalize hact : active g value = act at *
  have e1 := roundPhase_neg c var isPhase_one (a := a) (t := t)
    (s := ⟨initial, markZero 3 value (markZero 2 value (markZero 1 value flags0)), value, sub⟩)
    hmarks hinit hsub (by omega) (hfits 1 isPhase_one)
  have e2 := roundPhase_neg c var isPhase_two (a := a)
    (t := t + min (share a act 1) (value.get 1))
    (s := ⟨initial, markZero 3 value (markZero 2 value (markZero 1 value flags0)),
      value.set 1 (value.get 1 - share a act 1),
      -((t + min (share a act 1) (value.get 1) : Nat) : Int)⟩)
    hmarks hinit rfl (by omega) (hfits 2 isPhase_two)
  have e3 := roundPhase_neg c var isPhase_three (a := a)
    (t := t + min (share a act 1) (value.get 1) + min (share a act 2) (value.get 2))
    (s := ⟨initial, markZero 3 value (markZero 2 value (markZero 1 value flags0)),
      (value.set 1 (value.get 1 - share a act 1)).set 2 (value.get 2 - share a act 2),
      -((t + min (share a act 1) (value.get 1) + min (share a act 2) (value.get 2) : Nat) : Int)⟩)
    hmarks hinit rfl (by omega) (hfits 3 isPhase_three)
  unfold EmConfig.round
  dsimp only at e1 e2 e3 ⊢
  rw [if_pos hneg]
  obtain ⟨v1, v2, v3⟩ := value
  simp only [Three.get, Three.set, reduceIte, Nat.reduceEqDiff] at e1 e2 e3
  simp only [Option.bind_eq_bind, e1, Option.bind_some, e2, e3]
  have hrest : rest a act ⟨v1, v2, v3⟩ =
      ⟨v1 - share a act 1, v2 - share a act 2, v3 - share a act 3⟩ := rfl
  have htaken : t + taken a act ⟨v1, v2, v3⟩ =
      t + min (share a act 1) v1 + min (share a act 2) v2 + min (share a act 3) v3 := by
    unfold taken
    dsimp only
    omega
  by_cases hnext : Next a t act ⟨v1, v2, v3⟩
  · have ⟨hne, hlt, hany⟩ := hnext
    rw [hrest] at hany
    rw [if_pos, decide_eq_true hnext]
    · refine ⟨_, rfl, rfl, fun _ => ?_⟩
      refine ⟨?_, by omega, ?_, by omega, rfl, ?_, hmarks⟩
      · dsimp only
        rw [toInt64_of (by unfold isInt64; omega)]
        omega
      · dsimp only
        omega
      · intro p hp
        refine Nat.le_trans ?_ (hfits p hp)
        rcases hp with rfl | rfl | rfl <;> exact Nat.sub_le _ _
    · unfold taken at hne hlt
      dsimp only at hne hlt hany
      simp only [Bool.true_and, Bool.and_eq_true, Bool.or_eq_true, decide_eq_true_eq]
      omega
  · rw [if_neg, decide_eq_false hnext]
    · exact ⟨_, rfl, rfl, fun h => absurd h hnext⟩
    · intro hcond
      simp only [Bool.true_and, Bool.and_eq_true, Bool.or_eq_true, decide_eq_true_eq] at hcond
      refine hnext ⟨?_, ?_, ?_⟩
      · unfold taken
        dsimp only
        omega
      · omega
      · rw [hrest]
        dsimp only
        omega

/-- With enough rounds the loop ends with `r`. -/
def Ends {α : Type} (f : Nat → Option α) (r : α) : Prop := ∃ k, ∀ fuel, k ≤ fuel → f fuel = some r

theorem Ends.unique {α : Type} {f : Nat → Option α} {r r' : α} (h : Ends f r) (h' : Ends f r') :
    r = r' := by
  obtain ⟨k, hk⟩ := h
  obtain ⟨k', hk'⟩ := h'
  have heq := (hk (max k k') (Nat.le_max_left _ _)).symm.trans
    (hk' (max k k') (Nat.le_max_right _ _))
  exact Option.some.inj heq

theorem loop_succ (fuel : Nat) (s : Loop) : loop c var forAll (fuel + 1) s =
    match round c var forAll s with
    | none => none
    | some (s', true) => loop c var forAll fuel s'
    | some (s', false) => some s'.value := rfl

theorem loop_last {s s' : Loop} (fuel : Nat) (h : round c var forAll s = some (s', false)) :
    loop c var forAll (fuel + 1) s = some s'.value := by
  rw [loop_succ, h]

/-- More rounds change nothing. -/
theorem Ends.of_loop {fuel : Nat} {s : Loop} {r : Three Nat}
    (h : loop c var forAll fuel s = some r) :
    Ends (fun fuel => loop c var forAll fuel s) r := by
  refine ⟨fuel, fun fuel' hle => ?_⟩
  dsimp only
  induction fuel generalizing s fuel' with
  | zero => exact absurd h (by simp [loop])
  | succ fuel ih =>
    obtain ⟨n, rfl⟩ : ∃ n, fuel' = n + 1 := ⟨fuel' - 1, by omega⟩
    rw [loop_succ] at h ⊢
    split
    · rename_i hround
      rw [hround] at h
      exact h
    · rename_i s' hround
      rw [hround] at h
      exact ih h n (by omega)
    · rename_i s' hround
      rw [hround] at h
      exact h

/-- **The rounds of the code end with what is left.** -/
theorem Halts.ends (h : Halts a t g v r) : ∀ s, Before s a t g v →
    Ends (fun fuel => loop c var true fuel s) r := by
  induction h with
  | stop hnext =>
    intro s hs
    obtain ⟨s', hround, hvalue, -⟩ := hs.round c var
    refine ⟨1, fun fuel hfuel => ?_⟩
    obtain ⟨n, rfl⟩ : ∃ n, fuel = n + 1 := ⟨fuel - 1, by omega⟩
    dsimp only
    rw [loop_succ, hround, decide_eq_false hnext]
    exact congrArg some hvalue
  | next hnext _ ih =>
    intro s hs
    obtain ⟨s', hround, -, hbefore⟩ := hs.round c var
    obtain ⟨k, hk⟩ := ih s' (hbefore hnext)
    refine ⟨k + 1, fun fuel hfuel => ?_⟩
    obtain ⟨n, rfl⟩ : ∃ n, fuel = n + 1 := ⟨fuel - 1, by omega⟩
    dsimp only
    rw [loop_succ, hround, decide_eq_true hnext]
    exact hk n (by omega)

/-! ## What is taken in the end -/

/-- The sum over the phases that are supported. -/
def sumOf (g : Three Bool) (v : Three Nat) : Nat :=
  (if g.p1 then v.p1 else 0) + (if g.p2 then v.p2 else 0) + (if g.p3 then v.p3 else 0)

/-- A negative value loses what is missing after the second round. -/
def LosesRest (a : Nat) (g : Three Bool) (v : Three Nat) : Prop :=
  (∀ p, isPhase p → g.get p = true ∧ v.get p ≠ 0) ∧ ShortTwice a v

/-- What a subtraction of `a` is to leave. -/
structure Left (a : Nat) (g : Three Bool) (v r : Three Nat) : Prop where
  le : ∀ p, isPhase p → r.get p ≤ v.get p
  unsupported : ∀ p, isPhase p → g.get p = false → r.get p = v.get p

/-- An empty phase does not count. -/
theorem sumOf_active (hle : ∀ p, isPhase p → r.get p ≤ v.get p) :
    sumOf g r = sumOf (active g v) r := by
  have h1 : r.p1 ≤ v.p1 := hle 1 isPhase_one
  have h2 : r.p2 ≤ v.p2 := hle 2 isPhase_two
  have h3 : r.p3 ≤ v.p3 := hle 3 isPhase_three
  have hone : ∀ (b : Bool) (m n : Nat), m ≤ n →
      (if b then m else 0) = if (b && decide (n ≠ 0)) then m else 0 := by
    intro b m n hmn
    by_cases hn : n = 0
    · simp [hn, show m = 0 by omega]
    · simp [hn]
  unfold sumOf active
  rw [hone _ _ _ h1, hone _ _ _ h2, hone _ _ _ h3]

/-- Where the shares come from fewer than three phases nothing is lost. -/
theorem Halts.lossless (hr : Halts a 0 g v r) (hle : ∀ p, isPhase p → r.get p ≤ v.get p)
    (hkeep : ∀ p, isPhase p → (active g v).get p = false → r.get p = v.get p)
    (hsum : sumOf (active g v) r = sumOf (active g v) v - a)
    (hinactive : ∃ p, isPhase p ∧ (active g v).get p = false) :
    ∃ r, Halts a 0 g v r ∧ Left a g v r ∧ (sumOf g r = sumOf g v - a ↔ ¬ LosesRest a g v) := by
  have hget : ∀ p, isPhase p → (active g v).get p = (g.get p && decide (v.get p ≠ 0)) := by
    rintro p (rfl | rfl | rfl) <;> rfl
  refine ⟨r, hr, ⟨hle, fun p hp hg => hkeep p hp ?_⟩, ?_⟩
  · rw [hget p hp, hg, Bool.false_and]
  · have hv : sumOf g v = sumOf (active g v) v := sumOf_active fun _ _ => Nat.le_refl _
    rw [sumOf_active hle, hv]
    refine iff_of_true hsum ?_
    rintro ⟨hall, -⟩
    obtain ⟨p, hp, hact⟩ := hinactive
    rw [hget p hp, (hall p hp).1, decide_eq_true (hall p hp).2] at hact
    exact absurd hact (by simp)

theorem Halts.left_one (hp : isPhase p)
    (h : active g v = (⟨false, false, false⟩ : Three Bool).set p true) :
    ∃ r, Halts a 0 g v r ∧ Left a g v r ∧ (sumOf g r = sumOf g v - a ↔ ¬ LosesRest a g v) := by
  apply Halts.lossless (Halts.one hp h)
  · rcases hp with rfl | rfl | rfl <;> rintro q (rfl | rfl | rfl) <;> simp [Three.set, Three.get]
  · rw [h]
    rcases hp with rfl | rfl | rfl <;> rintro q (rfl | rfl | rfl) <;> simp [Three.set, Three.get]
  · rw [h]
    rcases hp with rfl | rfl | rfl <;> simp [sumOf, Three.set, Three.get]
  · rw [h]
    rcases hp with rfl | rfl | rfl
    · exact ⟨2, isPhase_two, rfl⟩
    · exact ⟨1, isPhase_one, rfl⟩
    · exact ⟨1, isPhase_one, rfl⟩

theorem pairRest_sum (vy vz : Nat) :
    (pairRest a 0 vy vz).1 ≤ vy ∧ (pairRest a 0 vy vz).2 ≤ vz ∧
      (pairRest a 0 vy vz).1 + (pairRest a 0 vy vz).2 = vy + vz - a := by
  have hhalf := half_sum a
  unfold pairRest
  dsimp only
  omega

theorem Halts.left_two {x y z : Nat} (hc : Cyclic x y z)
    (h : active g v = (⟨true, true, true⟩ : Three Bool).set x false) :
    ∃ r, Halts a 0 g v r ∧ Left a g v r ∧ (sumOf g r = sumOf g v - a ↔ ¬ LosesRest a g v) := by
  obtain ⟨hy, hz, hsum⟩ := pairRest_sum (a := a) (v.get y) (v.get z)
  generalize hm : (pairRest a 0 (v.get y) (v.get z)).1 = m at hy hsum
  generalize hn : (pairRest a 0 (v.get y) (v.get z)).2 = n at hz hsum
  have hr := Halts.two (a := a) (t := 0) hc h
  rw [hm, hn] at hr
  obtain ⟨ex, ey, ez⟩ := get_set hc (v := v) m n
  have hcases : ∀ p, isPhase p → p = x ∨ p = y ∨ p = z := by
    intro p hp
    unfold Cyclic at hc
    unfold isPhase at hp
    omega
  apply Halts.lossless hr
  · intro p hp
    rcases hcases p hp with rfl | rfl | rfl
    · rw [ex]
    · rw [ey]
      exact hy
    · rw [ez]
      exact hz
  · intro p hp hact
    rw [h] at hact
    rcases hcases p hp with rfl | rfl | rfl
    · exact ex
    · rcases hc with ⟨rfl, rfl, rfl⟩ | ⟨rfl, rfl, rfl⟩ | ⟨rfl, rfl, rfl⟩ <;>
        exact absurd hact (by decide)
    · rcases hc with ⟨rfl, rfl, rfl⟩ | ⟨rfl, rfl, rfl⟩ | ⟨rfl, rfl, rfl⟩ <;>
        exact absurd hact (by decide)
  · rw [h]
    rcases hc with ⟨rfl, rfl, rfl⟩ | ⟨rfl, rfl, rfl⟩ | ⟨rfl, rfl, rfl⟩ <;>
      simp [sumOf, Three.set, Three.get] at hsum ⊢ <;> omega
  · refine ⟨x, hc.phase_x, ?_⟩
    rw [h]
    rcases hc.phase_x with rfl | rfl | rfl <;> rfl

/-- **What the rounds leave.** -/
theorem Halts.exists (a : Nat) (g : Three Bool) (v : Three Nat) :
    ∃ r, Halts a 0 g v r ∧ Left a g v r ∧ (sumOf g r = sumOf g v - a ↔ ¬ LosesRest a g v) := by
  have hc1 : Cyclic 1 2 3 := Or.inl ⟨rfl, rfl, rfl⟩
  have hc2 : Cyclic 2 3 1 := Or.inr (Or.inl ⟨rfl, rfl, rfl⟩)
  have hc3 : Cyclic 3 1 2 := Or.inr (Or.inr ⟨rfl, rfl, rfl⟩)
  rcases h : active g v with ⟨b1, b2, b3⟩
  cases b1 <;> cases b2 <;> cases b3
  · refine Halts.lossless (Halts.none h) (fun _ _ => Nat.le_refl _) (fun _ _ _ => rfl) ?_
      ⟨1, isPhase_one, by rw [h]; rfl⟩
    rw [h]
    simp [sumOf]
  · exact Halts.left_one isPhase_three h
  · exact Halts.left_one isPhase_two h
  · exact Halts.left_two hc1 h
  · exact Halts.left_one isPhase_one h
  · exact Halts.left_two hc2 h
  · exact Halts.left_two hc3 h
  · obtain ⟨r, hr, hle, hiff⟩ := Halts.three (a := a) h
    have hall : ∀ p, isPhase p → g.get p = true ∧ v.get p ≠ 0 := by
      have hget : ∀ p, isPhase p → (active g v).get p = (g.get p && decide (v.get p ≠ 0)) := by
        rintro p (rfl | rfl | rfl) <;> rfl
      intro p hp
      have hact : (active g v).get p = true := by
        rw [h]
        rcases hp with rfl | rfl | rfl <;> rfl
      rw [hget p hp, Bool.and_eq_true, decide_eq_true_eq] at hact
      exact hact
    refine ⟨r, hr, ⟨hle, fun p hp hg => ?_⟩, ?_⟩
    · rw [(hall p hp).1] at hg
      exact absurd hg (by simp)
    · have hsum : ∀ w, sumOf g w = total w := by
        intro w
        have h1 : g.p1 = true := (hall 1 isPhase_one).1
        have h2 : g.p2 = true := (hall 2 isPhase_two).1
        have h3 : g.p3 = true := (hall 3 isPhase_three).1
        simp [sumOf, total, h1, h2, h3]
      rw [hsum, hsum, hiff]
      exact not_congr ⟨fun hs => ⟨hall, hs⟩, fun hs => hs.2⟩

/-! ## A value that is not negative -/

/-- A share added to a counter that has room for it. -/
theorem addTo_nonneg {k value : Nat} (substracted : Int) (hk : k ≤ 9223372036854775807)
    (hfits : value ≤ uint64Max) :
    ∃ w, addTo k value substracted = (w, substracted) ∧
      (value + k ≤ uint64Max → w = value + k) := by
  unfold addTo
  rw [if_neg (by omega)]
  refine ⟨_, rfl, fun hroom => ?_⟩
  unfold uint64Max at *
  unfold toUInt64
  rw [if_neg (by omega)]
  omega

variable (c var) in
/-- One phase of the only round. -/
theorem roundPhase_nonneg {s : Loop} (hp : isPhase p) (hm : Marks s.flags act)
    (hinit : s.initialValue = (a : Int)) (ha : a ≤ 9223372036854775807)
    (hfits : s.value.get p ≤ uint64Max) :
    ∃ w, roundPhase c var true p s =
        some ({ s with value := s.value.set p w }, decide (s.value.get p ≠ w)) ∧
      (act.get p = false → w = s.value.get p) ∧
      (s.value.get p + share a act p ≤ uint64Max → w = s.value.get p + share a act p) := by
  have hset : s.value.set p (s.value.get p) = s.value := by
    rcases hp with rfl | rfl | rfl <;> rfl
  unfold roundPhase addInitialValuePhase
  rw [hm p hp]
  cases hact : act.get p with
  | false =>
    refine ⟨s.value.get p, ?_, fun _ => rfl, fun _ => by rw [share_of_inactive hact, Nat.add_zero]⟩
    simp [hset]
  | true =>
    have hshare : share a act p ≤ a := by
      have hsum := share_sum_le a act
      rcases hp with rfl | rfl | rfl <;> omega
    obtain ⟨w, hw, hroom⟩ := addTo_nonneg (k := share a act p) s.substracted (by omega) hfits
    refine ⟨w, ?_, fun h => absurd h (by simp), hroom⟩
    rw [if_neg (by simp), hinit, addition_nonneg hm hp hact, Option.map_some, hw]
    simp

variable (c var) in
/-- A value that is not negative is added in one round. -/
theorem loop_nonneg {s : Loop} (hm : Marks s.flags g) (hinit : s.initialValue = (a : Int))
    (ha : a ≤ 9223372036854775807) (hfits : ∀ p, isPhase p → s.value.get p ≤ uint64Max) :
    ∃ r, Ends (fun fuel => loop c var true fuel s) r ∧
      (∀ p, isPhase p → g.get p = false → r.get p = s.value.get p) ∧
      ((∀ p, isPhase p → s.value.get p + share a g p ≤ uint64Max) →
        ∀ p, isPhase p → r.get p = s.value.get p + share a g p) := by
  obtain ⟨initial, flags0, ⟨v1, v2, v3⟩, sub⟩ := s
  dsimp only at hinit hm hfits
  obtain ⟨w1, e1, hkeep1, hadd1⟩ := roundPhase_nonneg c var isPhase_one (a := a)
    (s := ⟨initial, flags0, ⟨v1, v2, v3⟩, sub⟩) hm hinit ha (hfits 1 isPhase_one)
  obtain ⟨w2, e2, hkeep2, hadd2⟩ := roundPhase_nonneg c var isPhase_two (a := a)
    (s := ⟨initial, flags0, ⟨w1, v2, v3⟩, sub⟩) hm hinit ha (hfits 2 isPhase_two)
  obtain ⟨w3, e3, hkeep3, hadd3⟩ := roundPhase_nonneg c var isPhase_three (a := a)
    (s := ⟨initial, flags0, ⟨w1, w2, v3⟩, sub⟩) hm hinit ha (hfits 3 isPhase_three)
  simp only [Three.get, Three.set, reduceIte, Nat.reduceEqDiff] at e1 e2 e3
  have hpos : ¬ initial < 0 := by omega
  have hround : round c var true ⟨initial, flags0, ⟨v1, v2, v3⟩, sub⟩ =
      some (⟨initial, flags0, ⟨w1, w2, w3⟩, sub⟩, false) := by
    unfold round
    dsimp only
    rw [if_neg hpos]
    simp only [Option.bind_eq_bind, e1, Option.bind_some, e2, e3]
    rw [if_neg]
    simp [hpos]
  refine ⟨⟨w1, w2, w3⟩, ⟨1, fun fuel hfuel => ?_⟩, ?_, ?_⟩
  · obtain ⟨n, rfl⟩ : ∃ n, fuel = n + 1 := ⟨fuel - 1, by omega⟩
    dsimp only
    rw [loop_succ, hround]
  · rintro p (rfl | rfl | rfl) hg
    · exact hkeep1 hg
    · exact hkeep2 hg
    · exact hkeep3 hg
  · rintro hroom p (rfl | rfl | rfl)
    · exact hadd1 (hroom 1 isPhase_one)
    · exact hadd2 (hroom 2 isPhase_two)
    · exact hadd3 (hroom 3 isPhase_three)

/-! ## A single initial value -/

/-- The phases that are supported. -/
def supported (flags : BitVec 32) : Three Bool :=
  ⟨!unsupported flags 1, !unsupported flags 2, !unsupported flags 3⟩

theorem marks_supported (flags : BitVec 32) : Marks flags (supported flags) := by
  rintro p (rfl | rfl | rfl) <;> simp [supported, Three.get]

/-- No counter of a supported phase is too full for what the phase is given. -/
def NoneSaturates (n : Int) (flags : BitVec 32) (value : Three Nat) : Prop :=
  ∀ p, isPhase p → unsupported flags p = false →
    ∀ k, addition n true p flags = some k → value.get p + k ≤ uint64Max

/-- The value `n` was spread over the supported phases without loss. -/
structure Spread (n : Int) (flags : BitVec 32) (value r : Three Nat) : Prop where
  unsupported : ∀ p, isPhase p → unsupported flags p = true → r.get p = value.get p
  added : 0 ≤ n → NoneSaturates n flags value →
    (∃ p, isPhase p ∧ EmConfig.unsupported flags p = false) →
      (sumOf (supported flags) r : Int) = sumOf (supported flags) value + n
  subtracted : n < 0 → sumOf (supported flags) r =
      sumOf (supported flags) value - min n.natAbs (sumOf (supported flags) value)
  notBelow : n < 0 → ∀ p, isPhase p → r.get p ≤ value.get p

theorem isInt64_initialValue (c : Config D) (var : BitVec 32) (phase : Nat) :
    isInt64 (getInitialValue c var phase).1 := by
  have hzero : isInt64 0 := by unfold isInt64; omega
  have hphase : ∀ n : Json.Node D, isInt64 (phaseInitialValue n phase) := by
    intro n
    unfold phaseInitialValue
    split
    · exact CounterDouble.isInt64_counter _
    · exact hzero
  unfold getInitialValue
  split
  · exact hzero
  · split
    · exact hzero
    · split
      · exact hzero
      · split
        · exact hphase _
        · exact CounterDouble.isInt64_counter _
        · exact hzero

theorem share_sum {g : Three Bool} (h : ∃ p, isPhase p ∧ g.get p = true) :
    share a g 1 + share a g 2 + share a g 3 = a := by
  obtain ⟨b1, b2, b3⟩ := g
  obtain ⟨p, hp, hg⟩ := h
  cases b1 <;> cases b2 <;> cases b3
  · rcases hp with rfl | rfl | rfl <;> exact absurd hg (by decide)
  all_goals simp [share, Three.get] <;> omega

theorem supported_get (flags : BitVec 32) (hp : isPhase p) :
    (supported flags).get p = !unsupported flags p := by
  rcases hp with rfl | rfl | rfl <;> rfl

variable (flags c var) in
/-- A value that is not negative is spread without loss. -/
theorem spread_nonneg {value : Three Nat} (hfits : ∀ p, isPhase p → value.get p ≤ uint64Max)
    (ha : a ≤ 9223372036854775807) :
    ∃ r, Ends (fun fuel => loop c var true fuel ⟨a, flags, value, 0⟩) r ∧
      Spread a flags value r := by
  obtain ⟨r, hends, hkeep, hadd⟩ := loop_nonneg c var (s := ⟨a, flags, value, 0⟩)
    (marks_supported flags) rfl ha hfits
  refine ⟨r, hends, fun p hp hu => hkeep p hp ?_, fun _ hnone hsome => ?_, fun h => ?_, fun h => ?_⟩
  · rw [supported_get flags hp, hu]
    rfl
  · have hroom : ∀ p, isPhase p → value.get p + share a (supported flags) p ≤ uint64Max := by
      intro p hp
      cases hu : unsupported flags p with
      | true =>
        rw [share_of_inactive (by rw [supported_get flags hp, hu]; rfl), Nat.add_zero]
        exact hfits p hp
      | false =>
        have hact : (supported flags).get p = true := by rw [supported_get flags hp, hu]; rfl
        have hle := hnone p hp hu _ (addition_nonneg (marks_supported flags) hp hact)
        exact_mod_cast hle
    have hsum := share_sum (a := a) (g := supported flags) (by
      obtain ⟨p, hp, hu⟩ := hsome
      exact ⟨p, hp, by rw [supported_get flags hp, hu]; rfl⟩)
    have h1 : r.p1 = value.p1 + share a (supported flags) 1 := hadd hroom 1 isPhase_one
    have h2 : r.p2 = value.p2 + share a (supported flags) 2 := hadd hroom 2 isPhase_two
    have h3 : r.p3 = value.p3 + share a (supported flags) 3 := hadd hroom 3 isPhase_three
    have hzero : ∀ p, isPhase p → (supported flags).get p = false →
        share a (supported flags) p = 0 := fun p _ hg => share_of_inactive hg
    have z1 := hzero 1 isPhase_one
    have z2 := hzero 2 isPhase_two
    have z3 := hzero 3 isPhase_three
    unfold sumOf
    rw [h1, h2, h3]
    cases e1 : (supported flags).p1 <;> cases e2 : (supported flags).p2 <;>
      cases e3 : (supported flags).p3 <;>
      simp only [Three.get, e1, e2, e3, reduceIte, Nat.reduceEqDiff, forall_const,
        Bool.true_eq_false, Bool.false_eq_true, false_implies] at z1 z2 z3 ⊢ <;>
      omega
  · omega
  · omega

variable (flags c var) in
/-- A negative value is spread without loss unless a rest of it is lost. -/
theorem spread_neg {value : Three Nat} (hfits : ∀ p, isPhase p → value.get p ≤ uint64Max)
    (hpos : 0 < a) (ha : a ≤ 9223372036854775808) :
    ∃ r, Ends (fun fuel => loop c var true fuel ⟨-a, flags, value, 0⟩) r ∧
      (Spread (-a) flags value r ↔ ¬ LosesRest a (supported flags) value) := by
  obtain ⟨r, hr, hleft, hiff⟩ := Halts.exists a (supported flags) value
  have hbefore : Before ⟨-a, flags, value, 0⟩ a 0 (supported flags) value :=
    ⟨rfl, hpos, rfl, by omega, rfl, hfits, marks_supported flags⟩
  have hmin : ∀ n : Nat, n - min (-(a : Int)).natAbs n = n - a := by
    intro n
    omega
  refine ⟨r, hr.ends _ hbefore, ?_⟩
  rw [← hiff]
  constructor
  · intro hs
    rw [hs.subtracted (by omega), hmin]
  · intro hsum
    refine ⟨fun p hp hu => hleft.unsupported p hp ?_, fun h => by omega, fun _ => ?_,
      fun _ => hleft.le⟩
    · rw [supported_get flags hp, hu]
      rfl
    · rw [hsum, hmin]

/-- The initial value is negative, all phases are supported and not empty, and a rest of the value
is lost. -/
def RestLost (n : Int) (flags : BitVec 32) (value : Three Nat) : Prop :=
  n < 0 ∧ LosesRest n.natAbs (supported flags) value

/-- **A single initial value.** The loop ends, without a division by zero, and has spread the value
without loss exactly if no rest of it is lost in the second round. -/
theorem addInitialValue_spread_iff (c : Config D) (var flags : BitVec 32) {value : Three Nat}
    (hfits : ∀ p, isPhase p → value.get p ≤ uint64Max)
    (hsingle : (getInitialValue c var 1).2 = true) :
    ∃ r, Ends (addInitialValue c var flags value) r ∧
      (Spread (getInitialValue c var 1).1 flags value r ↔
        ¬ RestLost (getInitialValue c var 1).1 flags value) := by
  have hrange := isInt64_initialValue c var 1
  unfold addInitialValue
  dsimp only
  rw [hsingle]
  generalize (getInitialValue c var 1).1 = n at *
  unfold isInt64 at hrange
  obtain ⟨a, rfl | rfl⟩ := n.eq_nat_or_neg
  · obtain ⟨r, hends, hs⟩ := spread_nonneg flags c var hfits
      (a := a) (by omega)
    exact ⟨r, hends, iff_of_true hs fun h => by have := h.1; omega⟩
  · by_cases h0 : a = 0
    · subst h0
      obtain ⟨r, hends, hs⟩ := spread_nonneg flags c var hfits
        (a := 0) (by omega)
      exact ⟨r, hends, iff_of_true hs fun h => by have := h.1; omega⟩
    · obtain ⟨r, hends, hs⟩ := spread_neg flags c var hfits
        (a := a) (by omega) (by omega)
      refine ⟨r, hends, hs.trans (not_congr ?_)⟩
      unfold RestLost
      rw [Int.natAbs_neg, Int.natAbs_natCast]
      exact ⟨fun h => ⟨by omega, h⟩, fun h => h.2⟩

/-- Numbers in hundred-thousandths. -/
instance : CounterDouble Int :=
  ⟨toInt64, fun d => by unfold isInt64 toInt64; omega⟩

/-- A configuration with one initial value, of the forward active energy. -/
def singleValue (n : Int) : Config Int :=
  ⟨.mk .object [(some "electricityMeterInitialValues",
      .mk .object [(some "forwardActiveEnergy", .leaf (.number n))])],
    .mk .object [(some "countersAvailable", .ofItems [.leaf (.string "forwardActiveEnergy")])]⟩

theorem fits_of {v1 v2 v3 : Nat} (h : v1 ≤ uint64Max ∧ v2 ≤ uint64Max ∧ v3 ≤ uint64Max) :
    ∀ p, isPhase p → (⟨v1, v2, v3⟩ : Three Nat).get p ≤ uint64Max := by
  rintro p (rfl | rfl | rfl)
  · exact h.1
  · exact h.2.1
  · exact h.2.2

/-- The first phase has less than its share, and the other two give what it is short of. -/
theorem addInitialValue_spread : ∃ r,
    Ends (addInitialValue (singleValue (-30)) EM_VAR_FORWARD_ACTIVE_ENERGY 0 ⟨1, 20, 100⟩) r ∧
      Spread (-30) 0 ⟨1, 20, 100⟩ r := by
  have hfits : ∀ p, isPhase p → (⟨1, 20, 100⟩ : Three Nat).get p ≤ uint64Max :=
    fits_of (by decide)
  obtain ⟨r, hends, hiff⟩ := addInitialValue_spread_iff (singleValue (-30))
    EM_VAR_FORWARD_ACTIVE_ENERGY 0 hfits (by decide)
  refine ⟨r, hends, hiff.mpr ?_⟩
  rintro ⟨-, -, x, y, z, hc, hx, -, -, hor⟩
  rw [show (getInitialValue (singleValue (-30)) EM_VAR_FORWARD_ACTIVE_ENERGY 1).1 = -30 by decide]
    at hx hor
  rcases hc with ⟨rfl, rfl, rfl⟩ | ⟨rfl, rfl, rfl⟩ | ⟨rfl, rfl, rfl⟩
  · exact absurd hor (by decide)
  · exact absurd hx (by decide)
  · exact absurd hx (by decide)

/-- Three of the thirty are lost. -/
theorem addInitialValue_loses :
    ¬ ∀ (c : Config Int) (var flags : BitVec 32) (value : Three Nat),
      (∀ p, isPhase p → value.get p ≤ uint64Max) → (getInitialValue c var 1).2 = true →
        ∃ r, Ends (addInitialValue c var flags value) r ∧
          Spread (getInitialValue c var 1).1 flags value r := by
  intro hall
  obtain ⟨r, hends, hs⟩ := hall (singleValue (-30)) EM_VAR_FORWARD_ACTIVE_ENERGY 0 ⟨1, 12, 100⟩
    (fits_of (by decide)) (by decide)
  have hloop : addInitialValue (singleValue (-30)) EM_VAR_FORWARD_ACTIVE_ENERGY 0 ⟨1, 12, 100⟩ 2 =
      some ⟨0, 0, 86⟩ := by decide
  have heq := hends.unique (Ends.of_loop hloop)
  rw [heq] at hs
  exact absurd (hs.subtracted (by decide)) (by decide)

end Channel.EmConfig
