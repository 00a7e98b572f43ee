import SuplaCore.Channel.Proof.InitialValue

/-!
# Initial values of the phases

The object form goes through the same loop, once: the number of each phase is read before its turn.
The flags are those of the first number's sign, though, so a phase whose counter is zero is left out
when that number is negative. The total reads the numbers of the second and third phase from the
object of the forward active energy, whatever the variable.
-/

namespace Channel.EmConfig

variable {D : Type} [CounterDouble D] {c : Config D} {var flags : BitVec 32} {p : Nat}

/-- A counter after a number is added, within what a counter can hold. -/
def clamped (n : Int) (value : Nat) : Int := max 0 (min (value + n) uint64Max)

theorem addTo_clamped {n : Int} {value : Nat} (substracted : Int) (hn : isInt64 n)
    (hfits : value ≤ uint64Max) : ((addTo n value substracted).1 : Int) = clamped n value := by
  unfold isInt64 at hn
  unfold uint64Max at hfits
  unfold addTo clamped toUInt64 toInt64 uint64Max
  split
  · dsimp only
    split <;> omega
  · dsimp only
    split <;> omega

/-- The initial value of a phase. -/
def phaseValue (c : Config D) (var : BitVec 32) (p : Nat) : Int := (getInitialValue c var p).1

variable (c var) in
/-- One phase of the only round. -/
theorem roundPhase_single {s : Loop} (p : Nat) (hinit : isInt64 s.initialValue)
    (hfits : s.value.get p ≤ uint64Max) :
    ∃ w sub, roundPhase c var false p s = some ({
        initialValue := if p < 3 then phaseValue c var (p + 1) else s.initialValue
        flags := s.flags
        value := s.value.set p w
        substracted := sub }, decide (s.value.get p ≠ w)) ∧
      (w : Int) = if unsupported s.flags p then (s.value.get p : Int)
        else clamped s.initialValue (s.value.get p) := by
  unfold roundPhase addInitialValuePhase
  cases hu : unsupported s.flags p with
  | true =>
    refine ⟨s.value.get p, s.substracted, ?_, rfl⟩
    rw [if_pos rfl, Option.map_some]
    simp [phaseValue]
  | false =>
    have hadd : addition s.initialValue false p s.flags = some s.initialValue := rfl
    refine ⟨(addTo s.initialValue (s.value.get p) s.substracted).1,
      (addTo s.initialValue (s.value.get p) s.substracted).2, ?_, addTo_clamped _ hinit hfits⟩
    rw [if_neg Bool.false_ne_true, hadd, Option.map_some, Option.map_some]
    simp [phaseValue]

/-! ## What each phase gets -/

/-- Each supported phase has its number added, the others keep their counters. -/
def PerPhase (c : Config D) (var flags : BitVec 32) (value r : Three Nat) : Prop :=
  ∀ p, isPhase p → (r.get p : Int) =
    if unsupported flags p then (value.get p : Int) else clamped (phaseValue c var p) (value.get p)

/-- A supported phase whose counter is zero is left out because the first number is negative. -/
def LeftOut (c : Config D) (var flags : BitVec 32) (value : Three Nat) : Prop :=
  phaseValue c var 1 < 0 ∧ ∃ p, isPhase p ∧ unsupported flags p = false ∧ value.get p = 0 ∧
    0 < phaseValue c var p

/-- The flags of the only round. -/
def flagsOf (n : Int) (flags : BitVec 32) (value : Three Nat) : BitVec 32 :=
  if n < 0 then markZero 3 value (markZero 2 value (markZero 1 value flags)) else flags

theorem unsupported_flagsOf (n : Int) (value : Three Nat) (hp : isPhase p) :
    unsupported (flagsOf n flags value) p =
      (unsupported flags p || (decide (n < 0) && decide (value.get p = 0))) := by
  unfold flagsOf
  by_cases hn : n < 0
  · rw [if_pos hn, unsupported_markZero hp.lt, unsupported_markZero hp.lt,
      unsupported_markZero hp.lt, decide_eq_true hn, Bool.true_and]
    rcases hp with rfl | rfl | rfl <;> simp
  · rw [if_neg hn, decide_eq_false hn, Bool.false_and, Bool.or_false]

variable (var flags) in
/-- **The only round.** -/
theorem addInitialValue_object {value : Three Nat}
    (hfits : ∀ p, isPhase p → value.get p ≤ uint64Max)
    (hobject : (getInitialValue c var 1).2 = false) :
    ∃ r, Ends (addInitialValue c var flags value) r ∧ ∀ p, isPhase p → (r.get p : Int) =
      if unsupported (flagsOf (phaseValue c var 1) flags value) p then (value.get p : Int)
      else clamped (phaseValue c var p) (value.get p) := by
  obtain ⟨v1, v2, v3⟩ := value
  have hrange := fun p => isInt64_initialValue c var p
  generalize hflags : flagsOf (phaseValue c var 1) flags ⟨v1, v2, v3⟩ = marked
  obtain ⟨w1, sub1, e1, h1⟩ := roundPhase_single c var 1
    (s := ⟨phaseValue c var 1, marked, ⟨v1, v2, v3⟩, 0⟩) (hrange 1) (hfits 1 isPhase_one)
  obtain ⟨w2, sub2, e2, h2⟩ := roundPhase_single c var 2
    (s := ⟨phaseValue c var 2, marked, ⟨w1, v2, v3⟩, sub1⟩) (hrange 2) (hfits 2 isPhase_two)
  obtain ⟨w3, sub3, e3, h3⟩ := roundPhase_single c var 3
    (s := ⟨phaseValue c var 3, marked, ⟨w1, w2, v3⟩, sub2⟩) (hrange 3) (hfits 3 isPhase_three)
  simp only [Three.set, reduceIte, Nat.reduceEqDiff, Nat.reduceLT, Nat.reduceAdd,
    Nat.lt_irrefl] at e1 e2 e3
  have hround : round c var false ⟨phaseValue c var 1, flags, ⟨v1, v2, v3⟩, 0⟩ =
      some (⟨phaseValue c var 3, marked, ⟨w1, w2, w3⟩, sub3⟩, false) := by
    unfold round
    dsimp only
    change (roundPhase c var false 1 ⟨phaseValue c var 1,
      flagsOf (phaseValue c var 1) flags ⟨v1, v2, v3⟩, ⟨v1, v2, v3⟩, 0⟩).bind _ = _
    rw [hflags, e1, Option.bind_some]
    dsimp only
    rw [Option.bind_eq_bind, e2, Option.bind_some]
    dsimp only
    rw [e3, Option.bind_some]
    rfl
  refine ⟨⟨w1, w2, w3⟩, ⟨1, fun fuel hfuel => ?_⟩, ?_⟩
  · obtain ⟨n, rfl⟩ : ∃ n, fuel = n + 1 := ⟨fuel - 1, by omega⟩
    unfold addInitialValue
    dsimp only
    rw [hobject]
    exact loop_last n hround
  · rintro p (rfl | rfl | rfl)
    · exact h1
    · exact h2
    · exact h3

/-- What a phase that is left out would have been given. -/
theorem clamped_zero {n : Int} (hn : isInt64 n) : clamped n 0 = 0 ↔ n ≤ 0 := by
  unfold isInt64 at hn
  unfold clamped uint64Max
  omega

/-- The numbers of the phases are added where no phase is left out. -/
theorem perPhase_iff {value r : Three Nat}
    (hr : ∀ p, isPhase p → (r.get p : Int) =
      if unsupported (flagsOf (phaseValue c var 1) flags value) p then (value.get p : Int)
      else clamped (phaseValue c var p) (value.get p)) :
    PerPhase c var flags value r ↔ ¬ LeftOut c var flags value := by
  have hzero : ∀ p, clamped (phaseValue c var p) 0 = 0 ↔ phaseValue c var p ≤ 0 :=
    fun p => clamped_zero (isInt64_initialValue c var p)
  constructor
  · rintro hall ⟨hneg, p, hp, hu, hv, hpos⟩
    have heq := hall p hp
    rw [hr p hp, unsupported_flagsOf _ _ hp, hu, hv, decide_eq_true hneg] at heq
    have hle := (hzero p).mp heq.symm
    omega
  · intro hnot p hp
    rw [hr p hp, unsupported_flagsOf _ _ hp]
    cases hu : unsupported flags p with
    | true => rfl
    | false =>
      by_cases hmarked : phaseValue c var 1 < 0 ∧ value.get p = 0
      · obtain ⟨hneg, hv⟩ := hmarked
        have hle : phaseValue c var p ≤ 0 := by
          by_contra hpos
          exact hnot ⟨hneg, p, hp, hu, hv, by omega⟩
        rw [hv, decide_eq_true hneg, (hzero p).mpr hle]
        simp
      · rw [if_neg]
        · rfl
        · simpa using hmarked

/-! ## The total -/

/-- The second and third phase of the forward active energy have the numbers of the variable, as far
as their sum goes, and the sum of all three is no overflow. -/
def TotalAlike (c : Config D) (var : BitVec 32) : Prop :=
  isInt64 (phaseValue c var 1 + phaseValue c var 2 + phaseValue c var 3) ∧
    (phaseValue c EM_VAR_FORWARD_ACTIVE_ENERGY 2 + phaseValue c EM_VAR_FORWARD_ACTIVE_ENERGY 3 -
      (phaseValue c var 2 + phaseValue c var 3)) % 18446744073709551616 = 0

theorem total_iff (hobject : (getInitialValue c var 1).2 = false) :
    getInitialValueForAllPhases c var =
        phaseValue c var 1 + phaseValue c var 2 + phaseValue c var 3 ↔ TotalAlike c var := by
  unfold getInitialValueForAllPhases TotalAlike
  dsimp only
  rw [hobject]
  change toInt64 (toInt64 (phaseValue c var 1 + phaseValue c EM_VAR_FORWARD_ACTIVE_ENERGY 2) +
    phaseValue c EM_VAR_FORWARD_ACTIVE_ENERGY 3) = _ ↔ _
  unfold toInt64 isInt64
  omega

/-- The variable of the total has the numbers of its own phases. -/
theorem totalAlike_forward (hsum : isInt64 (phaseValue c EM_VAR_FORWARD_ACTIVE_ENERGY 1 +
    phaseValue c EM_VAR_FORWARD_ACTIVE_ENERGY 2 + phaseValue c EM_VAR_FORWARD_ACTIVE_ENERGY 3)) :
    TotalAlike c EM_VAR_FORWARD_ACTIVE_ENERGY := by
  refine ⟨hsum, ?_⟩
  rw [Int.sub_self]
  rfl

theorem isInt64_total (c : Config D) (var : BitVec 32) :
    isInt64 (getInitialValueForAllPhases c var) := by
  unfold getInitialValueForAllPhases
  dsimp only
  split
  · unfold toInt64 isInt64
    omega
  · exact isInt64_initialValue c var 1

/-- The total is added to a balanced energy, within what the counter can hold. -/
theorem addInitialValueTotal_clamped (c : Config D) (var : BitVec 32) {value : Nat}
    (hfits : value ≤ uint64Max) : ∃ r : Nat, addInitialValueTotal c var value = some r ∧
      (r : Int) = clamped (getInitialValueForAllPhases c var) value := by
  refine ⟨_, ?_, addTo_clamped 0 (isInt64_total c var) hfits⟩
  unfold addInitialValueTotal addInitialValuePhase
  rw [if_neg (by decide)]
  rfl

/-- A thousandth of it is added to the 32-bit counter. -/
theorem addInitialValueForward_clamped (c : Config D) {value : Nat} (hfits : value ≤ uintMax) :
    (addInitialValueForward c value : Int) = max 0 (min (value +
      (getInitialValueForAllPhases c EM_VAR_FORWARD_ACTIVE_ENERGY).tdiv 1000) uintMax) := by
  have hrange := isInt64_total c EM_VAR_FORWARD_ACTIVE_ENERGY
  unfold addInitialValueForward
  dsimp only
  generalize getInitialValueForAllPhases c EM_VAR_FORWARD_ACTIVE_ENERGY = n at *
  have hq : isInt64 (n.tdiv 1000) := by
    rw [Int.tdiv_eq_ediv, show Int.sign 1000 = 1 by rfl]
    unfold isInt64 at *
    split <;> omega
  generalize n.tdiv 1000 = q at *
  unfold isInt64 at hq
  unfold uintMax at *
  unfold toUInt32 toUInt64
  split
  · split <;> omega
  · split <;> omega

/-- **Initial values of the phases.** The loop ends; each phase has its number added and the total
is the sum of the numbers exactly if no phase is left out and the forward active energy has numbers
with that sum. -/
theorem addInitialValue_perPhase_iff (c : Config D) (var flags : BitVec 32) {value : Three Nat}
    (hfits : ∀ p, isPhase p → value.get p ≤ uint64Max)
    (hobject : (getInitialValue c var 1).2 = false) :
    ∃ r, Ends (addInitialValue c var flags value) r ∧
      (PerPhase c var flags value r ∧ getInitialValueForAllPhases c var =
          phaseValue c var 1 + phaseValue c var 2 + phaseValue c var 3 ↔
        ¬ LeftOut c var flags value ∧ TotalAlike c var) := by
  obtain ⟨r, hends, hr⟩ := addInitialValue_object var flags hfits hobject
  exact ⟨r, hends, and_congr (perPhase_iff hr) (total_iff hobject)⟩

/-- A configuration with initial values of the phases of two variables. -/
def phaseValues (n1 n2 m1 m2 : Int) : Config Int :=
  ⟨.mk .object [(some "electricityMeterInitialValues", .mk .object
      [(some "forwardActiveEnergy",
        .mk .object [(some "1", .leaf (.number n1)), (some "2", .leaf (.number n2))]),
      (some "reverseActiveEnergy",
        .mk .object [(some "1", .leaf (.number m1)), (some "2", .leaf (.number m2))])])],
    .mk .object [(some "countersAvailable", .ofItems
      [.leaf (.string "forwardActiveEnergy"), .leaf (.string "reverseActiveEnergy")])]⟩

theorem addInitialValue_perPhase : ∃ r,
    Ends (addInitialValue (phaseValues 5 7 1 2) EM_VAR_FORWARD_ACTIVE_ENERGY 0 ⟨10, 0, 3⟩) r ∧
      PerPhase (phaseValues 5 7 1 2) EM_VAR_FORWARD_ACTIVE_ENERGY 0 ⟨10, 0, 3⟩ r ∧
      getInitialValueForAllPhases (phaseValues 5 7 1 2) EM_VAR_FORWARD_ACTIVE_ENERGY = 12 := by
  have hfits : ∀ p, isPhase p → (⟨10, 0, 3⟩ : Three Nat).get p ≤ uint64Max := fits_of (by decide)
  obtain ⟨r, hends, hiff⟩ := addInitialValue_perPhase_iff (phaseValues 5 7 1 2)
    EM_VAR_FORWARD_ACTIVE_ENERGY 0 hfits (by decide)
  have hpos : ¬ phaseValue (phaseValues 5 7 1 2) EM_VAR_FORWARD_ACTIVE_ENERGY 1 < 0 := by decide
  obtain ⟨hper, htotal⟩ := hiff.mpr ⟨fun h => hpos h.1, totalAlike_forward (by
    unfold isInt64
    decide)⟩
  exact ⟨r, hends, hper, htotal.trans (by decide)⟩

/-- The first phase loses five and the second, at zero, is not given its seven; and the total of
another variable has the forward active energy of the second phase in it. -/
theorem addInitialValue_not_perPhase :
    (¬ ∀ (c : Config Int) (var flags : BitVec 32) (value : Three Nat),
      (∀ p, isPhase p → value.get p ≤ uint64Max) → (getInitialValue c var 1).2 = false →
        ∃ r, Ends (addInitialValue c var flags value) r ∧ PerPhase c var flags value r) ∧
    ¬ ∀ (c : Config Int) (var : BitVec 32), (getInitialValue c var 1).2 = false →
      getInitialValueForAllPhases c var =
        phaseValue c var 1 + phaseValue c var 2 + phaseValue c var 3 := by
  refine ⟨fun hall => ?_, fun hall => ?_⟩
  · obtain ⟨r, hends, hper⟩ := hall (phaseValues (-5) 7 1 2) EM_VAR_FORWARD_ACTIVE_ENERGY 0
      ⟨10, 0, 3⟩ (fits_of (by decide)) (by decide)
    have hloop : addInitialValue (phaseValues (-5) 7 1 2) EM_VAR_FORWARD_ACTIVE_ENERGY 0
        ⟨10, 0, 3⟩ 1 = some ⟨5, 0, 3⟩ := by decide
    have heq := hends.unique (Ends.of_loop hloop)
    have htwo := hper 2 isPhase_two
    rw [heq] at htwo
    exact absurd htwo (by decide)
  · exact absurd (hall (phaseValues 5 7 1 2) EM_VAR_REVERSE_ACTIVE_ENERGY (by decide)) (by decide)

end Channel.EmConfig
