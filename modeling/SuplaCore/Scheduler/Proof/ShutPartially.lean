import SuplaCore.Scheduler.ShutPartially

/-!
# When a partial shut has succeeded

`Asks` says when an object asks for a percentage; `get_expected` finds exactly these
(`target_of_asks`, `target_of_not_asks`). `Reached` is what success should mean, and
`resultSuccess_iff` what it means: one of the two targets is not missed. So the check is right
unless exactly one of them is (`success_iff_reached`).
-/

namespace Scheduler

open Channel Json

variable {D : Type} [Number D] {root : Node D} {name : String}

/-! ## What an object asks for -/

/-- The number under `name` is a percentage, `n` without its fraction. -/
def Asks (root : Node D) (name : String) (n : Int) : Prop :=
  ∃ c d, root.get name = some c ∧ c.kind = .number d ∧ Number.between 0 100 d = true ∧
    Number.whole d = some n

theorem Asks.bounds {n : Int} (h : Asks root name n) : 0 ≤ n ∧ n ≤ 100 := by
  obtain ⟨c, d, -, -, hbetween, hwhole⟩ := h
  obtain ⟨m, hm, hlo, hhi⟩ := Number.between_whole 0 100 d hbetween
  obtain rfl : n = m := Option.some.inj (hwhole.symm.trans hm)
  exact ⟨hlo, hhi⟩

theorem Asks.unique {n m : Int} (hn : Asks root name n) (hm : Asks root name m) : n = m := by
  obtain ⟨c, d, hc, hd, -, hwhole⟩ := hn
  obtain ⟨c', d', hc', hd', -, hwhole'⟩ := hm
  obtain rfl : c = c' := Option.some.inj (hc.symm.trans hc')
  obtain rfl : d = d' := Kind.number.inj (hd.symm.trans hd')
  exact Option.some.inj (hwhole.symm.trans hwhole')

theorem percent_of_asks {n : Int} (h : Asks root name n) :
    percent 0 (root.get name) = some (Int8.ofInt n) := by
  obtain ⟨hlo, hhi⟩ := h.bounds
  obtain ⟨c, d, hc, hd, hbetween, hwhole⟩ := h
  unfold percent
  rw [hc, Option.map_some, hd]
  dsimp only
  rw [if_pos hbetween, toInt8, convert_of_whole hwhole (by omega) (by omega)]

theorem asks_of_percent {v : Int8} (h : percent 0 (root.get name) = some v) :
    ∃ n, Asks root name n := by
  unfold percent at h
  split at h
  · rename_i d hkind
    obtain ⟨c, hc, hd⟩ := Option.map_eq_some_iff.mp hkind
    split at h
    · rename_i hbetween
      obtain ⟨n, hn, -, -⟩ := Number.between_whole 0 100 d hbetween
      exact ⟨n, c, d, hc, hd, hbetween, hn⟩
    · cases h
  · cases h

theorem readTarget_of_asks {n : Int} (h : Asks root name n) (deltaName : String) :
    readTarget root name deltaName = some (Int8.ofInt n, false) := by
  unfold readTarget
  rw [percent_of_asks h]

theorem readTarget_of_not_asks (h : ∀ n, ¬ Asks root name n) (deltaName : String) :
    ∀ t ∈ readTarget root name deltaName, t.2 = true := by
  intro t ht
  unfold readTarget at ht
  cases hpercent : percent 0 (root.get name) with
  | some v =>
    obtain ⟨n, hn⟩ := asks_of_percent hpercent
    exact absurd hn (h n)
  | none =>
    rw [hpercent] at ht
    obtain ⟨v, -, rfl⟩ := Option.map_eq_some_iff.mp ht
    rfl

/-! ## What an action wants -/

/-- Revealing to a percentage is shutting to the rest. -/
def Wants (action : PartialAction) (root : Node D) (name : String) (n : Int) : Prop :=
  match action with
  | .shut => Asks root name n
  | .reveal => Asks root name (100 - n)

theorem Wants.bounds {action : PartialAction} {n : Int} (h : Wants action root name n) :
    0 ≤ n ∧ n ≤ 100 := by
  cases action with
  | shut => exact Asks.bounds h
  | reveal =>
    obtain ⟨hlo, hhi⟩ := Asks.bounds h
    omega

theorem Wants.unique {action : PartialAction} {n m : Int} (hn : Wants action root name n)
    (hm : Wants action root name m) : n = m := by
  cases action with
  | shut => exact Asks.unique hn hm
  | reveal =>
    have := Asks.unique hn hm
    omega

/-- A target as it is kept in `Expected`. -/
def kept (action : PartialAction) (t : Option (Int8 × Bool)) : Int8 × Bool :=
  let v := (t.map (·.1)).getD (-1)
  let asDelta := t.any (·.2)
  match action with
  | .shut => (v, asDelta)
  | .reveal => (mirror v asDelta, asDelta)

theorem mirror_absolute {n : Int} (hlo : 0 ≤ n) (hhi : n ≤ 100) :
    mirror (Int8.ofInt n) false = Int8.ofInt (100 - n) := by
  have hn : (Int8.ofInt n).toInt = n := Int8.toInt_ofInt_of_le (by omega) (by omega)
  have hset : Int8.ofInt n ≠ -1 := by
    intro h
    rw [h] at hn
    exact absurd hlo (by rw [← hn]; decide)
  unfold mirror
  rw [if_neg Bool.false_ne_true, if_pos hset]
  apply Int8.toInt_inj.mp
  rw [Int8.toInt_sub, hn, show (100 : Int8).toInt = 100 from rfl,
    Int.bmod_eq_of_le (by omega) (by omega), Int8.toInt_ofInt_of_le (by omega) (by omega)]

theorem kept_of_wants {action : PartialAction} {n : Int} (h : Wants action root name n)
    (deltaName : String) :
    kept action (readTarget root name deltaName) = (Int8.ofInt n, false) := by
  cases action with
  | shut =>
    rw [readTarget_of_asks h]
    rfl
  | reveal =>
    obtain ⟨hlo, hhi⟩ := Asks.bounds h
    rw [readTarget_of_asks h]
    show (mirror (Int8.ofInt (100 - n)) false, false) = _
    rw [mirror_absolute hlo hhi, show 100 - (100 - n) = n by omega]

theorem kept_of_not_wants {action : PartialAction} (h : ∀ n, ¬ Wants action root name n)
    (deltaName : String) :
    (kept action (readTarget root name deltaName)).2 = true ∨
      kept action (readTarget root name deltaName) = (-1, false) := by
  have hasks : ∀ n, ¬ Asks root name n := by
    intro n hn
    cases action with
    | shut => exact h n hn
    | reveal =>
      refine h (100 - n) ?_
      show Asks root name (100 - (100 - n))
      rw [show 100 - (100 - n) = n by omega]
      exact hn
  have hdelta := readTarget_of_not_asks hasks deltaName
  cases hread : readTarget root name deltaName with
  | none =>
    right
    cases action with
    | shut => rfl
    | reveal => rfl
  | some t =>
    left
    have ht : t.2 = true := hdelta t hread
    cases action with
    | shut => exact ht
    | reveal => exact ht

theorem isMatch_eq_false_iff {expected reported : Int8} {asDelta : Bool} :
    isMatch expected asDelta reported = false ↔
      asDelta = false ∧ expected ≠ -1 ∧ 2 < (expected.toInt - reported.toInt).natAbs := by
  simp [isMatch, and_assoc]

/-- **A target is missed** if an absolute one is wanted and the report is over two points off. -/
theorem isMatch_kept {action : PartialAction} (deltaName : String) {reported : Int8} :
    isMatch (kept action (readTarget root name deltaName)).1
        (kept action (readTarget root name deltaName)).2 reported = false ↔
      ∃ n, Wants action root name n ∧ 2 < (n - reported.toInt).natAbs := by
  rw [isMatch_eq_false_iff]
  by_cases hwants : ∃ n, Wants action root name n
  · obtain ⟨n, hn⟩ := hwants
    obtain ⟨hlo, hhi⟩ := hn.bounds
    have hto : (Int8.ofInt n).toInt = n := Int8.toInt_ofInt_of_le (by omega) (by omega)
    have hset : Int8.ofInt n ≠ -1 := by
      intro h
      rw [h] at hto
      exact absurd hlo (by rw [← hto]; decide)
    rw [kept_of_wants hn]
    dsimp only
    rw [hto]
    constructor
    · intro h
      exact ⟨n, hn, h.2.2⟩
    · intro h
      obtain ⟨m, hm, hfar⟩ := h
      obtain rfl := hn.unique hm
      exact ⟨rfl, hset, hfar⟩
  · constructor
    · intro h
      obtain hdelta | hnone := kept_of_not_wants (not_exists.mp hwants) deltaName
      · exact Bool.noConfusion (h.1.symm.trans hdelta)
      · rw [hnone] at h
        exact absurd rfl h.2.1
    · intro h
      obtain ⟨n, hn, -⟩ := h
      exact absurd ⟨n, hn⟩ hwants

/-! ## The check -/

/-- The object asks for something. -/
def Asked (root : Node D) : Prop :=
  (readTarget root "percentage" "percentageDelta").isSome = true ∨
    (readTarget root "tilt" "tiltDelta").isSome = true

/-- There is something to check: a request and a reported value. -/
structure Ready (w : ShutWorker D) (root : Node D) (reported tilt : Int8) : Prop where
  param : w.actionParam = some root
  asked : Asked root
  read : reading w = some (reported, tilt)

variable {action : PartialAction} {w : ShutWorker D} {reported tilt : Int8}

theorem getExpected_eq (action : PartialAction) (hparam : w.actionParam = some root)
    (hasked : Asked root) : ∃ e, getExpected action w = some e ∧
      (e.percentage, e.percentageAsDelta) =
        kept action (readTarget root "percentage" "percentageDelta") ∧
      (e.tilt, e.tiltAsDelta) = kept action (readTarget root "tilt" "tiltDelta") := by
  have hsome : ((readTarget root "percentage" "percentageDelta").isSome ||
      (readTarget root "tilt" "tiltDelta").isSome) = true := by
    rw [Bool.or_eq_true]
    exact hasked
  unfold getExpected shutExpected
  rw [hparam]
  dsimp only
  rw [if_pos hsome]
  cases action with
  | shut => exact ⟨_, rfl, rfl, rfl⟩
  | reveal => exact ⟨_, rfl, rfl, rfl⟩

theorem asked_of_getExpected {e : Expected} (h : getExpected action w = some e) :
    ∃ root, w.actionParam = some root ∧ Asked root := by
  have hshut : ∃ e, shutExpected w = some e := by
    cases action with
    | shut => exact ⟨e, h⟩
    | reveal =>
      obtain ⟨e', he', -⟩ := Option.map_eq_some_iff.mp h
      exact ⟨e', he'⟩
  obtain ⟨e, he⟩ := hshut
  unfold shutExpected at he
  split at he
  · cases he
  · rename_i root hparam
    dsimp only at he
    split at he
    · rename_i hasked
      rw [Bool.or_eq_true] at hasked
      exact ⟨root, hparam, hasked⟩
    · cases he

/-- The percentage is asked for and the report, corrected by the opening sensor, is off. -/
def PercentageMissed (action : PartialAction) (w : ShutWorker D) (root : Node D)
    (reported : Int8) : Prop :=
  ∃ n, Wants action root "percentage" n ∧
    2 < (n - (corrected w (Int8.ofInt n) reported).toInt).natAbs

/-- The tilt is asked for, the function has one and the report is off. -/
def TiltMissed (action : PartialAction) (w : ShutWorker D) (root : Node D) (tilt : Int8) : Prop :=
  isFacadeBlind w.func = true ∧ ∃ n, Wants action root "tilt" n ∧ 2 < (n - tilt.toInt).natAbs

/-- **What success should mean.** -/
def Reached (action : PartialAction) (w : ShutWorker D) : Prop :=
  ∃ root reported tilt, Ready w root reported tilt ∧
    ¬ PercentageMissed action w root reported ∧ ¬ TiltMissed action w root tilt

theorem percentage_isMatch {e : Expected} (h : (e.percentage, e.percentageAsDelta) =
      kept action (readTarget root "percentage" "percentageDelta")) :
    isMatch e.percentage e.percentageAsDelta
        (if e.percentageAsDelta then reported else corrected w e.percentage reported) = false ↔
      PercentageMissed action w root reported := by
  have hvalue : e.percentage = _ := congrArg Prod.fst h
  have hdelta : e.percentageAsDelta = _ := congrArg Prod.snd h
  rw [hvalue, hdelta, isMatch_kept]
  refine exists_congr fun n => and_congr_right fun hn => ?_
  rw [kept_of_wants hn]
  rfl

theorem tilt_isMatch {e : Expected}
    (h : (e.tilt, e.tiltAsDelta) = kept action (readTarget root "tilt" "tiltDelta")) :
    isMatch (applicable w e).tilt (applicable w e).tiltAsDelta tilt = false ↔
      TiltMissed action w root tilt := by
  unfold applicable TiltMissed
  cases hfacade : isFacadeBlind w.func with
  | true =>
    rw [if_pos rfl, ← isMatch_kept "tiltDelta", ← h]
    exact (and_iff_right rfl).symm
  | false =>
    rw [if_neg Bool.false_ne_true, isMatch_eq_false_iff]
    constructor
    · intro hfar
      exact absurd rfl hfar.2.1
    · intro hmissed
      exact Bool.noConfusion hmissed.1

/-- **What success means**: one of the targets is not missed. -/
theorem resultSuccess_iff (h : Ready w root reported tilt) : resultSuccess action w = true ↔
    ¬ TiltMissed action w root tilt ∨ ¬ PercentageMissed action w root reported := by
  have hkept : ∀ e : Expected, (applicable w e).percentage = e.percentage ∧
      (applicable w e).percentageAsDelta = e.percentageAsDelta := by
    intro e
    unfold applicable
    split
    · exact ⟨rfl, rfl⟩
    · exact ⟨rfl, rfl⟩
  obtain ⟨e, he, hpercentage, htilt⟩ := getExpected_eq action h.param h.asked
  unfold resultSuccess
  rw [he, h.read]
  dsimp only
  rw [Bool.or_eq_true, ← tilt_isMatch htilt, ← percentage_isMatch hpercentage, (hkept e).1,
    (hkept e).2, Bool.not_eq_false, Bool.not_eq_false]

/-- Nothing is reported as a success that could not be checked. -/
theorem ready_of_resultSuccess (h : resultSuccess action w = true) :
    ∃ root reported tilt, Ready w root reported tilt := by
  unfold resultSuccess at h
  split at h
  · rename_i e reported tilt hexpected hread
    obtain ⟨root, hparam, hasked⟩ := asked_of_getExpected hexpected
    exact ⟨root, reported, tilt, hparam, hasked, hread⟩
  · cases h

theorem Ready.unique {root' : Node D} {reported' tilt' : Int8} (h : Ready w root reported tilt)
    (h' : Ready w root' reported' tilt') : root = root' ∧ reported = reported' ∧ tilt = tilt' := by
  have hroot := Option.some.inj (h.param.symm.trans h'.param)
  have hread := Prod.mk.inj (Option.some.inj (h.read.symm.trans h'.read))
  exact ⟨hroot, hread.1, hread.2⟩

theorem reached_iff (h : Ready w root reported tilt) : Reached action w ↔
    ¬ PercentageMissed action w root reported ∧ ¬ TiltMissed action w root tilt := by
  constructor
  · intro hreached
    obtain ⟨root', reported', tilt', h', hmissed⟩ := hreached
    obtain ⟨rfl, rfl, rfl⟩ := h.unique h'
    exact hmissed
  · intro hmissed
    exact ⟨root, reported, tilt, h, hmissed⟩

/-- What is reached is a success. -/
theorem resultSuccess_of_reached (h : Reached action w) : resultSuccess action w = true := by
  obtain ⟨root, reported, tilt, hready, -, htilt⟩ := h
  exact (resultSuccess_iff hready).mpr (.inl htilt)

/-- A function without a tilt always succeeds. -/
theorem resultSuccess_of_no_tilt (hfunc : isFacadeBlind w.func = false)
    (h : Ready w root reported tilt) : resultSuccess action w = true := by
  refine (resultSuccess_iff h).mpr (.inl fun hmissed => ?_)
  exact Bool.noConfusion (hfunc.symm.trans hmissed.1)

/-- **Success is to reach the targets**, for an action and what its worker answers, unless exactly
one of the targets is missed. -/
theorem success_iff_reached (action : PartialAction) (w : ShutWorker D) :
    (resultSuccess action w = true ↔ Reached action w) ↔
      ∀ root reported tilt, Ready w root reported tilt →
        (PercentageMissed action w root reported ↔ TiltMissed action w root tilt) := by
  constructor
  · intro h root reported tilt hready
    rw [resultSuccess_iff hready, reached_iff hready] at h
    tauto
  · intro h
    constructor
    · intro hsuccess
      obtain ⟨root, reported, tilt, hready⟩ := ready_of_resultSuccess hsuccess
      have hboth := h root reported tilt hready
      rw [resultSuccess_iff hready] at hsuccess
      rw [reached_iff hready]
      tauto
    · exact resultSuccess_of_reached

/-- A roller shutter that is to be shut by half and stands open. -/
def halfShut : ShutWorker Int where
  func := channelfncControllingTheRollerShutter
  actionParam := some (.mk .object [(some "percentage", .leaf (.number 50))])
  fbValue := none
  charValue := some 0
  openingSensorValue := -1

theorem half_shut_not_reached :
    ¬ (resultSuccess .shut halfShut = true ↔ Reached .shut halfShut) := by
  intro h
  have hready : Ready halfShut (.mk .object [(some "percentage", .leaf (.number 50))]) 0 (-1) :=
    ⟨rfl, .inl (by decide), rfl⟩
  have hreached := (reached_iff hready).mp (h.mp (by decide))
  refine hreached.1 ⟨50, ⟨.leaf (.number 50), 50, ?_, rfl, by decide, rfl⟩, by decide⟩
  show ((List.find? _ _).map _ : Option (Node Int)) = _
  rfl

/-! ## The scheduled action -/

theorem afterCheck_success (a : SWorkerAction) (k : Nat) {o : Outcomes}
    (ho : o.failResultCode = .none) : a.afterCheck k o = .setResult .success ↔
      o.resultSuccess = true := by
  unfold SWorkerAction.afterCheck
  rw [ho]
  split
  · rename_i hsuccess
    exact iff_of_true rfl hsuccess
  · rename_i hsuccess
    refine iff_of_false ?_ hsuccess
    split
    · exact Call.noConfusion
    · cases o.ipccIsConnected with
      | serverUnreachable => decide
      | disconnected => decide
      | connected => decide

/-- The checking run of a schedule writes a success exactly if `result_success` says so. -/
theorem execute_success {k : Nat} (hk : k % 2 = 1) (retryWhenFail accepted : Bool)
    (action : PartialAction) (w : ShutWorker D) (ipccIsConnected : IpcResult) :
    Call.setResult .success ∈ (shutPartially retryWhenFail false).execute k
        (outcomes action w accepted ipccIsConnected) ↔
      isActionAllowed w = true ∧ resultSuccess action w = true := by
  cases hallowed : isActionAllowed w with
  | false => simp [SWorkerAction.execute, outcomes, hallowed]
  | true =>
    have hodd : k % 2 ≠ 0 := by omega
    have hexecute : (shutPartially retryWhenFail false).execute k
        (outcomes action w accepted ipccIsConnected) =
          [.isActionAllowed true, .resultSuccess (resultSuccess action w),
            (shutPartially retryWhenFail false).afterCheck k
              (outcomes action w accepted ipccIsConnected)] := by
      simp [SWorkerAction.execute, SWorkerAction.phases, outcomes, hallowed, hodd, shutPartially]
    rw [hexecute, and_iff_right rfl]
    have hafter := afterCheck_success (shutPartially retryWhenFail false) k
      (o := outcomes action w accepted ipccIsConnected) rfl
    refine Iff.trans ?_ hafter
    simp [eq_comm]

end Scheduler
