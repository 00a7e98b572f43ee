import SuplaCore.Async.GateRun

/-!
# A gate is not pulsed blindly

An execution sends a pulse only where its own reading of the sensor is known and is not the target
(`executeOnce_spec`). The counter goes down by one with every execution and a task that still waits
has sent a pulse in each of them (`GateRunInv`), so a task of `n` attempts sends at most `n` pulses.
The configuration lets through 1 to 5 attempts and turns any other number into 5
(`attempts_default`), so a task that is configured for none still sends its pulses
(`no_attempts_pulses`).
-/

namespace Async

open Sys

/-! ## Readings -/

/-- The reading is known and is the target. -/
def AtTarget (actionOpen : Bool) (level : Option GateSensorLevel) : Prop :=
  level = some (if actionOpen then .gslOpen else .gslClosed)

/-- The reading is known and is not the target. -/
def OffTarget (actionOpen : Bool) (level : Option GateSensorLevel) : Prop :=
  level = some (if actionOpen then .gslClosed else .gslOpen)

theorem OffTarget.not_atTarget {actionOpen : Bool} {level : Option GateSensorLevel}
    (h : OffTarget actionOpen level) : ¬ AtTarget actionOpen level := by
  rw [OffTarget] at h
  rw [AtTarget, h]
  cases actionOpen <;> decide

namespace GateRun

/-! ## One execution -/

theorem getClosingState_off {actionOpen isClosed : Bool} {level : Option GateSensorLevel}
    (h : OffTarget actionOpen level) : getClosingState level isClosed = (true, actionOpen) := by
  rw [OffTarget] at h
  subst h
  cases actionOpen <;> rfl

theorem getClosingState_at {actionOpen isClosed : Bool} {level : Option GateSensorLevel}
    (h : AtTarget actionOpen level) : getClosingState level isClosed = (true, !actionOpen) := by
  rw [AtTarget] at h
  subst h
  cases actionOpen <;> rfl

theorem getClosingState_unknown {actionOpen isClosed : Bool} {level : Option GateSensorLevel}
    (hat : ¬ AtTarget actionOpen level) (hoff : ¬ OffTarget actionOpen level) :
    getClosingState level isClosed = (false, isClosed) := by
  rw [AtTarget] at hat
  rw [OffTarget] at hoff
  match level with
  | none => rfl
  | some .gslUnknown => rfl
  | some .gslClosed => cases actionOpen <;> simp at hat hoff
  | some .gslOpen => cases actionOpen <;> simp at hat hoff

/-- What an execution does, by its reading. -/
structure Executed (now : Int) (level : Option GateSensorLevel) (s : GateRun) (o : GateOutcome) :
    Prop where
  pulse : o.pulse = true ↔ OffTarget s.actionOpen level ∧ 0 ≤ (s.attemptCountLeft - 1).toInt
  again : o.executeAgain = o.pulse
  result : o.result = true ↔ AtTarget s.actionOpen level
  run : o.run = { s with
    attemptCountLeft := s.attemptCountLeft - 1
    task := if o.pulse then s.task.setDelayUsec now s.verificationDelayUs.toNat else s.task }

/-- Where the reading is known, the counter and the comparison decide. -/
theorem executeOnce_known {now : Int} {level : Option GateSensorLevel} {s : GateRun} {closed : Bool}
    (h : getClosingState level s.actionOpen = (true, closed)) :
    s.executeOnce now level =
      if s.attemptCountLeft - 1 < 0 ∨ s.actionOpen ≠ closed then
        ⟨s.actionOpen ≠ closed, false, false, { s with attemptCountLeft := s.attemptCountLeft - 1 }⟩
      else ⟨false, true, true, { s with
        attemptCountLeft := s.attemptCountLeft - 1
        task := s.task.setDelayUsec now s.verificationDelayUs.toNat }⟩ := by
  rw [executeOnce, h]
  exact if_neg Bool.false_ne_true

theorem executeOnce_unknown {now : Int} {level : Option GateSensorLevel} {s : GateRun}
    (h : getClosingState level s.actionOpen = (false, s.actionOpen)) : s.executeOnce now level =
      ⟨false, false, false, { s with attemptCountLeft := s.attemptCountLeft - 1 }⟩ := by
  rw [executeOnce, h]
  exact if_pos rfl

theorem executeOnce_spec (now : Int) (level : Option GateSensorLevel) (s : GateRun) :
    Executed now level s (s.executeOnce now level) := by
  have hneg : s.attemptCountLeft - 1 < 0 ↔ ¬ 0 ≤ (s.attemptCountLeft - 1).toInt :=
    Int16.lt_iff_toInt_lt.trans Int.not_le.symm
  by_cases hat : AtTarget s.actionOpen level
  · have hoff : ¬ OffTarget s.actionOpen level := fun h => h.not_atTarget hat
    have hne : s.actionOpen ≠ !s.actionOpen := bne_iff_ne.mp (Bool.bne_not_self _)
    rw [executeOnce_known (getClosingState_at hat), if_pos (.inr hne)]
    refine ⟨?_, rfl, ?_, rfl⟩
    · exact ⟨fun h => absurd h Bool.false_ne_true, fun h => absurd h.1 hoff⟩
    · exact ⟨fun _ => hat, fun _ => decide_eq_true hne⟩
  by_cases hoff : OffTarget s.actionOpen level
  · rw [executeOnce_known (getClosingState_off hoff)]
    by_cases hleft : 0 ≤ (s.attemptCountLeft - 1).toInt
    · rw [if_neg (not_or.mpr ⟨fun h => hneg.mp h hleft, fun h => h rfl⟩)]
      refine ⟨⟨fun _ => ⟨hoff, hleft⟩, fun _ => rfl⟩, rfl, ?_, rfl⟩
      exact ⟨fun h => absurd h Bool.false_ne_true, fun h => absurd h hat⟩
    · rw [if_pos (.inl (hneg.mpr hleft))]
      refine ⟨?_, rfl, ?_, rfl⟩
      · exact ⟨fun h => absurd h Bool.false_ne_true, fun h => absurd h.2 hleft⟩
      · exact ⟨fun h => absurd rfl (of_decide_eq_true h), fun h => absurd h hat⟩
  · rw [executeOnce_unknown (getClosingState_unknown hat hoff)]
    refine ⟨?_, rfl, ?_, rfl⟩
    · exact ⟨fun h => absurd h Bool.false_ne_true, fun h => absurd h.1 hoff⟩
    · exact ⟨fun h => absurd h Bool.false_ne_true, fun h => absurd h hat⟩

/-- What `get_closing_state` makes of a reading. -/
def closedOf (level : Option GateSensorLevel) : Option Bool :=
  match level with
  | some .gslClosed => some true
  | some .gslOpen => some false
  | _ => none

/-- A pool thread of `Gates` goes where this `_execute` sends it. -/
theorem verify_executeOnce {s : GateRun} {t : GateTask} (i : Nat) (now : Int)
    (level : Option GateSensorLevel) (hopen : t.actionOpen = s.actionOpen)
    (hleft : t.attemptCountLeft = (s.attemptCountLeft - 1).toInt) :
    Gates.verify i t (closedOf level) =
      if (s.executeOnce now level).pulse then .pulse i
      else .tail i false (s.executeOnce now level).result := by
  obtain ⟨hpulse, -, hresult, -⟩ := executeOnce_spec now level s
  generalize s.executeOnce now level = o at *
  obtain ⟨result, again, pulse, run⟩ := o
  rw [← hleft, ← hopen] at hpulse
  rw [← hopen] at hresult
  clear hopen hleft
  simp only [AtTarget, OffTarget] at hpulse hresult
  cases hopen : t.actionOpen <;> by_cases hneg : t.attemptCountLeft < 0 <;>
    match level with
    | none | some .gslUnknown | some .gslClosed | some .gslOpen =>
      simp_all [Gates.verify, closedOf]

/-- The ways an execution of a waiting task goes. -/
inductive Goes (a : GateRunAct) (s : GateRun) : GateRun → Prop
  | pulse {s' : GateRun} : OffTarget s.actionOpen a.level → 0 ≤ (s.attemptCountLeft - 1).toInt →
      s' = { s with
        attemptCountLeft := s.attemptCountLeft - 1
        task := { s.task with
          state := .waiting
          delayUsec := s.verificationDelayUs.toNat
          executionStartTime := some (a.t₂ + s.verificationDelayUs.toNat) }
        turns := s.turns ++ [⟨a.level, true, a.t, a.t₂⟩] } → Goes a s s'
  | stop {s' : GateRun} (state : TaskState) :
      (state = .success ∧ AtTarget s.actionOpen a.level ∨
        state = .failure ∧ ¬ AtTarget s.actionOpen a.level) →
      s' = { s with
        attemptCountLeft := s.attemptCountLeft - 1
        task := { s.task with state }
        turns := s.turns ++ [⟨a.level, false, a.t, a.t₂⟩] } → Goes a s s'

theorem setDelayUsec_eq (now : Int) (delay : Nat) (t : Task) : t.setDelayUsec now delay =
    { t with delayUsec := delay, executionStartTime := some (now + delay) } := by
  rw [Task.setDelayUsec]
  split
  · rfl
  · rename_i hpos
    have hzero : delay = 0 := by omega
    subst hzero
    rw [Int.natCast_zero, Int.add_zero]

theorem executeBegin_pick {t : Task} (now : Int) (hwait : t.state = .waiting)
    (htimeout : t.timeoutUsec = 0) :
    t.pick.2.executeBegin now = (true, { t with state := .executing }) := by
  have hpick : t.pick.2 = { t with state := .picked } := by
    rw [Task.pick, if_pos hwait]
  have hnot : ({ t with state := .picked } : Task).timedOut now = false := by
    simp [Task.timedOut, htimeout]
  rw [hpick, Task.executeBegin, if_pos rfl, hnot]
  rfl

theorem step_goes {s₀ s s' : GateRun} {a : GateRunAct} (htimeout : s.task.timeoutUsec = 0)
    (hs : (gateRuns s₀).step s a = some s') :
    s.task.state = .waiting ∧ s.task.timeLeftUsec a.t ≤ 0 ∧ Goes a s s' := by
  simp only [gateRuns] at hs
  split at hs
  · rename_i hdue
    rw [Option.some.injEq] at hs
    subst hs
    refine ⟨hdue.1, hdue.2, ?_⟩
    simp only [execute, executeBegin_pick a.t hdue.1 htimeout, if_true]
    generalize hrun : ({ s with task := { s.task with state := .executing } } : GateRun) = run
    obtain ⟨hpulse, hagain, hresult, heq⟩ := executeOnce_spec a.t₁ a.level run
    generalize executeOnce a.t₁ a.level run = o at *
    subst hrun
    rw [heq, hagain]
    cases hp : o.pulse with
    | true =>
      obtain ⟨hoff, hleft⟩ := hpulse.mp hp
      refine .pulse hoff hleft ?_
      simp [Task.executeEnd, setDelayUsec_eq]
    | false =>
      cases hr : o.result with
      | true => exact .stop .success (.inl ⟨rfl, hresult.mp hr⟩) rfl
      | false =>
        refine .stop .failure (.inr ⟨rfl, fun hat => ?_⟩) rfl
        rw [hresult.mpr hat] at hr
        cases hr
  · cases hs

/-! ## All executions -/

/-- The counter holds the number of attempts without wrapping. -/
def Fits (n : Int) : Prop := -32768 < n ∧ n ≤ 32767

/-- A task of `n` attempts with its executions so far. -/
structure GateRunInv (n : Int) (delay : UInt32) (actionOpen : Bool) (s : GateRun) : Prop where
  target : s.actionOpen = actionOpen
  delayUs : s.verificationDelayUs = delay
  timeout : s.task.timeoutUsec = 0
  state : s.task.state = .waiting ∨ s.task.state = .success ∨ s.task.state = .failure
  /-- A task that waits has sent a pulse in every execution. -/
  left : s.task.state = .waiting →
    s.attemptCountLeft = Int16.ofInt (n - s.turns.length) ∧ (s.turns.length : Int) ≤ max n 0 ∧
      ∀ turn ∈ s.turns, turn.pulse = true
  armed : s.task.state = .waiting → ∀ turn, s.turns.getLast? = some turn →
    s.task.delayUsec = delay.toNat ∧ s.task.executionStartTime = some (turn.endedAt + delay.toNat)
  blind : ∀ turn ∈ s.turns, turn.pulse = true → OffTarget actionOpen turn.level
  pulses : (s.turns.countP (·.pulse) : Int) ≤ max n 0
  length : (s.turns.length : Int) ≤ max n 0 + 1
  success : s.task.state = .success ↔
    ∃ turn, s.turns.getLast? = some turn ∧ AtTarget actionOpen turn.level
  apart : ∀ i turn next, s.turns[i]? = some turn → s.turns[i + 1]? = some next →
    turn.endedAt + (delay.toNat : Int) ≤ next.begunAt

variable {n : Int} {delay : UInt32} {actionOpen : Bool} {s s' : GateRun}

theorem GateRunInv.start (n : Int) (delay : UInt32) (actionOpen : Bool) :
    GateRunInv n delay actionOpen (start n delay actionOpen) where
  target := rfl
  delayUs := rfl
  timeout := rfl
  state := .inl rfl
  left _ := ⟨congrArg Int16.ofInt (Int.sub_zero n).symm, Int.le_max_right n 0,
    fun _ h => (List.not_mem_nil h).elim⟩
  armed _ _ h := by cases h
  blind _ h := (List.not_mem_nil h).elim
  pulses := Int.le_max_right n 0
  length := Int.le_trans (Int.le_max_right n 0) (Int.le_add_one (Int.le_refl _))
  success := by
    constructor
    · intro h
      cases h
    · rintro ⟨turn, h, -⟩
      cases h
  apart _ _ _ h := by cases h

/-- A turn behind the others comes after the delay if the task was armed by the last of them. -/
theorem apart_append {turns : List GateTurn} {new : GateTurn} {delay : Int}
    (h : ∀ i turn next, turns[i]? = some turn → turns[i + 1]? = some next →
      turn.endedAt + delay ≤ next.begunAt)
    (hnew : ∀ turn, turns.getLast? = some turn → turn.endedAt + delay ≤ new.begunAt) (i : Nat)
    (turn next : GateTurn) (hi : (turns ++ [new])[i]? = some turn)
    (hnext : (turns ++ [new])[i + 1]? = some next) : turn.endedAt + delay ≤ next.begunAt := by
  rcases Nat.lt_trichotomy (i + 1) turns.length with hlt | heq | hgt
  · rw [List.getElem?_append_left (by omega)] at hi
    rw [List.getElem?_append_left hlt] at hnext
    exact h i turn next hi hnext
  · rw [List.getElem?_append_left (by omega)] at hi
    rw [heq, List.getElem?_concat_length, Option.some.injEq] at hnext
    subst hnext
    refine hnew turn ?_
    rw [List.getLast?_eq_getElem?, ← heq]
    exact hi
  · have hlen := (List.getElem?_eq_some_iff.mp hnext).1
    rw [List.length_append, List.length_singleton] at hlen
    omega

theorem GateRunInv.step (hn : Fits n) (h : GateRunInv n delay actionOpen s) {s₀ : GateRun}
    {a : GateRunAct} (hs : (gateRuns s₀).step s a = some s') :
    GateRunInv n delay actionOpen s' := by
  obtain ⟨hwait, hdue, hgoes⟩ := step_goes h.timeout hs
  obtain ⟨hcount, hlength, hall⟩ := h.left hwait
  have hlow := hn.1
  have hhigh := hn.2
  -- the counter after this execution
  have hleft : (s.attemptCountLeft - 1).toInt = n - (s.turns.length + 1) := by
    have hone : (1 : Int16) = Int16.ofInt 1 := rfl
    rw [hcount, hone, ← Int16.ofInt_sub, Int16.toInt_ofInt_of_le (by omega) (by omega)]
    omega
  have hapart : ∀ turn, s.turns.getLast? = some turn →
      turn.endedAt + (delay.toNat : Int) ≤ a.t := by
    intro turn hturn
    have hstart := (h.armed hwait turn hturn).2
    rw [Task.timeLeftUsec, hstart] at hdue
    simp only at hdue
    omega
  have hcounter : s.attemptCountLeft - 1 = Int16.ofInt (n - (s.turns.length + 1 : Nat)) := by
    rw [← Int16.ofInt_toInt (s.attemptCountLeft - 1), hleft]
    rfl
  have hpulses : (s.turns.countP (·.pulse) : Int) ≤ s.turns.length :=
    Int.ofNat_le.mpr List.countP_le_length
  cases hgoes with
  | pulse hoff hpos heq =>
    rw [hleft] at hpos
    subst heq
    exact {
      target := h.target
      delayUs := h.delayUs
      timeout := h.timeout
      state := .inl rfl
      left := fun _ => by
        refine ⟨?_, ?_, ?_⟩
        · simp only [List.length_append, List.length_singleton, hcounter]
        · simp only [List.length_append, List.length_singleton]
          omega
        · intro turn hturn
          rcases List.mem_append.mp hturn with hold | hnew
          · exact hall turn hold
          · rw [List.mem_singleton] at hnew
            subst hnew
            rfl
      armed := fun _ turn hturn => by
        simp only [List.getLast?_concat, Option.some.injEq] at hturn
        subst hturn
        exact ⟨by rw [h.delayUs], by rw [h.delayUs]⟩
      blind := fun turn hturn => by
        rcases List.mem_append.mp hturn with hold | hnew
        · exact h.blind turn hold
        · rw [List.mem_singleton] at hnew
          subst hnew
          exact fun _ => h.target ▸ hoff
      pulses := by
        simp only [List.countP_append, List.countP_singleton, if_true]
        omega
      length := by
        simp only [List.length_append, List.length_singleton]
        omega
      success := by
        simp only [List.getLast?_concat]
        constructor
        · intro hstate
          cases hstate
        · rintro ⟨turn, hturn, hat⟩
          cases hturn
          exact absurd hat (h.target ▸ hoff).not_atTarget
      apart := apart_append h.apart hapart }
  | stop state hstate heq =>
    subst heq
    have hne : state ≠ .waiting := by
      rcases hstate with ⟨rfl, -⟩ | ⟨rfl, -⟩ <;> decide
    exact {
      target := h.target
      delayUs := h.delayUs
      timeout := h.timeout
      state := hstate.elim (fun hs => .inr (.inl hs.1)) fun hs => .inr (.inr hs.1)
      left := fun hw => absurd hw hne
      armed := fun hw => absurd hw hne
      blind := fun turn hturn => by
        rcases List.mem_append.mp hturn with hold | hnew
        · exact h.blind turn hold
        · rw [List.mem_singleton] at hnew
          subst hnew
          exact fun hpulse => absurd hpulse Bool.false_ne_true
      pulses := by
        simp only [List.countP_append, List.countP_singleton, if_neg Bool.false_ne_true]
        omega
      length := by
        simp only [List.length_append, List.length_singleton]
        omega
      success := by
        simp only [List.getLast?_concat]
        constructor
        · rintro rfl
          rcases hstate with ⟨-, hat⟩ | ⟨hfail, -⟩
          · exact ⟨_, rfl, h.target ▸ hat⟩
          · cases hfail
        · rintro ⟨turn, hturn, hat⟩
          cases hturn
          rcases hstate with ⟨rfl, -⟩ | ⟨-, hnot⟩
          · rfl
          · exact absurd (h.target ▸ hat) hnot
      apart := apart_append h.apart hapart }

theorem GateRunInv.reach (hn : Fits n)
    (h : Reach (gateRuns (GateRun.start n delay actionOpen)) Any s) :
    GateRunInv n delay actionOpen s :=
  h.invariant (P := GateRunInv n delay actionOpen) (fun s hs => by
    cases hs
    exact .start n delay actionOpen) fun _ hinv hs => hinv.step hn hs

/-! ## From the configuration -/

/-- **No blind pulse**: the executions so far of a task of `n` attempts. -/
structure NotBlind (n : Int) (delay : UInt32) (actionOpen : Bool) (s : GateRun) : Prop where
  /-- A pulse is sent on a reading of its own that is known and is not the target. -/
  blind : ∀ turn ∈ s.turns, turn.pulse = true → OffTarget actionOpen turn.level
  pulses : (s.turns.countP (·.pulse) : Int) ≤ max n 0
  /-- A task that is to be executed again is armed with the delay. -/
  armed : s.task.state = .waiting → ∀ turn, s.turns.getLast? = some turn →
    turn.pulse = true ∧ s.task.delayUsec = delay.toNat ∧
      s.task.executionStartTime = some (turn.endedAt + delay.toNat)
  apart : ∀ i turn next, s.turns[i]? = some turn → s.turns[i + 1]? = some next →
    turn.endedAt + (delay.toNat : Int) ≤ next.begunAt
  length : (s.turns.length : Int) ≤ max n 0 + 1
  ends : (s.turns.length : Int) = max n 0 + 1 → s.task.isFinished = true
  success : s.task.state = .success ↔
    ∃ turn, s.turns.getLast? = some turn ∧ AtTarget actionOpen turn.level

theorem GateRunInv.notBlind (h : GateRunInv n delay actionOpen s) :
    NotBlind n delay actionOpen s where
  blind := h.blind
  pulses := h.pulses
  armed hwait turn hturn :=
    ⟨(h.left hwait).2.2 turn (List.mem_of_getLast? hturn), h.armed hwait turn hturn⟩
  apart := h.apart
  length := h.length
  ends hlength := by
    rcases h.state with hwait | hsuccess | hfailure
    · have hle := (h.left hwait).2.1
      omega
    · rw [Task.isFinished, hsuccess]
      rfl
    · rw [Task.isFinished, hfailure]
      rfl
  success := h.success

section
variable {D : Type} [Json.Number D] {userRoot : Option (Json.Node D)}

theorem getNumberOfAttempts_bounds (userRoot : Option (Json.Node D)) (key : String) :
    NOA_MIN ≤ ControllingTheGateConfig.getNumberOfAttempts userRoot key ∧
      ControllingTheGateConfig.getNumberOfAttempts userRoot key ≤ NOA_MAX := by
  unfold ControllingTheGateConfig.getNumberOfAttempts
  split
  · decide
  · split
    · simp only
      split
      · assumption
      · decide
    · decide

theorem attempts_bounds (userRoot : Option (Json.Node D)) (actionOpen : Bool) :
    NOA_MIN ≤ attempts userRoot actionOpen ∧ attempts userRoot actionOpen ≤ NOA_MAX := by
  cases actionOpen
  · exact getNumberOfAttempts_bounds userRoot _
  · exact getNumberOfAttempts_bounds userRoot _

/-- **A gate is not pulsed blindly**: whatever the configuration holds, the sensor shows and the
clock says, for the number of attempts that the constructor takes from the configuration. -/
theorem never_blind (h : Reach (gateRuns (create userRoot delay actionOpen)) Any s) :
    NotBlind (attempts userRoot actionOpen) delay actionOpen s := by
  obtain ⟨hmin, hmax⟩ := attempts_bounds userRoot actionOpen
  have hfits : Fits (attempts userRoot actionOpen) :=
    ⟨Int.lt_of_lt_of_le (by decide) hmin, Int.le_trans hmax (by decide)⟩
  exact (GateRunInv.reach hfits h).notBlind

end

/-- A gate with one attempt to open it. -/
def oneAttempt : Json.Node Int :=
  .mk .object [(some "numberOfAttemptsToOpen", .leaf (.number 1))]

/-- A closed gate is pulsed once, and is still closed a minute later. -/
def oneAttemptRun : List GateRunAct :=
  [⟨0, 10, 20, some .gslClosed⟩, ⟨60000020, 60000030, 60000040, some .gslClosed⟩]

theorem never_blind_one : ∃ s, (gateRuns (create (some oneAttempt) 60000000 true)).run
    (create (some oneAttempt) 60000000 true) oneAttemptRun = some s ∧
      s.turns.length = 2 ∧ NotBlind 1 60000000 true s := by
  have hrun : ((gateRuns (create (some oneAttempt) 60000000 true)).run
      (create (some oneAttempt) 60000000 true) oneAttemptRun).map (·.turns.length) = some 2 := by
    decide
  obtain ⟨s, hs, hlength⟩ := Option.map_eq_some_iff.mp hrun
  have hattempts : attempts (some oneAttempt) true = 1 := by decide
  exact ⟨s, hs, hlength, hattempts ▸ never_blind (Reach.run (.init rfl) hs)⟩

/-- A gate that is configured for no attempt to open it. -/
def noAttempts : Json.Node Int :=
  .mk .object [(some "numberOfAttemptsToOpen", .leaf (.number 0))]

theorem no_attempts_pulses : ∃ s, Reach (gateRuns (create (some noAttempts) 60000000 true)) Any s ∧
    ¬ NotBlind 0 60000000 true s := by
  have hrun : ((gateRuns (create (some noAttempts) 60000000 true)).run
      (create (some noAttempts) 60000000 true) [⟨0, 10, 20, some .gslClosed⟩]).map
        (fun s => s.turns.countP (·.pulse)) = some 1 := by
    decide
  obtain ⟨s, hs, hcount⟩ := Option.map_eq_some_iff.mp hrun
  refine ⟨s, Reach.run (.init rfl) hs, fun h => ?_⟩
  have hpulses := h.pulses
  rw [hcount] at hpulses
  exact absurd hpulses (by decide)

end GateRun
end Async
