import SuplaCore.Async.SceneRun
import Mathlib.Algebra.Order.BigOperators.Group.List
import Mathlib.Algebra.Order.Ring.Nat

/-!
# A scene executes its operations once, in order, and when it is their time

In every state of a run the first `popped` operations are over, and what comes next does not come
before the delays so far have passed (`SceneRunInv.pace`): by the delay of the task, by a sleep, or
because that time has come. A delay is turned into microseconds as an `unsigned int`, though, so the
times are kept as far as no delay wraps (`Fits`), and a run without any idle time shows that they
are not kept any further (`fastest`).
-/

namespace Async

open Sys

variable {ops : List SceneOperation} {est : UInt32}

/-! ## Delays -/

/-- The delays of the first `n` operations, in microseconds. -/
def delayUsecs (ops : List SceneOperation) (n : Nat) : Nat :=
  ((ops.take n).map fun op => op.delayMs.toNat * 1000).sum

/-- What the task waits for them. -/
def waitUsecs (ops : List SceneOperation) (n : Nat) : Nat :=
  ((ops.take n).map fun op => (op.delayMs * 1000).toNat).sum

/-- The delay in microseconds is an `unsigned int`. -/
def SceneOperation.Fits (op : SceneOperation) : Prop := op.delayMs.toNat * 1000 < 2 ^ 32

theorem toNat_mul_thousand (d : UInt32) : (d * 1000).toNat = d.toNat * 1000 % 2 ^ 32 :=
  UInt32.toNat_mul d 1000

theorem SceneOperation.Fits.toNat {op : SceneOperation} (h : op.Fits) :
    (op.delayMs * 1000).toNat = op.delayMs.toNat * 1000 := by
  rw [toNat_mul_thousand, Nat.mod_eq_of_lt h]

theorem take_succ_drop (ops : List SceneOperation) (n : Nat) :
    ops.take (n + 1) = ops.take n ++ (ops.drop n).take 1 := by
  rw [Nat.add_comm, Nat.add_comm 1 n, List.take_add]

/-- The delay of one more operation, which is the first of those that are left. -/
theorem delayUsecs_succ (ops : List SceneOperation) (n : Nat) :
    delayUsecs ops (n + 1) = delayUsecs ops n + (getDelayMs (ops.drop n)).toNat * 1000 := by
  unfold delayUsecs
  rw [take_succ_drop, List.map_append, List.sum_append]
  cases ops.drop n with
  | nil => rfl
  | cons op rest =>
    rw [List.take_succ_cons, List.take_zero, List.map_singleton, List.sum_singleton, getDelayMs]

theorem waitUsecs_succ (ops : List SceneOperation) (n : Nat) :
    waitUsecs ops (n + 1) = waitUsecs ops n + (getDelayMs (ops.drop n) * 1000).toNat := by
  unfold waitUsecs
  rw [take_succ_drop, List.map_append, List.sum_append]
  cases ops.drop n with
  | nil => rfl
  | cons op rest =>
    rw [List.take_succ_cons, List.take_zero, List.map_singleton, List.sum_singleton, getDelayMs]

/-- The first `n` delays fit. -/
def FitUpTo (ops : List SceneOperation) (n : Nat) : Prop := ∀ op ∈ ops.take n, op.Fits

theorem FitUpTo.mono {m n : Nat} (h : FitUpTo ops n) (hmn : m ≤ n) : FitUpTo ops m :=
  fun op hop => h op (List.take_subset_take_left _ hmn hop)

/-- The first of the operations that are left is waited for as long as it says. -/
theorem FitUpTo.wait {n : Nat} (h : FitUpTo ops (n + 1)) :
    (getDelayMs (ops.drop n) * 1000).toNat = (getDelayMs (ops.drop n)).toNat * 1000 := by
  rw [FitUpTo, take_succ_drop] at h
  cases hdrop : ops.drop n with
  | nil => rfl
  | cons op rest =>
    rw [hdrop] at h
    exact (h op (List.mem_append_right _ List.mem_cons_self)).toNat

/-- A delay that is slept through does fit. -/
theorem toNat_of_le_thousand {d : UInt32} (h : ¬ d > 1000) : (d * 1000).toNat = d.toNat * 1000 := by
  have hle : d.toNat ≤ 1000 := UInt32.le_iff_toNat_le.mp (UInt32.not_lt.mp h)
  rw [toNat_mul_thousand]
  omega

theorem waitUsecs_lt {n : Nat} (h : ∃ op ∈ ops.take n, ¬ op.Fits) :
    waitUsecs ops n < delayUsecs ops n := by
  refine List.sum_lt_sum _ _ (fun op _ => ?_) ?_
  · rw [toNat_mul_thousand]
    exact Nat.mod_le _ _
  · obtain ⟨op, hop, hwrap⟩ := h
    refine ⟨op, hop, ?_⟩
    rw [toNat_mul_thousand]
    unfold SceneOperation.Fits at hwrap
    omega

/-! ## The invariant -/

/-- Those of the first `n` operations that are not skipped. -/
def toExecute (ops : List SceneOperation) (n : Nat) : List Nat :=
  (List.range n).filter fun k => ops[k]?.any fun op => !op.skipped

theorem toExecute_succ {op : SceneOperation} {n : Nat} (h : ops[n]? = some op) :
    toExecute ops (n + 1) = toExecute ops n ++ if op.skipped then [] else [n] := by
  rw [toExecute, List.range_succ, List.filter_append, toExecute]
  congr 1
  cases hskipped : op.skipped with
  | true =>
    rw [if_pos rfl]
    exact List.filter_cons_of_neg (by rw [h, Option.any_some, hskipped]; decide)
  | false =>
    rw [if_neg Bool.false_ne_true]
    exact List.filter_cons_of_pos (by rw [h, Option.any_some, hskipped]; rfl)

/-- Milliseconds since the start, a begun one counted. -/
def SceneRun.elapsedMs (s : SceneRun) (now : Int) : Int := (now - s.startedAt + 999) / 1000

/-- What comes next does not come before `time`. -/
def SceneRun.NextNotBefore (s : SceneRun) (time : Int) : Prop :=
  match s.pc with
  | .created => ∀ start, s.task.executionStartTime = some start → time ≤ start
  | .waiting => ∀ start, s.task.executionStartTime = some start → time ≤ start
  | .turn wakeAt => time ≤ wakeAt
  | .out => True
  | .done _ => True

/-- The state of the task, which nobody cancels. -/
def ScenePc.taskState : ScenePc → TaskState
  | .created => .init
  | .waiting => .waiting
  | .turn _ => .executing
  | .out => .executing
  | .done _ => .success

structure SceneRunInv (ops : List SceneOperation) (est : UInt32) (s : SceneRun) : Prop where
  estimated : s.estimatedExecutionTime = est
  popped : s.popped ≤ ops.length
  left : s.operations = ops.drop s.popped
  timeout : s.task.timeoutUsec = 0
  delayed : s.task.executionStartTime ≠ none
  state : s.task.state = s.pc.taskState
  started : s.startedAt ≤ s.now
  once : s.executed.map (·.1) = toExecute ops s.popped
  notEarly : ∀ e ∈ s.executed, FitUpTo ops (e.1 + 1) →
    s.createdAt + delayUsecs ops (e.1 + 1) ≤ e.2
  /-- The delays of the operations that were popped are over. -/
  past : FitUpTo ops s.popped → s.createdAt + delayUsecs ops s.popped ≤ s.now
  pace : FitUpTo ops (s.popped + 1) →
    s.NextNotBefore (s.createdAt + delayUsecs ops (s.popped + 1))
  done : ∀ c, s.pc = .done c → s.popped = ops.length ∧ (est.toNat : Int) - 100 ≤ s.elapsedMs c

theorem Task.setDelayUsec_start (t : Task) (now : Int) (delay : Nat) :
    (t.setDelayUsec now delay).executionStartTime = some (now + delay) := by
  simp only [Task.setDelayUsec, Option.some.injEq]
  split
  · rfl
  · omega

/-- A delay that is set while the task is executing counts from the end of `execute`. -/
theorem Task.rearm {t : Task} (hstate : t.state = .executing) (now now' : Int) (delay : Nat) :
    let t' := (t.setDelayUsec now delay).executeEnd now' true false
    t'.state = .waiting ∧ t'.timeoutUsec = t.timeoutUsec ∧
      t'.executionStartTime = some (now' + delay) := by
  have hkept : (t.setDelayUsec now delay).state ≠ .canceled := by
    rw [show (t.setDelayUsec now delay).state = t.state from rfl, hstate]
    decide
  simp only [Task.executeEnd, if_pos hkept, if_true]
  exact ⟨rfl, rfl, Task.setDelayUsec_start _ now' delay⟩

theorem SceneRun.turn_nil {s : SceneRun} (hops : s.operations = []) (t : Int) :
    s.turn t = { s with now := t, pc := .out } := by
  simp only [SceneRun.turn, hops, List.isEmpty_nil, Bool.true_or, if_true]

/-- A turn with an operation, and what comes after it. -/
theorem SceneRun.turn_cons {s : SceneRun} {op : SceneOperation} {rest : List SceneOperation}
    (hops : s.operations = op :: rest) (t : Int) : s.turn t = { s with
      now := t
      operations := rest
      popped := s.popped + 1
      executed := if op.skipped then s.executed else s.executed ++ [(s.popped, t)]
      pc := if rest.isEmpty || getDelayMs rest > 1000 then .out
        else .turn (t + (getDelayMs rest * 1000).toNat) } := by
  simp only [SceneRun.turn, hops]
  split
  · rfl
  · rfl

namespace SceneRunInv

variable {s s' : SceneRun}

theorem create (now : Int) : SceneRunInv ops est (SceneRun.create ops est now) where
  estimated := rfl
  popped := Nat.zero_le _
  left := rfl
  timeout := rfl
  delayed := by
    rw [SceneRun.create, Task.setDelayUsec_start]
    exact Option.some_ne_none _
  state := rfl
  started := Int.le_refl _
  once := rfl
  notEarly := fun e he => absurd he List.not_mem_nil
  past := fun _ => Int.le_of_eq (Int.add_zero now)
  pace := by
    intro hfit start hstart
    rw [SceneRun.create, Task.setDelayUsec_start] at hstart
    cases hstart
    have hwait : (getDelayMs ops * 1000).toNat = (getDelayMs ops).toNat * 1000 := hfit.wait
    have hsum : delayUsecs ops 1 = 0 + (getDelayMs ops).toNat * 1000 := delayUsecs_succ ops 0
    change now + (delayUsecs ops 1 : Int) ≤ now + (getDelayMs ops * 1000).toNat
    omega
  done := fun c hc => by cases hc

theorem start (h : SceneRunInv ops est s) (hpc : s.pc = .created) {t : Int} (ht : s.now ≤ t) :
    SceneRunInv ops est
      { s with task := s.task.start.2, startedAt := t, now := t, pc := .waiting } := by
  have hstate : s.task.state = .init := by rw [h.state, hpc, ScenePc.taskState]
  have htask : s.task.start.2 = { s.task with state := .waiting } := by
    rw [Task.start, if_pos hstate]
  rw [htask]
  refine ⟨h.estimated, h.popped, h.left, h.timeout, h.delayed, rfl, Int.le_refl _, h.once,
    h.notEarly, fun hfit => Int.le_trans (h.past hfit) ht, fun hfit => ?_, fun c hc => by cases hc⟩
  have hnext := h.pace hfit
  simp only [SceneRun.NextNotBefore, hpc] at hnext
  exact hnext

/-- A task that waits is executed when it is picked: it has no timeout. -/
theorem executeBegin (h : SceneRunInv ops est s) (hstate : s.task.state = .waiting) (t : Int) :
    s.task.pick.2.executeBegin t = (true, { s.task with state := .executing }) := by
  have hin : ({ s.task with state := .picked } : Task).timedOut t = false := by
    simp only [Task.timedOut, h.timeout]
    rfl
  rw [Task.pick, if_pos hstate]
  simp only [Task.executeBegin, if_true, hin, if_false, Bool.false_eq_true]

theorem run (h : SceneRunInv ops est s) (hpc : s.pc = .waiting) {t : Int} (ht : s.now ≤ t)
    (hdue : s.task.timeLeftUsec t ≤ 0) :
    SceneRunInv ops est
      { s with
        task := (s.task.pick.2.executeBegin t).2
        now := t
        pc := if (s.task.pick.2.executeBegin t).1 then .turn t else .waiting } := by
  have hstate : s.task.state = .waiting := by rw [h.state, hpc, ScenePc.taskState]
  rw [h.executeBegin hstate t]
  refine ⟨h.estimated, h.popped, h.left, h.timeout, h.delayed, rfl,
    Int.le_trans h.started ht, h.once, h.notEarly, fun hfit => Int.le_trans (h.past hfit) ht,
    fun hfit => ?_, fun c hc => by cases hc⟩
  have hnext := h.pace hfit
  simp only [SceneRun.NextNotBefore, hpc] at hnext
  cases hstart : s.task.executionStartTime with
  | none => exact absurd hstart h.delayed
  | some start =>
    have hle := hnext start hstart
    simp only [Task.timeLeftUsec, hstart] at hdue
    simp only [SceneRun.NextNotBefore, if_true]
    omega

theorem turn (h : SceneRunInv ops est s) {wakeAt t : Int} (hpc : s.pc = .turn wakeAt)
    (ht : s.now ≤ t) (hwake : wakeAt ≤ t) : SceneRunInv ops est (s.turn t) := by
  have hstate : s.task.state = .executing := by rw [h.state, hpc, ScenePc.taskState]
  have hdue : FitUpTo ops (s.popped + 1) →
      s.createdAt + delayUsecs ops (s.popped + 1) ≤ t := by
    intro hfit
    have hnext := h.pace hfit
    rw [SceneRun.NextNotBefore, hpc] at hnext
    exact Int.le_trans hnext hwake
  have hleft := h.left
  cases hops : s.operations with
  | nil =>
    rw [SceneRun.turn_nil hops]
    exact ⟨h.estimated, h.popped, h.left, h.timeout, h.delayed, hstate, Int.le_trans h.started ht,
      h.once, h.notEarly, fun hfit => Int.le_trans (h.past hfit) ht, fun _ => trivial,
      fun c hc => by cases hc⟩
  | cons op rest =>
    rw [hops] at hleft
    have hlt : s.popped < ops.length := by
      refine Nat.lt_of_not_le fun hle => ?_
      rw [List.drop_eq_nil_of_le hle] at hleft
      cases hleft
    have hop : ops[s.popped]? = some op := by
      have hhead := congrArg List.head? hleft
      rw [List.head?_drop] at hhead
      exact hhead.symm
    have hrest : rest = ops.drop (s.popped + 1) := by
      have htail := congrArg List.tail hleft
      rw [List.tail_drop] at htail
      exact htail
    have hmap : (if op.skipped then s.executed else s.executed ++ [(s.popped, t)]).map (·.1) =
        toExecute ops (s.popped + 1) := by
      rw [toExecute_succ hop, ← h.once]
      split
      · rw [List.append_nil]
      · rw [List.map_append, List.map_singleton]
    have hearly : ∀ e ∈ (if op.skipped then s.executed else s.executed ++ [(s.popped, t)]),
        FitUpTo ops (e.1 + 1) → s.createdAt + delayUsecs ops (e.1 + 1) ≤ e.2 := by
      intro e he
      split at he
      · exact h.notEarly e he
      · rcases List.mem_append.mp he with hmem | hnew
        · exact h.notEarly e hmem
        · rw [List.mem_singleton.mp hnew]
          exact hdue
    rw [SceneRun.turn_cons hops]
    split
    · exact ⟨h.estimated, hlt, hrest, h.timeout, h.delayed, hstate, Int.le_trans h.started ht,
        hmap, hearly, hdue, fun _ => trivial, fun c hc => by cases hc⟩
    · rename_i hsleep
      refine ⟨h.estimated, hlt, hrest, h.timeout, h.delayed, hstate, Int.le_trans h.started ht,
        hmap, hearly, hdue, fun hfit => ?_, fun c hc => by cases hc⟩
      rw [Bool.or_eq_true, not_or, decide_eq_true_iff] at hsleep
      have hpast := hdue (hfit.mono (Nat.le_succ _))
      have hsum := delayUsecs_succ ops (s.popped + 1)
      rw [← hrest] at hsum
      have hwait := toNat_of_le_thousand hsleep.2
      change s.createdAt + (delayUsecs ops (s.popped + 1 + 1) : Int) ≤
        t + (getDelayMs rest * 1000).toNat
      omega

/-- The time that is left, in milliseconds, is at most the estimated time. -/
theorem millisecondsLeft_spec (h : SceneRunInv ops est s) {t : Int} (ht : s.now ≤ t)
    (hleft : ¬ s.millisecondsLeft t > 100) : s.startedAt + est.toNat * 1000 - t ≤ 100999 := by
  have hstarted := h.started
  have hest : est.toNat < 2 ^ 32 := est.toNat_lt
  simp only [SceneRun.millisecondsLeft, h.estimated] at hleft
  split at hleft
  · have hle := UInt32.le_iff_toNat_le.mp (UInt32.not_lt.mp hleft)
    rw [UInt32.toNat_ofNat', show (100 : UInt32).toNat = 100 from rfl] at hle
    omega
  · omega

/-- `execute` ends with a delay, after which the scene comes back. -/
theorem rearm (h : SceneRunInv ops est s) (hpc : s.pc = .out) (t t' : Int) {later : Int}
    (hlater : s.now ≤ later) {delay : Nat} (hpace : FitUpTo ops (s.popped + 1) →
      s.createdAt + (delayUsecs ops (s.popped + 1) : Int) ≤ t' + delay) :
    SceneRunInv ops est { s with
      task := (s.task.setDelayUsec t delay).executeEnd t' true false
      now := later
      pc := .waiting } := by
  have hstate : s.task.state = .executing := by rw [h.state, hpc, ScenePc.taskState]
  obtain ⟨hwaiting, htimeout, hstart⟩ := Task.rearm hstate t t' delay
  refine ⟨h.estimated, h.popped, h.left, htimeout.trans h.timeout, ?_, hwaiting,
    Int.le_trans h.started hlater, h.once, h.notEarly,
    fun hfit => Int.le_trans (h.past hfit) hlater, ?_, fun c hc => by cases hc⟩
  · rw [hstart]
    exact Option.some_ne_none _
  · intro hfit start hsome
    rw [hstart] at hsome
    cases hsome
    exact hpace hfit

theorem leave (h : SceneRunInv ops est s) (hpc : s.pc = .out) {t t₁ t₂ t₃ : Int}
    (ht : s.now ≤ t) (ht₁ : t ≤ t₁) (ht₂ : t₁ ≤ t₂) (ht₃ : t₂ ≤ t₃) :
    SceneRunInv ops est (s.leave t t₁ t₂ t₃) := by
  have hstate : s.task.state = .executing := by rw [h.state, hpc, ScenePc.taskState]
  have hlater : s.now ≤ t₃ := by omega
  unfold SceneRun.leave
  split
  · apply h.rearm hpc t t₁ hlater
    intro hfit
    have hpast := h.past (hfit.mono (Nat.le_succ s.popped))
    have hwait := FitUpTo.wait (n := s.popped) hfit
    have hsum := delayUsecs_succ ops s.popped
    rw [← h.left] at hwait hsum
    omega
  · rename_i hempty
    have hnil : s.operations = [] := by simpa using hempty
    have hall : s.popped = ops.length := by
      have hle := List.drop_eq_nil_iff.mp (h.left.symm.trans hnil)
      exact Nat.le_antisymm h.popped hle
    split
    · apply h.rearm hpc t₂ t₃ hlater
      intro hfit
      have hpast := h.past (hfit.mono (Nat.le_succ s.popped))
      have hsum : delayUsecs ops (s.popped + 1) = delayUsecs ops s.popped + 0 := by
        rw [delayUsecs_succ, ← h.left, hnil]
        rfl
      omega
    · rename_i hover
      have hkept : s.task.state ≠ .canceled := by
        rw [hstate]
        decide
      have htask : s.task.executeEnd t₁ false true = { s.task with state := .success } := by
        simp only [Task.executeEnd, if_pos hkept, Bool.false_eq_true, if_false, if_true]
      rw [htask]
      refine ⟨h.estimated, h.popped, h.left, h.timeout, h.delayed, rfl,
        Int.le_trans h.started hlater, h.once, h.notEarly,
        fun hfit => Int.le_trans (h.past hfit) hlater, fun _ => trivial, fun c hc => ?_⟩
      cases hc
      refine ⟨hall, ?_⟩
      have hleft := h.millisecondsLeft_spec ht hover
      simp only [SceneRun.elapsedMs]
      omega

theorem step {a : SceneRunAct} (h : SceneRunInv ops est s)
    (hs : (sceneRun ops est).step s a = some s') : SceneRunInv ops est s' := by
  cases a with
  | start t =>
    simp only [sceneRun, SceneRun.step] at hs
    split at hs
    · rename_i hpc
      split at hs
      · rename_i ht
        cases hs
        exact h.start hpc ht
      · cases hs
    · cases hs
  | run t =>
    simp only [sceneRun, SceneRun.step] at hs
    split at hs
    · rename_i hpc
      split at hs
      · rename_i hok
        cases hs
        exact h.run hpc hok.1 hok.2.2
      · cases hs
    · cases hs
  | turn t =>
    simp only [sceneRun, SceneRun.step] at hs
    split at hs
    · rename_i wakeAt hpc
      split at hs
      · rename_i hok
        cases hs
        exact h.turn hpc hok.1 hok.2
      · cases hs
    · cases hs
  | leave t t₁ t₂ t₃ =>
    simp only [sceneRun, SceneRun.step] at hs
    split at hs
    · rename_i hpc
      split at hs
      · rename_i hok
        cases hs
        exact h.leave hpc hok.1 hok.2.1 hok.2.2.1 hok.2.2.2
      · cases hs
    · cases hs

end SceneRunInv

theorem SceneRun.reach_inv {s : SceneRun} (h : Reach (sceneRun ops est) Any s) :
    SceneRunInv ops est s := by
  refine h.invariant ?_ fun _ hinv hs => hinv.step hs
  rintro s ⟨now, rfl⟩
  exact .create now

/-- What the property asks of a state of a run. -/
structure SceneRun.OnTime (ops : List SceneOperation) (est : UInt32) (s : SceneRun) : Prop where
  /-- Of the operations that were popped, those not skipped were executed once and in order. -/
  once : s.executed.map (·.1) = toExecute ops s.popped
  notEarly : ∀ e ∈ s.executed, s.createdAt + delayUsecs ops (e.1 + 1) ≤ e.2
  complete : ∀ c, s.pc = .done c → s.popped = ops.length ∧ (est.toNat : Int) - 100 ≤ s.elapsedMs c
  /-- A run that is not complete goes on, when its time has come. -/
  goesOn : (∀ c, s.pc ≠ .done c) → ∃ a, (sceneRun ops est).step s a ≠ none

theorem SceneRunInv.goesOn {s : SceneRun} (h : SceneRunInv ops est s) (hpc : ∀ c, s.pc ≠ .done c) :
    ∃ a, (sceneRun ops est).step s a ≠ none := by
  have hstate := h.state
  cases hs : s.pc with
  | created =>
    refine ⟨.start s.now, ?_⟩
    simp only [sceneRun, SceneRun.step, hs, Int.le_refl, if_true]
    exact Option.some_ne_none _
  | waiting =>
    rw [hs] at hstate
    cases hstart : s.task.executionStartTime with
    | none => exact absurd hstart h.delayed
    | some start =>
      refine ⟨.run (max s.now start), ?_⟩
      have hdue : s.task.timeLeftUsec (max s.now start) ≤ 0 := by
        simp only [Task.timeLeftUsec, hstart]
        omega
      have hok : s.now ≤ max s.now start ∧ s.task.state = .waiting ∧
          s.task.timeLeftUsec (max s.now start) ≤ 0 := ⟨Int.le_max_left _ _, hstate, hdue⟩
      simp only [sceneRun, SceneRun.step, hs]
      rw [if_pos hok]
      exact Option.some_ne_none _
  | turn wakeAt =>
    refine ⟨.turn (max s.now wakeAt), ?_⟩
    have hok : s.now ≤ max s.now wakeAt ∧ wakeAt ≤ max s.now wakeAt :=
      ⟨Int.le_max_left _ _, Int.le_max_right _ _⟩
    simp only [sceneRun, SceneRun.step, hs]
    rw [if_pos hok]
    exact Option.some_ne_none _
  | out =>
    refine ⟨.leave s.now s.now s.now s.now, ?_⟩
    simp only [sceneRun, SceneRun.step, hs, Int.le_refl, and_self, if_true]
    exact Option.some_ne_none _
  | done c => exact absurd hs (hpc c)

/-! ## The fastest run -/

/-- A task that waits is executed as soon as its time has come. -/
theorem run_due {s : SceneRun} (h : Reach (sceneRun ops est) Any s) (hpc : s.pc = .waiting)
    {start : Int} (hstart : s.task.executionStartTime = some start) (hnow : s.now ≤ start) :
    ∃ s', Reach (sceneRun ops est) Any s' ∧ s'.pc = .turn start ∧ s'.now = start ∧
      s'.popped = s.popped ∧ s'.createdAt = s.createdAt := by
  have hinv := SceneRun.reach_inv h
  have hstate : s.task.state = .waiting := by rw [hinv.state, hpc, ScenePc.taskState]
  have hdue : s.task.timeLeftUsec start ≤ 0 := by
    simp only [Task.timeLeftUsec, hstart]
    omega
  have hallowed := hinv.executeBegin hstate start
  have hstep : (sceneRun ops est).step s (.run start) = some { s with
      task := { s.task with state := .executing }, now := start, pc := .turn start } := by
    simp only [sceneRun, SceneRun.step, hpc]
    rw [if_pos ⟨hnow, hstate, hdue⟩, hallowed]
    rfl
  exact ⟨_, h.act _ trivial hstep, rfl, rfl, rfl, rfl⟩

/-- A task that leaves the loop at once waits for the next operation. -/
theorem leave_more {s : SceneRun} (h : Reach (sceneRun ops est) Any s) (hpc : s.pc = .out)
    (hmore : s.operations ≠ []) :
    ∃ s', Reach (sceneRun ops est) Any s' ∧ s'.pc = .waiting ∧ s'.now = s.now ∧
      s'.task.executionStartTime = some (s.now + (getDelayMs s.operations * 1000).toNat) ∧
      s'.popped = s.popped ∧ s'.createdAt = s.createdAt := by
  have hstate : s.task.state = .executing := by
    rw [(SceneRun.reach_inv h).state, hpc, ScenePc.taskState]
  have hstep : (sceneRun ops est).step s (.leave s.now s.now s.now s.now) =
      some (s.leave s.now s.now s.now s.now) := by
    simp only [sceneRun, SceneRun.step, hpc, Int.le_refl, and_self, if_true]
  have hleft := h.act _ trivial hstep
  have hnonempty : (!s.operations.isEmpty) = true := by
    rw [Bool.not_eq_true', List.isEmpty_eq_false_iff]
    exact hmore
  rw [SceneRun.leave, if_pos hnonempty] at hleft
  exact ⟨_, hleft, rfl, rfl, (Task.rearm hstate _ _ _).2.2, rfl, rfl⟩

/-- A run without any idle time: the turn of operation `k` begins when the waits up to it are
over. -/
theorem fastest (ops : List SceneOperation) (est : UInt32) : ∀ {k : Nat}, k < ops.length →
    ∃ s, Reach (sceneRun ops est) Any s ∧ s.pc = .turn (waitUsecs ops (k + 1)) ∧
      s.now ≤ waitUsecs ops (k + 1) ∧ s.popped = k ∧ s.createdAt = 0 := by
  intro k
  induction k with
  | zero =>
    intro _
    have hwait : (waitUsecs ops 1 : Int) = 0 + ((getDelayMs ops * 1000).toNat : Int) := by
      have hsum : waitUsecs ops 1 = 0 + (getDelayMs ops * 1000).toNat := waitUsecs_succ ops 0
      omega
    have hcreated : Reach (sceneRun ops est) Any (SceneRun.create ops est 0) := .init ⟨0, rfl⟩
    have hstarted := hcreated.act (.start 0) trivial rfl
    have hstart : (SceneRun.create ops est 0).task.executionStartTime =
        some (0 + ((getDelayMs ops * 1000).toNat : Int)) := Task.setDelayUsec_start _ 0 _
    obtain ⟨s, hreach, hpc, hnow, hpopped, hat⟩ :=
      run_due hstarted rfl hstart (Int.le_add_of_nonneg_right (Int.natCast_nonneg _))
    refine ⟨s, hreach, ?_, ?_, hpopped, hat⟩
    · rw [hpc, Nat.zero_add, hwait]
    · rw [hnow, Nat.zero_add, hwait]
  | succ k ih =>
    intro hk
    obtain ⟨s, hreach, hpc, hnow, hpopped, hat⟩ := ih (Nat.lt_of_succ_lt hk)
    have hinv := SceneRun.reach_inv hreach
    have hdrop : s.operations = ops[k] :: ops.drop (k + 1) := by
      rw [hinv.left, hpopped]
      exact List.drop_eq_getElem_cons (Nat.lt_of_succ_lt hk)
    have hstep : (sceneRun ops est).step s (.turn (waitUsecs ops (k + 1))) =
        some (s.turn (waitUsecs ops (k + 1))) := by
      simp only [sceneRun, SceneRun.step, hpc]
      exact if_pos ⟨hnow, Int.le_refl _⟩
    have hturned := hreach.act _ trivial hstep
    rw [SceneRun.turn_cons hdrop] at hturned
    have hlater : (waitUsecs ops (k + 1 + 1) : Int) =
        waitUsecs ops (k + 1) + (getDelayMs (ops.drop (k + 1)) * 1000).toNat := by
      rw [waitUsecs_succ, Int.natCast_add]
    split at hturned
    · have hmore : ops.drop (k + 1) ≠ [] := by
        rw [ne_eq, List.drop_eq_nil_iff]
        omega
      obtain ⟨s₁, hleft, hpc₁, hnow₁, hstart, hpopped₁, hat₁⟩ := leave_more hturned rfl hmore
      obtain ⟨s₂, hrun, hpc₂, hnow₂, hpopped₂, hat₂⟩ := run_due hleft hpc₁ hstart (by
        rw [hnow₁]
        exact Int.le_add_of_nonneg_right (Int.natCast_nonneg _))
      refine ⟨s₂, hrun, ?_, ?_, ?_, (hat₂.trans hat₁).trans hat⟩
      · rw [hpc₂, hlater]
      · rw [hnow₂, hlater]
      · rw [hpopped₂, hpopped₁]
        exact congrArg (· + 1) hpopped
    · refine ⟨_, hturned, congrArg ScenePc.turn hlater.symm, ?_, congrArg (· + 1) hpopped, hat⟩
      rw [hlater]
      exact Int.le_add_of_nonneg_right (Int.natCast_nonneg _)

/-- **A scene is on time in every run** exactly if all the delays up to an operation that is not
skipped are short enough to be counted in microseconds by an `unsigned int`. -/
theorem SceneRun.on_time_iff (ops : List SceneOperation) (est : UInt32) :
    (∀ s, Reach (sceneRun ops est) Any s → s.OnTime ops est) ↔
      ∀ k op, ops[k]? = some op → op.skipped = false → ∀ op' ∈ ops.take (k + 1), op'.Fits := by
  constructor
  · intro h k op hop hskipped
    by_contra hwrap
    have hlt : k < ops.length := (List.getElem?_eq_some_iff.mp hop).1
    obtain ⟨s, hreach, hpc, hnow, hpopped, hcreated⟩ := fastest ops est hlt
    have hdrop : s.operations = op :: ops.drop (k + 1) := by
      rw [(reach_inv hreach).left, hpopped, List.drop_eq_getElem_cons hlt]
      rw [List.getElem?_eq_getElem hlt] at hop
      cases hop
      rfl
    have hstep : (sceneRun ops est).step s (.turn (waitUsecs ops (k + 1))) =
        some (s.turn (waitUsecs ops (k + 1))) := by
      simp only [sceneRun, SceneRun.step, hpc]
      exact if_pos ⟨hnow, Int.le_refl _⟩
    have hturned := hreach.act _ trivial hstep
    rw [turn_cons hdrop, if_neg (Bool.eq_false_iff.mp hskipped), hpopped, hcreated] at hturned
    have hearly := (h _ hturned).notEarly (k, waitUsecs ops (k + 1))
      (List.mem_append_right _ (List.mem_singleton_self _))
    have hshort : ∃ op' ∈ ops.take (k + 1), ¬ op'.Fits := by
      by_contra hall
      exact hwrap fun op' hop' => by_contra fun hnot => hall ⟨op', hop', hnot⟩
    have hlate := waitUsecs_lt hshort
    change (0 : Int) + delayUsecs ops (k + 1) ≤ waitUsecs ops (k + 1) at hearly
    omega
  · intro h s hreach
    have hinv := reach_inv hreach
    refine ⟨hinv.once, fun e he => hinv.notEarly e he ?_, hinv.done, hinv.goesOn⟩
    have hmem : e.1 ∈ toExecute ops s.popped := hinv.once ▸ List.mem_map_of_mem he
    obtain ⟨op, hop, hkept⟩ := (Option.any_eq_true _ _).mp (List.mem_filter.mp hmem).2
    exact h e.1 op hop (Bool.not_eq_true' _ ▸ hkept)

/-! ## A delay that wraps -/

/-- An operation after an hour, eleven minutes and thirty-five seconds. -/
def longDelay : List SceneOperation := [⟨4294968, false⟩]

/-- **The operation is executed within a millisecond.** -/
theorem SceneRun.long_delay_early :
    ¬ ∀ s, Reach (sceneRun longDelay 4294968) Any s → s.OnTime longDelay 4294968 := by
  intro h
  have hinit : (sceneRun longDelay 4294968).init (.create longDelay 4294968 0) := ⟨0, rfl⟩
  have hrun : (sceneRun longDelay 4294968).run (.create longDelay 4294968 0)
      [.start 0, .run 704, .turn 704] = some _ := rfl
  have hearly := (h _ (Reach.run (.init hinit) hrun)).notEarly (0, 704) List.mem_cons_self
  exact absurd hearly (by decide)

end Async
