import Mathlib.Data.List.Basic

/-!
# Asynchronous tasks

`supla_abstract_asynctask` (`supla-server/src/asynctask/abstract_asynctask.cpp`), each function as
the sections it runs under the task's lock. Times are microseconds.
-/

namespace Async

/-- `supla_asynctask_state`. -/
inductive TaskState
  | init
  | waiting
  | picked
  | executing
  | success
  | failure
  | timeout
  | canceled
  deriving Repr, DecidableEq

/-- `is_finished`. -/
def TaskState.finished : TaskState → Bool
  | .success => true
  | .failure => true
  | .timeout => true
  | .canceled => true
  | _ => false

structure Task where
  state : TaskState
  /-- the thread pool that executes the task -/
  pool : Nat
  delayUsec : Int
  /-- `none` for the zero `timeval` -/
  executionStartTime : Option Int
  /-- `execution_request_time` is not zero -/
  executionRequested : Bool
  timeoutUsec : Nat
  priority : Int
  observable : Bool
  observerNotified : Bool
  deriving Repr, DecidableEq

namespace Task

def timeLeftUsec (now : Int) (t : Task) : Int :=
  match t.executionStartTime with
  | none => 0
  | some start => start - now

def setDelayUsec (now delay : Int) (t : Task) : Task :=
  { t with
    delayUsec := delay
    executionStartTime := some (if delay > 0 then now + delay else now) }

/-- The locked section of `start`; the task is added to the queue if it says `true`. -/
def start (t : Task) : Bool × Task :=
  if t.state = .init then (true, { t with state := .waiting }) else (false, t)

def pick (t : Task) : Bool × Task :=
  if t.state = .waiting then (true, { t with state := .picked }) else (false, t)

/-- A picked task that is late by its timeout or more. -/
def timedOut (now : Int) (t : Task) : Bool :=
  t.timeoutUsec ≠ 0 ∧ t.timeLeftUsec now < 0 ∧ -t.timeLeftUsec now ≥ t.timeoutUsec

/-- The first locked section of `execute`: `_execute` is called if it says `true`. -/
def executeBegin (now : Int) (t : Task) : Bool × Task :=
  if t.state = .picked then
    if t.timedOut now then (false, { t with state := .timeout })
    else (true, { t with state := .executing })
  else (false, t)

/-- The locked section of `execute` after `_execute`. -/
def executeEnd (now : Int) (again result : Bool) (t : Task) : Task :=
  if t.state ≠ .canceled then
    if again then { t with state := .waiting }.setDelayUsec now t.delayUsec
    else if result then { t with state := .success }
    else { t with state := .failure }
  else t

def cancel (t : Task) : Task := { t with state := .canceled }

def isFinished (t : Task) : Bool := t.state.finished

end Task

end Async
