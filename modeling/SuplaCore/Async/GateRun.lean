import SuplaCore.Lib.JsonNumber
import SuplaCore.Lib.Sys
import SuplaCore.Async.Gate

/-!
# The runs of a gate task

`supla_action_gate_openclose` (`supla-server/src/actions/action_gate_openclose.cpp`) from its
constructor, which reads the number of attempts from a `controlling_the_gate_config`
(`supla-server/src/jsonconfig/channel/controlling_the_gate_config.cpp`), to its last `_execute`,
with `execute` of `supla_abstract_asynctask` around it. Nobody cancels the task; what the property
getter finds and what the clock shows is part of a step.
-/

namespace Async

open Sys

/-! ## The configuration -/

abbrev NOA_MIN : Int := 1
abbrev NOA_MAX : Int := 5
abbrev NOA_DEFAULT : Int := 5

namespace ControllingTheGateConfig

def numberOfAttemptsToOpenKey : String := "numberOfAttemptsToOpen"
def numberOfAttemptsToCloseKey : String := "numberOfAttemptsToClose"

variable {D : Type} [Json.Number D]

/-- `get_number_of_attempts` -/
def getNumberOfAttempts (userRoot : Option (Json.Node D)) (key : String) : Int :=
  match userRoot with
  | none => NOA_DEFAULT
  | some root =>
    match (root.get key).map Json.Node.kind with
    | some (.number value) =>
      let valueint := Json.Number.valueint value
      if NOA_MIN ≤ valueint ∧ valueint ≤ NOA_MAX then valueint else NOA_DEFAULT
    | _ => NOA_DEFAULT

def getNumberOfAttemptsToOpen (userRoot : Option (Json.Node D)) : Int :=
  getNumberOfAttempts userRoot numberOfAttemptsToOpenKey

def getNumberOfAttemptsToClose (userRoot : Option (Json.Node D)) : Int :=
  getNumberOfAttempts userRoot numberOfAttemptsToCloseKey

end ControllingTheGateConfig

/-! ## The task -/

/-- `_gate_sensor_level_enum` -/
inductive GateSensorLevel
  | gslUnknown
  | gslClosed
  | gslOpen
  deriving Repr, DecidableEq

/-- A call of `_execute` that is over. -/
structure GateTurn where
  /-- The level of the value that the getter finds, `none` where that is no gate value. -/
  level : Option GateSensorLevel
  /-- `open_close_without_canceling_tasks` is called. -/
  pulse : Bool
  begunAt : Int
  endedAt : Int
  deriving DecidableEq

structure GateRun where
  actionOpen : Bool
  attemptCountLeft : Int16
  verificationDelayUs : UInt32
  task : Task
  turns : List GateTurn

/-- What `_execute` leaves behind. -/
structure GateOutcome where
  result : Bool
  executeAgain : Bool
  pulse : Bool
  run : GateRun

namespace GateRun

/-- A task of `n` attempts, which is in the queue. -/
def start (n : Int) (verificationDelayUs : UInt32) (actionOpen : Bool) : GateRun where
  actionOpen := actionOpen
  attemptCountLeft := Int16.ofInt n
  verificationDelayUs := verificationDelayUs
  task := Task.start ⟨.init, 0, 0, none, false, 0, 0, false, false⟩ |>.2
  turns := []

variable {D : Type} [Json.Number D]

/-- The attempts that the constructor takes from the configuration. -/
def attempts (userRoot : Option (Json.Node D)) (actionOpen : Bool) : Int :=
  if actionOpen then ControllingTheGateConfig.getNumberOfAttemptsToOpen userRoot
  else ControllingTheGateConfig.getNumberOfAttemptsToClose userRoot

/-- The constructor, and `start`. -/
def create (userRoot : Option (Json.Node D)) (verificationDelayUs : UInt32) (actionOpen : Bool) :
    GateRun :=
  start (attempts userRoot actionOpen) verificationDelayUs actionOpen

/-- `get_closing_state`: the result, and the out parameter after it. -/
def getClosingState (level : Option GateSensorLevel) (isClosed : Bool) : Bool × Bool :=
  let openingSensorLevel := level.getD .gslUnknown
  if openingSensorLevel ≠ .gslUnknown then (true, openingSensorLevel = .gslClosed)
  else (false, isClosed)

/-- `_execute` -/
def executeOnce (now : Int) (level : Option GateSensorLevel) (s : GateRun) : GateOutcome :=
  let isClosed := s.actionOpen
  let s := { s with attemptCountLeft := s.attemptCountLeft - 1 }
  let (known, isClosed) := getClosingState level isClosed
  if !known then ⟨false, false, false, s⟩
  else if s.attemptCountLeft < 0 ∨ s.actionOpen ≠ isClosed then
    ⟨s.actionOpen ≠ isClosed, false, false, s⟩
  else
    ⟨false, true, true, { s with
      task := s.task.setDelayUsec now s.verificationDelayUs.toNat }⟩

/-- `execute` of a task that a thread has picked. -/
def execute (t t₁ t₂ : Int) (level : Option GateSensorLevel) (s : GateRun) : GateRun :=
  let r := s.task.executeBegin t
  let s := { s with task := r.2 }
  if r.1 then
    let o := s.executeOnce t₁ level
    { o.run with
      task := o.run.task.executeEnd t₂ o.executeAgain o.result
      turns := s.turns ++ [⟨level, o.pulse, t, t₂⟩] }
  else s

end GateRun

/-- A thread picks the task and calls `execute`; the times are those of the beginning, of the pulse
and of the end. -/
structure GateRunAct where
  t : Int
  t₁ : Int
  t₂ : Int
  level : Option GateSensorLevel

/-- The runs of one task: it is executed whenever it waits and its time has come. -/
def gateRuns (s₀ : GateRun) : Machine GateRun GateRunAct where
  init s := s = s₀
  step s a :=
    if s.task.state = .waiting ∧ s.task.timeLeftUsec a.t ≤ 0 then
      some ({ s with task := s.task.pick.2 }.execute a.t a.t₁ a.t₂ a.level)
    else none

end Async
