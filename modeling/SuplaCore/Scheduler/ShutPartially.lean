import SuplaCore.Channel.Config
import SuplaCore.Lib.JsonNumber
import SuplaCore.Scheduler.Action

/-!
# Schedules that shut or reveal partially

`s_abstract_action_shut_partially` (`supla-scheduler/src/abstract_action_shut_partially.cpp`) and
its two subclasses, `s_worker_action_shut_partially` and `s_worker_action_reveal_partially`. What
the worker answers is a record (`ShutWorker`); the `char` of a percentage is an `Int8`.
-/

namespace Scheduler

open Channel Json

/-- The answers of the worker. -/
structure ShutWorker (D : Type) where
  func : Int
  /-- `get_action_param()`, if there is one and it can be parsed. -/
  actionParam : Option (Node D)
  /-- `ipcc_get_fb_value`: position and tilt. -/
  fbValue : Option (Int8 × Int8)
  charValue : Option Int8
  /-- 1 for closed, 0 for open, -1 if there is none to ask. -/
  openingSensorValue : Int8

/-- The out parameters of `get_expected`. -/
structure Expected where
  percentage : Int8 := -1
  percentageAsDelta : Bool := false
  tilt : Int8 := -1
  tiltAsDelta : Bool := false
  deriving DecidableEq

/-- The two subclasses. -/
inductive PartialAction
  | shut
  | reveal
  deriving Repr, DecidableEq

section
variable {D : Type} [Number D]

/-! ## The parameters -/

/-- A number from `lo` to 100, without its fraction. -/
def percent (lo : Int) (item : Option (Node D)) : Option Int8 :=
  match item.map Node.kind with
  | some (.number d) => if Number.between lo 100 d then some (toInt8 d) else none
  | _ => none

/-- The number under `name`, else the delta under `deltaName`. -/
def readTarget (root : Node D) (name deltaName : String) : Option (Int8 × Bool) :=
  match percent 0 (root.get name) with
  | some v => some (v, false)
  | none => (percent (-100) (root.get deltaName)).map (·, true)

/-- `s_abstract_action_shut_partially::get_expected`. -/
def shutExpected (w : ShutWorker D) : Option Expected :=
  match w.actionParam with
  | none => none
  | some root =>
    let percentage := readTarget root "percentage" "percentageDelta"
    let tilt := readTarget root "tilt" "tiltDelta"
    if percentage.isSome || tilt.isSome then
      some {
        percentage := (percentage.map (·.1)).getD (-1)
        percentageAsDelta := percentage.any (·.2)
        tilt := (tilt.map (·.1)).getD (-1)
        tiltAsDelta := tilt.any (·.2) }
    else none

/-- The same target seen from the other end. -/
def mirror (v : Int8) (asDelta : Bool) : Int8 :=
  if asDelta then v * -1 else if v ≠ -1 then 100 - v else v

/-- `s_worker_action_reveal_partially::get_expected`, after the one it overrides. -/
def Expected.mirrored (e : Expected) : Expected :=
  { e with
    percentage := mirror e.percentage e.percentageAsDelta
    tilt := mirror e.tilt e.tiltAsDelta }

def getExpected (action : PartialAction) (w : ShutWorker D) : Option Expected :=
  match action with
  | .shut => shutExpected w
  | .reveal => (shutExpected w).map Expected.mirrored

/-! ## The check -/

def isActionAllowed (w : ShutWorker D) : Bool := isRollerShutter w.func || isFacadeBlind w.func

/-- The reported percentage and tilt; only facade and vertical blinds have a tilt. -/
def reading (w : ShutWorker D) : Option (Int8 × Int8) :=
  if isFacadeBlind w.func then w.fbValue else w.charValue.map (·, -1)

/-- What is expected of the function. -/
def applicable (w : ShutWorker D) (e : Expected) : Expected :=
  if isFacadeBlind w.func then e else { e with tilt := -1, tiltAsDelta := false }

/-- The functions that have an opening sensor. -/
def hasOpeningSensor (func : Int) : Bool :=
  func = channelfncControllingTheRollerShutter || func = channelfncControllingTheRoofWindow

/-- The sensor is believed rather than the reported percentage. -/
def corrected (w : ShutWorker D) (expected percentage : Int8) : Int8 :=
  if hasOpeningSensor w.func && w.openingSensorValue ≠ -1 then
    if w.openingSensorValue ≠ 1 ∧ expected = 100 then 0
    else if w.openingSensorValue = 1 ∧ expected < 100 then 100
    else percentage
  else percentage

/-- The tolerance is two percentage points. -/
def isMatch (expected : Int8) (asDelta : Bool) (reported : Int8) : Bool :=
  !(asDelta == false && expected ≠ -1 && 2 < (expected.toInt - reported.toInt).natAbs)

def resultSuccess (action : PartialAction) (w : ShutWorker D) : Bool :=
  match getExpected action w, reading w with
  | some expected, some (reported, tilt) =>
    let e := applicable w expected
    let percentage := if e.percentageAsDelta then reported else corrected w e.percentage reported
    isMatch e.tilt e.tiltAsDelta tilt || isMatch e.percentage e.percentageAsDelta percentage
  | _, _ => false

/-! ## The action -/

/-- `do_action`: what is sent, if anything is. -/
def doAction (action : PartialAction) (w : ShutWorker D) : Option Expected := getExpected action w

/-- The action of a schedule, by what its worker says of retries and groups. -/
def shutPartially (retryWhenFail channelGroup : Bool) : SWorkerAction where
  tryLimit := 2
  waitingTimeToRetry := 120
  waitingTimeToCheck := 90
  checkBeforeStart := false
  retryWhenFail := retryWhenFail
  channelGroup := channelGroup

/-- The answers of one run; `accepted` is what the server answers to a command. -/
def outcomes (action : PartialAction) (w : ShutWorker D) (accepted : Bool)
    (ipccIsConnected : IpcResult) : Outcomes where
  isActionAllowed := isActionAllowed w
  successBefore := resultSuccess action w
  doAction := (doAction action w).isSome && accepted
  resultSuccess := resultSuccess action w
  failResultCode := .none
  ipccIsConnected := ipccIsConnected

end

end Scheduler
