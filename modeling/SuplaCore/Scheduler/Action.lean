import Mathlib.Algebra.Ring.Int.Defs
import SuplaCore.Scheduler.Database

/-!
# `s_worker_action::execute`

One run of a scheduled action, as the list of calls it makes in order: to the virtual functions of
the action (with their answers), to the worker and to the database. What the answers are is up to
the device, the server and the action's subclass (`Outcomes`).
-/

namespace Scheduler

/-- The answers of `ipc_client::is_connected`. -/
inductive IpcResult
  | serverUnreachable
  | disconnected
  | connected
  deriving Repr, DecidableEq

/-- What a `result_success` that fails stores in `*fail_result_code`: nothing, or one of the codes
of `s_worker_action_openclose::result_success`. -/
inductive FailResult
  | none
  | noSensor
  | valveClosedManuallyOrFlooding
  deriving Repr, DecidableEq

def FailResult.code : FailResult → Option ActionResult
  | .none => Option.none
  | .noSensor => some .noSensor
  | .valveClosedManuallyOrFlooding => some .valveClosedManuallyOrFlooding

/-- The parameters of a subclass of `s_worker_action` and of the worker's job. -/
structure SWorkerAction where
  tryLimit : Int
  waitingTimeToRetry : Int
  waitingTimeToCheck : Int
  checkBeforeStart : Bool
  retryWhenFail : Bool
  channelGroup : Bool
  deriving Repr, DecidableEq

/-- What one run is told. -/
structure Outcomes where
  isActionAllowed : Bool
  /-- `result_success(NULL)` before the start. -/
  successBefore : Bool
  doAction : Bool
  resultSuccess : Bool
  failResultCode : FailResult
  ipccIsConnected : IpcResult
  deriving Repr, DecidableEq

inductive Call
  | isActionAllowed (answer : Bool)
  | resultSuccess (answer : Bool)
  | doAction (answer : Bool)
  | setResult (result : ActionResult)
  | setRetry (sec : Int)
  deriving Repr, DecidableEq

/-- The value of `n` as an `int`. -/
def wrap32 (n : Int) : Int := (n + 2 ^ 31) % 2 ^ 32 - 2 ^ 31

namespace SWorkerAction

variable (a : SWorkerAction) (retryCount : Nat) (o : Outcomes)

/-- The SET phase, after `do_action`. -/
def afterSet : Call :=
  if a.channelGroup then
    if o.doAction then .setResult .executedWithoutConfirmation
    else if o.ipccIsConnected = .serverUnreachable then .setResult .serverUnreachable
    else .setResult .failure
  else if retryCount = 0 ∧ a.tryLimit ≤ 1 then
    .setResult (if o.doAction then .executedWithoutConfirmation else .failure)
  else .setRetry a.waitingTimeToCheck

/-- The CHECK phase, after `result_success`. -/
def afterCheck : Call :=
  if o.resultSuccess then .setResult .success
  else if a.retryWhenFail ∧ (retryCount : Int) + 1 < wrap32 (a.tryLimit * 2) then
    .setRetry (a.waitingTimeToRetry - a.waitingTimeToCheck)
  else match o.failResultCode.code with
    | some code => .setResult code
    | none =>
      match o.ipccIsConnected with
      | .connected => .setResult .failure
      | .disconnected => .setResult .deviceUnreachable
      | .serverUnreachable => .setResult .serverUnreachable

/-- The two phases, told apart by the parity of `retry_count`. -/
def phases : List Call :=
  if retryCount % 2 = 0 then [.doAction o.doAction, a.afterSet retryCount o]
  else [.resultSuccess o.resultSuccess, a.afterCheck retryCount o]

def execute : List Call :=
  .isActionAllowed o.isActionAllowed ::
    if !o.isActionAllowed then [.setResult .cancelled]
    else if !a.channelGroup && a.checkBeforeStart && retryCount = 0 then
      .resultSuccess o.successBefore ::
        if o.successBefore then [.setResult .success] else a.phases retryCount o
    else a.phases retryCount o

end SWorkerAction

/-- What a call does to the row. -/
def Call.write (now : Nat) : Call → Execution → Execution
  | .setResult r => (Update.setResult now r).apply
  | .setRetry sec => (Update.setRetry now sec).apply
  | _ => id

/-- The clock and the answers of one run. -/
structure Run where
  now : Nat
  outcomes : Outcomes

/-- One run on a row that no one else touches: the row is marked fetched, then the action runs
with the `retry_count` that was read. The calls are tagged with it. -/
def runOnce (a : SWorkerAction) (r : Run) (e : Execution) : List (Nat × Call) × Execution :=
  ((a.execute e.retries r.outcomes).map (e.retries, ·),
    (a.execute e.retries r.outcomes).foldl (fun e c => c.write r.now e)
      ((Update.setFetched r.now).apply e))

/-- `n` runs, or fewer: a row with a result is not selected again. -/
def runs (a : SWorkerAction) (env : Nat → Run) : Nat → Execution → List (Nat × Call) × Execution
  | 0, e => ([], e)
  | n + 1, e =>
    if e.resultTimestamp.isSome then ([], e)
    else
      ((runOnce a (env 0) e).1 ++ (runs a (fun i => env (i + 1)) n (runOnce a (env 0) e).2).1,
        (runs a (fun i => env (i + 1)) n (runOnce a (env 0) e).2).2)

end Scheduler
