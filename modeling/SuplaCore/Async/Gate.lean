import SuplaCore.Async.Life

/-!
# Opening and closing gates

`supla_action_gate_openclose` (`supla-server/src/actions/action_gate_openclose.cpp`) with its search
condition: `open_close` and `cancel_tasks` called by any number of threads, and the execution of the
tasks by any number of pool threads. Every operation of the queue is one step; the test for an equal
task, the cancellation, the construction with its look at the configuration and the start are four
steps of a call. In `_execute` the look at the sensor and the pulse are two steps.
-/

namespace Async

open Sys

/-- User, device and channel. -/
structure GateKey where
  userId : Int
  deviceId : Int
  channelId : Int
  deriving Repr, DecidableEq

/-- The numbers of attempts of `controlling_the_gate_config`. -/
structure GateConfig where
  numberOfAttemptsToOpen : Int
  numberOfAttemptsToClose : Int

structure GateTask where
  key : GateKey
  actionOpen : Bool
  attemptCountLeft : Int
  verificationDelayUs : Int
  task : Task

/-- `supla_action_gate_openclose_search_condition`, with nothing to skip. -/
structure GateSearchCondition where
  key : GateKey
  checkAction : Bool
  actionOpen : Bool

def GateSearchCondition.conditionMet (cnd : GateSearchCondition) (t : GateTask) : Bool :=
  decide (t.key = cnd.key) && (!cnd.checkAction || t.actionOpen == cnd.actionOpen)

/-- Where a call of `open_close` stands. -/
inductive GateCall
  | idle
  /-- before `task_exists` -/
  | check (key : GateKey) (actionOpen : Bool)
  /-- before `cancel_tasks` -/
  | cancel (key : GateKey) (actionOpen : Bool)
  /-- before the constructor -/
  | construct (key : GateKey) (actionOpen : Bool)
  /-- before `task->start()` -/
  | start (t : GateTask)

/-- A call that has canceled the tasks of its channel and has not added its own. -/
def GateCall.between : GateCall → Option GateKey
  | .construct key _ => some key
  | .start t => some t.key
  | _ => none

/-- Where a pool thread stands. -/
inductive GateWorker
  | idle
  /-- before the first section of `execute` -/
  | picked (i : Nat)
  /-- before `_execute` looks at the sensor -/
  | begun (i : Nat)
  /-- before `open_close_without_canceling_tasks` -/
  | pulse (i : Nat)
  /-- back from `_execute` -/
  | tail (i : Nat) (again result : Bool)
  /-- back from `execute` -/
  | done (i : Nat)
  deriving DecidableEq

/-- The task a thread executes. -/
def GateWorker.holds : GateWorker → Option Nat
  | .picked i => some i
  | .begun i => some i
  | .pulse i => some i
  | .tail i _ _ => some i
  | _ => none

/-- The task a thread may yet send a pulse for. -/
def GateWorker.onItsWay : GateWorker → Option Nat
  | .begun i => some i
  | .pulse i => some i
  | _ => none

inductive GateEvent
  /-- a call has added its task to the queue -/
  | requested (i : Nat)
  | pulse (i : Nat)
  deriving DecidableEq

/-- The tasks are numbered as they are added; `log` has the newest event first. -/
structure Gates where
  created : Nat
  tasks : Nat → GateTask
  queue : List Nat
  calls : Nat → GateCall
  workers : Nat → GateWorker
  log : List GateEvent

inductive GatesAct
  /-- a thread calls `open_close` -/
  | openClose (c : Nat) (key : GateKey) (actionOpen : Bool)
  /-- the next step of a call; the configuration is what the constructor finds -/
  | next (c : Nat) (config : GateConfig)
  /-- `cancel_tasks` -/
  | cancelTasks (cnd : GateSearchCondition)
  /-- the next step of a pool thread; `closed` is what `get_closing_state` finds -/
  | work (w : Nat) (now : Int) (closed : Option Bool)

def gateVerificationDelayUs : Int := 60000000

/-- The constructor. -/
def GateTask.new (config : GateConfig) (key : GateKey) (actionOpen : Bool) : GateTask where
  key := key
  actionOpen := actionOpen
  attemptCountLeft :=
    if actionOpen then config.numberOfAttemptsToOpen else config.numberOfAttemptsToClose
  verificationDelayUs := gateVerificationDelayUs
  task :=
    { state := .init, pool := 0, delayUsec := 0, executionStartTime := none,
      executionRequested := false, timeoutUsec := 0, priority := 0, observable := false,
      observerNotified := false }

namespace Gates

def setCall (c : Nat) (call : GateCall) (s : Gates) : Gates :=
  { s with calls := fun d => if d = c then call else s.calls d }

def setWorker (w : Nat) (worker : GateWorker) (s : Gates) : Gates :=
  { s with workers := fun v => if v = w then worker else s.workers v }

def setGateTask (i : Nat) (t : GateTask) (s : Gates) : Gates :=
  { s with tasks := fun j => if j = i then t else s.tasks j }

def setTask (i : Nat) (t : Task) (s : Gates) : Gates :=
  s.setGateTask i { s.tasks i with task := t }

def meets (s : Gates) (cnd : GateSearchCondition) (i : Nat) : Bool := cnd.conditionMet (s.tasks i)

/-- `supla_asynctask_queue::cancel_tasks`. -/
def cancelTasks (cnd : GateSearchCondition) (s : Gates) : Gates :=
  { s with
    tasks := fun i => if i ∈ s.queue ∧ s.meets cnd i = true then
        { s.tasks i with task := (s.tasks i).task.cancel }
      else s.tasks i
    queue := s.queue.filter fun i => !s.meets cnd i }

/-- `start` with `add_task`. -/
def addTask (t : GateTask) (s : Gates) : Gates :=
  let i := s.created
  let s := { s with created := i + 1 }.setGateTask i { t with task := t.task.start.2 }
  { s with
    queue := Life.insert (fun j => (s.tasks j).task) i s.queue
    log := .requested i :: s.log }

/-- `open_close`. -/
def callStep (c : Nat) (config : GateConfig) (s : Gates) : Option Gates :=
  match s.calls c with
  | .idle => none
  | .check key actionOpen =>
    some (s.setCall c
      (if s.queue.any (s.meets ⟨key, true, actionOpen⟩) then .idle else .cancel key actionOpen))
  | .cancel key actionOpen =>
    some ((s.cancelTasks ⟨key, false, false⟩).setCall c (.construct key actionOpen))
  | .construct key actionOpen => some (s.setCall c (.start (.new config key actionOpen)))
  | .start t => some ((s.addTask t).setCall c .idle)

/-- `supla_asynctask_queue::pick`. -/
def findDue (s : Gates) (now : Int) : Option Nat :=
  s.queue.find? fun i => decide ((s.tasks i).task.state = .waiting) &&
    decide ((s.tasks i).task.timeLeftUsec now ≤ 0)

/-- `_execute` up to the pulse: where the thread goes from there. -/
def verify (i : Nat) (t : GateTask) (closed : Option Bool) : GateWorker :=
  match closed with
  | none => .tail i false false
  | some closed =>
    if t.attemptCountLeft < 0 ∨ t.actionOpen ≠ closed then .tail i false (t.actionOpen != closed)
    else .pulse i

/-- A pool thread. -/
def workStep (w : Nat) (now : Int) (closed : Option Bool) (s : Gates) : Gates :=
  match s.workers w with
  | .idle =>
    match s.findDue now with
    | none => s
    | some i => (s.setTask i (s.tasks i).task.pick.2).setWorker w (.picked i)
  | .picked i =>
    let r := (s.tasks i).task.executeBegin now
    (s.setTask i r.2).setWorker w (if r.1 then .begun i else .done i)
  | .begun i =>
    let t := { s.tasks i with attemptCountLeft := (s.tasks i).attemptCountLeft - 1 }
    (s.setGateTask i t).setWorker w (verify i t closed)
  | .pulse i =>
    ({ s with log := .pulse i :: s.log }.setTask i
      ((s.tasks i).task.setDelayUsec now (s.tasks i).verificationDelayUs)).setWorker w
        (.tail i true false)
  | .tail i again result =>
    (s.setTask i ((s.tasks i).task.executeEnd now again result)).setWorker w (.done i)
  | .done i =>
    if (s.tasks i).task.isFinished then { s with queue := s.queue.erase i }.setWorker w .idle
    else (s.setTask i { (s.tasks i).task with executionRequested := false }).setWorker w .idle

def step (s : Gates) : GatesAct → Option Gates
  | .openClose c key actionOpen =>
    match s.calls c with
    | .idle => some (s.setCall c (.check key actionOpen))
    | _ => none
  | .next c config => s.callStep c config
  | .cancelTasks cnd => some (s.cancelTasks cnd)
  | .work w now closed => some (s.workStep w now closed)

end Gates

/-- The calls, the queue and the pool threads. -/
def gates : Machine Gates GatesAct where
  init s := s.created = 0 ∧ s.queue = [] ∧ (∀ c, s.calls c = .idle) ∧
    (∀ w, s.workers w = .idle) ∧ s.log = []
  step := Gates.step

end Async
