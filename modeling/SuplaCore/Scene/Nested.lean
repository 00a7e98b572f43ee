import SuplaCore.Lib.Sys

/-!
# Scenes that execute scenes

The tasks of scenes (`supla-server/src/scene/scene_asynctask.cpp`) with the chains of callers that
they pass on (`caller.cpp`), for the scenes of one user. A turn of the loop of `_execute` is one
step, and so is every access to the queue of tasks and the database in the calls of `execute` and
`interrupt` that a turn makes. The steps of the tasks mix in any order; the delays of the
operations only choose one of the orders.
-/

namespace Nested

/-! ## Callers -/

/-- `_callerType_e`. -/
inductive CallerType
  | unknown
  | device
  | client
  | ipc
  | mqtt
  | amazonAlexa
  | googleHome
  | actionTrigger
  | scene
  | cyclicTask
  | channel
  deriving DecidableEq

/-- `supla_caller`, without the name. -/
inductive Caller
  | root (type : CallerType) (id : Int)
  | child (parent : Caller) (type : CallerType) (id : Int)
  deriving DecidableEq

namespace Caller

def clone : Caller → Caller
  | root type id => root type id
  | child parent type id => child parent.clone type id

/-- The constructor with a parent. -/
def under (parent : Caller) (type : CallerType) (id : Int) : Caller := child parent.clone type id

/-- The loop of `find`, with `count` and `n`. -/
def findFrom (type : CallerType) (id : Int) : Caller → Nat → Nat → Nat × Nat
  | root t i, count, n => (count + 1, if t = type ∧ i = id then count + 1 else n)
  | child parent t i, count, n =>
    parent.findFrom type id (count + 1) (if t = type ∧ i = id then count + 1 else n)

def find (c : Caller) (type : CallerType) (id : Int) : Nat :=
  let r := c.findFrom type id 0 0
  if r.2 ≠ 0 then r.1 - r.2 + 1 else 0

def stackSize : Caller → Nat
  | root _ _ => 1
  | child parent _ _ => parent.stackSize + 1

end Caller

/-! ## Operations -/

/-- The actions that concern scenes, and the others. -/
inductive Action
  | none
  | execute
  | interrupt
  | interruptAndExecute
  | other (id : Nat)
  deriving DecidableEq

inductive SubjectType
  | unknown
  | channel
  | channelGroup
  | scene
  | schedule
  | pushNotification
  deriving DecidableEq

/-- `supla_scene_operation`. -/
structure Operation where
  action : Action
  subjectType : SubjectType
  subjectId : Int
  deriving DecidableEq

structure Scene where
  id : Int
  operations : List Operation
  deriving DecidableEq

/-- `supla_scene_operations_dao::get_scene_operations`. -/
def getSceneOperations (scenes : List Scene) (id : Int) : List Operation :=
  ((scenes.find? fun sc => sc.id = id).map (·.operations)).getD []

/-! ## Tasks -/

/-- Where the call that an operation makes stands. After `interrupt` the scene is started for the
caller `next`, if there is one. -/
inductive Call
  | idle
  /-- before `task_exists` -/
  | check (caller : Caller) (sceneId : Int)
  /-- before `is_scene_active` -/
  | read (caller : Caller) (sceneId : Int) (interruptBeforeExecute : Bool)
  /-- before `access_task` -/
  | interrupt (sceneId : Int) (next : Option Caller)
  /-- before `cancel_tasks` -/
  | cancel (sceneId : Int) (next : Option Caller)
  /-- before the operations are read -/
  | start (caller : Caller) (sceneId : Int)
  deriving DecidableEq

structure SceneTask where
  caller : Caller
  sceneId : Int
  operations : List Operation
  call : Call
  finished : Bool
  inQueue : Bool
  deriving DecidableEq

/-- The caller of what a task executes. -/
def SceneTask.chain (t : SceneTask) : Caller := t.caller.under .scene t.sceneId

def SceneTask.new (caller : Caller) (sceneId : Int) (operations : List Operation) : SceneTask :=
  ⟨caller, sceneId, operations, .idle, false, true⟩

/-- `supla_scene_search_condition::condition_met`. -/
def SceneTask.conditionMet (sceneId : Int) (includeSubTasks : Bool) (t : SceneTask) : Bool :=
  decide (t.sceneId = sceneId) || (includeSubTasks && decide (t.caller.find .scene sceneId ≠ 0))

/-- `execute_action` as far as scenes are concerned; `user` tells whether the user is found. -/
def executeAction (caller : Caller) (user : Bool) (op : Operation) : Call :=
  if op.action = .none ∨ op.subjectId = 0 then .idle
  else if op.subjectType = .scene ∧ user = true then
    match op.action with
    | .execute => .check caller op.subjectId
    | .interrupt => .interrupt op.subjectId none
    | .interruptAndExecute => .read caller op.subjectId true
    | _ => .idle
  else .idle

/-- One turn of the loop of `_execute`. -/
def SceneTask.turn (t : SceneTask) (user : Bool) : SceneTask :=
  match t.operations with
  | [] => t
  | op :: operations =>
    { t with
      operations := operations
      call :=
        if op.subjectType ≠ .scene ∨ t.caller.find .scene op.subjectId = 0 then
          executeAction t.chain user op
        else .idle }

def Call.afterInterrupt (sceneId : Int) : Option Caller → Call
  | none => .idle
  | some caller => .start caller sceneId

/-- The tasks that were started, in this order. -/
structure State where
  tasks : List SceneTask

inductive Act
  /-- a turn of the loop of a task -/
  | turn (i : Nat) (user : Bool)
  /-- the next step of the call of a task -/
  | call (i : Nat) (active : Bool)
  /-- a task ends, or is cancelled from outside -/
  | finish (i : Nat)
  /-- a task leaves the queue -/
  | remove (i : Nat)

/-- The tasks found in the queue that are cancelled with `sceneId`. -/
def State.cancelTasks (s : State) (sceneId : Int) : State :=
  ⟨s.tasks.map fun t =>
    if t.inQueue && t.conditionMet sceneId true then { t with finished := true, inQueue := false }
    else t⟩

def State.setCall (s : State) (i : Nat) (c : Call) : State :=
  ⟨s.tasks.modify i fun t => { t with call := c }⟩

/-- The next step of the call `c` of task `i`. -/
def callStep (scenes : List Scene) (s : State) (i : Nat) (active : Bool) : Call → Option State
  | .idle => none
  | .check caller sceneId =>
    some <| s.setCall i <|
      if s.tasks.any fun t => t.inQueue && t.conditionMet sceneId false then .idle
      else .read caller sceneId false
  | .read caller sceneId interruptBeforeExecute =>
    some <| s.setCall i <|
      if active = false then .idle
      else if interruptBeforeExecute then .interrupt sceneId (some caller)
      else .start caller sceneId
  | .interrupt sceneId next =>
    let isFinished :=
      ((s.tasks.find? fun t => t.inQueue && t.conditionMet sceneId false).map
        (·.finished)).getD true
    some <| s.setCall i <|
      if isFinished then .afterInterrupt sceneId next else .cancel sceneId next
  | .cancel sceneId next =>
    some <| (s.cancelTasks sceneId).setCall i (.afterInterrupt sceneId next)
  | .start caller sceneId =>
    match getSceneOperations scenes sceneId with
    | [] => some (s.setCall i .idle)
    | op :: operations =>
      some ⟨(s.setCall i .idle).tasks ++ [.new caller sceneId (op :: operations)]⟩

def step (scenes : List Scene) (s : State) : Act → Option State
  | .turn i user =>
    match s.tasks[i]? with
    | some t => if t.call = .idle then some ⟨s.tasks.modify i (·.turn user)⟩ else none
    | none => none
  | .call i active =>
    match s.tasks[i]? with
    | some t => callStep scenes s i active t.call
    | none => none
  | .finish i => some ⟨s.tasks.modify i fun t => { t with finished := true }⟩
  | .remove i => some ⟨s.tasks.modify i fun t => { t with inQueue := false }⟩

/-- The runs that follow when `sceneId`, which has operations, is started for `caller` from
outside. -/
def machine (scenes : List Scene) (caller : Caller) (sceneId : Int) : Sys.Machine State Act where
  init s := s = ⟨[.new caller sceneId (getSceneOperations scenes sceneId)]⟩ ∧
    getSceneOperations scenes sceneId ≠ []
  step := step scenes

end Nested
