import SuplaCore.Lib.Sys
import SuplaCore.Async.Task

/-!
# Scenes as tasks

`supla_scene_asynctask::execute` with `interrupt_before_execute` false
(`supla-server/src/scene/scene_asynctask.cpp`), called by any number of threads, with the tasks of
`supla_asynctask_queue` that it looks at and adds to. Every operation of the queue is one step; the
database reads stand between the look and the addition. Pool threads and callers of `cancel`
change the tasks at any time.
-/

namespace Async

open Sys

/-- `_sceneExecutionResult_e`. -/
inductive SceneExecutionResult
  | ok
  | notExists
  | isDuringExecution
  | inactivePeriod
  deriving Repr, DecidableEq

/-- User and scene. -/
structure SceneKey where
  userId : Int
  sceneId : Int
  deriving Repr, DecidableEq

structure SceneTask where
  key : SceneKey
  task : Task
  deriving Repr, DecidableEq

/-- Where a call of `execute` stands. -/
inductive SceneCall
  | idle
  /-- before `task_exists` -/
  | check (key : SceneKey)
  /-- no task was found; before the database reads -/
  | read (key : SceneKey)
  /-- before `scene->start()` -/
  | start (key : SceneKey)
  | returned (result : SceneExecutionResult) (started : Bool)
  deriving Repr, DecidableEq

/-- A call that has found no task and has not added one. -/
def SceneCall.between : SceneCall → Option SceneKey
  | .read key => some key
  | .start key => some key
  | _ => none

structure Scenes where
  tasks : List SceneTask
  calls : Nat → SceneCall

/-- What other threads do to a task of the queue. -/
inductive TaskAct
  | pick
  | executeBegin (now : Int)
  | executeEnd (now : Int) (again result : Bool)
  | cancel

def TaskAct.apply : TaskAct → Task → Task
  | .pick, t => t.pick.2
  | .executeBegin now, t => (t.executeBegin now).2
  | .executeEnd now again result, t => t.executeEnd now again result
  | .cancel, t => t.cancel

inductive ScenesAct
  /-- a thread calls `execute` -/
  | call (c : Nat) (key : SceneKey)
  /-- `task_exists` -/
  | check (c : Nat)
  /-- `is_scene_active` and `get_scene_operations` -/
  | read (c : Nat) (active : Bool) (operations : Nat)
  /-- the constructor, `start` and `add_task` -/
  | start (c : Nat) (now delay : Int)
  | task (i : Nat) (a : TaskAct)
  /-- `remove_task` -/
  | remove (i : Nat)

namespace Scenes

def setCall (c : Nat) (p : SceneCall) (s : Scenes) : Scenes :=
  { s with calls := fun i => if i = c then p else s.calls i }

/-- A scene's task when it is added to the queue: all scenes have priority 0. -/
def newTask (now delay : Int) : Task :=
  (({ state := .init, pool := 0, delayUsec := 0, executionStartTime := none,
      executionRequested := false, timeoutUsec := 0, priority := 0, observable := true,
      observerNotified := false } : Task).setDelayUsec now delay).start.2

def step (s : Scenes) : ScenesAct → Option Scenes
  | .call c key =>
    match s.calls c with
    | .idle => some (s.setCall c (.check key))
    | .returned _ _ => some (s.setCall c (.check key))
    | _ => none
  | .check c =>
    match s.calls c with
    | .check key =>
      if s.tasks.any fun t => t.key = key then
        some (s.setCall c (.returned .isDuringExecution false))
      else some (s.setCall c (.read key))
    | _ => none
  | .read c active operations =>
    match s.calls c with
    | .read key =>
      if active = false then some (s.setCall c (.returned .inactivePeriod false))
      else if operations = 0 then some (s.setCall c (.returned .notExists false))
      else some (s.setCall c (.start key))
    | _ => none
  | .start c now delay =>
    match s.calls c with
    | .start key =>
      some ({ s with tasks := s.tasks ++ [SceneTask.mk key (newTask now delay)] }.setCall c
        (.returned .ok true))
    | _ => none
  | .task i a =>
    some { s with tasks := s.tasks.modify i fun t => { t with task := a.apply t.task } }
  | .remove i => some { s with tasks := s.tasks.eraseIdx i }

end Scenes

/-- The calls of `execute` and the queue. -/
def scenes : Machine Scenes ScenesAct where
  init s := s.tasks = [] ∧ ∀ c, s.calls c = .idle
  step := Scenes.step

end Async
