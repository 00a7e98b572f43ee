import SuplaCore.Async.Life

/-!
# The list of tasks

`supla_asynctask_queue` (`supla-server/src/asynctask/asynctask_queue.cpp`) as a list that is kept
in order of priority, with what is done to its tasks. An operation is one step, except that `start`
leaves the lock of the task before `add_task`. A condition of `cancel_tasks` may look at anything;
`pick` reads the clock anew for each task.
-/

namespace Async

open Sys

/-- `set_priority`. -/
def Task.setPriority (priority : Int) (t : Task) : Task :=
  if t.state = .init then { t with priority := priority } else t

structure TaskList where
  tasks : Nat → Task
  /-- Started, but not yet added. -/
  started : List Nat
  queue : List Nat
  /-- The calls of `add_task`, the first one first. -/
  added : List Nat

inductive ListAct
  | setPriority (i : Nat) (priority : Int)
  | start (i : Nat)
  | addTask (i : Nat)
  | removeTask (i : Nat)
  | cancelTasks (cnd : Nat → Bool)
  | cancel (i : Nat)
  | setDelay (i : Nat) (now delay : Int)
  /-- The clock is read once for each task that is looked at. -/
  | pick (pool : Nat) (clock : Nat → Int)
  | executeBegin (i : Nat) (now : Int)
  /-- `execute` after `_execute`, which may ask to be executed again. -/
  | executeEnd (i : Nat) (now : Int) (again result : Bool)

namespace TaskList

def setTask (i : Nat) (t : Task) (s : TaskList) : TaskList :=
  { s with tasks := fun j => if j = i then t else s.tasks j }

/-- The test of `pick`. -/
def isDue (s : TaskList) (pool : Nat) (now : Int) (i : Nat) : Bool :=
  decide ((s.tasks i).state = .waiting) && decide ((s.tasks i).pool = pool) &&
    decide ((s.tasks i).timeLeftUsec now ≤ 0)

/-- The loop of `pick`, of which `n` turns are over. -/
def pickFrom (s : TaskList) (pool : Nat) (clock : Nat → Int) : Nat → List Nat → Option Nat
  | _, [] => none
  | n, i :: rest => if s.isDue pool (clock n) i then some i else s.pickFrom pool clock (n + 1) rest

def pick (pool : Nat) (clock : Nat → Int) (s : TaskList) : Option Nat × TaskList :=
  match s.pickFrom pool clock 0 s.queue with
  | some i => (some i, s.setTask i (s.tasks i).pick.2)
  | none => (none, s)

/-- `add_task`. -/
def addTask (i : Nat) (s : TaskList) : TaskList :=
  { s with
    started := s.started.erase i
    queue := Life.insert s.tasks i s.queue
    added := s.added ++ [i] }

def removeTask (i : Nat) (s : TaskList) : TaskList := { s with queue := s.queue.erase i }

def cancelTasks (cnd : Nat → Bool) (s : TaskList) : TaskList :=
  (s.queue.filter cnd).foldl (fun s i => (s.setTask i (s.tasks i).cancel).removeTask i) s

def step (s : TaskList) : ListAct → Option TaskList
  | .setPriority i priority => some (s.setTask i ((s.tasks i).setPriority priority))
  | .start i =>
    let r := (s.tasks i).start
    some (if r.1 then { s.setTask i r.2 with started := i :: s.started } else s)
  | .addTask i => if i ∈ s.started then some (s.addTask i) else none
  | .removeTask i => some (s.removeTask i)
  | .cancelTasks cnd => some (s.cancelTasks cnd)
  | .cancel i => some (s.setTask i (s.tasks i).cancel)
  | .setDelay i now delay => some (s.setTask i ((s.tasks i).setDelayUsec now delay))
  | .pick pool clock => some (s.pick pool clock).2
  | .executeBegin i now => some (s.setTask i ((s.tasks i).executeBegin now).2)
  | .executeEnd i now again result => some (s.setTask i ((s.tasks i).executeEnd now again result))

end TaskList

/-- Tasks that have not been started. -/
def taskList : Machine TaskList ListAct where
  init s := (∀ i, (s.tasks i).state = .init) ∧ s.started = [] ∧ s.queue = [] ∧ s.added = []
  step := TaskList.step

end Async
