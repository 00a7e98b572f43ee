import SuplaCore.Lib.Sys
import SuplaCore.Async.Task

/-!
# The life of tasks

The functions of `supla_abstract_asynctask` as they are called by any number of threads: `start`
by its owner, `supla_asynctask_queue::pick` and `execute` by pool threads
(`abstract_asynctask_thread_pool.cpp`), `cancel` by anyone, and the destructor once nobody refers
to the task. A step is a section under one lock; `pick` of the queue looks at the task's state
under the task's lock and picks it under that lock again, so a `cancel` may fall in between.

`log` records the calls of the queue's `on_task_started` and `on_task_finished`, each of which
notifies every registered observer once.
-/

namespace Async

open Sys

/-- A call to the observers. -/
inductive Note
  | started (i : Nat)
  | finished (i : Nat)
  deriving Repr, DecidableEq

def Note.task : Note → Nat
  | .started i => i
  | .finished i => i

/-- Where a thread stands. -/
inductive LifePc
  | idle
  /-- in `start`, before `on_task_started` -/
  | started (i : Nat)
  /-- in `start`, before `add_task` -/
  | add (i : Nat)
  /-- before the first section of `execute` -/
  | picked (i : Nat)
  /-- before `_execute` -/
  | begun (i : Nat)
  /-- in `_execute` -/
  | running (i : Nat)
  /-- before `is_finished` at the end of `execute` -/
  | tail (i : Nat)
  /-- in `on_task_finished`, before its test -/
  | check (i : Nat)
  /-- in `on_task_finished`, past its test -/
  | note (i : Nat)
  /-- back in the pool, before the task is put away -/
  | putAway (i : Nat)
  deriving Repr, DecidableEq

/-- The task a thread refers to. -/
def LifePc.holds : LifePc → Option Nat
  | .idle => none
  | .started i => some i
  | .add i => some i
  | .picked i => some i
  | .begun i => some i
  | .running i => some i
  | .tail i => some i
  | .check i => some i
  | .note i => some i
  | .putAway i => some i

structure Life where
  /-- the number of tasks created so far -/
  created : Nat
  tasks : Nat → Task
  destroyed : Nat → Bool
  /-- `tasks` of the queue -/
  queue : List Nat
  threadCount : Nat
  threads : Nat → LifePc
  log : List Note

inductive LifeAct
  /-- a task is constructed -/
  | create (t : Task)
  | start (th : Nat) (i : Nat)
  /-- a thread of `pool` picks; `canceled`: a `cancel` falls between the look and the pick -/
  | pick (th : Nat) (i : Nat) (pool : Nat) (now : Int) (canceled : Bool)
  /-- the next step of a thread; the arguments are what `_execute` answers -/
  | next (th : Nat) (now : Int) (again result : Bool)
  /-- `_execute` sets a new delay -/
  | delay (i : Nat) (now delay : Int)
  | cancel (i : Nat)
  /-- `remove_task` of the queue by another thread -/
  | remove (i : Nat)
  | destroy (i : Nat)

namespace Life

/-- A task that exists. -/
def alive (s : Life) (i : Nat) : Bool := i < s.created ∧ s.destroyed i = false

def setTask (i : Nat) (t : Task) (s : Life) : Life :=
  { s with tasks := fun j => if j = i then t else s.tasks j }

def setThread (th : Nat) (p : LifePc) (s : Life) : Life :=
  { s with threads := fun k => if k = th then p else s.threads k }

/-- Some thread refers to the task. -/
def referenced (s : Life) (i : Nat) : Bool :=
  (List.range s.threadCount).any fun th => (s.threads th).holds = some i

/-- `add_task`: before the first task of a lower priority. -/
def insert (tasks : Nat → Task) (i : Nat) : List Nat → List Nat
  | [] => [i]
  | j :: js => if (tasks j).priority < (tasks i).priority then i :: j :: js
    else j :: insert tasks i js

theorem insert_perm (tasks : Nat → Task) (i : Nat) (q : List Nat) :
    (insert tasks i q).Perm (i :: q) := by
  induction q with
  | nil => exact .refl _
  | cons j q ih =>
    rw [insert]
    split
    · exact .refl _
    · exact (ih.cons j).trans (.swap i j q)

theorem mem_insert {tasks : Nat → Task} {i j : Nat} {q : List Nat} :
    j ∈ insert tasks i q ↔ j = i ∨ j ∈ q :=
  (insert_perm tasks i q).mem_iff.trans List.mem_cons

def nextStep (th : Nat) (now : Int) (again result : Bool) (s : Life) : Option Life :=
  match s.threads th with
  | .idle => none
  | .started i => some ({ s with log := s.log ++ [Note.started i] }.setThread th (.add i))
  | .add i => some ({ s with queue := insert s.tasks i s.queue }.setThread th .idle)
  | .picked i =>
    some ((s.setTask i ((s.tasks i).executeBegin now).2).setThread th
      (if ((s.tasks i).executeBegin now).1 then .begun i else .tail i))
  | .begun i => some (s.setThread th (.running i))
  | .running i =>
    some ((s.setTask i ((s.tasks i).executeEnd now again result)).setThread th (.tail i))
  | .tail i => some (s.setThread th (if (s.tasks i).isFinished then .check i else .putAway i))
  | .check i =>
    some (s.setThread th
      (if (s.tasks i).observable && !(s.tasks i).observerNotified then .note i else .putAway i))
  | .note i =>
    some (({ s with log := s.log ++ [Note.finished i] }.setTask i
      { s.tasks i with observerNotified := true }).setThread th (.putAway i))
  | .putAway i =>
    if (s.tasks i).isFinished then
      some ({ s with queue := s.queue.erase i }.setThread th .idle)
    else
      some ((s.setTask i { s.tasks i with executionRequested := false }).setThread th .idle)

def step (s : Life) : LifeAct → Option Life
  | .create t =>
    if t.state = .init ∧ t.observerNotified = false then
      some ({ s with created := s.created + 1 }.setTask s.created t)
    else none
  | .start th i =>
    if th < s.threadCount ∧ s.threads th = .idle ∧ s.alive i ∧ (s.tasks i).start.1 then
      some ((s.setTask i (s.tasks i).start.2).setThread th (.started i))
    else none
  | .pick th i pool now canceled =>
    if th < s.threadCount ∧ s.threads th = .idle ∧ i ∈ s.queue ∧
        (s.tasks i).state = .waiting ∧ (s.tasks i).pool = pool ∧
        (s.tasks i).timeLeftUsec now ≤ 0 then
      let t := if canceled then (s.tasks i).cancel else s.tasks i
      some ((s.setTask i t.pick.2).setThread th (.picked i))
    else none
  | .next th now again result => s.nextStep th now again result
  | .delay i now delay =>
    if s.alive i then some (s.setTask i ((s.tasks i).setDelayUsec now delay)) else none
  | .cancel i => if s.alive i then some (s.setTask i (s.tasks i).cancel) else none
  | .remove i => some { s with queue := s.queue.erase i }
  | .destroy i =>
    if s.alive i ∧ i ∉ s.queue ∧ s.referenced i = false then
      some { s with
        destroyed := fun j => if j = i then true else s.destroyed j
        log := if (s.tasks i).observable && !(s.tasks i).observerNotified then
            s.log ++ [.finished i]
          else s.log }
    else none

end Life

/-- Tasks and the threads that work on them. -/
def life : Machine Life LifeAct where
  init s := s.created = 0 ∧ s.queue = [] ∧ s.log = [] ∧ (∀ th, s.threads th = .idle) ∧
    ∀ i, s.destroyed i = false
  step := Life.step

end Async
