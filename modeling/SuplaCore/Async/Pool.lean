import SuplaCore.Async.Life

/-!
# The queue of tasks and its thread pools

`supla_asynctask_queue::iterate` and `pick`
(`supla-server/src/asynctask/asynctask_queue.cpp`) with `supla_abstract_asynctask_thread_pool`
(`abstract_asynctask_thread_pool.cpp`) for any number of pools, threads and tasks. A step is a
section under one lock:

* `iterate` holds the lock of the queue over its whole loop, so nothing is picked, added to the
  queue or removed from it until the loop is over. Within it `execution_request` looks whether the
  pool is terminated or held, then takes the pool's lock twice.
* a pool thread picks, executes, resets the request time or removes the task from the queue,
  removes it from the pool's requests, decides whether to go on, and leaves the list of threads in
  `on_thread_finish`.

Left out: the counters, the warnings and the buckets of a pool, the observers, and the event that
wakes the queue.
-/

namespace Async

open Sys

/-! ## Pools and their threads -/

/-- Where a pool thread stands. -/
inductive WorkerPc
  /-- before `queue->pick` -/
  | pick
  /-- before the first section of the task's `execute` -/
  | picked (i : Nat)
  /-- in `_execute` -/
  | running (i : Nat)
  /-- back from `execute` -/
  | done (i : Nat)
  /-- before `remove_task` of the pool -/
  | unlist (i : Nat)
  /-- before the section that decides to iterate -/
  | decide
  /-- before `on_thread_finish` -/
  | finish
  /-- not a thread, or not any more -/
  | gone
  /-- `pthread_create` failed: in the list of threads, but never run -/
  | dead
  deriving DecidableEq

/-- The task a thread has picked and not yet removed from the requests. -/
def WorkerPc.holds : WorkerPc → Option Nat
  | .picked i => some i
  | .running i => some i
  | .done i => some i
  | .unlist i => some i
  | _ => none

/-- A thread that runs and has not decided to stop. -/
def WorkerPc.undecided : WorkerPc → Bool
  | .finish => false
  | .gone => false
  | .dead => false
  | _ => true

structure Worker where
  pool : Nat
  pc : WorkerPc
  terminated : Bool

structure Pool where
  requests : List Nat
  threads : List Nat
  terminated : Bool
  holded : Bool

/-- `thread_count_limit` and `tasks_per_thread` of each pool. -/
structure Limits where
  threadCountLimit : Nat → Nat
  tasksPerThread : Nat → Nat

/-! ## The queue -/

/-- Where an `execution_request` stands. -/
inductive Request
  | gate (i : Nat)
  /-- before the section that lists the task -/
  | first (i : Nat)
  /-- before the section that may start a thread, with `req_count` -/
  | second (i : Nat) (reqCount : Nat)
  deriving DecidableEq

/-- `iterate` under way: the tasks still to look at. -/
structure Iteration where
  rest : List Nat
  now : Int
  request : Option Request

structure Pools where
  now : Int
  tasks : Nat → Task
  queue : List Nat
  iteration : Option Iteration
  pools : Nat → Pool
  workers : Nat → Worker

/-- What comes of `sthread_run`: no memory, a thread that could not be created, or a thread. -/
inductive Spawn
  | fails
  | dead (w : Nat)
  | runs (w : Nat)

inductive PoolAct
  | tick (us : Nat)
  /-- `start` of a task, with `add_task` -/
  | start (i : Nat)
  | delay (i : Nat) (delay : Int)
  | cancel (i : Nat)
  /-- `cancel_tasks`, for the tasks that meet its condition -/
  | cancelTasks (found : List Nat)
  | iterate
  | iterateStep (spawn : Spawn)
  /-- the next section of a thread, with the answers of `_execute` and of `should_keep_alive` -/
  | work (w : Nat) (again result keepAlive : Bool)
  | terminate (p : Nat)
  | hold (p : Nat)
  | unhold (p : Nat)

namespace Pools

def setTask (i : Nat) (t : Task) (s : Pools) : Pools :=
  { s with tasks := fun j => if j = i then t else s.tasks j }

def setPool (p : Nat) (pool : Pool) (s : Pools) : Pools :=
  { s with pools := fun q => if q = p then pool else s.pools q }

def setPc (w : Nat) (pc : WorkerPc) (s : Pools) : Pools :=
  { s with workers := fun v => if v = w then { s.workers w with pc := pc } else s.workers v }

/-- The pool of a task. -/
def poolOf (s : Pools) (i : Nat) : Nat := (s.tasks i).pool

/-! ## `execution_request` -/

def setRequest (it : Iteration) (r : Option Request) (s : Pools) : Pools :=
  { s with iteration := some { it with request := r } }

def firstSection (it : Iteration) (i : Nat) (s : Pools) : Pools :=
  let p := s.poolOf i
  let pool := s.pools p
  if i ∈ pool.requests then s.setRequest it none
  else
    ((s.setTask i { s.tasks i with executionRequested := true }).setPool p
      { pool with requests := pool.requests ++ [i] }).setRequest it
        (some (.second i (pool.requests.length + 1)))

/-- A thread is to be started. -/
def wantsThread (l : Limits) (p : Nat) (pool : Pool) (reqCount : Nat) : Bool :=
  pool.threads.length < l.threadCountLimit p &&
    (l.tasksPerThread p == 0 || l.tasksPerThread p * pool.threads.length < reqCount)

/-- `sthread_run` and the entry in the list of threads. -/
def startThread (p : Nat) (spawn : Spawn) (s : Pools) : Option Pools :=
  let add (w : Nat) (pc : WorkerPc) : Option Pools :=
    if (s.workers w).pc = .gone then
      some ({ s with workers := fun v => if v = w then ⟨p, pc, false⟩ else s.workers v }.setPool p
        { s.pools p with threads := (s.pools p).threads ++ [w] })
    else none
  match spawn with
  | .fails => some s
  | .dead w => add w .dead
  | .runs w => add w .pick

def secondSection (l : Limits) (it : Iteration) (i reqCount : Nat) (spawn : Spawn) (s : Pools) :
    Option Pools :=
  let p := s.poolOf i
  if wantsThread l p (s.pools p) reqCount then
    (s.startThread p spawn).map (setRequest it none)
  else some (s.setRequest it none)

/-- The test of `iterate` for one task. -/
def toRequest (s : Pools) (now : Int) (i : Nat) : Bool :=
  !(s.tasks i).executionRequested && decide ((s.tasks i).state = .waiting) &&
    decide ((s.tasks i).timeLeftUsec now ≤ 0)

def iterateStep (l : Limits) (spawn : Spawn) (s : Pools) : Option Pools :=
  match s.iteration with
  | none => none
  | some it =>
    match it.request with
    | none =>
      match it.rest with
      | [] => some { s with iteration := none }
      | i :: rest =>
        let r := if s.toRequest it.now i then some (Request.gate i) else none
        some { s with iteration := some { it with rest := rest, request := r } }
    | some (.gate i) =>
      let pool := s.pools (s.poolOf i)
      some (s.setRequest it (if pool.terminated || pool.holded then none else some (.first i)))
    | some (.first i) => some (s.firstSection it i)
    | some (.second i reqCount) => s.secondSection l it i reqCount spawn

/-! ## Pool threads -/

/-- The task that `pick` finds. -/
def findDue (s : Pools) (p : Nat) : Option Nat :=
  s.queue.find? fun i => decide ((s.tasks i).state = .waiting) && decide (s.poolOf i = p) &&
    decide ((s.tasks i).timeLeftUsec s.now ≤ 0)

/-- A thread goes on, for all the lists say. -/
def goesOn (worker : Worker) (pool : Pool) (keepAlive : Bool) : Bool :=
  !worker.terminated && (decide (pool.threads.length ≤ pool.requests.length) || keepAlive)

/-- `on_thread_finish`. -/
def leave (w : Nat) (pool : Pool) : Pool :=
  let threads := pool.threads.erase w
  { pool with threads := threads, requests := if threads.isEmpty then [] else pool.requests }

def workStep (w : Nat) (again result keepAlive : Bool) (s : Pools) : Option Pools :=
  let p := (s.workers w).pool
  match (s.workers w).pc with
  | .pick =>
    if s.iteration.isNone then
      match s.findDue p with
      | some i => some ((s.setTask i (s.tasks i).pick.2).setPc w (.picked i))
      | none => some (s.setPc w .decide)
    else none
  | .picked i =>
    let r := (s.tasks i).executeBegin s.now
    some ((s.setTask i r.2).setPc w (if r.1 then .running i else .done i))
  | .running i =>
    some ((s.setTask i ((s.tasks i).executeEnd s.now again result)).setPc w (.done i))
  | .done i =>
    if (s.tasks i).isFinished then
      if s.iteration.isNone then
        some ({ s with queue := s.queue.erase i }.setPc w (.unlist i))
      else none
    else
      some ((s.setTask i { s.tasks i with executionRequested := false }).setPc w (.unlist i))
  | .unlist i =>
    some ((s.setPool p { s.pools p with requests := (s.pools p).requests.erase i }).setPc w .decide)
  | .decide =>
    some (s.setPc w (if goesOn (s.workers w) (s.pools p) keepAlive then .pick else .finish))
  | .finish => some ((s.setPool p (leave w (s.pools p))).setPc w .gone)
  | .gone => none
  | .dead => none

/-! ## The machine -/

/-- Tasks canceled and taken off the queue. -/
def cancelAll (found : List Nat) (s : Pools) : Pools :=
  { s with
    tasks := fun i => if i ∈ found then (s.tasks i).cancel else s.tasks i
    queue := s.queue.filter (· ∉ found) }

def step (l : Limits) (s : Pools) : PoolAct → Option Pools
  | .tick us => some { s with now := s.now + us }
  | .start i =>
    if s.iteration.isNone && (s.tasks i).start.1 then
      some ({ s with queue := Life.insert s.tasks i s.queue }.setTask i (s.tasks i).start.2)
    else none
  | .delay i delay => some (s.setTask i ((s.tasks i).setDelayUsec s.now delay))
  | .cancel i => some (s.setTask i (s.tasks i).cancel)
  | .cancelTasks found => if s.iteration.isNone then some (s.cancelAll found) else none
  | .iterate =>
    if s.iteration.isNone then some { s with iteration := some ⟨s.queue, s.now, none⟩ } else none
  | .iterateStep spawn => s.iterateStep l spawn
  | .work w again result keepAlive => s.workStep w again result keepAlive
  | .terminate p =>
    some ({ s with
      workers := fun w => if w ∈ (s.pools p).threads then { s.workers w with terminated := true }
        else s.workers w }.setPool p { s.pools p with terminated := true })
  | .hold p => some (s.setPool p { s.pools p with holded := true })
  | .unhold p => some (s.setPool p { s.pools p with holded := false })

end Pools

/-- Tasks that have not been started, and pools without threads. -/
def pools (l : Limits) : Machine Pools PoolAct where
  init s := (∀ i, (s.tasks i).state = .init ∧ (s.tasks i).executionRequested = false) ∧
    s.queue = [] ∧ s.iteration = none ∧ (∀ p, s.pools p = ⟨[], [], false, false⟩) ∧
    ∀ w, (s.workers w).pc = .gone
  step := Pools.step l

end Async
