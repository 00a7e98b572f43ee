import SuplaCore.Lib.Sys
import SuplaCore.Scheduler.Action

/-!
# The scheduler's queue and its workers

`queue` (`supla-scheduler/src/queue.cpp`) and `s_abstract_worker::execute`
(`abstract_worker.cpp`) as a machine: one queue thread, any number of worker threads and the table
of executions. Every SQL statement, every section under `lck` and every `safe_array` operation is
one step; `calls` of a worker are the calls of `s_worker_action::execute` still to be made.

`executed` is not in the source: it records the executions handed to `action->execute()`, each
with the `retry_count` the worker had read.
-/

namespace Scheduler

open Sys

/-- `s_exec_params_t`, as far as workers read it: `action` is `none` where no factory supports the
action type. -/
structure SExecParams where
  id : Nat
  retryCount : Nat
  action : Option SWorkerAction
  deriving Repr, DecidableEq

inductive WorkerPc
  /-- before `db->connect()` -/
  | start
  /-- before the tests of `get_job` -/
  | getJob
  /-- before `safe_array_pop` -/
  | pop
  /-- before the locked section of `get_job` -/
  | popped (job : SExecParams)
  /-- at the end of `get_job`, before `new_worker` -/
  | spawn (job : Option SExecParams)
  /-- before `set_fetched` -/
  | fetch (job : SExecParams)
  /-- before `mark_fetched` -/
  | mark (job : SExecParams)
  /-- before the action is created -/
  | run (job : SExecParams)
  /-- in `action->execute()` -/
  | calls (job : SExecParams) (cs : List Call)
  | done
  deriving Repr, DecidableEq

inductive QueuePc
  | top
  | clean
  | count
  | waitForFetch
  | limitExceeded
  | connect
  | zombie (limit : Nat)
  | overdue (limit : Nat)
  | select (limit : Nat)
  | newWorker
  | stopped
  deriving Repr, DecidableEq

structure Queue where
  maxWorkers : Nat
  maxJobPerSecond : Nat
  now : Nat
  terminated : Bool
  rows : Nat → Option Execution
  sExecArr : List SExecParams
  jobCounter : Nat
  totalFetchCount : Nat
  waitForFetchCounter : Nat
  lastGet : Nat
  timer : Nat
  timerOneMin : Nat
  /-- `workers_thread_arr` -/
  workersThreadArr : List Nat
  workers : Nat → WorkerPc
  spawned : Nat
  pc : QueuePc
  executed : List (Nat × Nat)

/-- What the environment decides in a step of the queue thread. -/
structure QueueEnv where
  /-- the connection and the statement succeed -/
  dbOk : Bool
  /-- the rows selected, each with the action that the joined tables give -/
  selected : List (Nat × Option SWorkerAction)

/-- What the environment decides in a step of a worker. -/
structure WorkerEnv where
  dbOk : Bool
  terminated : Bool
  outcomes : Outcomes

inductive QueueAct
  /-- the clock -/
  | tick (now : Nat)
  /-- a row is inserted -/
  | plan (id : Nat) (time : Nat)
  | terminate
  | queue (e : QueueEnv)
  | worker (w : Nat) (e : WorkerEnv)

namespace Queue

/-- A statement without an id. -/
def updateAll (u : Update) (s : Queue) : Queue :=
  { s with rows := fun id => (s.rows id).map u.apply }

/-- A statement with `WHERE id = ?`. -/
def updateRow (id : Nat) (u : Update) (s : Queue) : Queue :=
  { s with rows := fun i => if i = id then (s.rows i).map u.apply else s.rows i }

/-- `mysql_stmt_affected_rows(stmt) == 1`. -/
def affects (id : Nat) (u : Update) (s : Queue) : Bool := (s.rows id).any u.cond

def setPc (w : Nat) (p : WorkerPc) (s : Queue) : Queue :=
  { s with workers := fun i => if i = w then p else s.workers i }

def newWorker (s : Queue) : Queue :=
  if s.terminated ∨ s.workersThreadArr.length ≥ s.maxWorkers then s
  else
    { s with
      workersThreadArr := s.workersThreadArr ++ [s.spawned]
      workers := fun i => if i = s.spawned then .start else s.workers i
      spawned := s.spawned + 1 }

/-- The job made of a row. -/
def job (s : Queue) (x : Nat × Option SWorkerAction) : Option SExecParams :=
  (s.rows x.1).bind fun e =>
    if e.selected s.now then some ⟨x.1, e.retries, x.2⟩ else none

def queueStep (env : QueueEnv) (s : Queue) : Option Queue :=
  match s.pc with
  | .top =>
    if s.terminated then some { s with pc := .stopped }
    else if s.timer + 1 ≤ s.now then some { s with jobCounter := 0, timer := s.now, pc := .clean }
    else some { s with pc := .clean }
  | .clean =>
    some { s with
      workersThreadArr := s.workersThreadArr.filter fun w => s.workers w ≠ .done
      pc := .count }
  | .count => some { s with pc := if s.sExecArr.length > 0 then .newWorker else .waitForFetch }
  | .waitForFetch =>
    let c := if s.workersThreadArr.length = 0 then 0 else s.waitForFetchCounter
    some { s with
      waitForFetchCounter := c
      pc := if c > 0 ∧ (s.lastGet : Int) - s.now < 5 then .newWorker else .limitExceeded }
  | .limitExceeded =>
    some { s with pc := if s.jobCounter ≥ s.maxJobPerSecond then .newWorker else .connect }
  | .connect =>
    let limit := s.maxWorkers * 10 - s.sExecArr.length
    if limit = 0 ∨ env.dbOk = false then some { s with pc := .newWorker }
    else if s.timerOneMin + 60 ≤ s.now then
      some { s with timerOneMin := s.now, pc := .zombie limit }
    else some { s with pc := .select limit }
  | .zombie limit =>
    let s' := if env.dbOk then s.updateAll (.setZombieResult s.now) else s
    some { s' with pc := .overdue limit }
  | .overdue limit =>
    let s' := if env.dbOk then s.updateAll (.setExpiredResult s.now) else s
    some { s' with pc := .select limit }
  | .select limit =>
    match env.selected.mapM s.job with
    | none => none
    | some jobs =>
      if jobs.length ≤ limit ∧ (env.selected.map Prod.fst).Nodup then
        some { s with sExecArr := s.sExecArr ++ jobs, pc := .newWorker }
      else none
  | .newWorker =>
    let s' := if s.sExecArr.length > 0 ∧ s.workersThreadArr.length = 0 then s.newWorker else s
    some { s' with pc := .top }
  | .stopped => none

/-- The statement of a call. -/
def call (id : Nat) (c : Call) (s : Queue) : Queue :=
  match c with
  | .setResult r => s.updateRow id (.setResult s.now r)
  | .setRetry sec => s.updateRow id (.setRetry s.now sec)
  | _ => s

def workerStep (w : Nat) (env : WorkerEnv) (s : Queue) : Option Queue :=
  match s.workers w with
  | .start => some (s.setPc w (if env.dbOk then .getJob else .done))
  | .getJob =>
    some (s.setPc w
      (if s.terminated ∨ s.jobCounter ≥ s.maxJobPerSecond then .done else .pop))
  | .pop =>
    match s.sExecArr with
    | [] => some (s.setPc w (.spawn none))
    | j :: rest => some ({ s with sExecArr := rest }.setPc w (.popped j))
  | .popped j =>
    some ({ s with
      waitForFetchCounter := s.waitForFetchCounter + 1
      jobCounter := s.jobCounter + 1
      lastGet := s.now }.setPc w (.spawn (some j)))
  | .spawn j =>
    let s' := if s.sExecArr.length > 0 then s.newWorker else s
    match j with
    | none => some (s'.setPc w .done)
    | some j => some (s'.setPc w (if j.id = 0 ∨ env.terminated then .done else .fetch j))
  | .fetch j =>
    if env.dbOk ∧ s.affects j.id (.setFetched s.now) then
      some ((s.updateRow j.id (.setFetched s.now)).setPc w (.mark j))
    else some (s.setPc w (.run j))
  | .mark j =>
    some ({ s with
      totalFetchCount := s.totalFetchCount + 1
      waitForFetchCounter := s.waitForFetchCounter - 1 }.setPc w (.run j))
  | .run j =>
    match j.action with
    | some a =>
      some ({ s with executed := s.executed ++ [(j.id, j.retryCount)] }.setPc w
        (.calls j (a.execute j.retryCount env.outcomes)))
    | none => some (s.setPc w (.calls j [.setResult .cancelled]))
  | .calls _ [] => some (s.setPc w .getJob)
  | .calls j (c :: cs) => some ((if env.dbOk then s.call j.id c else s).setPc w (.calls j cs))
  | .done => none

def step (s : Queue) : QueueAct → Option Queue
  | .tick now => if s.now ≤ now then some { s with now := now } else none
  | .plan id time =>
    if s.rows id = none then
      some { s with rows := fun i => if i = id then some (.planned time) else s.rows i }
    else none
  | .terminate => some { s with terminated := true }
  | .queue e => s.queueStep e
  | .worker w e => s.workerStep w e

/-- A queue that has just been created, over any table in which result and time of it stand
together. -/
structure Start (s : Queue) : Prop where
  rows : ∀ id e, s.rows id = some e → (e.result = none ↔ e.resultTimestamp = none)
  arr : s.sExecArr = []
  workers : ∀ w, s.workers w = .done
  threads : s.workersThreadArr = []
  spawned : s.spawned = 0
  counters : s.jobCounter = 0 ∧ s.totalFetchCount = 0 ∧ s.waitForFetchCounter = 0
  timers : s.timer = 0 ∧ s.timerOneMin = 0
  pc : s.pc = .top
  executed : s.executed = []

end Queue

/-- The queue with its workers. -/
def queue : Machine Queue QueueAct where
  init := Queue.Start
  step := Queue.step

end Scheduler
