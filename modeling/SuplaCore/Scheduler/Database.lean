import Mathlib.Data.List.Basic

/-!
# The rows of `supla_scheduled_executions`

The statements of `supla-scheduler/src/database.cpp`, one row at a time: `UPDATE … WHERE` is a
condition on the row and the new row, and `mysql_stmt_affected_rows` is 1 exactly when the
condition holds (each statement changes a column of every row it hits). Times are the seconds of
`UTC_TIMESTAMP()`.
-/

namespace Scheduler

/-- `ACTION_EXECUTION_RESULT_*`. -/
inductive ActionResult
  | success
  | deviceUnreachable
  | noSensor
  | expired
  | zombie
  | serverUnreachable
  | failure
  | cancelled
  | executedWithoutConfirmation
  | valveClosedManuallyOrFlooding
  deriving Repr, DecidableEq

/-- `EXPIRE_TIME`: 5 min since `planned_timestamp`. -/
def expireTime : Nat := 300

/-- `ZOMBIE_TIME`: 1 min since `fetched_timestamp`. -/
def zombieTime : Nat := 60

/-- A row of `supla_scheduled_executions`. -/
structure Execution where
  plannedTimestamp : Nat
  retryTimestamp : Option Nat
  retryCount : Option Nat
  fetchedTimestamp : Option Nat
  resultTimestamp : Option Nat
  result : Option ActionResult
  consumed : Bool
  deriving Repr, DecidableEq

/-- A row as the schedule generator inserts it. -/
def Execution.planned (time : Nat) : Execution := ⟨time, none, none, none, none, none, false⟩

/-- `s_exec->retry_count`: `NULL` is read as 0. -/
def Execution.retries (e : Execution) : Nat := e.retryCount.getD 0

/-- The rows `get_s_executions` selects. -/
def Execution.selected (now : Nat) (e : Execution) : Bool :=
  e.resultTimestamp.isNone && e.fetchedTimestamp.isNone &&
    match e.retryTimestamp with
    | none => e.plannedTimestamp ≤ now
    | some t => t ≤ now

/-- `UPDATE supla_scheduled_executions SET set WHERE cond`. -/
structure Update where
  cond : Execution → Bool
  set : Execution → Execution

def Update.apply (u : Update) (e : Execution) : Execution := if u.cond e then u.set e else e

def Update.setExpiredResult (now : Nat) : Update where
  cond e := e.result.isNone && e.fetchedTimestamp.isNone &&
    decide (e.plannedTimestamp + expireTime ≤ now)
  set e := { e with resultTimestamp := some now, result := some .expired }

def Update.setZombieResult (now : Nat) : Update where
  cond e := e.result.isNone && match e.fetchedTimestamp with
    | none => false
    | some t => t + zombieTime ≤ now
  set e := { e with resultTimestamp := some now, result := some .zombie }

def Update.setFetched (now : Nat) : Update where
  cond e := e.fetchedTimestamp.isNone
  set e := { e with consumed := true, fetchedTimestamp := some now }

def Update.setRetry (now : Nat) (sec : Int) : Update where
  cond e := e.fetchedTimestamp.isSome
  set e := { e with
    fetchedTimestamp := none
    retryTimestamp := some (now + sec).toNat
    retryCount := some (e.retries + 1) }

def Update.setResult (now : Nat) (r : ActionResult) : Update where
  cond e := e.fetchedTimestamp.isSome
  set e := { e with fetchedTimestamp := none, resultTimestamp := some now, result := some r }

end Scheduler
