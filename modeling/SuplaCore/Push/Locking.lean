import SuplaCore.Lib.Mutex

/-!
# The lock of the throttling

The operations of `supla_pn_throttling` (`supla-server/src/push/pn_throttling.cpp`) as the programs
that they are to its lock: `lck_lock`, `lck_unlock` and the accesses to the members in between. The
lock is a `PTHREAD_MUTEX_RECURSIVE` (`supla-common/lck.c`). How often an operation accesses `items`
depends on what is in the list, so these numbers are arguments.
-/

namespace Push

open Mutex

/-- The members that the lock is there for. -/
inductive Member
  | timeWindowSec
  | items
  deriving DecidableEq

inductive LockedOp
  | getTimeWindowSec
  | setTimeWindowSec
  /-- `time_window_sec` is read where the item has a `first_time`, after `n` accesses. -/
  | isDeliveryPossible (n : Nat) (readsWindow : Bool) (m : Nat)
  | onMessageNotSent (n : Nat)
  | getUserCount
  | getCount (n : Nat)
  | getLimit (n : Nat)

/-- `lck_lock`, accesses, `lck_unlock`. -/
def locked (members : List Member) : List (Instr Member) :=
  .lock :: (members.map .access ++ [.unlock])

def LockedOp.program : LockedOp → List (Instr Member)
  | getTimeWindowSec => locked [.timeWindowSec]
  | setTimeWindowSec => locked [.timeWindowSec]
  | isDeliveryPossible n readsWindow m =>
    locked (List.replicate n .items ++ (if readsWindow then [.timeWindowSec] else []) ++
      List.replicate m .items)
  | onMessageNotSent n => locked (List.replicate n .items)
  | getUserCount => locked [.items]
  | getCount n => locked (List.replicate n .items)
  -- `lck_unlock` where the others have `lck_lock`
  | getLimit n => .unlock :: ((List.replicate n .items).map .access ++ [.unlock])

/-- Any number of threads. -/
abbrev throttling : Sys.Machine (State Nat Member) (Act Nat LockedOp) := machine LockedOp.program

end Push
