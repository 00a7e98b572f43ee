import SuplaCore.Push.Locking

/-!
# Who may look at the counters

Six of the operations keep their accesses in one section under the lock, so threads that call only
these exclude one another (`exclusive`). `get_limit` begins with an unlock: a call of it is an error
at once (`getLimit_error`), and it goes over the list while another thread has the lock
(`getLimit_breaks`).
-/

namespace Push

open Mutex Sys

/-- **Mutual exclusion**: one thread at a time goes over `items`, nobody gives back a lock it does
not have, and the lock is free when nobody is in an operation. -/
structure Exclusive (s : State Nat Member) : Prop where
  alone : ∀ t u, (s.threads t).Accessing .items → (s.threads u).Accessing .items → t = u
  errors : s.errors = []
  free : (∀ t, (s.threads t).rest = []) → s.lock.owner = none

/-- The threads call the other six operations. -/
def NotGetLimit (_ : State Nat Member) : Act Nat LockedOp → Prop
  | .call _ (.getLimit _) => False
  | _ => True

theorem oneSection_program {op : LockedOp} (h : ∀ n, op ≠ .getLimit n) :
    OneSection 0 op.program := by
  cases op with
  | getLimit n => exact absurd rfl (h n)
  | getTimeWindowSec | setTimeWindowSec | isDeliveryPossible | onMessageNotSent | getUserCount
  | getCount => exact oneSection_accesses _

theorem inv_reach {s : State Nat Member} (h : Reach throttling NotGetLimit s) : Inv s :=
  h.invariant (fun _ hinit => .init hinit) fun hok hinv hs =>
    hinv.step (fun t op ha => oneSection_program fun n hn => by
      subst ha hn
      exact hok) hs

/-- **Mutual exclusion** in every run without a call of `get_limit`. -/
theorem exclusive {s : State Nat Member} (h : Reach throttling NotGetLimit s) : Exclusive s :=
  ⟨fun _ _ => (inv_reach h).alone, (inv_reach h).errors, (inv_reach h).free⟩

/-- The first instruction of a call of `get_limit` is an error. -/
theorem getLimit_error {s : State Nat Member} (h : Reach throttling NotGetLimit s) {t : Nat}
    (hidle : (s.threads t).rest = []) (n : Nat) :
    ∃ s', throttling.run s [.call t (.getLimit n), .next t] = some s' ∧ t ∈ s'.errors := by
  have hunlock := RecLock.unlock_eq_none ((inv_reach h).idle hidle)
  simp only [Machine.run, machine, hidle, Option.bind_some, State.setThread, LockedOp.program,
    if_true, State.exec, hunlock]
  exact ⟨_, rfl, List.mem_cons_self⟩

/-! ## Runs -/

def allIdle : State Nat Member := ⟨.free, fun _ => ⟨[], []⟩, []⟩

theorem init_allIdle : throttling.init allIdle := ⟨rfl, fun _ => rfl, rfl⟩

/-- A thread is on its way through the list, another one waits for the lock. -/
theorem exclusive_two : ∃ s, Reach throttling NotGetLimit s ∧
    ((s.threads 0).Accessing .items ∧ (s.threads 1).rest = locked [.items]) ∧ Exclusive s := by
  have hreach : Reach throttling NotGetLimit _ :=
    ((((Reach.init init_allIdle).act (.call 0 (.isDeliveryPossible 2 true 3)) trivial rfl).act
      (.next 0) trivial rfl).act (.next 0) trivial rfl).act (.call 1 (.getCount 1)) trivial rfl
  refine ⟨_, hreach, ⟨⟨?_, .inl ?_⟩, ?_⟩, exclusive hreach⟩ <;> decide

/-- While a thread adds an item, another one asks for the limit of a user. -/
theorem getLimit_breaks : ∃ s, Reach throttling Any s ∧ ¬ Exclusive s ∧
    (s.threads 0).Accessing .items ∧ (s.threads 1).Accessing .items ∧ s.errors = [1] := by
  have hreach : Reach throttling Any _ :=
    (((((Reach.init init_allIdle).act (.call 0 (.isDeliveryPossible 1 false 6)) trivial rfl).act
      (.next 0) trivial rfl).act (.next 0) trivial rfl).act (.call 1 (.getLimit 1)) trivial rfl).act
        (.next 1) trivial rfl
  refine ⟨_, hreach, fun h => ?_, ⟨?_, .inl ?_⟩, ⟨?_, .inr ?_⟩, rfl⟩
  · cases h.errors
  all_goals decide

end Push
