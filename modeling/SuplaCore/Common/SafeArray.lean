import SuplaCore.Conn.AuthkeyCache
import SuplaCore.Lib.Ledger
import SuplaCore.Lib.Until

/-!
# The shared array

`supla-common/safearray.c` for one thread, so without its lock, which is recursive. Pointers are
compared and stored only: a `void *` is an `Option P`, and what is stored is never null. `realloc`
may fail, and then the old block stays; `granted` says whether it succeeds, the `n`-th time that one
operation calls it. An `int` is an `Int`: an array of 2^31 elements is left out, and so is a
callback of `safe_array_clean` that calls operations on the array.
-/

namespace SafeArray

variable {P : Type}

/-- The cells of the block `arr`, of which there are always `count`. -/
abbrev TSafeArray (P : Type) := List P

/-! ## Reading -/

/-- `safe_array_get`, null behind the end. -/
def get (s : TSafeArray P) (idx : Int) : Option P := if idx < 0 then none else s[idx.toNat]?

/-- `safe_array_find` -/
def find [DecidableEq P] (s : TSafeArray P) (ptr : Option P) : Int :=
  match ptr with
  | none => -1
  | some p =>
    match s.idxOf? p with
    | some a => a
    | none => -1

/-! ## Adding and deleting -/

/-- `safe_array_add`: the index of the new element, or -1. -/
def add (granted : Bool) (s : TSafeArray P) (ptr : Option P) : Int × TSafeArray P :=
  match ptr with
  | none => (-1, s)
  | some p => if granted then (s.length, s ++ [p]) else (-1, s)

/-- The last element is copied to the cell `i`. -/
def fillHole (s : TSafeArray P) (i : Nat) : TSafeArray P :=
  match s.getLast? with
  | some last => s.set i last
  | none => s

/-- The block without its last cell. Of a single cell nothing is left, whatever `realloc` says. -/
def shrink (granted : Bool) (s : TSafeArray P) : TSafeArray P :=
  if granted || s.length == 1 then s.take (s.length - 1) else s

/-- `safe_array_delete` -/
def delete (granted : Bool) (s : TSafeArray P) (idx : Int) : TSafeArray P :=
  if idx < 0 then s
  else if idx < s.length then
    shrink granted (if idx < s.length - 1 then fillHole s idx.toNat else s)
  else s

/-- `safe_array_remove` -/
def remove [DecidableEq P] (granted : Bool) (s : TSafeArray P) (ptr : Option P) : TSafeArray P :=
  delete granted s (find s ptr)

/-! ## Moving -/

/-- `safe_array_move_to_begin`; the loop is the one that the cache of authentications uses. -/
def moveToBegin (s : TSafeArray P) (idx : Int) : TSafeArray P :=
  if idx < 1 ∨ s.length ≤ idx then s else AuthkeyCache.moveToBegin idx.toNat s

/-- `for (; n > 0; n--, a++) arr[a - 1] = arr[a]` -/
def moveDown (s : TSafeArray P) (a : Nat) : Nat → TSafeArray P
  | 0 => s
  | n + 1 =>
    match s[a]? with
    | some p => moveDown (s.set (a - 1) p) (a + 1) n
    | none => s

/-- `safe_array_pop` -/
def pop (granted : Bool) (s : TSafeArray P) : Option P × TSafeArray P :=
  let result := get s 0
  let s := if result.isSome then moveDown s 1 (s.length - 1) else s
  (result, delete granted s (s.length - 1))

/-! ## Cleaning -/

/-- The variables of `safe_array_clean`, with the numbers of calls of `del_cnd` and `realloc`. -/
structure Cleaning (P : Type) where
  arr : TSafeArray P
  a : Nat := 0
  calls : Nat := 0
  reallocs : Nat := 0

/-- The head of the loop and one turn: whether there is one, and the call of `del_cnd`. The answer
of `del_cnd` may depend on the calls before, so on their number. -/
def cleanTurn (delCnd : Nat → P → Int8) (granted : Nat → Bool) (c : Cleaning P) :
    Bool × List (P × Int8) × Cleaning P :=
  match get c.arr c.a with
  | none => (false, [], c)
  | some ptr =>
    let answer := delCnd c.calls ptr
    if answer = 1 then
      (true, [(ptr, answer)],
        { arr := delete (granted c.reallocs) c.arr c.a
          a := c.a
          calls := c.calls + 1
          reallocs := c.reallocs + 1 })
    else (true, [(ptr, answer)], { c with a := c.a + 1, calls := c.calls + 1 })

/-- `safe_array_clean` ends, after these calls of `del_cnd` and with these elements. -/
def Cleans (delCnd : Nat → P → Int8) (granted : Nat → Bool) (s : TSafeArray P)
    (calls : List (P × Int8)) (s' : TSafeArray P) : Prop :=
  ∃ c, Until.Calls (cleanTurn delCnd granted) { arr := s } calls c ∧ c.arr = s'

/-! ## Operations -/

inductive Operation (P : Type)
  | add (ptr : Option P)
  | delete (idx : Int)
  | remove (ptr : Option P)
  | pop
  | moveToBegin (idx : Int)
  | clean (delCnd : Nat → P → Int8)

/-- What the caller gets. -/
inductive Result (P : Type)
  | index (n : Int)
  | nothing
  | ptr (p : Option P)
  | calls (l : List (P × Int8))

/-- An operation that returns. -/
inductive Exec [DecidableEq P] (granted : Nat → Bool) (s : TSafeArray P) :
    Operation P → Result P → TSafeArray P → Prop
  | add (ptr : Option P) : Exec granted s (.add ptr) (.index (add (granted 0) s ptr).1)
      (add (granted 0) s ptr).2
  | delete (idx : Int) : Exec granted s (.delete idx) .nothing (delete (granted 0) s idx)
  | remove (ptr : Option P) : Exec granted s (.remove ptr) .nothing (remove (granted 0) s ptr)
  | pop : Exec granted s .pop (.ptr (pop (granted 0) s).1) (pop (granted 0) s).2
  | moveToBegin (idx : Int) : Exec granted s (.moveToBegin idx) .nothing (moveToBegin s idx)
  | clean {delCnd : Nat → P → Int8} {calls : List (P × Int8)} {s' : TSafeArray P} :
      Cleans delCnd granted s calls s' → Exec granted s (.clean delCnd) (.calls calls) s'

/-- One operation of a run. -/
structure Step (P : Type) where
  op : Operation P
  granted : Nat → Bool
  before : TSafeArray P
  result : Result P
  after : TSafeArray P

def Step.Does [DecidableEq P] (s : TSafeArray P) (t : Step P) (s' : TSafeArray P) : Prop :=
  t.before = s ∧ t.after = s' ∧ Exec t.granted s t.op t.result s'

/-- The operations of one thread, one after the other, on a new array. -/
def Run [DecidableEq P] : List (Step P) → TSafeArray P → Prop := Ledger.Run Step.Does []

end SafeArray
