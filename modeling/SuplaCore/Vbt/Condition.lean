import Mathlib.Data.Option.Basic
import Mathlib.Data.List.Basic

/-!
# The condition of a value-based trigger

`supla_vbt_on_change_condition` (`supla-server/src/vbt/vbt_on_change_condition.cpp`). A condition
is met by a change of a channel value, at once or after it has held for `duration_sec`: the first
change that meets the operator sets a deadline and saves the value before it, later changes are
compared with the saved value, and one that fails clears the deadline. The clock is in
microseconds, like `struct timeval`.

Left out: the parsing of the JSON texts a condition is made from.
-/

namespace Vbt

/-- The `double` values and the variables of a channel value, as far as conditions use them.
Equality of `D` is the comparison `==`: the values of a condition come from JSON numbers and are
never NaN. -/
structure Values where
  D : Type
  Var : Type
  decEqD : DecidableEq D
  decEqVar : DecidableEq Var
  /-- `fabs(a - b) <= 0.000001`. -/
  near : D → D → Bool
  /-- `fabs(a - b) > 0.000001`. -/
  far : D → D → Bool
  /-- `a < b`. -/
  lt : D → D → Bool
  /-- `a <= b`. -/
  le : D → D → Bool
  zero : D

variable {V : Values}

instance : DecidableEq V.D := V.decEqD
instance : DecidableEq V.Var := V.decEqVar

inductive Operator
  | unknown
  | eq
  | ne
  | le
  | lt
  | gt
  | ge
  deriving DecidableEq

/-- A value of a channel, by the variables that `get_vbt_value` finds in it. -/
abbrev ChannelValue (V : Values) : Type := V.Var → Option V.D

/-- What a condition is made of. -/
structure ConditionDef (V : Values) where
  value : V.D
  varName : V.Var
  op : Operator
  resumeOp : Operator
  resumeValue : V.D
  onChange : Bool
  durationSec : Int
  deriving DecidableEq

/-- A condition and what it remembers: `conditionMetAt` is the deadline, `none` where `tv_sec` is
zero. -/
structure Condition (V : Values) where
  definition : ConditionDef V
  paused : Bool
  savedOldValue : V.D
  conditionMetAt : Option Nat

/-- A condition as the constructor leaves it. -/
def Condition.ofDef (d : ConditionDef V) : Condition V := ⟨d, false, V.zero, none⟩

/-- `operator==`: two conditions are compared by the operators and their values. -/
def ConditionDef.equal (a b : ConditionDef V) : Bool :=
  decide (a.value = b.value) && decide (a.varName = b.varName) && decide (a.op = b.op) &&
    decide (a.resumeOp = b.resumeOp) && decide (a.resumeValue = b.resumeValue)

/-- `is_condition_met(op, old_value, new_value, expected)`. -/
def operatorMet (op : Operator) (old new expected : V.D) : Bool :=
  if V.near old new then false
  else match op with
    | .eq => V.near new expected
    | .ne => V.far new expected
    | .gt => V.lt expected new && V.le old expected
    | .lt => V.lt new expected && V.le expected old
    | .ge => V.le expected new && V.lt old expected
    | .le => V.le new expected && V.lt expected old
    | .unknown => false

/-- `ms_left`: the milliseconds to the deadline, rounded towards zero. -/
def msLeft (deadline now : Nat) : Int := ((deadline : Int) - now).tdiv 1000

/-- `duration_sec` in microseconds. -/
def ConditionDef.duration (d : ConditionDef V) : Nat := d.durationSec.toNat * 1000000

namespace Condition

/-- The value that a change is compared with. -/
def reference (c : Condition V) (old : V.D) : V.D :=
  if c.conditionMetAt.isSome then c.savedOldValue else old

/-- `is_condition_met(old_value, new_value, milliseconds_left)`: `none` when the condition is not
met, else the milliseconds that are left. -/
def metByChange (c : Condition V) (now : Nat) (old new : V.D) : Condition V × Option Int :=
  let d := c.definition
  if d.onChange then (c, if V.far new old then some 0 else none)
  else if c.paused then
    ({ c with
        paused := !operatorMet d.resumeOp old new d.resumeValue
        conditionMetAt := none }, none)
  else if operatorMet d.op (c.reference old) new d.value then
    if 0 < d.durationSec then
      match c.conditionMetAt with
      | some deadline => (c, some (msLeft deadline now))
      | none =>
        ({ c with savedOldValue := old, conditionMetAt := some (now + d.duration) },
          some (msLeft (now + d.duration) now))
    else ({ c with paused := c.paused || decide (d.resumeOp ≠ .unknown) }, some 0)
  else ({ c with conditionMetAt := none }, none)

/-- `is_condition_met(old_value, new_value, milliseconds_left)` for channel values. -/
def metByValues (c : Condition V) (now : Nat) (old new : ChannelValue V) :
    Condition V × Option Int :=
  let d := c.definition
  if !d.onChange && decide (d.op = .unknown) then (c, none)
  else match old d.varName, new d.varName with
    | some oldv, some newv => c.metByChange now oldv newv
    | _, _ => (c, none)

/-- `is_condition_met(milliseconds_left)`: the scheduler's question, with its answer and the
milliseconds that are left. -/
def metByTime (c : Condition V) (now : Nat) : Condition V × Bool × Int :=
  match c.conditionMetAt with
  | none => (c, false, 0)
  | some deadline =>
    let left := msLeft deadline now
    if left ≤ 0 then
      ({ c with
          paused := c.paused || decide (c.definition.resumeOp ≠ .unknown)
          conditionMetAt := none }, true, left)
    else (c, false, left)

end Condition
end Vbt
