import SuplaCore.Lib.Sys
import SuplaCore.Lib.TimeVal
import Mathlib.Algebra.Group.Nat.Defs

/-!
# The limits of `fire`

`supla_value_based_trigger::fire` (`supla-server/src/vbt/value_based_trigger.cpp`): a minimum time
between two tries, and a number of firings in a window of time, after which they are ignored for
another window. The log is that of the calls, each with what came of it.
-/

namespace Vbt

open Sys

/-- The values of an `unsigned int`. -/
def uintSize : Nat := 2 ^ 32

structure Limits where
  minTimeBetweenFiringUsec : Int
  fireCountLimit : Nat
  timeWindowSec : Int

/-- What the constructor sets. -/
def Limits.default : Limits := ⟨100000, 5, 5⟩

/-- What comes of a call of `fire`. -/
inductive Outcome
  /-- `execute_action` is called. -/
  | executed
  | tooFast
  /-- The firing that exceeds the limit. -/
  | exceeded
  /-- One that comes after it. -/
  | ignored
  deriving DecidableEq

structure Limiter where
  firstFireTime : TimeVal
  lastFireTryTime : TimeVal
  fireCounter : Nat

namespace Limiter

def init : Limiter := ⟨.zero, .zero, 0⟩

/-- The window and the counter. -/
def count (l : Limits) (now : TimeVal) (s : Limiter) : Limiter :=
  let s :=
    if s.firstFireTime.sec = 0 then { s with firstFireTime := now }
    else if now.sec - s.firstFireTime.sec ≥ l.timeWindowSec then
      { s with fireCounter := 0, firstFireTime := .zero }
    else s
  { s with fireCounter := (s.fireCounter + 1) % uintSize }

def fire (l : Limits) (now : TimeVal) (s : Limiter) : Limiter × Outcome :=
  if l.minTimeBetweenFiringUsec ≠ 0 ∧
      now.usecs - s.lastFireTryTime.usecs ≤ l.minTimeBetweenFiringUsec then
    ({ s with lastFireTryTime := now }, .tooFast)
  else
    let s := if l.minTimeBetweenFiringUsec ≠ 0 then { s with lastFireTryTime := now } else s
    if l.fireCountLimit ≠ 0 then
      let s := s.count l now
      if s.fireCounter > l.fireCountLimit then
        if s.fireCounter = (l.fireCountLimit + 1) % uintSize then
          ({ s with firstFireTime := now }, .exceeded)
        else (s, .ignored)
      else (s, .executed)
    else (s, .executed)

end Limiter

/-- A trigger and the calls of `fire` so far. -/
structure Fired where
  limiter : Limiter
  log : List (TimeVal × Outcome)

/-- The firings that were executed. -/
def Fired.executed (s : Fired) : List TimeVal :=
  (s.log.filter fun e => decide (e.2 = .executed)).map (·.1)

/-- A trigger that is fired again and again. -/
def firing (l : Limits) : Machine Fired TimeVal where
  init s := s = ⟨.init, []⟩
  step s now :=
    let r := s.limiter.fire l now
    some ⟨r.1, s.log ++ [(now, r.2)]⟩

end Vbt
