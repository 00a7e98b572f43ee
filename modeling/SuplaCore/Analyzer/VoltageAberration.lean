import SuplaCore.Lib.TimeVal
import Mathlib.Algebra.Group.Nat.Defs
import Mathlib.Algebra.Ring.Int.Defs

/-!
# Voltage aberrations

`supla_voltage_aberration_analyzer` with what it has of `supla_simple_statiscics`
(`supla-server/src/analyzer/`): how often, for how long in total and for how long at most the
voltage is above the upper threshold or below the lower one. The clock is read once for a sample or
a query. Left out: the minimum, the maximum and the averages of the samples.
-/

namespace Analyzer

/-- The values of an `unsigned int`. -/
def uintSize : Nat := 2 ^ 32

/-- What is asked of numbers of type `double`. -/
class Double (V : Type) where
  isZero : V → Bool
  lt : V → V → Bool

/-- Whole numbers. -/
instance : Double Nat := ⟨(· == 0), fun a b => decide (a < b)⟩

/-- `time_diff`, with the differences of `unsigned long long`. -/
def timeDiff (tv now : TimeVal) : Nat :=
  if tv ≠ .zero then ((now.usecs - tv.usecs) % 2 ^ 64).toNat / 1000 % uintSize else 0

/-- `above_count`, `time_above`, `total_msec_above` and `max_msec_above`, or the same of below. -/
structure Aberration where
  count : Nat
  time : TimeVal
  totalMsec : Nat
  maxMsec : Nat

namespace Aberration

def zero : Aberration := ⟨0, .zero, 0, 0⟩

/-- The part of `add_sample` for one of the thresholds; `aberrant`: the value is past it. -/
def addSample (aberrant : Bool) (now : TimeVal) (a : Aberration) : Aberration :=
  if aberrant then
    if a.time = .zero then { a with time := now, count := (a.count + 1) % uintSize } else a
  else
    let msecDiff := timeDiff a.time now
    { a with
      time := .zero
      totalMsec := (a.totalMsec + msecDiff) % uintSize
      maxMsec := if msecDiff > a.maxMsec then msecDiff else a.maxMsec }

/-- `get_total_msec_above`, `get_total_msec_below`. -/
def getTotalMsec (now : TimeVal) (a : Aberration) : Nat :=
  (a.totalMsec + timeDiff a.time now) % uintSize

/-- `get_max_msec_above`, `get_max_msec_below`. -/
def getMaxMsec (now : TimeVal) (a : Aberration) : Nat :=
  let t := timeDiff a.time now
  if t > a.maxMsec then t else a.maxMsec

end Aberration

structure VoltageAberrationAnalyzer (V : Type) where
  lowerThreshold : V
  upperThreshold : V
  below : Aberration
  above : Aberration
  count : Nat
  firstUpdateTime : TimeVal

namespace VoltageAberrationAnalyzer

variable {V : Type} [Double V]

/-- A new analyzer after `set_lower_threshold` and `set_upper_threshold`. -/
def new (lower upper : V) : VoltageAberrationAnalyzer V := ⟨lower, upper, .zero, .zero, 0, .zero⟩

def addSample (value : V) (now : TimeVal) (a : VoltageAberrationAnalyzer V) :
    VoltageAberrationAnalyzer V :=
  { a with
    firstUpdateTime := if a.count = 0 then now else a.firstUpdateTime
    count := (a.count + 1) % uintSize
    above := if Double.isZero a.upperThreshold then a.above
      else a.above.addSample (Double.lt a.upperThreshold value) now
    below := if Double.isZero a.lowerThreshold then a.below
      else a.below.addSample (Double.lt value a.lowerThreshold) now }

def reset (a : VoltageAberrationAnalyzer V) : VoltageAberrationAnalyzer V :=
  new a.lowerThreshold a.upperThreshold

/-- `get_total_time_msec`. -/
def getTotalTimeMsec (now : TimeVal) (a : VoltageAberrationAnalyzer V) : Nat :=
  timeDiff a.firstUpdateTime now

/-- The samples with their times, one after the other. -/
def addSamples (samples : List (TimeVal × V)) (a : VoltageAberrationAnalyzer V) :
    VoltageAberrationAnalyzer V :=
  samples.foldl (fun a s => a.addSample s.2 s.1) a

end VoltageAberrationAnalyzer
end Analyzer
