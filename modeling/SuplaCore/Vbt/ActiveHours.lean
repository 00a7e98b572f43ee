import SuplaCore.Lib.Scan
import SuplaCore.Vbt.Trigger

/-!
# Active hours

`set_active_hours` and `_is_now_active` (`supla-server/src/active_period.cpp`). The text of the
hours is a list of characters, its bytes. The time is a number of nanoseconds since the epoch; the
time zone, and where it lies the sunrise and the sunset, are a parameter (`Place`).

Left out: `set_astro_conditions`, whose conditions the period is given with, and a time zone that is
not known, for which nothing is active.
-/

namespace Vbt

open Scan

/-! ## Parsing -/

/-- `(unsigned char)n`. -/
def toUChar (n : Int) : Nat := (n % 256).toNat

/-- `active_hours[day_of_week].push_back(hour)`: the days stand in their order. -/
def pushHour (day hour : Nat) : List (Nat × List Nat) → List (Nat × List Nat)
  | [] => [(day, [hour])]
  | (d, hs) :: rest =>
    if day < d then (day, [hour]) :: (d, hs) :: rest
    else if day = d then (d, hs ++ [hour]) :: rest
    else (d, hs) :: pushHour day hour rest

/-- One item; one that throws is passed over. -/
def addItem (hours : List (Nat × List Nat)) (item : List Char) : List (Nat × List Nat) :=
  match stoi (item.take 1) with
  | none => hours
  | some dayOfWeek =>
    match stoi (item.drop 1) with
    | none => hours
    | some hour =>
      let dayOfWeek := toUChar dayOfWeek
      let hour := toUChar hour
      if 1 ≤ dayOfWeek ∧ dayOfWeek ≤ 7 ∧ 0 ≤ hour ∧ hour ≤ 23 then pushHour dayOfWeek hour hours
      else hours

namespace ActivePeriod

def setActiveHours (p : ActivePeriod) (hours : List Char) : ActivePeriod :=
  { p with activeHours :=
      if hours.head? ≠ some ',' ∨ hours.getLast? ≠ some ',' then []
      else (lines ',' ((hours.drop 1).take (hours.length - 2))).foldl addItem [] }

/-- The hour is among those of the day. -/
def hourFound (hours : List (Nat × List Nat)) (weekDay hour : Nat) : Bool :=
  match hours.find? fun e => decide (e.1 = weekDay) with
  | some e => e.2.contains hour
  | none => false

end ActivePeriod

/-! ## The time -/

/-- The time zone of the user, and `midnight_local + sunrise` and `midnight_local + sunset` of the
local time at the user's place. -/
structure Place where
  offset : Int → Int
  sunrise : (midnightLocal nowLocal : Nat) → Nat
  sunset : (midnightLocal nowLocal : Nat) → Nat

abbrev nanosPerSec : Int := 1000000000
abbrev secsPerDay : Int := 86400

/-- `unsigned long`. -/
def toULong (n : Int) : Nat := (n % 18446744073709551616).toNat

/-- `date::weekday` of a day since the epoch: Sunday is zero. -/
def weekday (days : Int) : Nat := ((days + 4) % 7).toNat

/-- `iso_encoding`. -/
def isoEncoding (weekday : Nat) : Nat := if weekday = 0 then 7 else weekday

/-- A condition that is not met by the time. -/
def AstroCondition.fails (c : AstroCondition) (sunrise sunset nowUtc : Nat) : Bool :=
  let base := if c.cndType = .afterSunrise ∨ c.cndType = .beforeSunrise then sunrise else sunset
  let timestamp := toULong (base + c.minutes * 60)
  decide ((c.cndType = .afterSunrise ∨ c.cndType = .afterSunset) ∧ timestamp ≥ nowUtc ∨
    (c.cndType = .beforeSunrise ∨ c.cndType = .beforeSunset) ∧ timestamp ≤ nowUtc)

namespace ActivePeriod

/-- The conditions: all of one list have to be met. -/
def astroMet (p : ActivePeriod) (place : Place) (local' : Int) (nowUtc : Nat) : Bool :=
  let midnightLocal := toULong (local' / (secsPerDay * nanosPerSec) * secsPerDay)
  let nowLocal := toULong (local'.tdiv nanosPerSec)
  let sunrise := place.sunrise midnightLocal nowLocal
  let sunset := place.sunset midnightLocal nowLocal
  p.astroConditions.any fun cnds => !cnds.isEmpty && !cnds.any (·.fails sunrise sunset nowUtc)

/-- `_is_now_active` at a time of the system's clock. -/
def isNowActive (p : ActivePeriod) (place : Place) (now : Int) : Bool :=
  let nowUtc := toULong (now.tdiv nanosPerSec)
  if p.activeFromUtc ≠ 0 ∧ p.activeFromUtc > nowUtc then false
  else if p.activeToUtc ≠ 0 ∧ p.activeToUtc < nowUtc then false
  else
    let local' := now + place.offset now
    let midnight := local' / (secsPerDay * nanosPerSec)
    let timeDiff := midnight * secsPerDay - local' / nanosPerSec
    let hour := toUChar (timeDiff.natAbs / 3600 : Nat)
    let weekDay := isoEncoding (weekday midnight)
    if p.activeHours ≠ [] ∧ !hourFound p.activeHours weekDay hour then false
    else if p.astroConditions ≠ [] ∧ !p.astroMet place local' nowUtc then false
    else true

end ActivePeriod
end Vbt
