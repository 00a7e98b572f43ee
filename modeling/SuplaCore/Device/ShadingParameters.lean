import SuplaCore.Channel.Config
import SuplaCore.Device.OnState
import SuplaCore.Lib.JsonNumber

/-!
# Parameters of shading systems

`supla_action_shading_system_parameters` (`actions/action_shading_system_parameters.cpp`) from a
JSON object to the value that is sent to a channel, by way of the two actions that take such
parameters (`execute_action` in `actions/abstract_action_executor.cpp`). A `char` is an `Int8`; the
first byte of a value is its position and the second one, where the function has a tilt, its tilt.
-/

namespace Device

open Channel Channels Json

def SSP_FLAG_PERCENTAGE_AS_DELTA : UInt8 := 1
def SSP_FLAG_TILT_AS_DELTA : UInt8 := 2

abbrev channelFlagRsSbsAndStopActions : BitVec 64 := 0x80

structure ShadingParameters where
  percentage : Int8 := -1
  tilt : Int8 := -1
  flags : UInt8 := 0
  deriving DecidableEq

/-! ## Values -/

section
-- The indices of the eight bytes. -/
local instance neZeroEight : NeZero 8 := ⟨by decide⟩

def position (v : Raw) : Int8 := (v.get 0).toInt8

def tilt (v : Raw) : Int8 := (v.get 1).toInt8

end

/-- The functions `apply_on_value` knows. -/
def isShadingSystem (func : Int) : Bool := isRollerShutter func || isFacadeBlind func

namespace ShadingParameters

/-! ## Reading an object -/

section
variable {D : Type} [Number D]

/-- `valueint` of a number. -/
def numberOf (n : Node D) : Option Int :=
  match n.kind with
  | .number d => some (Number.valueint d)
  | _ => none

/-- The number under `name` or, where nothing is there, under `deltaName`, and whether it is a
delta. An item that is no number is dropped, after it has hidden the other one. -/
def item (root : Node D) (name deltaName : String) : Option (Int × Bool) :=
  match root.get name with
  | some n => (numberOf n).map (·, false)
  | none => ((root.get deltaName).bind numberOf).map (·, true)

def percentageItem (root : Node D) : Option (Int × Bool) := item root "percentage" "percentageDelta"

def tiltItem (root : Node D) : Option (Int × Bool) := item root "tilt" "tiltDelta"

def setPercentage (p : ShadingParameters) : Option (Int × Bool) → ShadingParameters
  | none => p
  | some (n, asDelta) =>
    { p with
      percentage := Int8.ofInt n
      flags := if asDelta then p.flags ||| SSP_FLAG_PERCENTAGE_AS_DELTA else p.flags }

def setTilt (p : ShadingParameters) : Option (Int × Bool) → ShadingParameters
  | none => p
  | some (n, asDelta) =>
    { p with
      tilt := Int8.ofInt n
      flags := if asDelta then p.flags ||| SSP_FLAG_TILT_AS_DELTA else p.flags }

/-- The constructor from JSON. -/
def ofJson (root : Node D) : ShadingParameters :=
  (setPercentage {} (percentageItem root)).setTilt (tiltItem root)

end

def isAnyParamSet (p : ShadingParameters) : Bool :=
  p.percentage ≠ -1 || p.tilt ≠ -1 || p.flags ≠ 0

/-! ## Percentages -/

/-- -1 stands for "not set" except in a delta. -/
def clamp (percentage : Int8) (delta : Bool) : Int8 :=
  if percentage < -1 ∧ delta = false then -1
  else if percentage < -100 then -100
  else if 100 < percentage then 100
  else percentage

def percentageAsDelta (p : ShadingParameters) : Bool :=
  p.flags &&& SSP_FLAG_PERCENTAGE_AS_DELTA ≠ 0

def tiltAsDelta (p : ShadingParameters) : Bool := p.flags &&& SSP_FLAG_TILT_AS_DELTA ≠ 0

def getPercentage (p : ShadingParameters) : Int8 := clamp p.percentage p.percentageAsDelta

def getTilt (p : ShadingParameters) : Int8 := clamp p.tilt p.tiltAsDelta

def percentageToPosition (percentage : Int8) : Int8 :=
  if percentage = -1 then -1
  else if 100 < percentage then 110
  else if percentage < 0 then 10
  else percentage + 10

/-- The sum is made of two `int`. -/
def addDelta (current delta : Int8) : Int8 :=
  let current : Int8 := if 100 < current then 100 else if current < 0 then 0 else current
  if 100 < delta.toInt + current.toInt then 100
  else if delta.toInt + current.toInt < 0 then 0
  else Int8.ofInt (delta.toInt + current.toInt)

/-! ## The value that is sent -/

/-- An action that the device may know under the flag, else a stop. -/
def stepAction (channelFlags : BitVec 64) (n : Int8) : Int8 :=
  if channelFlags &&& channelFlagRsSbsAndStopActions ≠ 0 then n else 0

/-- `position` and `tilt_position` of `apply_on_value`. -/
def positions (p : ShadingParameters) (action : ShadingAction) (value : Raw) (func : Int)
    (channelFlags : BitVec 64) : Int8 × Int8 :=
  match action with
  | .stop => (0, -1)
  | .down => (1, -1)
  | .up => (2, -1)
  | .downOrStop => (stepAction channelFlags 3, -1)
  | .upOrStop => (stepAction channelFlags 4, -1)
  | .stepByStep => (stepAction channelFlags 5, -1)
  | .shut =>
    let percentage := if p.percentageAsDelta then addDelta (Device.position value) p.getPercentage
      else p.getPercentage
    let tilt := if isFacadeBlind func && p.tiltAsDelta then addDelta (Device.tilt value) p.getTilt
      else p.getTilt
    (percentageToPosition percentage, percentageToPosition tilt)
  | .reveal => (10, -1)

/-- A value of zeros but for its first byte. -/
def rollerShutterValue (position : Int8) : Raw :=
  (Vector.replicate 8 0).setIfInBounds 0 position.toUInt8

/-- A value of zeros but for its first two bytes. -/
def facadeBlindValue (position tilt : Int8) : Raw :=
  (rollerShutterValue position).setIfInBounds 1 tilt.toUInt8

/-- `apply_on_value`, by the value where it answers true. -/
def applyOnValue (p : ShadingParameters) (action : ShadingAction) (value : Raw) (func : Int)
    (channelFlags : BitVec 64) : Option Raw :=
  if isShadingSystem func then
    let (position, tiltPosition) := p.positions action value func channelFlags
    if -1 ≤ position ∧ position ≤ 110 then
      if isFacadeBlind func then
        if -1 ≤ tiltPosition ∧ tiltPosition ≤ 110 then some (facadeBlindValue position tiltPosition)
        else none
      else some (rollerShutterValue position)
    else none
  else none

/-! ## The actions with parameters -/

/-- `ACTION_SHUT_PARTIALLY` and `ACTION_REVEAL_PARTIALLY`. -/
inductive PartialAction
  | shutPartially
  | revealPartially
  deriving Repr, DecidableEq

/-- The parameters that `execute_action` hands to `shut`. -/
def forAction (action : PartialAction) (p : ShadingParameters) : ShadingParameters :=
  if action = .revealPartially ∧ -1 < p.getPercentage ∧ p.getPercentage ≤ 100 then
    { p with percentage := 100 - p.getPercentage }
  else p

/-- `execute_action` on a channel with a value, a function and flags: the value that is sent. -/
def executeAction (action : PartialAction) (params : Option ShadingParameters) (value : Raw)
    (func : Int) (channelFlags : BitVec 64) : Option Raw :=
  params.bind fun p => (forAction action p).applyOnValue .shut value func channelFlags

section
variable {D : Type} [Number D]

/-- The parameters of a configured action, if any is set (`apply_json_params`). -/
def configured (root : Node D) : Option ShadingParameters :=
  if (ofJson root).isAnyParamSet then some (ofJson root) else none

/-- An action with the parameters of an object. -/
def command (action : PartialAction) (root : Node D) (value : Raw) (func : Int)
    (channelFlags : BitVec 64) : Option Raw :=
  executeAction action (some (ofJson root)) value func channelFlags

end

end ShadingParameters

end Device
