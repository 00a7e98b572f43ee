import SuplaCore.Device.Channels

/-!
# The on-state of a channel

What `set_on` and `is_on` (`supla-server/src/device/devicechannels.cpp`) do with the bytes of a
value: `setOn` is the value that is handed to `async_set_channel_value`, none where nothing is sent.
The classes are `supla_channel_rgbw_value` and `supla_channel_hvac_value` (`device/value`), the
methods those of `supla_device_channel` (`devicechannel.cpp`). `methods` are the methods that the
operations of `Device.Channels` call on such a channel.
-/

namespace Device

open Channel Channels

/-- `char value[SUPLA_CHANNELVALUE_SIZE]` -/
abbrev Raw := Vector UInt8 8

structure Chan where
  id : Int
  number : UInt8
  func : Int
  value : Raw
  deriving DecidableEq

/-- `get_char`. `IsOn` of a `TThermostat_Value` is the first byte too. -/
def Chan.getChar (c : Chan) : UInt8 := c.value.get 0

/-! ## Brightness -/

/-- `get_rgbw` -/
def getRgbw (v : Raw) : Rgbw :=
  { color := ((v.get 4).toNat * 65536 + (v.get 3).toNat * 256 + (v.get 2).toNat : Nat)
    colorBrightness := v.get 1
    brightness := v.get 0
    whiteTemperature := v.get 7 }

def hasBrightness (func : Int) : Bool :=
  func = channelfncDimmer || func = channelfncDimmerCct || func = channelfncDimmerCctAndRgb ||
    func = channelfncDimmerAndRgbLighting

def hasColor (func : Int) : Bool :=
  func = channelfncRgbLighting || func = channelfncDimmerAndRgbLighting ||
    func = channelfncDimmerCctAndRgb

def hasWhiteTemperature (func : Int) : Bool :=
  func = channelfncDimmerCct || func = channelfncDimmerCctAndRgb

/-- A `char` outside 0..100 becomes 0; a negative one is a byte above 127. -/
def inPercent (brightness : UInt8) : UInt8 := if 100 < brightness then 0 else brightness

/-- The byte of a color from bit `8 * i` on. -/
def colorByte (color : Int) (i : Nat) : UInt8 :=
  UInt8.ofNat ((color >>> (8 * i)) % 256).toNat

/-- `on_off` by the function, if it is set. -/
def onOffOf (func : Int) (onOff : UInt8) : UInt8 :=
  if onOff = 0 then 0
  else if func = channelfncDimmerAndRgbLighting ∨ func = channelfncDimmerCctAndRgb then 3
  else if func = channelfncRgbLighting then 2
  else 1

/-- `assign_rgbw_value` to a value of zeros -/
def assignRgbwValue (func : Int) (r : Rgbw) (onOff command : UInt8) : Raw :=
  let whenColor (b : UInt8) : UInt8 := if hasColor func then b else 0
  #v[if hasBrightness func then inPercent r.brightness else 0,
    whenColor (inPercent r.colorBrightness), whenColor (colorByte r.color 0),
    whenColor (colorByte r.color 1), whenColor (colorByte r.color 2),
    onOffOf func onOff, command, if hasWhiteTemperature func then r.whiteTemperature else 0]

/-! ## Modes -/

def SUPLA_HVAC_MODE_OFF : UInt8 := 1
def SUPLA_HVAC_MODE_HEAT : UInt8 := 2
def SUPLA_HVAC_MODE_COOL : UInt8 := 3
def SUPLA_HVAC_MODE_HEAT_COOL : UInt8 := 4
def SUPLA_HVAC_MODE_FAN_ONLY : UInt8 := 6
def SUPLA_HVAC_MODE_DRY : UInt8 := 7
def SUPLA_HVAC_MODE_CMD_TURN_ON : UInt8 := 8
def SUPLA_HVAC_MODE_CMD_SWITCH_TO_MANUAL : UInt8 := 10

def getMode (v : Raw) : UInt8 := v.get 1

def setMode (v : Raw) (mode : UInt8) : Raw :=
  if mode ≤ SUPLA_HVAC_MODE_CMD_SWITCH_TO_MANUAL then v.setIfInBounds 1 mode else v

def turnOn (v : Raw) : Raw := setMode v SUPLA_HVAC_MODE_CMD_TURN_ON

def turnOff (v : Raw) : Raw := setMode v SUPLA_HVAC_MODE_OFF

/-- The modes that `toggle` turns off. -/
def activeModes : List UInt8 :=
  [SUPLA_HVAC_MODE_HEAT, SUPLA_HVAC_MODE_COOL, SUPLA_HVAC_MODE_HEAT_COOL, SUPLA_HVAC_MODE_FAN_ONLY,
    SUPLA_HVAC_MODE_DRY, SUPLA_HVAC_MODE_CMD_TURN_ON]

def toggle (v : Raw) : Raw := if getMode v ∈ activeModes then turnOff v else turnOn v

/-! ## Functions -/

abbrev channelfncHvacDryer : Int := 423
abbrev channelfncHvacFan : Int := 424
abbrev channelfncValvePercentage : Int := 510

/-- `supla_channel_hvac_value::is_function_supported` -/
def isHvacValue (func : Int) : Bool :=
  isHvac func || func = channelfncHvacDryer || func = channelfncHvacFan

def isCharValueWritable (func : Int) : Bool :=
  [channelfncControllingTheGatewayLock, channelfncControllingTheGate,
    channelfncControllingTheGarageDoor, channelfncControllingTheDoorLock,
    channelfncControllingTheRollerShutter, channelfncControllingTheRoofWindow,
    channelfncControllingTheFacadeBlind, channelfncTerraceAwning, channelfncProjectorScreen,
    channelfncCurtain, channelfncVerticalBlind, channelfncRollerGarageDoor, channelfncPowerSwitch,
    channelfncLightSwitch, channelfncStaircaseTimer, channelfncThermometer,
    channelfncThermostatHeatpolHomeplus, channelfncValveOpenclose,
    channelfncValvePercentage].contains func

/-- The functions that `set_on` knows. -/
def isSettable (func : Int) : Bool := isOnOff func || isRgbw func || isHvac func

/-! ## Setting and reading -/

/-- `set_on` -/
def Chan.setOn (c : Chan) (on toggled : Bool) : Option Raw :=
  if isOnOff c.func then
    let v : UInt8 := if toggled then (if c.getChar ≠ 0 then 0 else 1) else if on then 1 else 0
    some (c.value.setIfInBounds 0 v)
  else if isRgbw c.func then
    let r := getRgbw c.value
    let lit := if toggled then r.colorBrightness = 0 ∧ r.brightness = 0 else on = true
    let b : UInt8 := if lit then 100 else 0
    some (assignRgbwValue c.func { r with colorBrightness := b, brightness := b } 3 0)
  else if isHvac c.func then
    some (if toggled then toggle c.value else if on then turnOn c.value else turnOff c.value)
  else none

/-- `is_on` -/
def Chan.isOn (c : Chan) : Bool :=
  if isOnOff c.func then c.getChar ≠ 0
  else if isRgbw c.func then
    let r := getRgbw c.value
    isPositive r.colorBrightness || isPositive r.brightness
  else false

/-! ## The methods -/

/-- The bytes of a value that is kept as a list. -/
def raw (v : Value) : Raw := Vector.ofFn fun i : Fin 8 => v.getD i 0

/-- The methods of a channel; those that read or write other things are in `rest`. -/
def methods {J : Type} (rest : Methods Chan J) : Methods Chan J :=
  { rest with
    id := Chan.id
    number := Chan.number
    func := Chan.func
    value := fun c => c.value.toList
    char := Chan.getChar
    isCharValueWritable := fun c => isCharValueWritable c.func
    isRgbwValueWritable := fun c => isRgbw c.func
    rgbw := fun c => if isRgbw c.func then some (getRgbw c.value) else none
    assignRgbwValue := fun c r onOff command => (assignRgbwValue c.func r onOff command).toList
    hvac := fun c => if isHvacValue c.func then some c.value.toList else none
    hvacToggle := fun v => (toggle (raw v)).toList
    hvacTurnOn := fun v => (turnOn (raw v)).toList
    hvacTurnOff := fun v => (turnOff (raw v)).toList }

end Device
