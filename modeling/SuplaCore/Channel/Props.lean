import Mathlib.Data.List.Basic

/-!
# Channel properties

The data behind `supla_abstract_common_channel_properties`
(`supla-server/src/device/abstract_common_channel_properties.h`): what a channel answers about
itself, the channels around it, and the classes of `jsonconfig/channel` that read a configuration
structure out of its JSON document and back. The classes are kept as functions of the document
(`JsonClasses`); nothing here depends on how a document spells a field.
-/

namespace Channel

/-! ## Channel types and functions -/

abbrev channeltypeBinarysensor : Int := 1000
abbrev channeltypeContainer : Int := 3200
abbrev channeltypeElectricityMeter : Int := 5000
abbrev channeltypeImpulseCounter : Int := 5010
abbrev channeltypeHvac : Int := 6100
abbrev channeltypeValveOpenclose : Int := 7000
abbrev channeltypeGeneralPurposeMeasurement : Int := 9000
abbrev channeltypeGeneralPurposeMeter : Int := 9010

abbrev channelfncControllingTheGatewayLock : Int := 10
abbrev channelfncControllingTheGate : Int := 20
abbrev channelfncControllingTheGarageDoor : Int := 30
abbrev channelfncThermometer : Int := 40
abbrev channelfncHumidity : Int := 42
abbrev channelfncHumidityAndTemperature : Int := 45
abbrev channelfncOpeningSensorGateway : Int := 50
abbrev channelfncOpeningSensorGate : Int := 60
abbrev channelfncOpeningSensorGarageDoor : Int := 70
abbrev channelfncControllingTheDoorLock : Int := 90
abbrev channelfncOpeningSensorDoor : Int := 100
abbrev channelfncControllingTheRollerShutter : Int := 110
abbrev channelfncControllingTheRoofWindow : Int := 115
abbrev channelfncOpeningSensorRollerShutter : Int := 120
abbrev channelfncOpeningSensorRoofWindow : Int := 125
abbrev channelfncPowerSwitch : Int := 130
abbrev channelfncLightSwitch : Int := 140
abbrev channelfncStaircaseTimer : Int := 300
abbrev channelfncElectricityMeter : Int := 310
abbrev channelfncIcElectricityMeter : Int := 315
abbrev channelfncIcGasMeter : Int := 320
abbrev channelfncIcWaterMeter : Int := 330
abbrev channelfncIcHeatMeter : Int := 340
abbrev channelfncHvacThermostat : Int := 420
abbrev channelfncHvacThermostatHeatCool : Int := 422
abbrev channelfncHvacThermostatDifferential : Int := 425
abbrev channelfncHvacDomesticHotWater : Int := 426
abbrev channelfncValveOpenclose : Int := 500
abbrev channelfncActionTrigger : Int := 700
abbrev channelfncControllingTheFacadeBlind : Int := 900
abbrev channelfncTerraceAwning : Int := 910
abbrev channelfncProjectorScreen : Int := 920
abbrev channelfncCurtain : Int := 930
abbrev channelfncVerticalBlind : Int := 940
abbrev channelfncRollerGarageDoor : Int := 950
abbrev channelfncPumpSwitch : Int := 960
abbrev channelfncHeatOrColdSourceSwitch : Int := 970
abbrev channelfncContainerLevelSensor : Int := 990
abbrev channelfncFloodSensor : Int := 1000

abbrev channelFlagWeeklySchedule : BitVec 64 := 0x10000000

/-! ## Configuration structures -/

/-- The `TChannelConfig_*` structures. -/
inductive Struct
  | hvac
  | weeklySchedule
  | binarySensor
  | temperatureAndHumidity
  | generalPurposeMeasurement
  | generalPurposeMeter
  | rollerShutter
  | facadeBlind
  | actionTrigger
  | electricityMeter
  | ocr
  | impulseCounter
  | powerSwitch
  | staircaseTimer
  | container
  | valve
  deriving Repr, DecidableEq

/-- `sizeof`, as `proto_check.cpp` asserts it. -/
def Struct.sizeof : Struct → Nat
  | hvac => 127
  | weeklySchedule => 356
  | binarySensor => 32
  | temperatureAndHumidity => 32
  | generalPurposeMeasurement => 108
  | generalPurposeMeter => 111
  | rollerShutter => 44
  | facadeBlind => 53
  | actionTrigger => 4
  | electricityMeter => 72
  | ocr => 291
  | impulseCounter => 61
  | powerSwitch => 42
  | staircaseTimer => 4
  | container => 87
  | valve => 112

/-- The classes of `jsonconfig/channel`. -/
inductive JsonClass
  | hvac
  | weeklySchedule
  | altWeeklySchedule
  | binarySensor
  | tempHum
  | generalPurposeMeasurement
  | generalPurposeMeter
  | rollerShutter
  | facadeBlind
  | actionTrigger
  | electricityMeter
  | ocr
  | impulseCounter
  | powerSwitch
  | container
  | valve
  deriving Repr, DecidableEq

/-- The fields of `TChannelConfig_HVAC` that name other channels; `rest` is what the server only
passes on. The two thermometers are unions: the number is the low byte of the identifier. -/
structure HvacConfig where
  mainThermometerChannelId : BitVec 32
  auxThermometerChannelId : BitVec 32
  auxThermometerType : Nat
  binarySensorChannelNo : BitVec 8
  masterThermostatIsSet : Bool
  masterThermostatChannelNo : BitVec 8
  heatOrColdSourceSwitchIsSet : Bool
  heatOrColdSourceSwitchChannelNo : BitVec 8
  pumpSwitchIsSet : Bool
  pumpSwitchChannelNo : BitVec 8
  rest : List UInt8
  deriving DecidableEq

namespace HvacConfig

def mainThermometerChannelNo (c : HvacConfig) : BitVec 8 := c.mainThermometerChannelId.setWidth 8
def auxThermometerChannelNo (c : HvacConfig) : BitVec 8 := c.auxThermometerChannelId.setWidth 8

/-- `SUPLA_HVAC_AUX_THERMOMETER_TYPE_FLOOR` up to `.._GENERIC_COOLER`. -/
def auxInUse (c : HvacConfig) : Bool := 2 ≤ c.auxThermometerType && c.auxThermometerType ≤ 5

end HvacConfig

/-- `TValve_SensorInfo` and `TContainer_SensorInfo`. The flag and the number share their bytes with
the identifier that `resolve_sensor_identifiers` puts there. -/
inductive SensorInfo
  | number (isSet : Bool) (channelNo : BitVec 8)
  | id (channelId : Int)
  deriving DecidableEq

/-- `IsSet` with this number. -/
def SensorInfo.lists (i : SensorInfo) (no : BitVec 8) : Bool :=
  match i with
  | number isSet channelNo => isSet && channelNo == no
  | id _ => false

/-- `TChannelConfig_Container` and `TChannelConfig_Valve`: `SensorInfo` and the other bytes. -/
structure SensorConfig where
  sensorInfo : List SensorInfo
  rest : List UInt8
  deriving DecidableEq

/-- The configuration lists this channel number as one of its sensors. -/
def SensorConfig.lists (c : SensorConfig) (no : BitVec 8) : Bool := c.sensorInfo.any (·.lists no)

/-! ## A channel and the channels around it -/

/-- The virtual getters of the class. `json` is the document, null where there is none. -/
structure Props (J : Type) where
  id : Int
  userId : Int
  number : BitVec 8
  type : Int
  func : Int
  flags : BitVec 64
  param1 : Int
  param2 : Int
  param3 : Int
  json : Option J
  deriving DecidableEq

/-- What the JSON classes read from a document and make of a structure: `get_config` with `none`
for `false`, `get_related_meter_channel_id` (0 where there is none), `get_active_actions` and
`set_config`. A class made from a null document reads its own empty one. -/
structure JsonClasses (J : Type) where
  hvac : Option J → BitVec 8 → Option HvacConfig
  container : Option J → Option SensorConfig
  valve : Option J → Option SensorConfig
  other : JsonClass → Struct → Option J → Option (List UInt8)
  activeActions : Option J → BitVec 32
  relatedMeterChannelId : J → Int
  setConfig : JsonClass → Struct → Props J → List UInt8 → J

/-- The channels `for_each` visits, in its order: those of the device, and with `any_device` those
of the user's other devices after them. -/
structure Around (J : Type) where
  channels : List (Props J)
  others : List (Props J)
  protocolVersion : Nat

def Around.forEach {J : Type} (dev : Around J) (anyDevice : Bool) : List (Props J) :=
  if anyDevice then dev.channels ++ dev.others else dev.channels

/-- A device: an identifier names one channel among all of the user's, a number one of its own. -/
structure UserDevice (J : Type) extends Around J where
  ids : ∀ a ∈ channels ++ others, ∀ b ∈ channels ++ others, a.id = b.id → a = b
  numbers : ∀ a ∈ channels, ∀ b ∈ channels, a.number = b.number → a = b

end Channel
