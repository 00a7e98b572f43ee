import Mathlib.Data.List.Basic

/-!
# The topics of a channel

The topics under which `supla_mqtt_channelandstate_message_provider` gives its messages
(`supla-server/src/mqtt`): those of the row of the channel and of Home Assistant
(`mqtt_channel_message_provider.cpp`), then those of the state
(`mqtt_abstract_state_message_provider.cpp`). The messages themselves are left out: which topics
there are does not depend on them.

A provider is asked for the message at an index, from 0 on, until there is none, so its messages
are a list here. Without a short unique id of the user `create_message` fails at once and the list
is empty.
-/

namespace Mqtt

/-- The functions of a channel that have topics of their own (`SUPLA_CHANNELFNC_*`). -/
inductive ChannelFunction
  | none
  | controllingTheGatewayLock
  | controllingTheGate
  | controllingTheGarageDoor
  | thermometer
  | humidity
  | humidityAndTemperature
  | openingSensorGateway
  | openingSensorGate
  | openingSensorGarageDoor
  | noLiquidSensor
  | controllingTheDoorLock
  | openingSensorDoor
  | controllingTheRollerShutter
  | controllingTheRoofWindow
  | openingSensorRollerShutter
  | openingSensorRoofWindow
  | powerSwitch
  | lightSwitch
  | dimmer
  | dimmerCct
  | rgbLighting
  | dimmerAndRgbLighting
  | dimmerCctAndRgb
  | depthSensor
  | distanceSensor
  | openingSensorWindow
  | hotelCardSensor
  | alarmArmamentSensor
  | mailSensor
  | windSensor
  | pressureSensor
  | rainSensor
  | weightSensor
  | staircaseTimer
  | electricityMeter
  | icElectricityMeter
  | icGasMeter
  | icWaterMeter
  | icHeatMeter
  | thermostatHeatpolHomeplus
  | hvacThermostat
  | hvacThermostatHeatCool
  | hvacThermostatDifferential
  | hvacDomesticHotWater
  | valveOpenClose
  | valvePercentage
  | generalPurposeMeasurement
  | generalPurposeMeter
  | actionTrigger
  | controllingTheFacadeBlind
  | terraceAwning
  | projectorScreen
  | curtain
  | verticalBlind
  | rollerGarageDoor
  | containerLevelSensor
  | floodSensor
  | motionSensor
  | binarySensor
  | other (func : Int)
  deriving DecidableEq

/-- What the topics depend on in `_mqtt_db_data_row_channel_t`. -/
structure ChannelRow where
  userId : Int
  userSuid : String
  deviceId : Int
  deviceEnabled : Bool
  channelId : Int
  channelFunc : ChannelFunction
  channelFlags : Nat
  channelHidden : Bool
  deriving DecidableEq

/-- A row with all bytes zero. -/
def ChannelRow.zero : ChannelRow := ⟨0, "", 0, false, 0, .none, 0, false⟩

def phase1Unsupported : Nat := 0x00020000
def phase2Unsupported : Nat := 0x00040000
def phase3Unsupported : Nat := 0x00080000

/-! ## Names -/

/-- The topic that `create_message` makes of a name. -/
def createTopic (topicPrefix suid name : String) : String :=
  (if topicPrefix = "" then "" else topicPrefix ++ "/") ++ "supla/" ++ suid ++ "/" ++ name

/-- A topic below the channel, `devices/%i/channels/%i/`. -/
def channelTopic (topicPrefix suid : String) (deviceId channelId : Int) (name : String) : String :=
  createTopic topicPrefix suid
    ("devices/" ++ toString deviceId ++ "/channels/" ++ toString channelId ++ "/" ++ name)

/-! ## Home Assistant -/

/-- The component and the sub id of each item of `ha_electricity_meter`, whose index passes over
the phases that the channel has not got. -/
def haElectricityMeter (channelFlags : Nat) : List (String × Option Nat) :=
  let without (flag : Nat) (indexes : List Nat) : List Nat :=
    if channelFlags &&& flag ≠ 0 then [] else indexes
  let indexes := List.range 6 ++ without phase1Unsupported (List.range' 6 12) ++
    without phase2Unsupported (List.range' 18 12) ++ without phase3Unsupported (List.range' 30 12)
  indexes.map fun i => ("sensor", some i)

/-- The component and the sub id of each item of `get_home_assistant_cfgitem`. -/
def homeAssistantItems (channelFlags : Nat) : ChannelFunction → List (String × Option Nat)
  | .controllingTheGate => [("cover", none), ("button", none)]
  | .controllingTheGarageDoor => [("cover", none), ("button", none)]
  | .controllingTheDoorLock => [("cover", none), ("button", none)]
  | .controllingTheGatewayLock => [("button", none)]
  | .controllingTheRollerShutter => [("cover", none)]
  | .controllingTheRoofWindow => [("cover", none)]
  | .controllingTheFacadeBlind => [("cover", none)]
  | .thermometer => [("sensor", none)]
  | .humidity => [("sensor", some 0)]
  | .humidityAndTemperature => [("sensor", some 0), ("sensor", some 1)]
  | .noLiquidSensor => [("binary_sensor", none)]
  | .mailSensor => [("binary_sensor", none)]
  | .hotelCardSensor => [("binary_sensor", none)]
  | .alarmArmamentSensor => [("binary_sensor", none)]
  | .binarySensor => [("binary_sensor", none)]
  | .floodSensor => [("binary_sensor", none)]
  | .containerLevelSensor => [("binary_sensor", none)]
  | .motionSensor => [("binary_sensor", none)]
  | .openingSensorGate => [("binary_sensor", none)]
  | .openingSensorGateway => [("binary_sensor", none)]
  | .openingSensorRollerShutter => [("binary_sensor", none)]
  | .openingSensorRoofWindow => [("binary_sensor", none)]
  | .openingSensorGarageDoor => [("binary_sensor", none)]
  | .openingSensorDoor => [("binary_sensor", none)]
  | .openingSensorWindow => [("binary_sensor", none)]
  | .powerSwitch => [("switch", none)]
  | .staircaseTimer => [("light", none)]
  | .lightSwitch => [("light", none)]
  | .dimmer => [("light", none)]
  | .rgbLighting => [("light", none)]
  | .dimmerAndRgbLighting => [("light", some 0), ("light", some 1)]
  | .depthSensor => [("sensor", none)]
  | .distanceSensor => [("sensor", none)]
  | .windSensor => [("sensor", none)]
  | .pressureSensor => [("sensor", none)]
  | .rainSensor => [("sensor", none)]
  | .weightSensor => [("sensor", none)]
  | .electricityMeter => haElectricityMeter channelFlags
  | .icElectricityMeter => [("sensor", some 0), ("sensor", some 1)]
  | .icGasMeter => [("sensor", some 0), ("sensor", some 1)]
  | .icWaterMeter => [("sensor", some 0), ("sensor", some 1)]
  | .icHeatMeter => [("sensor", some 0), ("sensor", some 1)]
  | .actionTrigger => (List.range 8).map fun i => ("device_automation", some i)
  | .hvacThermostat => [("climate", none)]
  | .hvacThermostatHeatCool => [("climate", none)]
  | .hvacThermostatDifferential => [("climate", none)]
  | .hvacDomesticHotWater => [("climate", none)]
  | .thermostatHeatpolHomeplus => [("climate", none)]
  | .generalPurposeMeter => [("sensor", none)]
  | .generalPurposeMeasurement => [("sensor", none)]
  | .valveOpenClose => [("valve", none)]
  | _ => []

/-- The topic of `ha_get_message`, which has no prefix. -/
def haTopic (row : ChannelRow) (component : String) (subId : Option Nat) : String :=
  let objectId := match subId with
    | some i => toString row.channelId ++ "_" ++ toString i
    | none => toString row.channelId
  "homeassistant/" ++ component ++ "/" ++ row.userSuid ++ "/" ++ objectId ++ "/config"

def homeAssistantTopics (row : ChannelRow) : List String :=
  if !row.deviceEnabled || row.channelHidden then []
  else (homeAssistantItems row.channelFlags row.channelFunc).map fun (c, i) => haTopic row c i

/-- The messages of `supla_mqtt_channel_message_provider`. -/
def channelMessages (topicPrefix : String) (row : ChannelRow) : List String :=
  if row.userSuid = "" then []
  else
    ["type", "function", "caption", "hidden"].map
        (channelTopic topicPrefix row.userSuid row.deviceId row.channelId) ++
      homeAssistantTopics row

/-! ## States -/

def phaseStates : List String :=
  ["total_forward_active_energy", "total_reverse_active_energy", "total_forward_reactive_energy",
    "total_reverse_reactive_energy", "frequency", "voltage", "current", "power_active",
    "power_reactive", "power_apparent", "power_factor", "phase_angle"]

def electricityMeterStates : List String :=
  ["total_cost", "total_cost_balanced", "price_per_unit", "currency", "support",
    "total_forward_active_energy", "total_reverse_active_energy",
    "total_forward_active_energy_balanced", "total_reverse_active_energy_balanced"] ++
  ["1", "2", "3"].flatMap fun phase => phaseStates.map fun name => "phases/" ++ phase ++ "/" ++ name

def impulseCounterStates : List String :=
  ["total_cost", "price_per_unit", "impulses_per_unit", "counter", "calculated_value", "currency",
    "unit"]

def hvacThermostatStates : List String :=
  ["mode", "action", "temperature_setpoint", "temperature_setpoint_cool",
    "temperature_setpoint_heat", "is_on", "percentage"]

/-- The states of a function, from the index 1 on. -/
def stateNames : ChannelFunction → List String
  | .controllingTheRollerShutter => ["hi", "is_calibrating", "shut"]
  | .controllingTheRoofWindow => ["hi", "is_calibrating", "shut"]
  | .terraceAwning => ["hi", "is_calibrating", "shut"]
  | .projectorScreen => ["hi", "is_calibrating", "shut"]
  | .curtain => ["hi", "is_calibrating", "shut"]
  | .rollerGarageDoor => ["hi", "is_calibrating", "shut"]
  | .controllingTheFacadeBlind => ["hi", "is_calibrating", "shut", "tilt"]
  | .verticalBlind => ["hi", "is_calibrating", "shut", "tilt"]
  | .controllingTheGate => ["hi", "partial_hi"]
  | .controllingTheGarageDoor => ["hi", "partial_hi"]
  | .controllingTheDoorLock => ["hi"]
  | .controllingTheGatewayLock => ["hi"]
  | .thermostatHeatpolHomeplus => ["on", "mode", "action", "temperature_setpoint", "temperature"]
  | .powerSwitch => ["on", "overcurrent_relay_off"]
  | .lightSwitch => ["on", "overcurrent_relay_off"]
  | .staircaseTimer => ["on", "overcurrent_relay_off"]
  | .depthSensor => ["depth"]
  | .distanceSensor => ["distance"]
  | .pressureSensor => ["value"]
  | .rainSensor => ["value"]
  | .weightSensor => ["value"]
  | .windSensor => ["value"]
  | .openingSensorGateway => ["hi"]
  | .openingSensorGate => ["hi"]
  | .openingSensorGarageDoor => ["hi"]
  | .openingSensorRollerShutter => ["hi"]
  | .openingSensorRoofWindow => ["hi"]
  | .openingSensorDoor => ["hi"]
  | .openingSensorWindow => ["hi"]
  | .mailSensor => ["hi"]
  | .noLiquidSensor => ["hi"]
  | .hotelCardSensor => ["hi"]
  | .alarmArmamentSensor => ["hi"]
  | .motionSensor => ["hi"]
  | .binarySensor => ["hi"]
  | .floodSensor => ["hi"]
  | .containerLevelSensor => ["hi"]
  | .thermometer => ["temperature"]
  | .humidity => ["humidity"]
  | .humidityAndTemperature => ["humidity", "temperature"]
  | .dimmer => ["on", "brightness"]
  | .dimmerCct => ["on", "brightness", "white_temperature"]
  | .rgbLighting => ["on", "color", "normalized_rgb", "color_brightness"]
  -- its white temperature is guarded by the function `DIMMER_CCT`
  | .dimmerCctAndRgb => ["on", "color", "normalized_rgb", "color_brightness"]
  | .dimmerAndRgbLighting => ["on", "color", "color_brightness", "brightness"]
  | .valveOpenClose => ["closed", "manually_closed", "flooding"]
  | .valvePercentage => ["closed", "manually_closed", "flooding"]
  | .electricityMeter => electricityMeterStates
  | .icElectricityMeter => impulseCounterStates
  | .icGasMeter => impulseCounterStates
  | .icWaterMeter => impulseCounterStates
  | .icHeatMeter => impulseCounterStates
  | .hvacThermostat => hvacThermostatStates
  | .hvacThermostatHeatCool => hvacThermostatStates
  | .hvacThermostatDifferential => hvacThermostatStates
  | .hvacDomesticHotWater => hvacThermostatStates
  | .generalPurposeMeter => ["value"]
  | .generalPurposeMeasurement => ["value"]
  | _ => []

/-- The messages of the state provider. The function is that of the connected channel (`live`),
where there is one, and else that of the row. -/
def stateMessages (topicPrefix : String) (live : Option ChannelFunction) (row : ChannelRow) :
    List String :=
  if row.userId = 0 ∧ row.deviceId = 0 ∧ row.channelId = 0 ∨ row.userSuid = "" then []
  else
    ("connected" :: stateNames (live.getD row.channelFunc)).map fun name =>
      channelTopic topicPrefix row.userSuid row.deviceId row.channelId ("state/" ++ name)

/-! ## The provider -/

/-- `supla_mqtt_channelandstate_message_provider` with the messages of its two providers, as long
as it has them. -/
structure ChannelAndState where
  channel : Option (List String)
  state : Option (List String)
  index : Nat

namespace ChannelAndState

def setDataRow (topicPrefix : String) (live : Option ChannelFunction) (row : ChannelRow) :
    ChannelAndState :=
  ⟨some (channelMessages topicPrefix row), some (stateMessages topicPrefix live row), 0⟩

/-- The second half of `get_message_at_index`. -/
def stateMessageAtIndex (p : ChannelAndState) : Option String × ChannelAndState :=
  match p.state with
  | some messages =>
    match messages[p.index]? with
    | some topic => (some topic, p)
    | none => (none, { p with state := none })
  | none => (none, p)

/-- `get_message_at_index`: a provider without a message is deleted, and the one of the channel
takes the other with it where it had none at all. -/
def getMessageAtIndex (p : ChannelAndState) : Option String × ChannelAndState :=
  match p.channel with
  | some messages =>
    match messages[p.index]? with
    | some topic => (some topic, p)
    | none =>
      if p.index = 0 ∧ p.state.isSome then (none, { p with channel := none, state := none })
      else { p with channel := none, index := 0 }.stateMessageAtIndex
  | none => p.stateMessageAtIndex

def fetch (p : ChannelAndState) : Option String × ChannelAndState :=
  match p.getMessageAtIndex with
  | (some topic, p) => (some topic, { p with index := p.index + 1 })
  | (none, p) => (none, p)

/-- `while (fetch(…))`, for at most `fuel` messages. -/
def fetchUpTo : Nat → ChannelAndState → List String
  | 0, _ => []
  | fuel + 1, p =>
    match p.fetch with
    | (some topic, p) => topic :: fetchUpTo fuel p
    | (none, _) => []

/-- `while (fetch(…))`: there are no more messages than the two providers have. -/
def fetchAll (p : ChannelAndState) : List String :=
  p.fetchUpTo ((p.channel.getD []).length + (p.state.getD []).length)

end ChannelAndState

/-- The topics that the provider emits for a row. -/
def topics (topicPrefix : String) (live : Option ChannelFunction) (row : ChannelRow) :
    List String :=
  (ChannelAndState.setDataRow topicPrefix live row).fetchAll

end Mqtt
