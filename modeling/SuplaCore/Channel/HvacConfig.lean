import SuplaCore.Channel.ElectricityMeterConfig
import SuplaCore.Device.JsonConfig
import SuplaCore.Lib.JsonNumber

/-!
# The configuration of a thermostat

`hvac_config` (`supla-server/src/jsonconfig/channel/hvac_config.cpp`): a `TChannelConfig_HVAC` is
kept in the user's and in the properties' JSON tree of a channel. `setConfig` writes its items one
after the other, `getConfig` reads them. A flag of a parameter is a name in one of four arrays.

The unions of the structure hold the channel numbers. Left out: `merge`, and the null pointers that
no caller passes.
-/

namespace Channel.HvacConfig

open Json Device.JsonConfig

/-! ## Names -/

/-- The fields of `field_map`. -/
inductive Field
  | mainThermometerChannelNo
  | auxThermometerChannelNo
  | auxThermometerType
  | auxMinMaxSetpointEnabled
  | useSeparateHeatCoolOutputs
  | binarySensorChannelNo
  | antiFreezeAndOverheatProtectionEnabled
  | availableAlgorithms
  | usedAlgorithm
  | minOnTimeS
  | minOffTimeS
  | outputValueOnError
  | subfunction
  | temperatureSetpointChangeSwitchesToManualMode
  | temperatures
  | masterThermostatChannelNo
  | heatOrColdSourceSwitch
  | pumpSwitch
  | temperatureControlType
  | hiddenConfigFields
  | readonlyConfigFields
  | hiddenTemperatureConfigFields
  | readonlyTemperatureConfigFields
  | localUILockingCapabilities
  | localUILock
  | minAllowedTemperatureSetpointFromLocalUI
  | maxAllowedTemperatureSetpointFromLocalUI
  deriving DecidableEq

namespace Field

def name : Field → String
  | mainThermometerChannelNo => "mainThermometerChannelNo"
  | auxThermometerChannelNo => "auxThermometerChannelNo"
  | auxThermometerType => "auxThermometerType"
  | auxMinMaxSetpointEnabled => "auxMinMaxSetpointEnabled"
  | useSeparateHeatCoolOutputs => "useSeparateHeatCoolOutputs"
  | binarySensorChannelNo => "binarySensorChannelNo"
  | antiFreezeAndOverheatProtectionEnabled => "antiFreezeAndOverheatProtectionEnabled"
  | availableAlgorithms => "availableAlgorithms"
  | usedAlgorithm => "usedAlgorithm"
  | minOnTimeS => "minOnTimeS"
  | minOffTimeS => "minOffTimeS"
  | outputValueOnError => "outputValueOnError"
  | subfunction => "subfunction"
  | temperatureSetpointChangeSwitchesToManualMode =>
    "temperatureSetpointChangeSwitchesToManualMode"
  | temperatures => "temperatures"
  | masterThermostatChannelNo => "masterThermostatChannelNo"
  | heatOrColdSourceSwitch => "heatOrColdSourceSwitchChannelNo"
  | pumpSwitch => "pumpSwitchChannelNo"
  | temperatureControlType => "temperatureControlType"
  | hiddenConfigFields => "hiddenConfigFields"
  | readonlyConfigFields => "readOnlyConfigFields"
  | hiddenTemperatureConfigFields => "hiddenTemperatureConfigFields"
  | readonlyTemperatureConfigFields => "readOnlyTemperatureConfigFields"
  | localUILockingCapabilities => "localUILockingCapabilities"
  | localUILock => "localUILock"
  | minAllowedTemperatureSetpointFromLocalUI => "minAllowedTemperatureSetpointFromLocalUI"
  | maxAllowedTemperatureSetpointFromLocalUI => "maxAllowedTemperatureSetpointFromLocalUI"

end Field

def TEMPERATURE_FREEZE_PROTECTION : BitVec 32 := 0x00001
def TEMPERATURE_ECO : BitVec 32 := 0x00002
def TEMPERATURE_COMFORT : BitVec 32 := 0x00004
def TEMPERATURE_BOOST : BitVec 32 := 0x00008
def TEMPERATURE_HEAT_PROTECTION : BitVec 32 := 0x00010
def TEMPERATURE_HISTERESIS : BitVec 32 := 0x00020
def TEMPERATURE_BELOW_ALARM : BitVec 32 := 0x00040
def TEMPERATURE_ABOVE_ALARM : BitVec 32 := 0x00080
def TEMPERATURE_AUX_MIN_SETPOINT : BitVec 32 := 0x00100
def TEMPERATURE_AUX_MAX_SETPOINT : BitVec 32 := 0x00200
def TEMPERATURE_ROOM_MIN : BitVec 32 := 0x00400
def TEMPERATURE_ROOM_MAX : BitVec 32 := 0x00800
def TEMPERATURE_AUX_MIN : BitVec 32 := 0x01000
def TEMPERATURE_AUX_MAX : BitVec 32 := 0x02000
def TEMPERATURE_HISTERESIS_MIN : BitVec 32 := 0x04000
def TEMPERATURE_HISTERESIS_MAX : BitVec 32 := 0x08000
def TEMPERATURE_HEAT_COOL_OFFSET_MIN : BitVec 32 := 0x10000
def TEMPERATURE_HEAT_COOL_OFFSET_MAX : BitVec 32 := 0x20000
def TEMPERATURE_AUX_HISTERESIS : BitVec 32 := 0x40000

/-- In the order of the keys. -/
def temperaturesMap : List (BitVec 32 × String) :=
  [(TEMPERATURE_FREEZE_PROTECTION, "freezeProtection"),
    (TEMPERATURE_ECO, "eco"),
    (TEMPERATURE_COMFORT, "comfort"),
    (TEMPERATURE_BOOST, "boost"),
    (TEMPERATURE_HEAT_PROTECTION, "heatProtection"),
    (TEMPERATURE_HISTERESIS, "histeresis"),
    (TEMPERATURE_BELOW_ALARM, "belowAlarm"),
    (TEMPERATURE_ABOVE_ALARM, "aboveAlarm"),
    (TEMPERATURE_AUX_MIN_SETPOINT, "auxMinSetpoint"),
    (TEMPERATURE_AUX_MAX_SETPOINT, "auxMaxSetpoint"),
    (TEMPERATURE_ROOM_MIN, "roomMin"),
    (TEMPERATURE_ROOM_MAX, "roomMax"),
    (TEMPERATURE_AUX_MIN, "auxMin"),
    (TEMPERATURE_AUX_MAX, "auxMax"),
    (TEMPERATURE_HISTERESIS_MIN, "histeresisMin"),
    (TEMPERATURE_HISTERESIS_MAX, "histeresisMax"),
    (TEMPERATURE_HEAT_COOL_OFFSET_MIN, "heatCoolOffsetMin"),
    (TEMPERATURE_HEAT_COOL_OFFSET_MAX, "heatCoolOffsetMax"),
    (TEMPERATURE_AUX_HISTERESIS, "auxHisteresis")]

def readonlyTemperatures : BitVec 32 :=
  TEMPERATURE_ROOM_MIN ||| TEMPERATURE_ROOM_MAX ||| TEMPERATURE_AUX_MIN ||| TEMPERATURE_AUX_MAX |||
    TEMPERATURE_HISTERESIS_MIN ||| TEMPERATURE_HISTERESIS_MAX |||
    TEMPERATURE_HEAT_COOL_OFFSET_MIN ||| TEMPERATURE_HEAT_COOL_OFFSET_MAX

def temperatureKeyToString (key : BitVec 32) : String :=
  ((temperaturesMap.find? fun e => e.1 == key).map (·.2)).getD ""

/-- The parameters that have a read-only and a hidden flag. -/
inductive Parameter
  | mainThermometerChannelNo
  | auxThermometerChannelNo
  | binarySensorChannelNo
  | auxThermometerType
  | antiFreezeAndOverheatProtectionEnabled
  | usedAlgorithm
  | minOnTimeS
  | minOffTimeS
  | outputValueOnError
  | subfunction
  | auxMinMaxSetpointEnabled
  | useSeparateHeatCoolOutputs
  | masterThermostatChannelNo
  | heatOrColdSourceSwitch
  | pumpSwitch
  | temperatureSetpointChangeSwitchesToManualMode
  deriving DecidableEq

namespace Parameter

/-- In the order of `set_config`. -/
def all : List Parameter :=
  [mainThermometerChannelNo, auxThermometerChannelNo, binarySensorChannelNo, auxThermometerType,
    antiFreezeAndOverheatProtectionEnabled, usedAlgorithm, minOnTimeS, minOffTimeS,
    outputValueOnError, subfunction, auxMinMaxSetpointEnabled, useSeparateHeatCoolOutputs,
    masterThermostatChannelNo, heatOrColdSourceSwitch, pumpSwitch,
    temperatureSetpointChangeSwitchesToManualMode]

def field : Parameter → Field
  | mainThermometerChannelNo => .mainThermometerChannelNo
  | auxThermometerChannelNo => .auxThermometerChannelNo
  | binarySensorChannelNo => .binarySensorChannelNo
  | auxThermometerType => .auxThermometerType
  | antiFreezeAndOverheatProtectionEnabled => .antiFreezeAndOverheatProtectionEnabled
  | usedAlgorithm => .usedAlgorithm
  | minOnTimeS => .minOnTimeS
  | minOffTimeS => .minOffTimeS
  | outputValueOnError => .outputValueOnError
  | subfunction => .subfunction
  | auxMinMaxSetpointEnabled => .auxMinMaxSetpointEnabled
  | useSeparateHeatCoolOutputs => .useSeparateHeatCoolOutputs
  | masterThermostatChannelNo => .masterThermostatChannelNo
  | heatOrColdSourceSwitch => .heatOrColdSourceSwitch
  | pumpSwitch => .pumpSwitch
  | temperatureSetpointChangeSwitchesToManualMode => .temperatureSetpointChangeSwitchesToManualMode

def name (p : Parameter) : String := p.field.name

end Parameter

/-- The temperatures that have a read-only and a hidden flag. -/
inductive TemperatureParameter
  | freezeProtection
  | eco
  | comfort
  | boost
  | heatProtection
  | histeresis
  | auxHisteresis
  | belowAlarm
  | aboveAlarm
  | auxMinSetpoint
  | auxMaxSetpoint
  deriving DecidableEq

namespace TemperatureParameter

/-- In the order of `set_config`. -/
def all : List TemperatureParameter :=
  [freezeProtection, eco, comfort, boost, heatProtection, histeresis, auxHisteresis, belowAlarm,
    aboveAlarm, auxMinSetpoint, auxMaxSetpoint]

def key : TemperatureParameter → BitVec 32
  | freezeProtection => TEMPERATURE_FREEZE_PROTECTION
  | eco => TEMPERATURE_ECO
  | comfort => TEMPERATURE_COMFORT
  | boost => TEMPERATURE_BOOST
  | heatProtection => TEMPERATURE_HEAT_PROTECTION
  | histeresis => TEMPERATURE_HISTERESIS
  | auxHisteresis => TEMPERATURE_AUX_HISTERESIS
  | belowAlarm => TEMPERATURE_BELOW_ALARM
  | aboveAlarm => TEMPERATURE_ABOVE_ALARM
  | auxMinSetpoint => TEMPERATURE_AUX_MIN_SETPOINT
  | auxMaxSetpoint => TEMPERATURE_AUX_MAX_SETPOINT

def name (p : TemperatureParameter) : String := temperatureKeyToString p.key

end TemperatureParameter

/-! ## The structure -/

structure HvacParameterFlags where
  readonly : Parameter → Bool := fun _ => false
  hidden : Parameter → Bool := fun _ => false
  temperatureReadonly : TemperatureParameter → Bool := fun _ => false
  temperatureHidden : TemperatureParameter → Bool := fun _ => false
  reserved : BitVec 10 := 0

@[ext]
structure THVACTemperatureCfg where
  index : BitVec 32 := 0
  temperature : Vector Int16 24 := Vector.replicate 24 0

structure TChannelConfigHVAC where
  mainThermometerChannelNo : UInt8 := 0
  auxThermometerChannelNo : UInt8 := 0
  binarySensorChannelNo : UInt8 := 0
  auxThermometerType : UInt8 := 0
  antiFreezeAndOverheatProtectionEnabled : UInt8 := 0
  availableAlgorithms : UInt16 := 0
  usedAlgorithm : UInt16 := 0
  minOnTimeS : UInt16 := 0
  minOffTimeS : UInt16 := 0
  outputValueOnError : Int8 := 0
  subfunction : UInt8 := 0
  temperatureSetpointChangeSwitchesToManualMode : UInt8 := 0
  auxMinMaxSetpointEnabled : UInt8 := 0
  useSeparateHeatCoolOutputs : UInt8 := 0
  parameterFlags : HvacParameterFlags := {}
  masterThermostatIsSet : UInt8 := 0
  masterThermostatChannelNo : UInt8 := 0
  heatOrColdSourceSwitchIsSet : UInt8 := 0
  heatOrColdSourceSwitchChannelNo : UInt8 := 0
  pumpSwitchIsSet : UInt8 := 0
  pumpSwitchChannelNo : UInt8 := 0
  temperatureControlType : UInt8 := 0
  localUILockingCapabilities : UInt8 := 0
  localUILock : UInt8 := 0
  minAllowedTemperatureSetpointFromLocalUI : Int16 := 0
  maxAllowedTemperatureSetpointFromLocalUI : Int16 := 0
  reserved : Vector UInt8 21 := Vector.replicate 21 0
  temperatures : THVACTemperatureCfg := {}

/-! ## String tables -/

def auxThermometerTypeToString (type : UInt8) : String :=
  match type.toNat with
  | 0 => "NOT_SET"
  | 1 => "DISABLED"
  | 2 => "FLOOR"
  | 3 => "WATER"
  | 4 => "GENERIC_HEATER"
  | 5 => "GENERIC_COOLER"
  | _ => ""

def stringToAuxThermometerType (type : String) : UInt8 :=
  if type == "DISABLED" then 1
  else if type == "FLOOR" then 2
  else if type == "WATER" then 3
  else if type == "GENERIC_HEATER" then 4
  else if type == "GENERIC_COOLER" then 5
  else 0

def SUPLA_HVAC_ALGORITHM_ON_OFF_SETPOINT_MIDDLE : UInt16 := 1
def SUPLA_HVAC_ALGORITHM_ON_OFF_SETPOINT_AT_MOST : UInt16 := 2
def SUPLA_HVAC_ALGORITHM_PID : UInt16 := 4

def algToString (alg : UInt16) : String :=
  if alg = SUPLA_HVAC_ALGORITHM_ON_OFF_SETPOINT_MIDDLE then "ON_OFF_SETPOINT_MIDDLE"
  else if alg = SUPLA_HVAC_ALGORITHM_ON_OFF_SETPOINT_AT_MOST then "ON_OFF_SETPOINT_AT_MOST"
  else if alg = SUPLA_HVAC_ALGORITHM_PID then "PID"
  else ""

def stringToAlg (alg : String) : UInt16 :=
  if alg == "ON_OFF_SETPOINT_MIDDLE" then SUPLA_HVAC_ALGORITHM_ON_OFF_SETPOINT_MIDDLE
  else if alg == "ON_OFF_SETPOINT_AT_MOST" then SUPLA_HVAC_ALGORITHM_ON_OFF_SETPOINT_AT_MOST
  else if alg == "PID" then SUPLA_HVAC_ALGORITHM_PID
  else 0

def subfunctionToString (subfunction : UInt8) : String :=
  match subfunction.toNat with
  | 1 => "HEAT"
  | 2 => "COOL"
  | _ => "NOT_SET"

def stringToSubfunction (subfunction : String) : UInt8 :=
  if subfunction == "HEAT" then 1 else if subfunction == "COOL" then 2 else 0

def temperatureControlTypeToString (type : UInt8) : String :=
  match type.toNat with
  | 1 => "ROOM_TEMPERATURE"
  | 2 => "AUX_HEATER_COOLER_TEMPERATURE"
  | _ => "NOT_SUPPORTED"

def stringToTemperatureControlType (type : String) : UInt8 :=
  if type == "ROOM_TEMPERATURE" then 1
  else if type == "AUX_HEATER_COOLER_TEMPERATURE" then 2
  else 0

def LOCAL_UI_LOCK_FULL : UInt8 := 1
def LOCAL_UI_LOCK_TEMPERATURE : UInt8 := 2

def lockingCapToString (cap : UInt8) : String :=
  if cap = LOCAL_UI_LOCK_FULL then "FULL"
  else if cap = LOCAL_UI_LOCK_TEMPERATURE then "TEMPERATURE"
  else ""

def stringToLockingCap (str : String) : UInt8 :=
  if str == "FULL" then LOCAL_UI_LOCK_FULL
  else if str == "TEMPERATURE" then LOCAL_UI_LOCK_TEMPERATURE
  else 0

/-! ## Writing -/

variable {D : Type}

/-- One statement of `set_config`. -/
inductive Assign (D : Type)
  /-- `set_item_value`, which adds an item that is not there. -/
  | item (field : Field) (item : Item D)
  /-- The item is deleted and added anew. -/
  | anew (field : Field) (node : Node D)

def Assign.apply (root : Node D) : Assign D → Node D
  | .item f it => setItemValue root f.name it true
  | .anew f n => (root.erase f.name).add f.name n

/-- An array of strings. -/
def stringArray (arr : List String) : Node D := .ofItems (arr.map fun s => .leaf (.string s))

/-- A string that is added to an array when a condition is met. -/
def addIf (cond : Bool) (s : String) (arr : List String) : List String :=
  if cond then arr ++ [s] else arr

def addAlgorithmToArray (algs : List String) (config : TChannelConfigHVAC) (alg : UInt16) :
    List String :=
  addIf (config.availableAlgorithms &&& alg != 0) (algToString alg) algs

def algorithms (config : TChannelConfigHVAC) : Node D :=
  let algs := addAlgorithmToArray [] config SUPLA_HVAC_ALGORITHM_ON_OFF_SETPOINT_MIDDLE
  let algs := addAlgorithmToArray algs config SUPLA_HVAC_ALGORITHM_ON_OFF_SETPOINT_AT_MOST
  stringArray (addAlgorithmToArray algs config SUPLA_HVAC_ALGORITHM_PID)

def addLockingCapToArray (arr : List String) (caps cap : UInt8) : List String :=
  addIf (caps &&& cap != 0) (lockingCapToString cap) arr

def createLockingCapArr (caps : UInt8) : Node D :=
  stringArray (addLockingCapToArray (addLockingCapToArray [] caps LOCAL_UI_LOCK_FULL) caps
    LOCAL_UI_LOCK_TEMPERATURE)

/-- The names of the parameters whose flag is set. -/
def flagNames {P : Type} (all : List P) (name : P → String) (flag : P → Bool) : Node D :=
  stringArray (all.foldl (fun arr p => addIf (flag p) (name p) arr) [])

/-- `cond ? cJSON_True : cJSON_False`. -/
def boolItem (value : UInt8) : Item D := if value ≠ 0 then .true else .false

variable [Number D]

def setChannelNumber (field : Field) (cfgChannelNumber channelNumber : UInt8) : Assign D :=
  .item field (if channelNumber = cfgChannelNumber then .null
    else .number (Number.ofInt cfgChannelNumber.toNat))

/-- The object of the temperatures of `set_temperatures`. -/
def temperaturesNode (temperatures : THVACTemperatureCfg) (filter : BitVec 32) : Node D :=
  (List.finRange 24).foldl (fun node (a : Fin 24) =>
    let idx := BitVec.twoPow 32 a
    if filter &&& idx ≠ 0 ∧ temperatures.index &&& idx ≠ 0 then
      let key := temperatureKeyToString idx
      if key ≠ "" then
        node.add key (.leaf (.number (Number.ofInt temperatures.temperature[a].toInt)))
      else node
    else node) .emptyObject

def setTemperatures (config : TChannelConfigHVAC) (filter : BitVec 32) : Assign D :=
  .anew .temperatures (temperaturesNode config.temperatures filter)

/-- What `set_config` writes to the user's tree. -/
def userAssigns (config : TChannelConfigHVAC) (channelNumber : UInt8) : List (Assign D) :=
  [setChannelNumber .mainThermometerChannelNo config.mainThermometerChannelNo channelNumber,
    setChannelNumber .auxThermometerChannelNo config.auxThermometerChannelNo channelNumber,
    .item .auxThermometerType (.string (auxThermometerTypeToString config.auxThermometerType)),
    .item .auxMinMaxSetpointEnabled (boolItem config.auxMinMaxSetpointEnabled),
    .item .useSeparateHeatCoolOutputs (boolItem config.useSeparateHeatCoolOutputs),
    setChannelNumber .binarySensorChannelNo config.binarySensorChannelNo channelNumber,
    .item .antiFreezeAndOverheatProtectionEnabled
      (boolItem config.antiFreezeAndOverheatProtectionEnabled),
    .item .usedAlgorithm (.string (algToString config.usedAlgorithm))] ++
  (if config.minOffTimeS.toNat ≤ 3600 then
    [.item .minOffTimeS (.number (Number.ofInt config.minOffTimeS.toNat))] else []) ++
  (if config.minOnTimeS.toNat ≤ 3600 then
    [.item .minOnTimeS (.number (Number.ofInt config.minOnTimeS.toNat))] else []) ++
  (if -100 ≤ config.outputValueOnError.toInt ∧ config.outputValueOnError.toInt ≤ 100 then
    [.item .outputValueOnError (.number (Number.ofInt config.outputValueOnError.toInt))] else []) ++
  [.item .subfunction (.string (subfunctionToString config.subfunction)),
    .item .temperatureSetpointChangeSwitchesToManualMode
      (boolItem config.temperatureSetpointChangeSwitchesToManualMode),
    setChannelNumber .masterThermostatChannelNo
      (if config.masterThermostatIsSet ≠ 0 then config.masterThermostatChannelNo
        else channelNumber) channelNumber,
    setChannelNumber .heatOrColdSourceSwitch
      (if config.heatOrColdSourceSwitchIsSet ≠ 0 then config.heatOrColdSourceSwitchChannelNo
        else channelNumber) channelNumber,
    setChannelNumber .pumpSwitch
      (if config.pumpSwitchIsSet ≠ 0 then config.pumpSwitchChannelNo else channelNumber)
      channelNumber,
    .item .temperatureControlType
      (.string (temperatureControlTypeToString config.temperatureControlType)),
    setTemperatures config (0xFFFFFFFF ^^^ readonlyTemperatures),
    .item .localUILock (.object (createLockingCapArr config.localUILock)),
    .item .minAllowedTemperatureSetpointFromLocalUI
      (.number (Number.ofInt config.minAllowedTemperatureSetpointFromLocalUI.toInt)),
    .item .maxAllowedTemperatureSetpointFromLocalUI
      (.number (Number.ofInt config.maxAllowedTemperatureSetpointFromLocalUI.toInt))]

/-- What `set_config` writes to the properties' tree. -/
def propertiesAssigns (config : TChannelConfigHVAC) : List (Assign D) :=
  [.anew .availableAlgorithms (algorithms config),
    setTemperatures config readonlyTemperatures,
    .item .readonlyConfigFields
      (.object (flagNames Parameter.all Parameter.name config.parameterFlags.readonly)),
    .item .hiddenConfigFields
      (.object (flagNames Parameter.all Parameter.name config.parameterFlags.hidden)),
    .item .readonlyTemperatureConfigFields
      (.object (flagNames TemperatureParameter.all TemperatureParameter.name
        config.parameterFlags.temperatureReadonly)),
    .item .hiddenTemperatureConfigFields
      (.object (flagNames TemperatureParameter.all TemperatureParameter.name
        config.parameterFlags.temperatureHidden)),
    .item .localUILockingCapabilities
      (.object (createLockingCapArr config.localUILockingCapabilities))]

def setConfig (c : EmConfig.Config D) (config : TChannelConfigHVAC) (channelNumber : UInt8) :
    EmConfig.Config D where
  userRoot := (userAssigns config channelNumber).foldl Assign.apply c.userRoot
  propertiesRoot := (propertiesAssigns config).foldl Assign.apply c.propertiesRoot

/-! ## Reading -/

/-- `result` and the structure, while it is read. -/
structure Got where
  result : Bool
  config : TChannelConfigHVAC

/-- `get_channel_number`: whether the item was there, the number, and `is_null`. -/
def getChannelNumber (root : Node D) (field : Field) (channelNumber : UInt8) :
    Bool × UInt8 × Bool :=
  match getDouble (some root) field.name with
  | some value => (true, toUInt8 value, false)
  | none =>
    match (root.get field.name).map Node.kind with
    | some .null => (true, channelNumber, true)
    | _ => (false, channelNumber, false)

/-- A channel number is stored where it was not read, too. -/
def Got.readChannelNumber (g : Got) (root : Node D) (field : Field) (channelNumber : UInt8)
    (set : TChannelConfigHVAC → UInt8 → Bool → TChannelConfigHVAC) : Got :=
  let r := getChannelNumber root field channelNumber
  ⟨g.result || r.1, set g.config r.2.1 (r.1 && !r.2.2)⟩

def Got.readString (g : Got) (root : Node D) (field : Field)
    (set : TChannelConfigHVAC → String → TChannelConfigHVAC) : Got :=
  match getString (some root) field.name with
  | some value => ⟨true, set g.config value⟩
  | none => g

def Got.readBool (g : Got) (root : Node D) (field : Field)
    (set : TChannelConfigHVAC → UInt8 → TChannelConfigHVAC) : Got :=
  match getBool (some root) field.name with
  | some value => ⟨true, set g.config (if value then 1 else 0)⟩
  | none => g

/-- A number that is read only if it meets a condition. -/
def Got.readDouble (g : Got) (root : Node D) (field : Field) (accepts : D → Bool)
    (set : TChannelConfigHVAC → D → TChannelConfigHVAC) : Got :=
  match getDouble (some root) field.name with
  | some value => if accepts value then ⟨true, set g.config value⟩ else g
  | none => g

/-- The items of an array that are strings, nothing if the item is not an array. -/
def arrayStrings (item : Option (Node D)) : Option (List String) :=
  match item with
  | some arr =>
    match arr.kind with
    | .array => some (arr.items.filterMap fun i => stringOf (some i))
    | _ => none
  | none => none

def Got.addAlgorithm (g : Got) (alg : String) : Got :=
  ⟨true, { g.config with
    availableAlgorithms := g.config.availableAlgorithms ||| stringToAlg alg }⟩

def Got.readAlgorithms (g : Got) (root : Node D) : Got :=
  match arrayStrings (root.get (Field.name .availableAlgorithms)) with
  | some algs => algs.foldl Got.addAlgorithm g
  | none => g

def jsonArrayToLockingCaps (field : Field) (root : Node D) : UInt8 :=
  match arrayStrings (root.get field.name) with
  | some caps => caps.foldl (fun result str => result ||| stringToLockingCap str) 0
  | none => 0

def Got.readLockingCaps (g : Got) (root : Node D) (field : Field)
    (set : TChannelConfigHVAC → UInt8 → TChannelConfigHVAC) : Got :=
  ⟨g.result, set g.config (jsonArrayToLockingCaps field root)⟩

/-- The bit that a key of the map stands for. -/
def keyBit (key : BitVec 32) : Option Nat :=
  (List.range 32).find? fun a => BitVec.twoPow 32 a == key

/-- One temperature of `get_temperatures`. -/
def Got.readTemperature (g : Got) (temperatures : Node D) (key : BitVec 32) (name : String) : Got :=
  match (temperatures.get name).map Node.kind with
  | some (.number value) =>
    match keyBit key with
    | some a => ⟨true, { g.config with temperatures :=
        ⟨g.config.temperatures.index ||| BitVec.twoPow 32 a,
          g.config.temperatures.temperature.setIfInBounds a (toInt16 value)⟩ }⟩
    | none => g
  | _ => g

def Got.getTemperatures (g : Got) (root : Node D) (filter : BitVec 32) : Got :=
  match root.get (Field.name .temperatures) with
  | some temperatures =>
    match temperatures.kind with
    | .object => temperaturesMap.foldl (fun g e =>
        if filter &&& e.1 ≠ 0 then g.readTemperature temperatures e.1 e.2 else g) g
    | _ => g
  | none => g

/-- The flags whose parameters an array names. -/
def Got.readFlags {P : Type} (g : Got) (root : Node D) (field : Field) (name : P → String)
    (set : HvacParameterFlags → (P → Bool) → HvacParameterFlags) : Got :=
  match arrayStrings (root.get field.name) with
  | some strs =>
    let flags := strs.foldl (fun flags str p => flags p || str == name p) fun _ => false
    ⟨true, { g.config with parameterFlags := set g.config.parameterFlags flags }⟩
  | none => g

def getConfig (c : EmConfig.Config D) (channelNumber : UInt8) : Got :=
  let user := c.userRoot
  let properties := c.propertiesRoot
  let g : Got := ⟨false, {}⟩
  let g := g.readChannelNumber user .mainThermometerChannelNo channelNumber
    fun config no _ => { config with mainThermometerChannelNo := no }
  let g := g.readChannelNumber user .auxThermometerChannelNo channelNumber
    fun config no _ => { config with auxThermometerChannelNo := no }
  let g := g.readString user .auxThermometerType
    fun config s => { config with auxThermometerType := stringToAuxThermometerType s }
  let g := g.readBool user .auxMinMaxSetpointEnabled
    fun config b => { config with auxMinMaxSetpointEnabled := b }
  let g := g.readBool user .useSeparateHeatCoolOutputs
    fun config b => { config with useSeparateHeatCoolOutputs := b }
  let g := g.readChannelNumber user .binarySensorChannelNo channelNumber
    fun config no _ => { config with binarySensorChannelNo := no }
  let g := g.readBool user .antiFreezeAndOverheatProtectionEnabled
    fun config b => { config with antiFreezeAndOverheatProtectionEnabled := b }
  let g := g.readAlgorithms properties
  let g := g.readString user .usedAlgorithm
    fun config s => { config with usedAlgorithm := stringToAlg s }
  let g := g.readDouble user .minOffTimeS (Number.between 0 3600)
    fun config d => { config with minOffTimeS := toUInt16 d }
  let g := g.readDouble user .minOnTimeS (Number.between 0 3600)
    fun config d => { config with minOnTimeS := toUInt16 d }
  let g := g.readDouble user .outputValueOnError (Number.between (-100) 100)
    fun config d => { config with outputValueOnError := toInt8 d }
  let g := g.readString user .subfunction
    fun config s => { config with subfunction := stringToSubfunction s }
  let g := g.readBool user .temperatureSetpointChangeSwitchesToManualMode
    fun config b => { config with temperatureSetpointChangeSwitchesToManualMode := b }
  let g := g.readChannelNumber user .masterThermostatChannelNo channelNumber
    fun config no isSet => { config with
      masterThermostatChannelNo := no
      masterThermostatIsSet := if isSet then 1 else config.masterThermostatIsSet }
  let g := g.readChannelNumber user .heatOrColdSourceSwitch channelNumber
    fun config no isSet => { config with
      heatOrColdSourceSwitchChannelNo := no
      heatOrColdSourceSwitchIsSet := if isSet then 1 else config.heatOrColdSourceSwitchIsSet }
  let g := g.readChannelNumber user .pumpSwitch channelNumber
    fun config no isSet => { config with
      pumpSwitchChannelNo := no
      pumpSwitchIsSet := if isSet then 1 else config.pumpSwitchIsSet }
  let g := g.readString user .temperatureControlType
    fun config s => { config with temperatureControlType := stringToTemperatureControlType s }
  let g := g.readLockingCaps user .localUILock
    fun config caps => { config with localUILock := caps }
  let g := g.readDouble user .minAllowedTemperatureSetpointFromLocalUI (fun _ => true)
    fun config d => { config with minAllowedTemperatureSetpointFromLocalUI := toInt16 d }
  let g := g.readDouble user .maxAllowedTemperatureSetpointFromLocalUI (fun _ => true)
    fun config d => { config with maxAllowedTemperatureSetpointFromLocalUI := toInt16 d }
  let g := g.getTemperatures user (0xFFFFFFFF ^^^ readonlyTemperatures)
  let g := g.getTemperatures properties readonlyTemperatures
  let g := g.readFlags properties .readonlyConfigFields Parameter.name
    fun flags p => { flags with readonly := p }
  let g := g.readFlags properties .hiddenConfigFields Parameter.name
    fun flags p => { flags with hidden := p }
  let g := g.readFlags properties .readonlyTemperatureConfigFields TemperatureParameter.name
    fun flags p => { flags with temperatureReadonly := p }
  let g := g.readFlags properties .hiddenTemperatureConfigFields TemperatureParameter.name
    fun flags p => { flags with temperatureHidden := p }
  g.readLockingCaps properties .localUILockingCapabilities
    fun config caps => { config with localUILockingCapabilities := caps }

end Channel.HvacConfig
