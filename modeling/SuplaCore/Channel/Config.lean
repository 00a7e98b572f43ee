import SuplaCore.Channel.Props

/-!
# Reading and writing a channel's configuration

`get_config` and `set_user_config` of `abstract_common_channel_properties.cpp`. Each of them picks
a configuration structure by a cascade of its own over the channel's type, function and flags and
the message's `config_type` and size: `configTarget` is the cascade of the first, `userTarget` that
of the second.
-/

namespace Channel

abbrev channelConfigMaxsize : Nat := 512

abbrev configTypeDefault : UInt8 := 0
abbrev configTypeWeeklySchedule : UInt8 := 2
abbrev configTypeAltWeeklySchedule : UInt8 := 3
abbrev configTypeOcr : UInt8 := 4
abbrev configTypeExtended : UInt8 := 5

/-- The `SUPLA_CONFIG_RESULT_*` of `set_user_config`. -/
inductive ConfigResult
  | false
  | true
  | notAllowed
  deriving Repr, DecidableEq

/-- The class and the structure of one `JSON_TO_CONFIG` or `set_config`. -/
structure Target where
  cls : JsonClass
  struct : Struct
  deriving Repr, DecidableEq

/-! ## The families of functions the cascades ask for -/

def isTempHum (func : Int) : Bool :=
  func = channelfncThermometer || func = channelfncHumidity ||
    func = channelfncHumidityAndTemperature

def isRollerShutter (func : Int) : Bool :=
  func = channelfncControllingTheRollerShutter || func = channelfncControllingTheRoofWindow ||
    func = channelfncTerraceAwning || func = channelfncProjectorScreen ||
    func = channelfncCurtain || func = channelfncRollerGarageDoor

def isFacadeBlind (func : Int) : Bool :=
  func = channelfncControllingTheFacadeBlind || func = channelfncVerticalBlind

def isPowerSwitch (func : Int) : Bool :=
  func = channelfncPowerSwitch || func = channelfncLightSwitch

section
variable {J : Type}

def Props.hasWeeklySchedule (p : Props J) : Bool := p.flags &&& channelFlagWeeklySchedule ≠ 0

/-! ## `get_config` -/

/-- The channel types with a structure of their own. -/
def typeTarget (type : Int) : Option Target :=
  if type = channeltypeHvac then some ⟨.hvac, .hvac⟩
  else if type = channeltypeBinarysensor then some ⟨.binarySensor, .binarySensor⟩
  else if type = channeltypeGeneralPurposeMeasurement then
    some ⟨.generalPurposeMeasurement, .generalPurposeMeasurement⟩
  else if type = channeltypeGeneralPurposeMeter then
    some ⟨.generalPurposeMeter, .generalPurposeMeter⟩
  else if type = channeltypeImpulseCounter then some ⟨.impulseCounter, .impulseCounter⟩
  else if type = channeltypeContainer then some ⟨.container, .container⟩
  else if type = channeltypeValveOpenclose then some ⟨.valve, .valve⟩
  else none

/-- The `switch` over the function. -/
def funcTarget (func : Int) : Option Target :=
  if func = channelfncStaircaseTimer then some ⟨.powerSwitch, .staircaseTimer⟩
  else if isRollerShutter func then some ⟨.rollerShutter, .rollerShutter⟩
  else if isFacadeBlind func then some ⟨.facadeBlind, .facadeBlind⟩
  else if func = channelfncActionTrigger then some ⟨.actionTrigger, .actionTrigger⟩
  else if isTempHum func then some ⟨.tempHum, .temperatureAndHumidity⟩
  else if func = channelfncElectricityMeter then some ⟨.electricityMeter, .electricityMeter⟩
  else if isPowerSwitch func then some ⟨.powerSwitch, .powerSwitch⟩
  else none

/-- From `config_type != SUPLA_CONFIG_TYPE_DEFAULT` on. -/
def defaultTarget (p : Props J) (configType : UInt8) : Option Target :=
  if configType ≠ configTypeDefault then none
  else
    match typeTarget p.type with
    | some t => some t
    | none => funcTarget p.func

/-- The structure that `get_config` fills. The branch of the photo configuration does not return,
but the test of `config_type` after it does. -/
def configTarget (p : Props J) (configType : UInt8) : Option Target :=
  if p.hasWeeklySchedule then
    if configType = configTypeWeeklySchedule then some ⟨.weeklySchedule, .weeklySchedule⟩
    else if configType = configTypeAltWeeklySchedule then
      some ⟨.altWeeklySchedule, .weeklySchedule⟩
    else defaultTarget p configType
  else if p.type = channeltypeImpulseCounter ∧ configType = configTypeOcr then some ⟨.ocr, .ocr⟩
  else if configType = configTypeExtended ∧ p.func = channelfncStaircaseTimer then
    some ⟨.powerSwitch, .powerSwitch⟩
  else defaultTarget p configType

/-- A filled structure. -/
inductive Config
  | hvac (c : HvacConfig)
  | container (c : SensorConfig)
  | valve (c : SensorConfig)
  | actionTrigger (activeActions : BitVec 32)
  | other (struct : Struct) (bytes : List UInt8)
  deriving DecidableEq

/-- Its type. -/
def Config.struct : Config → Struct
  | hvac _ => .hvac
  | container _ => .container
  | valve _ => .valve
  | actionTrigger _ => .actionTrigger
  | other s _ => s

/-- `json_to_config`, `none` for `config_size = 0`. -/
def jsonToConfig (js : JsonClasses J) (p : Props J) (t : Target) : Option Config :=
  match t.struct with
  | .hvac => (js.hvac p.json p.number).map .hvac
  | .container => (js.container p.json).map .container
  | .valve => (js.valve p.json).map .valve
  | .actionTrigger => some (.actionTrigger (js.activeActions p.json))
  | s => (js.other t.cls s p.json).map (.other s)

/-- The identifier of the first channel with this number, as a 32 bit integer. -/
def channelIdOf (dev : Around J) (no : BitVec 8) : Option (BitVec 32) :=
  ((dev.forEach false).find? (·.number == no)).map (BitVec.ofInt 32 ·.id)

/-- The thermometers of a thermostat by identifier; 0 where there is no such channel. -/
def resolveHvac (dev : Around J) (p : Props J) (c : HvacConfig) : HvacConfig :=
  { c with
    mainThermometerChannelId :=
      if c.mainThermometerChannelNo ≠ p.number then
        (channelIdOf dev c.mainThermometerChannelNo).getD 0
      else c.mainThermometerChannelId
    auxThermometerChannelId :=
      if c.auxInUse then (channelIdOf dev c.auxThermometerChannelNo).getD 0
      else c.auxThermometerChannelId }

/-- One round of `resolve_sensor_identifiers`: a sensor without a channel keeps its number. -/
def resolveSensor (dev : Around J) : SensorInfo → SensorInfo
  | .number true no =>
    match (dev.forEach false).find? (·.number == no) with
    | some q => .id q.id
    | none => .number true no
  | i => i

def resolveSensorIdentifiers (dev : Around J) (c : SensorConfig) : SensorConfig :=
  { c with sensorInfo := c.sensorInfo.map (resolveSensor dev) }

def resolve (dev : Around J) (p : Props J) : Config → Config
  | .hvac c => .hvac (resolveHvac dev p c)
  | .container c => .container (resolveSensorIdentifiers dev c)
  | .valve c => .valve (resolveSensorIdentifiers dev c)
  | c => c

/-- `get_config`; `none` for `config_size = 0`. -/
def getConfig (js : JsonClasses J) (dev : Around J) (p : Props J) (configType : UInt8)
    (flags : BitVec 32) (resolveChannelIdentifiers : Bool) : Option Config :=
  if flags ≠ 0 then none
  else
    match configTarget p configType with
    | none => none
    | some t =>
      (jsonToConfig js p t).map (if resolveChannelIdentifiers then resolve dev p else id)

/-! ## `set_user_config` -/

/-- The cascade of `set_user_config`. -/
def userTarget (p : Props J) (configType : UInt8) (configSize : Nat) : Option Target :=
  if p.type = channeltypeHvac ∧ configType = configTypeDefault ∧
      configSize = Struct.hvac.sizeof then some ⟨.hvac, .hvac⟩
  else if (configType = configTypeWeeklySchedule ∨ configType = configTypeAltWeeklySchedule) ∧
      configSize = Struct.weeklySchedule.sizeof ∧ p.hasWeeklySchedule then
    if configType = configTypeAltWeeklySchedule then some ⟨.altWeeklySchedule, .weeklySchedule⟩
    else some ⟨.weeklySchedule, .weeklySchedule⟩
  else if p.type = channeltypeBinarysensor then some ⟨.binarySensor, .binarySensor⟩
  else if isTempHum p.func then some ⟨.tempHum, .temperatureAndHumidity⟩
  else if p.type = channeltypeGeneralPurposeMeasurement then
    some ⟨.generalPurposeMeasurement, .generalPurposeMeasurement⟩
  else if p.type = channeltypeGeneralPurposeMeter then
    some ⟨.generalPurposeMeter, .generalPurposeMeter⟩
  else if isRollerShutter p.func then some ⟨.rollerShutter, .rollerShutter⟩
  else if isFacadeBlind p.func then some ⟨.facadeBlind, .facadeBlind⟩
  else if p.type = channeltypeElectricityMeter then some ⟨.electricityMeter, .electricityMeter⟩
  else if p.type = channeltypeImpulseCounter ∧ configType = configTypeOcr then some ⟨.ocr, .ocr⟩
  else if p.type = channeltypeImpulseCounter ∧ configType = configTypeDefault ∧
      configSize = Struct.impulseCounter.sizeof then some ⟨.impulseCounter, .impulseCounter⟩
  else if (isPowerSwitch p.func ∨ p.func = channelfncStaircaseTimer) ∧
      configType = configTypeDefault ∧ configSize = Struct.powerSwitch.sizeof then
    some ⟨.powerSwitch, .powerSwitch⟩
  else if p.func = channelfncStaircaseTimer ∧ configType = configTypeDefault ∧
      configSize = Struct.staircaseTimer.sizeof then some ⟨.powerSwitch, .staircaseTimer⟩
  else if p.func = channelfncStaircaseTimer ∧ configType = configTypeExtended ∧
      configSize = Struct.powerSwitch.sizeof then some ⟨.powerSwitch, .powerSwitch⟩
  else if p.type = channeltypeContainer then some ⟨.container, .container⟩
  else if p.type = channeltypeValveOpenclose then some ⟨.valve, .valve⟩
  else none

/-- What becomes of `supla_device_dao::set_channel_config`: it returns `false` without a row
written, `false` although the row is written (its answer could not be read), or `true`. -/
inductive DaoAnswer
  | refused
  | unreported
  | stored
  deriving Repr, DecidableEq

/-- A row of the channel's configuration, with the structure its bytes were taken for. -/
structure Row (J : Type) where
  target : Target
  json : J
  deriving DecidableEq

/-- What `set_user_config` returns, the rows it writes and the document the channel keeps. -/
structure UserConfig (J : Type) where
  result : ConfigResult
  rows : List (Row J)
  json : Option J

/-- `set_user_config`. `dao` answers to the document handed to the database, `merged` is what the
database returns afterwards. -/
def setUserConfig (js : JsonClasses J) (dao : J → DaoAnswer) (merged : Option J) (p : Props J)
    (configType : UInt8) (configSize : Nat) (config : Option (List UInt8)) : UserConfig J :=
  match config with
  | none => ⟨.false, [], p.json⟩
  | some bytes =>
    if configSize > channelConfigMaxsize then ⟨.false, [], p.json⟩
    else
      match userTarget p configType configSize with
      | none => ⟨.notAllowed, [], p.json⟩
      | some t =>
        let j := js.setConfig t.cls t.struct p bytes
        match dao j with
        | .refused => ⟨.false, [], p.json⟩
        | .unreported => ⟨.false, [⟨t, j⟩], p.json⟩
        | .stored => ⟨.true, [⟨t, j⟩], merged.or p.json⟩

end

end Channel
