import SuplaCore.Channel.Props
import SuplaCore.Lib.Collect

/-!
# Channel relations

`add_relation`, `get_sensor_relations` and `get_channel_relations` of
`abstract_common_channel_properties.cpp`. The calls of `add_relation` do not depend on what has been
added before, so a query is the list of relations it offers, in the order of the source, folded
with `addRelation`. A `for_each` that ends at its first hit is a `find?`.
-/

namespace Channel

/-- `supla_channel_relation`. -/
structure Relation where
  id : Int
  parentId : Int
  type : Int
  deriving Repr, DecidableEq

abbrev relationDefault : Int := 0
abbrev relationOpeningSensor : Int := 1
abbrev relationPartialOpeningSensor : Int := 2
abbrev relationMeter : Int := 3
abbrev relationMainThermometer : Int := 4
abbrev relationMasterThermostat : Int := 20
abbrev relationHeatOrColdSourceSwitch : Int := 21
abbrev relationPumpSwitch : Int := 22

/-- `e_relation_kind`. -/
inductive RelationKind
  | any
  | withSubChannel
  | withParentChannel
  deriving Repr, DecidableEq

def RelationKind.sub (k : RelationKind) : Bool := k = any || k = withSubChannel
def RelationKind.parent (k : RelationKind) : Bool := k = any || k = withParentChannel

/-- The test of `add_relation`: the same two channels, in either order, with the same type. -/
def Relation.same (r x : Relation) : Bool :=
  ((x.id = r.id && x.parentId = r.parentId) || (x.id = r.parentId && x.parentId = r.id)) &&
    x.type = r.type

/-- Both ends are there. -/
def Relation.whole (r : Relation) : Bool := r.id ≠ 0 && r.parentId ≠ 0

/-- `add_relation`. -/
def addRelation (relations : List Relation) (r : Relation) : List Relation :=
  if !r.whole then relations else Collect.push Relation.same relations r

/-- An `if` around one `add_relation`. -/
def offer (c : Bool) (r : Relation) : List Relation := if c then [r] else []

/-! ## Families of functions -/

def isControlling (func : Int) : Bool :=
  func = channelfncControllingTheGatewayLock || func = channelfncControllingTheGate ||
    func = channelfncControllingTheGarageDoor || func = channelfncControllingTheDoorLock

def isShutter (func : Int) : Bool :=
  func = channelfncControllingTheRollerShutter || func = channelfncControllingTheRoofWindow

def isOpeningSensor (func : Int) : Bool :=
  func = channelfncOpeningSensorGateway || func = channelfncOpeningSensorGate ||
    func = channelfncOpeningSensorGarageDoor || func = channelfncOpeningSensorDoor ||
    func = channelfncOpeningSensorRollerShutter || func = channelfncOpeningSensorRoofWindow

def isSwitch (func : Int) : Bool :=
  func = channelfncPowerSwitch || func = channelfncLightSwitch || func = channelfncStaircaseTimer

def isMeter (func : Int) : Bool :=
  func = channelfncElectricityMeter || func = channelfncIcElectricityMeter ||
    func = channelfncIcGasMeter || func = channelfncIcWaterMeter || func = channelfncIcHeatMeter

def isHvac (func : Int) : Bool :=
  func = channelfncHvacThermostat || func = channelfncHvacThermostatHeatCool ||
    func = channelfncHvacThermostatDifferential || func = channelfncHvacDomesticHotWater

def isThermometer (func : Int) : Bool :=
  func = channelfncThermometer || func = channelfncHumidityAndTemperature

section
variable {J : Type}

/-! ## Sensors of a valve and of a container -/

/-- The arguments of `get_sensor_relations`; 0 for no such test. -/
structure SensorTemplate (J : Type) where
  config : Option J → Option SensorConfig
  parentType : Int
  parentFunc : Int
  relatedFunc : Int

def valveTemplate (js : JsonClasses J) : SensorTemplate J :=
  ⟨js.valve, 0, channelfncValveOpenclose, channelfncFloodSensor⟩

def containerTemplate (js : JsonClasses J) : SensorTemplate J :=
  ⟨js.container, channeltypeContainer, 0, channelfncContainerLevelSensor⟩

namespace SensorTemplate

def isParent (tpl : SensorTemplate J) (p : Props J) : Bool :=
  (tpl.parentFunc ≠ 0 && tpl.parentFunc = p.func) ||
    (tpl.parentType ≠ 0 && tpl.parentType = p.type)

/-- The sensors in the channel's document, none without one. -/
def sensors (tpl : SensorTemplate J) (p : Props J) : List SensorInfo :=
  match p.json with
  | none => []
  | some j =>
    match tpl.config (some j) with
    | none => []
    | some c => c.sensorInfo

/-- One round of the loop over `SensorInfo` of a parent. -/
def offerSensor (tpl : SensorTemplate J) (dev : Around J) (p : Props J) :
    SensorInfo → List Relation
  | .number true no =>
    match (dev.forEach false).find? fun q => q.number = no && q.func = tpl.relatedFunc with
    | some q => [⟨q.id, p.id, relationDefault⟩]
    | none => []
  | _ => []

/-- A parent whose document lists this number. -/
def lists (tpl : SensorTemplate J) (q : Props J) (no : BitVec 8) : Bool :=
  tpl.isParent q && (tpl.sensors q).any (·.lists no)

/-- `get_sensor_relations`. -/
def getSensorRelations (tpl : SensorTemplate J) (dev : Around J) (p : Props J)
    (kind : RelationKind) : List Relation :=
  if dev.protocolVersion < 27 then []
  else
    (if tpl.isParent p && kind.sub then (tpl.sensors p).flatMap (tpl.offerSensor dev p) else []) ++
    (if p.func = tpl.relatedFunc && kind.parent then
      match (dev.forEach false).find? fun q => tpl.lists q p.number with
      | some q => [⟨p.id, q.id, relationDefault⟩]
      | none => []
    else [])

end SensorTemplate

/-! ## Meters and thermostats -/

/-- `get_related_meter_channel_id` of the channel's document. -/
def Props.relatedMeter (js : JsonClasses J) (p : Props J) : Option Int :=
  p.json.map js.relatedMeterChannelId

/-- The thermostat configuration in the channel's document. -/
def Props.hvac (js : JsonClasses J) (p : Props J) : Option HvacConfig :=
  p.json.bind fun j => js.hvac (some j) p.number

/-- What thermostat `p` with configuration `c` offers when it visits `q`. -/
def offerHvac (dev : Around J) (p q : Props J) (c : HvacConfig) : List Relation :=
  offer (c.mainThermometerChannelNo ≠ p.number && c.mainThermometerChannelNo = q.number &&
      isThermometer q.func) ⟨q.id, p.id, relationMainThermometer⟩ ++
  offer (c.auxInUse && c.auxThermometerChannelNo ≠ p.number &&
      c.auxThermometerChannelNo = q.number && isThermometer q.func)
    ⟨q.id, p.id, c.auxThermometerType + 3⟩ ++
  offer (c.binarySensorChannelNo ≠ p.number && c.binarySensorChannelNo = q.number &&
      q.type = channeltypeBinarysensor) ⟨q.id, p.id, relationDefault⟩ ++
  offer (25 ≤ dev.protocolVersion && c.heatOrColdSourceSwitchIsSet &&
      c.heatOrColdSourceSwitchChannelNo = q.number &&
      q.func = channelfncHeatOrColdSourceSwitch) ⟨q.id, p.id, relationHeatOrColdSourceSwitch⟩ ++
  offer (25 ≤ dev.protocolVersion && c.pumpSwitchIsSet && c.pumpSwitchChannelNo = q.number &&
      q.func = channelfncPumpSwitch) ⟨q.id, p.id, relationPumpSwitch⟩

/-- `q` names channel number `no` as its master thermostat. -/
def hasMaster (js : JsonClasses J) (dev : Around J) (q : Props J) (no : BitVec 8) : Bool :=
  25 ≤ dev.protocolVersion && isHvac q.func &&
    match q.hvac js with
    | some c => c.masterThermostatIsSet && c.masterThermostatChannelNo = no
    | none => false

/-- One visit of the loop over the channels of a thermostat's device. -/
def offerSub (js : JsonClasses J) (dev : Around J) (p q : Props J) : List Relation :=
  (match p.hvac js with
    | some c => offerHvac dev p q c
    | none => []) ++
  offer (hasMaster js dev q p.number) ⟨q.id, p.id, relationMasterThermostat⟩

/-- The `switch` for sub-channels. -/
def subRelations (js : JsonClasses J) (dev : Around J) (p : Props J) : List Relation :=
  if isControlling p.func then
    [⟨p.param2, p.id, relationOpeningSensor⟩, ⟨p.param3, p.id, relationPartialOpeningSensor⟩]
  else if isShutter p.func then [⟨p.param2, p.id, relationOpeningSensor⟩]
  else if isSwitch p.func then
    match p.relatedMeter js with
    | some id => [⟨id, p.id, relationMeter⟩]
    | none => []
  else if isHvac p.func then (dev.forEach false).flatMap (offerSub js dev p)
  else []

/-! ## Relations with a parent -/

/-- The `switch` for parent channels. -/
def parentSwitch (js : JsonClasses J) (dev : Around J) (p : Props J) : List Relation :=
  if isOpeningSensor p.func then
    [⟨p.id, p.param1, relationOpeningSensor⟩, ⟨p.id, p.param2, relationPartialOpeningSensor⟩]
  else if isMeter p.func then
    (dev.forEach true).flatMap fun q =>
      offer (isSwitch q.func && q.relatedMeter js = some p.id) ⟨p.id, q.id, relationMeter⟩
  else []

/-- The thermostat's own master; nothing is asked of the channel with that number. -/
def parentMaster (js : JsonClasses J) (dev : Around J) (p : Props J) : List Relation :=
  match (dev.forEach false).find? fun q => hasMaster js dev p q.number with
  | some q => [⟨p.id, q.id, relationMasterThermostat⟩]
  | none => []

/-- What `p` offers when it visits a thermostat with configuration `c`. -/
def offerParent (dev : Around J) (p q : Props J) (c : HvacConfig) : List Relation :=
  if p.type = channeltypeBinarysensor then
    offer (c.binarySensorChannelNo = p.number) ⟨p.id, q.id, relationDefault⟩
  else if isThermometer p.func then
    offer (c.mainThermometerChannelNo = p.number) ⟨p.id, q.id, relationMainThermometer⟩ ++
    offer (c.auxInUse && c.auxThermometerChannelNo = p.number)
      ⟨p.id, q.id, c.auxThermometerType + 3⟩
  else if p.func = channelfncHeatOrColdSourceSwitch then
    offer (25 ≤ dev.protocolVersion && c.heatOrColdSourceSwitchIsSet &&
      c.heatOrColdSourceSwitchChannelNo = p.number) ⟨p.id, q.id, relationHeatOrColdSourceSwitch⟩
  else if p.func = channelfncPumpSwitch then
    offer (25 ≤ dev.protocolVersion && c.pumpSwitchIsSet && c.pumpSwitchChannelNo = p.number)
      ⟨p.id, q.id, relationPumpSwitch⟩
  else []

/-- One visit of the last loop. -/
def offerToHvac (js : JsonClasses J) (dev : Around J) (p q : Props J) : List Relation :=
  if isHvac q.func then
    match q.hvac js with
    | some c => offerParent dev p q c
    | none => []
  else []

/-- The last loop, entered by the binary sensors and the functions a thermostat can name. -/
def parentHvac (js : JsonClasses J) (dev : Around J) (p : Props J) : List Relation :=
  if p.type = channeltypeBinarysensor || isThermometer p.func || p.func = channelfncPumpSwitch ||
      p.func = channelfncHeatOrColdSourceSwitch then
    (dev.forEach false).flatMap (offerToHvac js dev p)
  else []

def parentRelations (js : JsonClasses J) (dev : Around J) (p : Props J) : List Relation :=
  parentSwitch js dev p ++ parentMaster js dev p ++ parentHvac js dev p

/-! ## `get_channel_relations` -/

/-- All `add_relation` calls of a query. -/
def offered (js : JsonClasses J) (dev : Around J) (p : Props J) (kind : RelationKind) :
    List Relation :=
  (valveTemplate js).getSensorRelations dev p kind ++
  (containerTemplate js).getSensorRelations dev p kind ++
  (if kind.sub then subRelations js dev p else []) ++
  (if kind.parent then parentRelations js dev p else [])

/-- `get_channel_relations` into a list that may hold relations already. -/
def getChannelRelationsInto (js : JsonClasses J) (dev : Around J) (p : Props J)
    (relations : List Relation) (kind : RelationKind) : List Relation :=
  (offered js dev p kind).foldl addRelation relations

/-- `get_channel_relations`. -/
def getChannelRelations (js : JsonClasses J) (dev : Around J) (p : Props J)
    (kind : RelationKind) : List Relation :=
  getChannelRelationsInto js dev p [] kind

end

end Channel
