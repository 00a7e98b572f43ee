import SuplaCore.Device.JsonConfig
import SuplaCore.Lib.JsonNumber
import SuplaCore.Lib.Slots

/-!
# The sensors of containers and valves

`container_config` and `valve_config` (`supla-server/src/jsonconfig/channel/container_config.cpp`,
`valve_config.cpp`) over `supla_json_config`: the sensors of a channel are kept as an array in the
user's JSON tree and as an array of at most ten, of a valve at most twenty, entries of the channel
configuration. A write behind that array is `none`.

Left out: `merge`, the reserved bytes of the configurations and the bytes of `ChannelId` behind
`IsSet` and `ChannelNo`, all cleared by `get_config`, and the null pointers that no caller passes.
-/

namespace Channel

open Json Device.JsonConfig

variable {D : Type} [Arith D]

/-- `channel_no == no`, a byte compared as a number. -/
def sameNumber (no : UInt8) (d : D) : Bool := Number.between no.toNat no.toNat d

/-! ## Levels of `supla_json_config` -/

def setLevel (parent : Node D) (key : String) (level max : Int) : Node D :=
  setItemValue parent key
    (if level > 0 ∧ (max = 0 ∨ level - 1 ≤ max) then .number (Number.ofInt (level - 1)) else .null)
    true

/-- Whether the level was read, and the level. -/
def getLevel (parent : Node D) (key : String) (max : Int) : Bool × Int :=
  match getDouble (some parent) key with
  | some d =>
    (true, if (if max = 0 then Arith.nonneg d else Number.between 0 max d) then
      convert (-2147483648) 2147483647 (Arith.succ d) else 0)
  | none => (false, 0)

/-! ## Containers -/

@[ext]
structure TContainer_SensorInfo where
  fillLevel : UInt8 := 0
  isSet : UInt8 := 0
  channelNo : UInt8 := 0
  deriving DecidableEq

@[ext]
structure TChannelConfig_Container where
  warningAboveLevel : UInt8 := 0
  alarmAboveLevel : UInt8 := 0
  warningBelowLevel : UInt8 := 0
  alarmBelowLevel : UInt8 := 0
  muteAlarmSoundWithoutAdditionalAuth : UInt8 := 0
  sensorInfo : Vector TContainer_SensorInfo 10 := Vector.replicate 10 {}
  deriving DecidableEq

namespace Container

/-- The object of a sensor. -/
def sensorNode (info : TContainer_SensorInfo) : Node D :=
  let sensor := setItemValue .emptyObject "channelNo"
    (.number (Number.ofInt info.channelNo.toNat)) true
  setItemValue sensor "fillLevel"
    (if info.fillLevel ≤ 100 then .number (Number.ofInt info.fillLevel.toNat) else .null) true

/-- An item of the array that is there for the channel. -/
def isOfChannel (no : UInt8) (item : Node D) : Bool :=
  (getDouble (some item) "channelNo").any (sameNumber no)

/-- The first item of the channel leaves the array and a new one is added behind the others. -/
def addSensor (sensors : List (Node D)) (info : TContainer_SensorInfo) : List (Node D) :=
  if info.isSet ≠ 0 then sensors.eraseP (isOfChannel info.channelNo) ++ [sensorNode info]
  else sensors

def setConfig (userRoot : Node D) (config : TChannelConfig_Container) : Node D :=
  let root := setLevel userRoot "warningAboveLevel" config.warningAboveLevel.toNat 100
  let root := setLevel root "alarmAboveLevel" config.alarmAboveLevel.toNat 100
  let root := setLevel root "warningBelowLevel" config.warningBelowLevel.toNat 100
  let root := setLevel root "alarmBelowLevel" config.alarmBelowLevel.toNat 100
  let root := setItemValue root "muteAlarmSoundWithoutAdditionalAuth"
    (if config.muteAlarmSoundWithoutAdditionalAuth ≠ 0 then .true else .false) true
  setItemValue root "sensors"
    (.object (.ofItems (config.sensorInfo.toList.foldl addSensor []))) true

/-- The number of an item that is read as a sensor. -/
def channelNoOf (item : Node D) : Option D :=
  if item.kind.sameType .object then (getDouble (some item) "channelNo").filter Arith.nonneg
  else none

/-- What an item leaves of the entry it is read into. -/
def readInto (item : Node D) (channelNo : D) (info : TContainer_SensorInfo) :
    TContainer_SensorInfo :=
  let fillLevel := (getDouble (some item) "fillLevel").filter (Number.between 0 100)
  { fillLevel := (fillLevel.map toUInt8).getD info.fillLevel
    channelNo := toUInt8 channelNo
    isSet := 1 }

/-- The loop over the items, with `m` and `result`. -/
def readSensors : List (Node D) → Nat → Bool → Vector TContainer_SensorInfo 10 →
    Option (Bool × Vector TContainer_SensorInfo 10)
  | [], _, result, infos => some (result, infos)
  | item :: items, m, result, infos =>
    match channelNoOf item with
    | none => readSensors items m result infos
    | some d =>
      let duplicate := infos.toList.findIdx? fun info =>
        info.isSet ≠ 0 && sameNumber info.channelNo d
      match Slots.write infos (duplicate.getD m) (readInto item d) with
      | none => none
      | some infos =>
        if duplicate.isSome then readSensors items m true infos
        else if m + 1 ≥ 10 then some (true, infos)
        else readSensors items (m + 1) true infos

def getConfig (userRoot : Node D) : Option (Bool × TChannelConfig_Container) :=
  let warningAbove := getLevel userRoot "warningAboveLevel" 100
  let alarmAbove := getLevel userRoot "alarmAboveLevel" 100
  let warningBelow := getLevel userRoot "warningBelowLevel" 100
  let alarmBelow := getLevel userRoot "alarmBelowLevel" 100
  let mute := getBool (some userRoot) "muteAlarmSoundWithoutAdditionalAuth"
  let config : TChannelConfig_Container :=
    { warningAboveLevel := UInt8.ofInt warningAbove.2
      alarmAboveLevel := UInt8.ofInt alarmAbove.2
      warningBelowLevel := UInt8.ofInt warningBelow.2
      alarmBelowLevel := UInt8.ofInt alarmBelow.2
      muteAlarmSoundWithoutAdditionalAuth := if mute = some true then 1 else 0 }
  let result := warningAbove.1 || alarmAbove.1 || warningBelow.1 || alarmBelow.1 || mute.isSome
  match userRoot.get "sensors" with
  | none => some (result, config)
  | some sensors => (readSensors sensors.items 0 result config.sensorInfo).map fun r =>
      (r.1, { config with sensorInfo := r.2 })

end Container

/-! ## Valves -/

def SUPLA_VALVE_CLOSE_ON_FLOOD_TYPE_NONE : UInt8 := 0
def SUPLA_VALVE_CLOSE_ON_FLOOD_TYPE_ALWAYS : UInt8 := 1
def SUPLA_VALVE_CLOSE_ON_FLOOD_TYPE_ON_CHANGE : UInt8 := 2

@[ext]
structure TValve_SensorInfo where
  isSet : UInt8 := 0
  channelNo : UInt8 := 0
  deriving DecidableEq

@[ext]
structure TChannelConfig_Valve where
  sensorInfo : Vector TValve_SensorInfo 20 := Vector.replicate 20 {}
  closeValveOnFloodType : UInt8 := 0
  deriving DecidableEq

namespace Valve

def closeOnFloodTypeToString (type : UInt8) : String :=
  if type = SUPLA_VALVE_CLOSE_ON_FLOOD_TYPE_ALWAYS then "ALWAYS"
  else if type = SUPLA_VALVE_CLOSE_ON_FLOOD_TYPE_ON_CHANGE then "ON_CHANGE"
  else "NONE"

def stringToCloseOnFloodType (type : String) : UInt8 :=
  if type = "ALWAYS" then SUPLA_VALVE_CLOSE_ON_FLOOD_TYPE_ALWAYS
  else if type = "ON_CHANGE" then SUPLA_VALVE_CLOSE_ON_FLOOD_TYPE_ON_CHANGE
  else SUPLA_VALVE_CLOSE_ON_FLOOD_TYPE_NONE

/-- The items of the entries behind `before`: a number for each set one whose channel is not that
of an earlier set one. -/
def sensorItems (before : List TValve_SensorInfo) : List TValve_SensorInfo → List (Node D)
  | [] => []
  | info :: infos =>
    let found := before.any fun b => b.isSet ≠ 0 && b.channelNo == info.channelNo
    if info.isSet ≠ 0 && !found then
      .leaf (.number (Number.ofInt info.channelNo.toNat)) :: sensorItems (before ++ [info]) infos
    else sensorItems (before ++ [info]) infos

def setConfig (userRoot : Node D) (config : TChannelConfig_Valve) : Node D :=
  let root := setItemValue userRoot "sensorChannelNumbers"
    (.object (.ofItems (sensorItems [] config.sensorInfo.toList))) true
  if config.closeValveOnFloodType = SUPLA_VALVE_CLOSE_ON_FLOOD_TYPE_NONE then
    root.erase "closeValveOnFloodType"
  else setItemValue root "closeValveOnFloodType"
    (.string (closeOnFloodTypeToString config.closeValveOnFloodType)) true

/-- The loop over the items, with `n`. -/
def readSensors : List (Node D) → Nat → Vector TValve_SensorInfo 20 →
    Option (Vector TValve_SensorInfo 20)
  | [], _, infos => some infos
  | item :: items, n, infos =>
    match numberOf (some item) with
    | none => readSensors items n infos
    | some d =>
      let number : UInt8 := toUInt8 d
      let found := infos.toList.any fun info => info.isSet ≠ 0 && info.channelNo == number
      if found then readSensors items n infos
      else match Slots.write infos n fun _ => { isSet := 1, channelNo := toUInt8 d } with
        | none => none
        | some infos => if n + 1 ≥ 20 then some infos else readSensors items (n + 1) infos

def getConfig (userRoot : Node D) : Option (Bool × TChannelConfig_Valve) :=
  let type := getString (some userRoot) "closeValveOnFloodType"
  let closeValveOnFloodType := stringToCloseOnFloodType (type.getD "")
  match userRoot.get "sensorChannelNumbers" with
  | none => some (type.isSome, { closeValveOnFloodType })
  | some sensors => (readSensors sensors.items 0 (Vector.replicate 20 {})).map fun infos =>
      (true, ⟨infos, closeValveOnFloodType⟩)

end Valve
end Channel
