import SuplaCore.Device.JsonConfig
import SuplaCore.Lib.JsonNumber

/-!
# The weekly schedule

`weekly_schedule_config` (`supla-server/src/jsonconfig/channel/weekly_schedule_config.cpp`): four
programs and the program of every quarter of an hour of a week, two quarters in a byte, are kept
under one key of the user's JSON tree; `alt_weekly_schedule_config` has another key. A write behind
the array of the quarters is `none`.

Left out: `merge`, and the null pointer that no caller passes.
-/

namespace Channel.WeeklySchedule

open Json Device.JsonConfig

def SUPLA_HVAC_MODE_NOT_SET : UInt8 := 0
def SUPLA_HVAC_MODE_OFF : UInt8 := 1
def SUPLA_HVAC_MODE_HEAT : UInt8 := 2
def SUPLA_HVAC_MODE_COOL : UInt8 := 3
def SUPLA_HVAC_MODE_HEAT_COOL : UInt8 := 4
def SUPLA_HVAC_MODE_FAN_ONLY : UInt8 := 6
def SUPLA_HVAC_MODE_DRY : UInt8 := 7

@[ext]
structure TWeeklyScheduleProgram where
  mode : UInt8 := 0
  setpointTemperatureHeat : Int16 := 0
  setpointTemperatureCool : Int16 := 0
  deriving DecidableEq

@[ext]
structure TChannelConfigWeeklySchedule where
  program : Vector TWeeklyScheduleProgram 4 := Vector.replicate 4 {}
  quarters : Vector UInt8 336 := Vector.replicate 336 0

def modeToString (mode : UInt8) : String :=
  if mode = SUPLA_HVAC_MODE_NOT_SET then "NOT_SET"
  else if mode = SUPLA_HVAC_MODE_OFF then "OFF"
  else if mode = SUPLA_HVAC_MODE_HEAT then "HEAT"
  else if mode = SUPLA_HVAC_MODE_COOL then "COOL"
  else if mode = SUPLA_HVAC_MODE_HEAT_COOL then "HEAT_COOL"
  else if mode = SUPLA_HVAC_MODE_FAN_ONLY then "FAN_ONLY"
  else if mode = SUPLA_HVAC_MODE_DRY then "DRY"
  else ""

def stringToMode (mode : String) : UInt8 :=
  if mode == "OFF" then SUPLA_HVAC_MODE_OFF
  else if mode == "HEAT" then SUPLA_HVAC_MODE_HEAT
  else if mode == "COOL" then SUPLA_HVAC_MODE_COOL
  else if mode == "HEAT_COOL" then SUPLA_HVAC_MODE_HEAT_COOL
  else if mode == "FAN_ONLY" then SUPLA_HVAC_MODE_FAN_ONLY
  else if mode == "DRY" then SUPLA_HVAC_MODE_DRY
  else SUPLA_HVAC_MODE_NOT_SET

variable {D : Type} [Number D]

/-! ## Writing -/

/-- The object of a program. -/
def programNode (program : TWeeklyScheduleProgram) : Node D :=
  let node := setItemValue .emptyObject "mode" (.string (modeToString program.mode)) true
  let node := setItemValue node "setpointTemperatureHeat"
    (.number (Number.ofInt program.setpointTemperatureHeat.toInt)) true
  setItemValue node "setpointTemperatureCool"
    (.number (Number.ofInt program.setpointTemperatureCool.toInt)) true

def addProgram (config : TChannelConfigWeeklySchedule) (programRoot : Node D) (index : Fin 4) :
    Node D :=
  programRoot.add (toString (index.val + 1)) (programNode config.program[index])

def quarterNode (quarter : UInt8) : Node D := .leaf (.number (Number.ofInt quarter.toNat))

/-- The items of a byte of the quarters. -/
def quarterItems (v : UInt8) : List (Node D) :=
  [quarterNode (v &&& 0xF), quarterNode ((v >>> 4) &&& 0xF)]

/-- What `set_config` does to the object of the schedule. -/
def setSchedule (config : TChannelConfigWeeklySchedule) (root : Node D) : Node D :=
  let root := (root.erase "programSettings").add "programSettings"
    ((List.finRange 4).foldl (addProgram config) .emptyObject)
  (root.erase "quarters").add "quarters" (.ofItems (config.quarters.toList.flatMap quarterItems))

def setConfig (key : String) (userRoot : Node D) (config : TChannelConfigWeeklySchedule) : Node D :=
  userRoot.within key (setSchedule config)

/-! ## Reading -/

/-- `get_program`: whether something was read, and the program. -/
def getProgram (programRoot : Node D) (index : Nat) (program : TWeeklyScheduleProgram) :
    Bool × TWeeklyScheduleProgram :=
  match programRoot.get (toString (index + 1)) with
  | none => (false, program)
  | some node =>
    let mode := getString (some node) "mode"
    let heat := getDouble (some node) "setpointTemperatureHeat"
    let cool := getDouble (some node) "setpointTemperatureCool"
    (mode.isSome || heat.isSome || cool.isSome,
      { mode := (mode.map stringToMode).getD program.mode
        setpointTemperatureHeat := (heat.map toInt16).getD program.setpointTemperatureHeat
        setpointTemperatureCool := (cool.map toInt16).getD program.setpointTemperatureCool })

/-- The programs of an object: whether anything was read, and what. -/
def getPrograms (programRoot : Option (Node D)) : Bool × Vector TWeeklyScheduleProgram 4 :=
  match programRoot with
  | none => (false, Vector.replicate 4 {})
  | some root =>
    ((List.finRange 4).any fun a => (getProgram root a {}).1,
      Vector.ofFn fun a => (getProgram root a {}).2)

/-- `int v = cJSON_GetNumberValue(item)` -/
def toInt (d : D) : Int := convert (-2147483648) 2147483647 d

/-- `v & 0xF` -/
def lowNibble (v : Int) : Nat := (v % 16).toNat

/-- A byte of the quarters with the value of element `a`. -/
def putQuarter (a : Nat) (old : UInt8) (v : Int) : UInt8 :=
  if a % 2 = 1 then old ||| UInt8.ofNat (lowNibble v * 16) else UInt8.ofNat (lowNibble v)

/-- A write to the array, if it is one. -/
def writeQuarter (quarters : Vector UInt8 336) (offset : Nat) (f : UInt8 → UInt8) :
    Option (Vector UInt8 336) :=
  if h : offset < 336 then some (quarters.set offset (f quarters[offset])) else none

/-- The loop over the elements from `a` on, with `result`. It ends before the counter, of 16 bits,
does. -/
def quartersLoop : List (Node D) → Nat → Nat → Bool → Vector UInt8 336 →
    Option (Bool × Vector UInt8 336)
  | [], _, _, result, quarters => some (result, quarters)
  | item :: items, a, offset, result, quarters =>
    if offset < 336 then
      match item.kind with
      | .number d =>
        match writeQuarter quarters offset fun old => putQuarter a old (toInt d) with
        | some quarters => quartersLoop items (a + 1) (offset + a % 2) true quarters
        | none => none
      | _ => quartersLoop items (a + 1) (offset + a % 2) result quarters
    else some (result, quarters)

/-- The elements of the array of the quarters. -/
def quartersOf (root : Node D) : List (Node D) :=
  match root.get "quarters" with
  | some quartersRoot => quartersRoot.items
  | none => []

def getConfig (key : String) (userRoot : Node D) : Option (Bool × TChannelConfigWeeklySchedule) :=
  match userRoot.get key with
  | none => some (false, {})
  | some root =>
    let programs := getPrograms (root.get "programSettings")
    (quartersLoop (quartersOf root) 0 0 programs.1 (Vector.replicate 336 0)).map fun r =>
      (r.1, ⟨programs.2, r.2⟩)

end Channel.WeeklySchedule
