import SuplaCore.Lib.Bytes
import SuplaCore.Lib.Json

/-!
# The JSON configuration of a device

`device_json_config` (`supla-server/src/jsonconfig/device/device_json_config.cpp`) over
`supla_json_helper`: the configuration of a device is kept as two JSON trees, the user's and the
properties', and travels in chunks of at most 512 bytes that hold one packed structure per field,
in the order of the field bits. A getter answers whether it could read its field and writes into
the chunk where its structure stands (`Got`); a setter reads a structure and changes the trees.

Left out: the null pointers that no caller passes. What no transfer calls, `merge`,
`leave_only_thise_fields` and `remove_fields`, is in a module of its own.
-/

namespace Device.JsonConfig

open Json Bytes

/-! ## Numbers -/

/-- The values of a signed or unsigned integer type of `w` bytes. -/
def inRange (w : Nat) (signed : Bool) (n : Int) : Prop :=
  if signed then -(256 ^ w / 2 : Int) ≤ n ∧ n < 256 ^ w / 2 else 0 ≤ n ∧ n < 256 ^ w

/-- The `double` of the JSON numbers, as far as the configuration uses it. A conversion to an
integer type is given as the unsigned number with the same bytes; of values outside the type's
range nothing is known. -/
structure Doubles where
  D : Type
  ofInt : Int → D
  convert : (w : Nat) → (signed : Bool) → D → Nat
  /-- The comparisons `value >= 0 && value <= 100`. -/
  percent : D → Bool
  convert_ofInt : ∀ {w signed n}, w ≤ 4 → inRange w signed n →
    convert w signed (ofInt n) = (n % 256 ^ w).toNat
  percent_ofInt : ∀ n : Nat, n ≤ 100 → percent (ofInt n) = true
  convert_percent : ∀ d, percent d = true → convert 1 false d ≤ 100

variable {N : Doubles}

/-- The integer at offset `off`, as its C type reads it. -/
def readInt (w : Nat) (signed : Bool) (bs : List UInt8) (off : Nat) : Int :=
  let x := readLE bs off w
  if signed ∧ 256 ^ w / 2 ≤ x then (x : Int) - 256 ^ w else x

/-! ## The JSON helper -/

variable {D : Type}

/-- The text of an item that is a string. -/
def stringOf (item : Option (Node D)) : Option String :=
  match item.map Node.kind with
  | some (.string s) => some s
  | _ => none

/-- The value of an item that is a number. -/
def numberOf (item : Option (Node D)) : Option D :=
  match item.map Node.kind with
  | some (.number d) => some d
  | _ => none

/-- The value of an item that is a truth value. -/
def boolOf (item : Option (Node D)) : Option Bool :=
  match item.map Node.kind with
  | some .true => some true
  | some .false => some false
  | _ => none

def getString (parent : Option (Node D)) (key : String) : Option String :=
  stringOf (parent.bind (·.get key))

def getDouble (parent : Option (Node D)) (key : String) : Option D :=
  numberOf (parent.bind (·.get key))

def getBool (parent : Option (Node D)) (key : String) : Option Bool :=
  boolOf (parent.bind (·.get key))

/-- What `set_item_value` is asked to set: the type with the argument it takes. -/
inductive Item (D : Type)
  | false
  | true
  | null
  | number (value : D)
  | string (value : String)
  | object (obj : Node D)

def Item.type : Item D → Kind D
  | .false => .false
  | .true => .true
  | .null => .null
  | .number d => .number d
  | .string s => .string s
  | .object _ => .object

/-- The node that is added for an item. -/
def Item.node : Item D → Node D
  | .object obj => obj
  | item => .leaf item.type

/-- Both of the types `True` and `False`. -/
def bothBool : Kind D → Kind D → Bool
  | .true, .false | .false, .true => Bool.true
  | _, _ => Bool.false

/-- An existing item of the type asked for is changed in place, one of another type is deleted and
added anew. -/
def setItemValue (parent : Node D) (name : String) (item : Item D) (force : Bool) : Node D :=
  if name = "" then parent
  else match parent.get name with
    | none => if force then parent.add name item.node else parent
    | some old =>
      if !force && !(old.kind.sameType item.type || bothBool old.kind item.type) then parent
      else if old.kind.sameType item.type then
        match item with
        | .number d => parent.modify name fun n => .mk (.number d) n.children
        | .string s => parent.modify name fun n => .mk (.string s) n.children
        | .object obj => parent.replace name obj
        | _ => parent
      else (parent.erase name).add name item.node

/-! ## Fields -/

/-- The fields of `field_map`. -/
inductive Field
  | statusLed
  | screenBrightness
  | buttonVolume
  | disableUserInterface
  | automaticTimeSync
  | homeScreenOffDelay
  | homeScreenContent
  | homeScreenOffDelayType
  | powerStatusLed
  | modbus
  | firmwareUpdate
  deriving DecidableEq

namespace Field

/-- The keys of `field_map` in their order. -/
def all : List Field :=
  [statusLed, screenBrightness, buttonVolume, disableUserInterface, automaticTimeSync,
    homeScreenOffDelay, homeScreenContent, homeScreenOffDelayType, powerStatusLed, modbus,
    firmwareUpdate]

/-- The key `1 << bit` of a field. -/
def bit : Field → Nat
  | statusLed => 0
  | screenBrightness => 1
  | buttonVolume => 2
  | disableUserInterface => 3
  | automaticTimeSync => 4
  | homeScreenOffDelay => 5
  | homeScreenContent => 6
  | homeScreenOffDelayType => 7
  | powerStatusLed => 8
  | modbus => 9
  | firmwareUpdate => 10

def name : Field → String
  | statusLed => "statusLed"
  | screenBrightness => "screenBrightness"
  | buttonVolume => "buttonVolume"
  | disableUserInterface => "userInterface"
  | automaticTimeSync => "automaticTimeSync"
  | homeScreenOffDelay => "offDelay"
  | homeScreenContent => "content"
  | homeScreenOffDelayType => "offDelayType"
  | powerStatusLed => "powerStatusLed"
  | modbus => "modbus"
  | firmwareUpdate => "firmwareUpdatePolicy"

/-- `sizeof` the packed structure of a field. -/
def size : Field → Nat
  | statusLed => 1
  | screenBrightness => 3
  | buttonVolume => 1
  | disableUserInterface => 5
  | automaticTimeSync => 1
  | homeScreenOffDelay => 2
  | homeScreenContent => 16
  | homeScreenOffDelayType => 1
  | powerStatusLed => 1
  | modbus => 102
  | firmwareUpdate => 21

/-- The fields that stand under the user's `homeScreen`. -/
def inHomeScreen : Field → Bool
  | homeScreenOffDelay | homeScreenContent | homeScreenOffDelayType => true
  | _ => false

end Field

/-- `fields & it->first`. -/
def has (fields : BitVec 64) (f : Field) : Bool := fields.getLsbD f.bit

def mask (f : Field) : BitVec 64 := BitVec.twoPow 64 f.bit

abbrev deviceConfigMaxsize : Nat := 512

def homeScreen : String := "homeScreen"
def contentAvailable : String := "homeScreenContentAvailable"

/-! ## Texts -/

def statusLedToString (status : Nat) : String :=
  if status = 1 then "OFF_WHEN_CONNECTED" else if status = 2 then "ALWAYS_OFF"
  else "ON_WHEN_CONNECTED"

def stringToStatusLed (status : String) : Nat :=
  if status = "OFF_WHEN_CONNECTED" then 1 else if status = "ALWAYS_OFF" then 2 else 0

def powerStatusLedToString (status : Nat) : String := if status ≠ 0 then "DISABLED" else "ENABLED"

def stringToPowerStatusLed (status : String) : Nat := if status = "DISABLED" then 1 else 0

def homeScreenContentMap : List (Nat × String) :=
  [(1, "NONE"), (2, "TEMPERATURE"), (4, "TEMPERATURE_AND_HUMIDITY"), (8, "TIME"),
    (16, "TIME_DATE"), (32, "TEMPERATURE_TIME"), (64, "MAIN_AND_AUX_TEMPERATURE"),
    (128, "MODE_OR_TEMPERATURE")]

/-- The argument is an `unsigned char`. -/
def homeScreenContentToString (content : Nat) : String :=
  match homeScreenContentMap.find? fun e => e.1 == content % 256 with
  | some e => e.2
  | none => ""

def stringToHomeScreenContent (content : String) : Nat :=
  match homeScreenContentMap.find? fun e => e.2 == content with
  | some e => e.1
  | none => 1

def homeScreenOffDelayTypeToString (type : Nat) : String :=
  if type = 1 then "ENABLED_WHEN_DARK" else "ALWAYS_ENABLED"

def stringToHomeScreenOffDelayType (type : String) : Nat :=
  if type = "ENABLED_WHEN_DARK" then 1 else 0

def modbusRoleToString (role : Nat) : String :=
  if role = 1 then "MASTER" else if role = 2 then "SLAVE" else "NOT_SET"

def stringToModbusRole (role : String) : Nat :=
  if role = "MASTER" then 1 else if role = "SLAVE" then 2 else 0

def modbusSerialModeToString (mode : Nat) : String :=
  if mode = 1 then "RTU" else if mode = 2 then "ASCII" else "DISABLED"

def stringToModbusSerialMode (mode : String) : Nat :=
  if mode = "RTU" then 1 else if mode = "ASCII" then 2 else 0

def modbusNetworkModeToString (mode : Nat) : String :=
  if mode = 1 then "TCP" else if mode = 2 then "UDP" else "DISABLED"

def stringToModbusNetworkMode (mode : String) : Nat :=
  if mode = "TCP" then 1 else if mode = "UDP" then 2 else 0

def modbusStopBitsToString (stopBits : Nat) : String :=
  if stopBits = 1 then "ONE_AND_HALF" else if stopBits = 2 then "TWO" else "ONE"

def stringToModbusStopBits (stopBits : String) : Nat :=
  if stopBits = "ONE_AND_HALF" then 1 else if stopBits = "TWO" then 2 else 0

def fwUpdatePolicyToString (policy : Nat) : String :=
  if policy = 0 then "FORCED_OFF" else if policy = 1 then "DISABLED"
  else if policy = 3 then "ALL_ENABLED" else "SECURITY_ONLY"

def stringToFwUpdatePolicy (policy : String) : Nat :=
  if policy = "FORCED_OFF" then 0 else if policy = "DISABLED" then 1
  else if policy = "ALL_ENABLED" then 3 else 2

/-! ## Flags

The lists of the properties are kept as bit fields: every text or number that is listed sets its
bit, and every bit that is set is listed, in an order of its own. -/

/-- The flags that the items of a list set. -/
def readFlags (flag : Node D → Nat) (items : List (Node D)) : Nat :=
  items.foldl (fun flags item => flags ||| flag item) 0

/-- The items for the bits that are set, in the order the bits are tested. -/
def flagItems (order : List Nat) (item : Nat → Option (Node D)) (flags : Nat) : List (Node D) :=
  order.filterMap fun i => if flags.testBit i then item i else none

def protocolFlag (item : Node D) : Nat :=
  match item.kind with
  | .string value =>
    if modbusRoleToString 1 = value then 1
    else if modbusRoleToString 2 = value then 2
    else if modbusSerialModeToString 1 = value then 4
    else if modbusSerialModeToString 2 = value then 8
    else if modbusNetworkModeToString 1 = value then 16
    else if modbusNetworkModeToString 2 = value then 32
    else 0
  | _ => 0

def protocolItem : Nat → Option (Node D)
  | 0 => some (.leaf (.string (modbusRoleToString 1)))
  | 1 => some (.leaf (.string (modbusRoleToString 2)))
  | 2 => some (.leaf (.string (modbusSerialModeToString 1)))
  | 3 => some (.leaf (.string (modbusSerialModeToString 2)))
  | 4 => some (.leaf (.string (modbusNetworkModeToString 1)))
  | 5 => some (.leaf (.string (modbusNetworkModeToString 2)))
  | _ => none

def baudrateFlag (N : Doubles) (item : Node N.D) : Nat :=
  match item.kind with
  | .number d =>
    match N.convert 4 true d with
    | 4800 => 1
    | 9600 => 2
    | 19200 => 4
    | 38400 => 8
    | 57600 => 16
    | 115200 => 32
    | _ => 0
  | _ => 0

def baudrateItem (N : Doubles) : Nat → Option (Node N.D)
  | 0 => some (.leaf (.number (N.ofInt 4800)))
  | 1 => some (.leaf (.number (N.ofInt 9600)))
  | 2 => some (.leaf (.number (N.ofInt 19200)))
  | 3 => some (.leaf (.number (N.ofInt 38400)))
  | 4 => some (.leaf (.number (N.ofInt 57600)))
  | 5 => some (.leaf (.number (N.ofInt 115200)))
  | _ => none

def stopBitsFlag (item : Node D) : Nat :=
  match item.kind with
  | .string value =>
    if modbusStopBitsToString 0 = value then 1
    else if modbusStopBitsToString 2 = value then 4
    else if modbusStopBitsToString 1 = value then 2
    else 0
  | _ => 0

def stopBitsItem : Nat → Option (Node D)
  | 0 => some (.leaf (.string (modbusStopBitsToString 0)))
  | 1 => some (.leaf (.string (modbusStopBitsToString 1)))
  | 2 => some (.leaf (.string (modbusStopBitsToString 2)))
  | _ => none

def contentFlag (item : Node D) : Nat :=
  match item.kind with
  | .string value => stringToHomeScreenContent value
  | _ => 0

/-- `n` is `1 << a` when the loop passes it to `home_screen_content_to_string`. -/
def contentItem (a : Nat) : Option (Node D) :=
  let content := homeScreenContentToString (2 ^ a)
  if content = "" then none else some (.leaf (.string content))

/-! ## The configuration -/

structure Config (N : Doubles) where
  user : Node N.D
  properties : Node N.D

/-- A configuration that nothing was set in. -/
def Config.empty : Config N := ⟨.emptyObject, .emptyObject⟩

/-- `get_root(false, true, field)`. -/
def Config.root (c : Config N) (f : Field) : Option (Node N.D) :=
  if f.inHomeScreen then c.user.get homeScreen else some c.user

/-- `set_item_value(get_root(true, true, field), field_map.at(field), …)`. -/
def Config.setItem (c : Config N) (f : Field) (item : Item N.D) : Config N :=
  let set (root : Node N.D) := setItemValue root f.name item true
  { c with user := if f.inHomeScreen then c.user.within homeScreen set else set c.user }

/-! ## Getters -/

/-- A write into the structure at an offset. -/
structure Write where
  off : Nat
  bytes : List UInt8

/-- What a getter does: its answer and its writes, in order. -/
abbrev Got : Type := Bool × List Write

/-- One part of a structure after another; the structure is read when a part of it is. -/
def Got.also (a b : Got) : Got := (a.1 || b.1, a.2 ++ b.2)

/-- A part at an offset of the structure. -/
def Got.shift (g : Got) (off : Nat) : Got := (g.1, g.2.map fun w => { w with off := off + w.off })

/-- A part whose answer is not used. -/
def Got.unanswered (g : Got) : Got := (false, g.2)

/-- A byte that stands for a text. -/
def readText (parent : Option (Node N.D)) (key : String) (off : Nat) (value : String → Nat) : Got :=
  match getString parent key with
  | some s => (true, [⟨off, toLE 1 (value s)⟩])
  | none => (false, [])

/-- A number of `w` bytes. -/
def readNumber (parent : Option (Node N.D)) (key : String) (off w : Nat) (signed : Bool) : Got :=
  match getDouble parent key with
  | some d => (true, [⟨off, toLE w (N.convert w signed d)⟩])
  | none => (false, [])

def getStatusLed (c : Config N) : Got :=
  readText (c.root .statusLed) (Field.name .statusLed) 0 stringToStatusLed

def getPowerStatusLed (c : Config N) : Got :=
  readText (c.root .powerStatusLed) (Field.name .powerStatusLed) 0 stringToPowerStatusLed

def getScreenBrightness (c : Config N) : Got :=
  match c.user.get (Field.name .screenBrightness) with
  | none => (false, [])
  | some parent =>
    match (getDouble (some parent) "level").filter N.percent with
    | some value => (true, [⟨1, [0]⟩, ⟨0, toLE 1 (N.convert 1 false value)⟩])
    | none =>
      if getString (some parent) "level" = some "auto" then
        (true, [⟨1, [1]⟩, ⟨0, [0]⟩] ++ (readNumber (some parent) "adjustment" 2 1 true).2)
      else (false, [])

def getButtonVolume (c : Config N) : Got :=
  match (getDouble (c.root .buttonVolume) (Field.name .buttonVolume)).filter N.percent with
  | some value => (true, [⟨0, toLE 1 (N.convert 1 false value)⟩])
  | none => (false, [])

def getUserInterfaceDisabled (c : Config N) : Got :=
  let parent := c.user.get (Field.name .disableUserInterface)
  let cleared : List Write := [⟨1, toLE 2 0⟩, ⟨3, toLE 2 0⟩]
  match getBool parent "disabled" with
  | some value => (true, cleared ++ [⟨0, [if value then 1 else 0]⟩])
  | none =>
    if getString parent "disabled" = some "partial" then
      match getDouble parent "minAllowedTemperatureSetpointFromLocalUI",
        getDouble parent "maxAllowedTemperatureSetpointFromLocalUI" with
      | some min, some max =>
        (true, cleared ++ [⟨0, [2]⟩, ⟨1, toLE 2 (N.convert 2 false min)⟩,
          ⟨3, toLE 2 (N.convert 2 false max)⟩])
      | _, _ => (false, cleared)
    else (false, cleared)

def getAutomaticTimeSync (c : Config N) : Got :=
  match getBool (c.root .automaticTimeSync) (Field.name .automaticTimeSync) with
  | some value => (true, [⟨0, [if value then 1 else 0]⟩])
  | none => (false, [])

def getHomeScreenOffDelay (c : Config N) : Got :=
  readNumber (c.root .homeScreenOffDelay) (Field.name .homeScreenOffDelay) 0 2 false

def getHomeScreenOffDelayType (c : Config N) : Got :=
  readText (c.root .homeScreenOffDelayType) (Field.name .homeScreenOffDelayType) 0
    stringToHomeScreenOffDelayType

/-- The available contents are ORed into the structure one by one. -/
def getHomeScreenContent (c : Config N) : Got :=
  let content : Got :=
    match getString (c.root .homeScreenOffDelay) (Field.name .homeScreenContent) with
    | some s => (true, [⟨8, toLE 8 (stringToHomeScreenContent s)⟩])
    | none => (false, [])
  let available : Got :=
    match c.properties.get contentAvailable with
    | some modes =>
      if modes.kind.sameType .array then
        (true, [⟨0, toLE 8 0⟩, ⟨0, toLE 8 (readFlags contentFlag modes.items)⟩])
      else (false, [⟨0, toLE 8 0⟩])
    | none => (false, [⟨0, toLE 8 0⟩])
  content.also available

/-- The baud rate does not count as a readable part. -/
def modbusJsonToSerialConfig (json : Option (Node N.D)) : Got :=
  ((readText json "mode" 0 stringToModbusSerialMode).also
    (readNumber json "baudRate" 1 4 true).unanswered).also
    (readText json "stopBits" 5 stringToModbusStopBits)

/-- The port does not count as a readable part. -/
def modbusJsonToNetworkConfig (json : Option (Node N.D)) : Got :=
  (readText json "mode" 0 stringToModbusNetworkMode).also
    (readNumber json "port" 1 4 false).unanswered

/-- The bit field of a list of the properties: `size` bytes are cleared, then the bits are set. -/
def readAvailable (json : Node N.D) (key : String) (size : Nat) (flag : Node N.D → Nat) : Got :=
  match json.get key with
  | none => (false, [⟨0, toLE size 0⟩])
  | some available => (true, [⟨0, toLE size 0⟩, ⟨0, toLE 1 (readFlags flag available.items)⟩])

def modbusJsonToAvailableProtocols (json : Node N.D) : Got :=
  readAvailable json "availableProtocols" 2 protocolFlag

def modbusJsonToAvailableBaudrates (json : Node N.D) : Got :=
  readAvailable json "availableBaudrates" 2 (baudrateFlag N)

def modbusJsonToAvailableStopBits (json : Node N.D) : Got :=
  readAvailable json "availableStopbits" 1 stopBitsFlag

/-- The structure has the serial configuration at 6, the network configuration at 32 and the
properties at 57. -/
def getModbusConfig (c : Config N) : Got :=
  match c.user.get (Field.name .modbus) with
  | none => (false, [])
  | some userRoot =>
    let config := ((((readText (some userRoot) "role" 0 stringToModbusRole).also
      (readNumber (some userRoot) "modbusAddress" 1 1 false)).also
      (readNumber (some userRoot) "slaveTimeoutMs" 2 4 false)).also
      ((modbusJsonToSerialConfig (userRoot.get "serialConfig")).shift 6)).also
      ((modbusJsonToNetworkConfig (userRoot.get "networkConfig")).shift 32)
    match c.properties.get (Field.name .modbus) with
    | none => config
    | some propertiesRoot =>
      ((config.also ((modbusJsonToAvailableProtocols propertiesRoot).shift 57)).also
        ((modbusJsonToAvailableBaudrates propertiesRoot).shift 59)).also
        ((modbusJsonToAvailableStopBits propertiesRoot).shift 61)

def getFirmwareUpdateConfig (c : Config N) : Got :=
  readText (c.root .firmwareUpdate) (Field.name .firmwareUpdate) 0 stringToFwUpdatePolicy

def getField (c : Config N) : Field → Got
  | .statusLed => getStatusLed c
  | .screenBrightness => getScreenBrightness c
  | .buttonVolume => getButtonVolume c
  | .disableUserInterface => getUserInterfaceDisabled c
  | .automaticTimeSync => getAutomaticTimeSync c
  | .homeScreenOffDelay => getHomeScreenOffDelay c
  | .homeScreenContent => getHomeScreenContent c
  | .homeScreenOffDelayType => getHomeScreenOffDelayType c
  | .powerStatusLed => getPowerStatusLed c
  | .modbus => getModbusConfig c
  | .firmwareUpdate => getFirmwareUpdateConfig c

/-! ## Setters

A setter gets the memory from its structure on. -/

def setStatusLed (c : Config N) (b : List UInt8) : Config N :=
  if readLE b 0 1 ≤ 2 then c.setItem .statusLed (.string (statusLedToString (readLE b 0 1))) else c

def setPowerStatusLed (c : Config N) (b : List UInt8) : Config N :=
  if readLE b 0 1 ≤ 1 then
    c.setItem .powerStatusLed (.string (powerStatusLedToString (readLE b 0 1)))
  else c

def setScreenBrightness (c : Config N) (b : List UInt8) : Config N :=
  let br : Node N.D :=
    if readLE b 1 1 = 1 then
      setItemValue (setItemValue .emptyObject "level" (.string "auto") true) "adjustment"
        (.number (N.ofInt (readInt 1 true b 2))) true
    else if readLE b 0 1 ≤ 100 then
      setItemValue .emptyObject "level" (.number (N.ofInt (readInt 1 false b 0))) true
    else .emptyObject
  c.setItem .screenBrightness (.object br)

def setButtonVolume (c : Config N) (b : List UInt8) : Config N :=
  if readLE b 0 1 ≤ 100 then c.setItem .buttonVolume (.number (N.ofInt (readInt 1 false b 0)))
  else c

def setUserInterfaceDisabled (c : Config N) (b : List UInt8) : Config N :=
  let disabled := readLE b 0 1
  if disabled ≤ 2 then
    let ui : Node N.D :=
      if disabled = 2 then
        (((Node.emptyObject).add "disabled" (.leaf (.string "partial"))).add
          "minAllowedTemperatureSetpointFromLocalUI"
          (.leaf (.number (N.ofInt (readInt 2 false b 1))))).add
          "maxAllowedTemperatureSetpointFromLocalUI"
          (.leaf (.number (N.ofInt (readInt 2 false b 3))))
      else (Node.emptyObject).add "disabled" (.leaf (if disabled ≠ 0 then .true else .false))
    c.setItem .disableUserInterface (.object ui)
  else c

def setAutomaticTimeSync (c : Config N) (b : List UInt8) : Config N :=
  if readLE b 0 1 ≤ 1 then
    c.setItem .automaticTimeSync (if readLE b 0 1 ≠ 0 then .true else .false)
  else c

def setHomeScreenOffDelay (c : Config N) (b : List UInt8) : Config N :=
  c.setItem .homeScreenOffDelay (.number (N.ofInt (readInt 2 false b 0)))

def setHomeScreenOffDelayType (c : Config N) (b : List UInt8) : Config N :=
  c.setItem .homeScreenOffDelayType (.string (homeScreenOffDelayTypeToString (readLE b 0 1)))

def setHomeScreenContent (c : Config N) (b : List UInt8) : Config N :=
  let rooted : Config N := { c with user := c.user.within homeScreen id }
  let content := homeScreenContentToString (readLE b 8 8)
  let set := if content = "" then rooted else rooted.setItem .homeScreenContent (.string content)
  let cleared := if (set.properties.get contentAvailable).isSome
    then set.properties.erase contentAvailable else set.properties
  let modes : Node N.D := .ofItems (flagItems (List.range 64) contentItem (readLE b 0 8))
  { set with properties := cleared.add contentAvailable modes }

def modbusSerialConfigToJson (N : Doubles) (b : List UInt8) : Node N.D :=
  setItemValue (setItemValue (setItemValue .emptyObject
    "mode" (.string (modbusSerialModeToString (readLE b 0 1))) true)
    "baudRate" (.number (N.ofInt (readInt 4 true b 1))) true)
    "stopBits" (.string (modbusStopBitsToString (readLE b 5 1))) true

def modbusNetworkConfigToJson (N : Doubles) (b : List UInt8) : Node N.D :=
  setItemValue (setItemValue .emptyObject
    "mode" (.string (modbusNetworkModeToString (readLE b 0 1))) true)
    "port" (.number (N.ofInt (readInt 4 false b 1))) true

def modbusAvailableProtocolsToJson (D : Type) (b : List UInt8) : Node D :=
  .ofItems (flagItems [0, 1, 2, 3, 4, 5] protocolItem (readLE b 0 1))

def modbusAvailableBaudratesToJson (N : Doubles) (b : List UInt8) : Node N.D :=
  .ofItems (flagItems [0, 1, 2, 3, 4, 5] (baudrateItem N) (readLE b 0 1))

def modbusAvailableStopBitsToJson (D : Type) (b : List UInt8) : Node D :=
  .ofItems (flagItems [0, 2, 1] stopBitsItem (readLE b 0 1))

def setModbusConfig (c : Config N) (b : List UInt8) : Config N where
  user := c.user.within (Field.name .modbus) fun userRoot =>
    setItemValue (setItemValue (setItemValue (setItemValue (setItemValue userRoot
      "role" (.string (modbusRoleToString (readLE b 0 1))) true)
      "modbusAddress" (.number (N.ofInt (readInt 1 false b 1))) true)
      "slaveTimeoutMs" (.number (N.ofInt (readInt 4 false b 2))) true)
      "serialConfig" (.object (modbusSerialConfigToJson N (b.drop 6))) true)
      "networkConfig" (.object (modbusNetworkConfigToJson N (b.drop 32))) true
  properties := c.properties.within (Field.name .modbus) fun propertiesRoot =>
    setItemValue (setItemValue (setItemValue propertiesRoot
      "availableProtocols" (.object (modbusAvailableProtocolsToJson N.D (b.drop 57))) true)
      "availableBaudrates" (.object (modbusAvailableBaudratesToJson N (b.drop 59))) true)
      "availableStopbits" (.object (modbusAvailableStopBitsToJson N.D (b.drop 61))) true

def setFirmwareUpdateConfig (c : Config N) (b : List UInt8) : Config N :=
  c.setItem .firmwareUpdate (.string (fwUpdatePolicyToString (readLE b 0 1)))

def setField (c : Config N) (b : List UInt8) : Field → Config N
  | .statusLed => setStatusLed c b
  | .screenBrightness => setScreenBrightness c b
  | .buttonVolume => setButtonVolume c b
  | .disableUserInterface => setUserInterfaceDisabled c b
  | .automaticTimeSync => setAutomaticTimeSync c b
  | .homeScreenOffDelay => setHomeScreenOffDelay c b
  | .homeScreenContent => setHomeScreenContent c b
  | .homeScreenOffDelayType => setHomeScreenOffDelayType c b
  | .powerStatusLed => setPowerStatusLed c b
  | .modbus => setModbusConfig c b
  | .firmwareUpdate => setFirmwareUpdateConfig c b

/-! ## Chunks -/

/-- `TSDS_SetDeviceConfig`, as far as the configuration is concerned. -/
structure Chunk where
  fields : BitVec 64
  configSize : Nat
  config : List UInt8

/-- A zeroed chunk. -/
def Chunk.zero : Chunk := ⟨0, 0, List.replicate deviceConfigMaxsize 0⟩

/-- The part of a chunk that is sent. -/
def Chunk.content (ch : Chunk) : List UInt8 := ch.config.take ch.configSize

/-- The writes of a getter, with the structure at `base`. -/
def poke (mem : List UInt8) (base : Nat) (writes : List Write) : List UInt8 :=
  writes.foldl (fun m w => memcpy m (base + w.off) w.bytes w.bytes.length) mem

/-- The loop of `set_config`; `offset` advances by the size of every field of the chunk. -/
def applyFields (ch : Chunk) : List Field → Nat → Config N → Config N
  | [], _, c => c
  | f :: fs, offset, c =>
    if has ch.fields f then
      let left := min ch.configSize deviceConfigMaxsize
      if offset < left then
        applyFields ch fs (offset + f.size)
          (if f.size ≤ left - offset then setField c (ch.config.drop offset) f else c)
      else c
    else applyFields ch fs offset c

def setConfig (c : Config N) (ch : Chunk) : Config N := applyFields ch Field.all 0 c

/-- The requested fields that are known. -/
def knownFields (fields : BitVec 64) : BitVec 64 :=
  Field.all.foldl (fun left f => if has fields f then left ||| mask f else left) 0

/-- The loop of `get_config` with its exits: a field that no longer fits ends it, and so does a
full chunk. -/
def packFields (c : Config N) (fields : BitVec 64) :
    List Field → Chunk → BitVec 64 → Chunk × BitVec 64
  | [], ch, fieldsLeft => (ch, fieldsLeft)
  | f :: fs, ch, fieldsLeft =>
    if has fields f then
      let left := deviceConfigMaxsize - ch.configSize
      let got : Got := if f.size ≤ left then getField c f else (false, [])
      let ch := { ch with config := poke ch.config ch.configSize got.2 }
      if ¬ got.1 ∧ left < f.size then (ch, fieldsLeft)
      else
        let ch := if got.1
          then { ch with fields := ch.fields ||| mask f, configSize := ch.configSize + f.size }
          else ch
        let fieldsLeft := fieldsLeft &&& ~~~ mask f
        if deviceConfigMaxsize ≤ ch.configSize then (ch, fieldsLeft)
        else packFields c fields fs ch fieldsLeft
    else packFields c fields fs ch fieldsLeft

def getConfig (c : Config N) (ch : Chunk) (fields : BitVec 64) : Chunk × BitVec 64 :=
  packFields c fields Field.all { ch with fields := 0, configSize := 0 } (knownFields fields)

/-- The loop that answers a request: chunks are read until no field is left. `none` when it has
not come to its end after `fuel` chunks. -/
def requestConfig (c : Config N) : Nat → BitVec 64 → Option (List Chunk)
  | fuel, fields =>
    if fields = 0 then some []
    else match fuel with
      | 0 => none
      | fuel + 1 =>
        let (ch, fieldsLeft) := getConfig c .zero fields
        (requestConfig c fuel fieldsLeft).map (ch :: ·)

end Device.JsonConfig
