import Mathlib.Data.List.Basic
import Mathlib.Tactic.Ring

/-!
# Commands that come in as MQTT messages

`supla_mqtt_abstract_value_setter::set_value`
(`supla-server/src/mqtt/mqtt_abstract_value_setter.cpp`): the topic names a user, a device, a
channel and what is to be done, the message has the value. The fields that a call leaves behind
(the message, the ids, where the unique id of the user stands) are there when the next one comes.

Bytes are characters, and a pointer with a size is the list of what it points to. `std::stod` with
the conversion to hundredths of a degree is a parameter (`setpoint`). A conversion of a number out
of the range of `int` gives the least `int`, as `pow` and the additions in `double` are compiled.
-/

namespace Mqtt

inductive HvacModeCmd
  | weeklySchedule
  | heat
  | cool
  | heatCool
  deriving DecidableEq

/-- The virtual methods that a command calls, with their arguments. -/
inductive ValueCallback
  | setOn (on : Bool)
  | setColor (color : Nat)
  | setBrightness (brightness : Int)
  | setColorBrightness (brightness : Int)
  | actionToggle
  /-- `params`: the percentage and the tilt -/
  | actionShut (params : Option (Int × Int))
  | actionReveal
  | actionUp
  | actionDown
  | actionUpOrStop
  | actionDownOrStop
  | actionStepByStep
  | actionStop
  | actionOpen
  | actionClose
  | actionOpenClose
  | refreshAllExisting
  | actionHvacSetParameters (mode : HvacModeCmd)
  | actionHvacSetTemperature (temperature : Int)
  | actionHvacSetTemperatures (heating cooling : Option Int)
  deriving DecidableEq

/-- A callback with what the getters give in it. -/
structure Command where
  callback : ValueCallback
  suid : Option (List Char)
  deviceId : Int
  channelId : Int
  deriving DecidableEq

/-! ## Numbers -/

def intMin : Int := -2147483648

def toInt (v : Int) : Int := if intMin ≤ v ∧ v < -intMin then v else intMin

/-- `result += digit * pow(10, n)`; from 309 on the power is infinite. -/
def addDigit (result digit : Int) (n : Nat) : Int :=
  if 309 ≤ n then intMin else toInt (result + digit * 10 ^ n)

def sumDigits : List Char → Int → Int
  | [], result => result
  | c :: cs, result => sumDigits cs (addDigit result (c.toNat - 48) cs.length)

/-- The first loop of `str2int`: how many characters stand before the dot. `a` characters were
passed, `len` is `_len` so far. -/
def wholePart : List Char → Nat → Bool → Nat → Option Nat
  | [], _, _, len => some len
  | c :: cs, a, dot, len =>
    if a = 0 ∧ c = '-' then wholePart cs (a + 1) dot len
    else if 0 < a ∧ dot = false ∧ c = '.' then wholePart cs (a + 1) true a
    else if c < '0' ∨ '9' < c then none
    else wholePart cs (a + 1) dot len

/-- `str2int`, with `none` for an error. -/
def str2int (str : List Char) : Option Int :=
  (wholePart str 0 false str.length).map fun len =>
    let whole := str.take len
    if str.head? = some '-' then toInt (-sumDigits (whole.drop 1) 0) else sumDigits whole 0

def hexDigit (c : Char) : Option Nat :=
  if '0' ≤ c ∧ c ≤ '9' then some (c.toNat - 48)
  else if 'a' ≤ c ∧ c ≤ 'f' then some (c.toNat - 87)
  else if 'A' ≤ c ∧ c ≤ 'F' then some (c.toNat - 55)
  else none

/-- `hex2int`, with `none` for an error; eight digits are no more than `unsigned int` has. -/
def hex2int (str : List Char) : Option Nat :=
  if 8 < str.length then none
  else str.foldl (fun result c => do return (← result) * 16 + (← hexDigit c)) (some 0)

/-! ## The messages -/

/-- The comparison of `lc_equal`, over the length of the message; a string ends with zero. -/
def lcEqual (message : List Char) (str : String) : Bool :=
  message.zipIdx.all fun (c, a) => (str.toList.getD a '\x00').toLower = c.toLower

/-- A message of the length of a word, that `lc_equal` finds equal to it. -/
def isWord (message : List Char) (str : String) : Bool :=
  message.length = str.toList.length && lcEqual message str

/-- `none` is that the topic is another one; a topic may come with a message without effect. -/
abbrev Parsed := Option (Option ValueCallback)

def parseOn (topic message : List Char) : Parsed :=
  if topic = "set/on".toList then
    some
      (if message = ['1'] ∨ isWord message "yes" ∨ isWord message "true" then some (.setOn true)
      else if message = ['0'] ∨ isWord message "no" ∨ isWord message "false" then
        some (.setOn false)
      else none)
  else none

/-- A number of percents. -/
def percent (message : List Char) : Option Int :=
  (str2int message).filter fun n => 0 ≤ n ∧ n ≤ 100

def parsePercentage (topic message : List Char) : Parsed :=
  if topic = "set/tilt".toList then
    some ((percent message).map fun n => .actionShut (some (-1, n)))
  else if topic = "set/closing_percentage".toList then
    some ((percent message).map fun n => .actionShut (some (n, -1)))
  else if topic = "set/opening_percentage".toList then
    some ((percent message).map fun n => .actionShut (some (100 - n, -1)))
  else none

/-- The words of `parse_action`, in the order in which they are tried. -/
def actionWords : List (String × ValueCallback) :=
  [("turn_on", .setOn true), ("turn_off", .setOn false), ("off", .setOn false),
    ("toggle", .actionToggle), ("shut", .actionShut none), ("reveal", .actionReveal),
    ("up", .actionUp), ("down", .actionDown), ("up_or_stop", .actionUpOrStop),
    ("down_or_stop", .actionDownOrStop), ("step_by_step", .actionStepByStep),
    ("stop", .actionStop), ("open_close", .actionOpenClose), ("open", .actionOpen),
    ("close", .actionClose), ("auto", .actionHvacSetParameters .weeklySchedule),
    ("heat", .actionHvacSetParameters .heat), ("cool", .actionHvacSetParameters .cool),
    ("heat_cool", .actionHvacSetParameters .heatCool)]

def parseAction (topic message : List Char) : Parsed :=
  if topic = "execute_action".toList then
    some ((actionWords.find? fun w => isWord message w.1).map (·.2))
  else none

def parseBrightness (topic message : List Char) : Parsed :=
  if topic = "set/color_brightness".toList then
    some ((percent message).map .setColorBrightness)
  else if topic = "set/brightness".toList then some ((percent message).map .setBrightness)
  else none

/-- The characters before `#` and `0x` of a color, if there is more. -/
def colorOffset : List Char → Nat
  | '#' :: _ :: _ => 1
  | '0' :: 'x' :: _ :: _ => 2
  | '0' :: 'X' :: _ :: _ => 2
  | _ => 0

/-- An `unsigned char` of an `int`. -/
def colorByte (n : Int) : Nat := (n % 256).toNat

/-- Three numbers between two commas. -/
def parseRgb (message : List Char) : Option Nat :=
  if message.length ≤ 11 ∧ message.count ',' = 2 then do
    let i := message.findIdx (· = ',')
    let rest := message.drop (i + 1)
    let j := rest.findIdx (· = ',')
    let red ← str2int (message.take i)
    let green ← str2int (rest.take j)
    let blue ← str2int (rest.drop (j + 1))
    return colorByte red * 65536 + colorByte green * 256 + colorByte blue
  else none

def parseColor (topic message : List Char) : Parsed :=
  if topic = "set/color".toList then
    let offset := colorOffset message
    let hex :=
      if offset ≠ 0 ∧ message.length - offset = 6 then hex2int (message.drop offset) else none
    match hex with
    | some color => some (some (.setColor color))
    | none => some ((parseRgb message).map .setColor)
  else none

def parseTemperature (setpoint : List Char → Option Int) (topic message : List Char) : Parsed :=
  if topic = "set/temperature_setpoint_heat".toList then
    (setpoint message).map fun t => some (.actionHvacSetTemperatures (some t) none)
  else if topic = "set/temperature_setpoint".toList then
    (setpoint message).map fun t => some (.actionHvacSetTemperature t)
  else if topic = "set/temperature_setpoint_cool".toList then
    (setpoint message).map fun t => some (.actionHvacSetTemperatures none (some t))
  else none

/-! ## The topics -/

/-- The topic after the prefix of the settings and the slash behind it. -/
def afterPrefix (topicPrefix topic : List Char) : Option (List Char) :=
  let topicPrefix := topicPrefix.take 512
  if topicPrefix = [] then some topic
  else if topic.length ≤ topicPrefix.length then none
  else if topic.take topicPrefix.length ≠ topicPrefix then none
  else
    match topic.drop topicPrefix.length with
    | '/' :: rest => some rest
    | _ => none

/-- The topic after `supla/`. -/
def afterSupla (topic : List Char) : Option (List Char) :=
  if topic.take 6 = "supla/".toList then some (topic.drop 6) else none

/-- How long the unique id of the user is, if something comes after it. -/
def suidEnd (topic : List Char) : Option Nat :=
  match topic.findIdx? (· = '/') with
  | none => none
  | some a => if a = 0 ∨ topic.length ≤ a + 1 then none else some a

/-- `parse_int_with_prefix`, with `none` for an error, and what comes after the slash. -/
def parseIntWithPrefix (str : String) (topic : List Char) : Option (Int × List Char) :=
  if topic.take str.toList.length = str.toList then do
    let rest := topic.drop str.toList.length
    let a ← rest.findIdx? (· = '/')
    if a = 0 then none
    else
      let n ← str2int (rest.take a)
      return (n, rest.drop (a + 1))
  else none

/-! ## The setter -/

structure ValueSetter where
  topicName : List Char
  message : List Char
  deviceId : Int
  channelId : Int
  suidPtr : Option (List Char)
  suidLen : Nat
  suid : Option (List Char)

namespace ValueSetter

def init : ValueSetter := ⟨[], [], 0, 0, none, 0, none⟩

def suidFree (s : ValueSetter) : ValueSetter := { s with suid := none }

def getSuid (s : ValueSetter) : Option (List Char) :=
  match s.suid with
  | some suid => some suid
  | none => if s.suidLen = 0 then none else s.suidPtr.map (·.take s.suidLen)

/-- A callback is made; it asks for the ids. -/
def call (s : ValueSetter) (callback : ValueCallback) : ValueSetter × Option Command :=
  ({ s with suid := s.getSuid }, some ⟨callback, s.getSuid, s.deviceId, s.channelId⟩)

/-- The parsers, in the order in which they are tried. -/
def parse (setpoint : List Char → Option Int) (s : ValueSetter) : ValueSetter × Option Command :=
  let parsed := (parseOn s.topicName s.message).or <|
    (parsePercentage s.topicName s.message).or <|
    (parseAction s.topicName s.message).or <|
    (parseBrightness s.topicName s.message).or <|
    (parseColor s.topicName s.message).or <|
    parseTemperature setpoint s.topicName s.message
  match parsed with
  | some (some callback) => s.call callback
  | some none => (s, none)
  | none => (s.suidFree, none)

/-- The rest of the topic, from the device on. -/
def parseChannel (setpoint : List Char → Option Int) (s : ValueSetter)
    (topic message : List Char) : ValueSetter × Option Command :=
  match parseIntWithPrefix "devices/" topic with
  | none => ({ s with deviceId := 0, suidLen := 0, suidPtr := none }, none)
  | some (deviceId, topic) =>
    if deviceId = 0 then ({ s with deviceId := 0, suidLen := 0, suidPtr := none }, none)
    else
      let s := { s with deviceId := deviceId }
      match parseIntWithPrefix "channels/" topic with
      | none => ({ s with channelId := 0, suidLen := 0, suidPtr := none }, none)
      | some (channelId, topic) =>
        if channelId = 0 then ({ s with channelId := 0, suidLen := 0, suidPtr := none }, none)
        else
          { s with channelId := channelId, topicName := topic, message := message }.parse setpoint

/-- `set_value`. The message of a refresh request is not put into the field that `lc_equal`
reads. -/
def setValue (topicPrefix : List Char) (setpoint : List Char → Option Int) (s : ValueSetter)
    (topic message : List Char) : ValueSetter × Option Command :=
  let s := s.suidFree
  if topic = [] ∨ message = [] then (s, none)
  else
    match (afterPrefix topicPrefix topic).bind afterSupla with
    | none => (s, none)
    | some topic =>
      match suidEnd topic with
      | none => ({ s with suidLen := 0, suidPtr := none }, none)
      | some a =>
        let s := { s with suidLen := a, suidPtr := some topic, deviceId := 0, channelId := 0 }
        let topic := topic.drop (a + 1)
        if topic = "refresh_request".toList then
          if message.length = 12 ∧ lcEqual s.message "all_existing" then s.call .refreshAllExisting
          else (s, none)
        else s.parseChannel setpoint topic message

end ValueSetter

/-! ## Histories -/

/-- What comes before a call: other calls, and that the memory of the last message, which is freed
after its call, comes to hold something else. -/
inductive SetterEvent
  | setValue (topic message : List Char)
  | reused (memory : List Char)

def SetterEvent.apply (topicPrefix : List Char) (setpoint : List Char → Option Int)
    (s : ValueSetter) : SetterEvent → ValueSetter
  | setValue topic message => (s.setValue topicPrefix setpoint topic message).1
  | reused memory =>
    if memory.length = s.message.length then { s with message := memory } else s

/-- An instance after a history. -/
def ValueSetter.after (topicPrefix : List Char) (setpoint : List Char → Option Int)
    (history : List SetterEvent) : ValueSetter :=
  history.foldl (SetterEvent.apply topicPrefix setpoint) .init

end Mqtt
