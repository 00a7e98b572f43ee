import SuplaCore.Lib.Scan
import SuplaCore.Mqtt.ValueSetter

/-!
# The grammar of the commands

What a topic and a message mean, apart from refresh requests and temperatures: the topic names a
user, a device, a channel and a command, and the message has its argument (`Denotes`). How numbers
are read is a parameter (`Reading`): as one would write it down (`Reading.plain`), and as the code
means it (`Reading.ofCode`), where a number may have a sign and a fraction, which is cut off.
-/

namespace Mqtt

/-! ## Numbers -/

/-- A dot with digits, or nothing. -/
def isFraction : List Char → Bool
  | [] => true
  | '.' :: digits => digits.all Char.isDigit
  | _ => false

/-- A number without its sign. -/
def magnitude : List Char → List Char
  | '-' :: t => t
  | t => t

/-- The digits before the dot. -/
def wholeDigits (t : List Char) : List Char := (magnitude t).takeWhile Char.isDigit

/-- What follows the digits. -/
def afterDigits (t : List Char) : List Char := (magnitude t).dropWhile Char.isDigit

/-- The whole part of a number. -/
def number (t : List Char) : Option Int :=
  if wholeDigits t ≠ [] ∧ isFraction (afterDigits t) then
    some (if t.head? = some '-' then -Scan.value (wholeDigits t) else Scan.value (wholeDigits t))
  else none

/-- A number of digits only. -/
def numeral (t : List Char) : Option Int :=
  if t ≠ [] ∧ t.all Char.isDigit then some (Scan.value t) else none

/-! ## Arguments -/

/-- The texts between two commas. -/
def components (m : List Char) : Option (List Char × List Char × List Char) :=
  match m.splitOn ',' with
  | [a, b, c] => some (a, b, c)
  | _ => none

/-- Red, green and blue, each in 0..255. -/
def rgb (component : List Char → Option Int) (m : List Char) : Option Nat := do
  let (a, b, c) ← components m
  let red ← (component a).filter fun n => 0 ≤ n ∧ n ≤ 255
  let green ← (component b).filter fun n => 0 ≤ n ∧ n ≤ 255
  let blue ← (component c).filter fun n => 0 ≤ n ∧ n ≤ 255
  return red.toNat * 65536 + green.toNat * 256 + blue.toNat

def sixHexDigits (digits : List Char) : Option Nat :=
  if digits.length = 6 then
    digits.foldl (fun result c => do return (← result) * 16 + (← hexDigit c)) (some 0)
  else none

/-- Six hexadecimal digits. -/
def hexColor : List Char → Option Nat
  | '#' :: digits => sixHexDigits digits
  | '0' :: 'x' :: digits => sixHexDigits digits
  | '0' :: 'X' :: digits => sixHexDigits digits
  | _ => none

/-- The first entry with the message as its word, in letters of either case. -/
def lookup {α : Type} (words : List (String × α)) (m : List Char) : Option α :=
  (words.find? fun w => m.map Char.toLower = w.1.toList).map (·.2)

def boolWords : List (String × Bool) :=
  [("1", true), ("yes", true), ("true", true), ("0", false), ("no", false), ("false", false)]

/-- How numbers are read. -/
structure Reading where
  /-- the prefix in front of the topics -/
  topicPrefix : List Char → List Char
  /-- the id of a device or a channel -/
  id : List Char → Option Int
  percentage : List Char → Option Int
  rgb : List Char → Option Nat

namespace Reading

/-- Digits for what has to be whole, a fraction for percentages. -/
def plain : Reading where
  topicPrefix p := p
  id t := (numeral t).filter fun n => 1 ≤ n ∧ n < 2 ^ 31
  percentage m := if m.head? = some '-' then none else (number m).filter fun n => n ≤ 100
  rgb m := Mqtt.rgb numeral m

/-- One kind of number for everything, with a sign and a fraction. -/
def ofCode : Reading where
  topicPrefix p := p.take 512
  id t := (number t).filter fun n => n ≠ 0
  percentage m := (number m).filter fun n => 0 ≤ n ∧ n ≤ 100
  rgb m := if m.length ≤ 11 then Mqtt.rgb number m else none

variable (R : Reading)

/-- What a command with its argument means. -/
def argument (command m : List Char) : Option ValueCallback :=
  if command = "set/on".toList then (lookup boolWords m).map .setOn
  else if command = "set/tilt".toList then
    (R.percentage m).map fun n => .actionShut (some (-1, n))
  else if command = "set/closing_percentage".toList then
    (R.percentage m).map fun n => .actionShut (some (n, -1))
  else if command = "set/opening_percentage".toList then
    (R.percentage m).map fun n => .actionShut (some (100 - n, -1))
  else if command = "execute_action".toList then lookup actionWords m
  else if command = "set/color_brightness".toList then (R.percentage m).map .setColorBrightness
  else if command = "set/brightness".toList then (R.percentage m).map .setBrightness
  else if command = "set/color".toList then ((hexColor m).or (R.rgb m)).map .setColor
  else none

end Reading

/-! ## Topics -/

/-- The parts of a topic. -/
structure TopicParts where
  suid : List Char
  device : List Char
  channel : List Char
  command : List Char

namespace TopicParts

def text (p : TopicParts) : List Char :=
  "supla/".toList ++ (p.suid ++ '/' :: ("devices/".toList ++ (p.device ++ '/' ::
    ("channels/".toList ++ (p.channel ++ '/' :: p.command)))))

/-- A part between two slashes. -/
def IsPart (t : List Char) : Prop := t ≠ [] ∧ '/' ∉ t

structure Valid (p : TopicParts) : Prop where
  suid : IsPart p.suid
  device : IsPart p.device
  channel : IsPart p.channel

end TopicParts

/-- A prefix with the slash behind it. -/
def prefixed (topicPrefix t : List Char) : List Char :=
  if topicPrefix = [] then t else topicPrefix ++ '/' :: t

/-- **The meaning** of a topic and a message. -/
def Denotes (R : Reading) (topicPrefix topic message : List Char) (cmd : Command) : Prop :=
  ∃ p : TopicParts, p.Valid ∧ topic = prefixed (R.topicPrefix topicPrefix) p.text ∧
    cmd.suid = some p.suid ∧ R.id p.device = some cmd.deviceId ∧
    R.id p.channel = some cmd.channelId ∧ R.argument p.command message = some cmd.callback

end Mqtt
