import SuplaCore.Device.JsonConfig
import SuplaCore.Lib.AddrText

/-!
# The state of a channel

`supla_channel_state` (`supla-server/src/device/channel_state.cpp`): `TDSC_ChannelState`, which is
kept as a JSON text (here the tree of its values). The structure is packed and the order of bytes
that of a little-endian machine, where `char` is signed.

Left out: `ReceiverID`, `ChannelID` and `EmptySpace`, which neither the text nor `equal_fields`
takes in, and the null pointers.
-/

namespace Device

open Json (Node)
open JsonConfig (Doubles Item getString getDouble getBool setItemValue)

/-! ## The structure -/

/-- The flags `SUPLA_CHANNELSTATE_FIELD_*`. -/
inductive StateField
  | ipv4
  | mac
  | batteryLevel
  | batteryPowered
  | wifiRssi
  | wifiSignalStrength
  | bridgeNodeSignalStrength
  | uptime
  | connectionUptime
  | batteryHealth
  | bridgeNodeOnline
  | lastConnectionResetCause
  | lightSourceLifespan
  | lightSourceOperatingTime
  | operatingTime
  | switchCycleCount
  | deviceBatteryLevel
  deriving DecidableEq

def StateField.mask : StateField → BitVec 32
  | .ipv4 => 0x0001
  | .mac => 0x0002
  | .batteryLevel => 0x0004
  | .batteryPowered => 0x0008
  | .wifiRssi => 0x0010
  | .wifiSignalStrength => 0x0020
  | .bridgeNodeSignalStrength => 0x0040
  | .uptime => 0x0080
  | .connectionUptime => 0x0100
  | .batteryHealth => 0x0200
  | .bridgeNodeOnline => 0x0400
  | .lastConnectionResetCause => 0x0800
  | .lightSourceLifespan => 0x1000
  | .lightSourceOperatingTime => 0x2000
  | .operatingTime => 0x4000
  | .switchCycleCount => 0x8000
  | .deviceBatteryLevel => 0x10000

structure ChannelState where
  fields : BitVec 32
  /-- Shared with `SwitchCycleCount`. -/
  defaultIconField : BitVec 32
  ipv4 : BitVec 32
  mac : Vector (BitVec 8) 6
  batteryLevel : BitVec 8
  batteryPowered : BitVec 8
  wifiRssi : BitVec 8
  wifiSignalStrength : BitVec 8
  bridgeNodeOnline : BitVec 8
  bridgeNodeSignalStrength : BitVec 8
  uptime : BitVec 32
  connectionUptime : BitVec 32
  batteryHealth : BitVec 8
  lastConnectionResetCause : BitVec 8
  lightSourceLifespan : BitVec 16
  /-- Shared with `LightSourceOperatingTime`, and with `LightSourceLifespanLeft` in its first two
  bytes. -/
  operatingTime : BitVec 32
  eol : BitVec 8
  deriving DecidableEq

namespace ChannelState

def zero : ChannelState :=
  ⟨0, 0, 0, .replicate 6 0, 0, 0, 0, 0, 0, 0, 0, 0, 0, 0, 0, 0, 0⟩

/-- `Fields & SUPLA_CHANNELSTATE_FIELD_*`. -/
def has (f : StateField) (s : ChannelState) : Bool := decide (s.fields &&& f.mask ≠ 0)

/-- `LightSourceLifespanLeft`. -/
def lightSourceLifespanLeft (s : ChannelState) : BitVec 16 := s.operatingTime.setWidth 16

/-- `equal_fields`: the bytes that are compared are those of all members here. -/
def equalFields (s t : ChannelState) : Bool := decide (s = t)

/-! ## Texts -/

def SUPLA_LASTCONNECTIONRESETCAUSE_WIFI_CONNECTION_LOST : BitVec 8 := 2

def SUPLA_LASTCONNECTIONRESETCAUSE_SERVER_CONNECTION_LOST : BitVec 8 := 3

def resetCauseToString (resetCause : BitVec 8) : String :=
  if resetCause = 0 then "UNKNOWN"
  else if resetCause = 1 then "ACTIVITY_TIMEOUT"
  else if resetCause = SUPLA_LASTCONNECTIONRESETCAUSE_WIFI_CONNECTION_LOST then
    "WIFI_CONNECTION_LOST"
  else if resetCause = SUPLA_LASTCONNECTIONRESETCAUSE_SERVER_CONNECTION_LOST then
    "SERVER_CONNECTION_LOST"
  else ""

def stringToResetCause (resetCause : String) : BitVec 8 :=
  if resetCause = "UNKNOWN" then 0
  else if resetCause = "ACTIVITY_TIMEOUT" then 1
  else if resetCause = "WIFI_CONNECTION_LOSTT" then
    SUPLA_LASTCONNECTIONRESETCAUSE_WIFI_CONNECTION_LOST
  else if resetCause = "SERVER_CONNECTION_LOST" then
    SUPLA_LASTCONNECTIONRESETCAUSE_SERVER_CONNECTION_LOST
  else 0

/-- `inet_ntop` of the address. -/
def ipv4ToString (ipv4 : BitVec 32) : String :=
  .ofList (AddrText.inetNtop (ipv4.toNat % 256) (ipv4.toNat / 256 % 256)
    (ipv4.toNat / 65536 % 256) (ipv4.toNat / 16777216 % 256))

/-- `inet_pton` of a text. -/
def stringToIpv4 (text : String) : Option (BitVec 32) :=
  match AddrText.inetPton text.toList with
  | some [a, b, c, d] => some (BitVec.ofNat 32 (a + 256 * b + 65536 * c + 16777216 * d))
  | _ => none

/-- `%02X:%02X:%02X:%02X:%02X:%02X`. -/
def macToString (mac : Vector (BitVec 8) 6) : String :=
  .ofList (AddrText.hexBytes (mac.toList.map BitVec.toNat))

/-- `%x:%x:%x:%x:%x:%x`, for a text of 17 bytes. -/
def stringToMac (text : String) : Option (Vector (BitVec 8) 6) :=
  if text.utf8ByteSize = 17 then
    (AddrText.scanHexs 6 text.toList).map fun mac => .ofFn fun i => BitVec.ofInt 8 (mac.getD i 0)
  else none

/-! ## Writing -/

variable {N : Doubles}

/-- A member that is written under a condition. -/
def given {α : Type} (c : Bool) (a : α) : Option α := if c then some a else none

/-- A whole number. -/
def whole (n : Int) : Item N.D := .number (N.ofInt n)

def truth (b : BitVec 8) : Item N.D := if b ≠ 0 then .true else .false

/-- The members of the object in the order in which they are written. -/
def members (s : ChannelState) : List (String × Option (Item N.D)) :=
  [("switchCycleCount", given (s.has .switchCycleCount) (whole s.defaultIconField.toNat)),
    ("defaultIconField", given (!s.has .switchCycleCount) (whole s.defaultIconField.toInt)),
    ("ipv4", given (s.has .ipv4) (.string (ipv4ToString s.ipv4))),
    ("mac", given (s.has .mac) (.string (macToString s.mac))),
    ("batteryLevel", given (s.has .batteryLevel) (whole s.batteryLevel.toNat)),
    ("batteryPowered", given (s.has .batteryPowered) (truth s.batteryPowered)),
    ("wifiRSSI", given (s.has .wifiRssi) (whole s.wifiRssi.toInt)),
    ("wifiSignalStrength", given (s.has .wifiSignalStrength) (whole s.wifiSignalStrength.toNat)),
    ("bridgeNodeOnline", given (s.has .bridgeNodeOnline) (truth s.bridgeNodeOnline)),
    ("bridgeNodeSignalStrength",
      given (s.has .bridgeNodeSignalStrength) (whole s.bridgeNodeSignalStrength.toNat)),
    ("uptime", given (s.has .uptime) (whole s.uptime.toNat)),
    ("connectionUptime", given (s.has .connectionUptime) (whole s.connectionUptime.toNat)),
    ("batteryHealth", given (s.has .batteryHealth) (whole s.batteryHealth.toNat)),
    ("lastConnectionResetCause", given (s.has .lastConnectionResetCause)
      (if s.lastConnectionResetCause > SUPLA_LASTCONNECTIONRESETCAUSE_SERVER_CONNECTION_LOST then
        whole s.lastConnectionResetCause.toNat
      else .string (resetCauseToString s.lastConnectionResetCause))),
    ("lightSourceLifespan", given (s.has .lightSourceLifespan) (whole s.lightSourceLifespan.toNat)),
    ("lightSourceLifespanLeft",
      given (s.has .lightSourceLifespan && !s.has .lightSourceOperatingTime &&
        !s.has .operatingTime) (whole s.lightSourceLifespanLeft.toInt)),
    ("lightSourceOperatingTime",
      given (s.has .lightSourceOperatingTime && !s.has .operatingTime)
        (whole s.operatingTime.toInt)),
    ("operatingTime",
      given (!s.has .lightSourceOperatingTime && s.has .operatingTime)
        (whole s.operatingTime.toNat)),
    ("deviceBatteryLevel", given (s.has .deviceBatteryLevel) .true)]

/-- `set_item_value` of a member, with `force`. -/
def write (root : Node N.D) (member : String × Option (Item N.D)) : Node N.D :=
  match member.2 with
  | some item => setItemValue root member.1 item true
  | none => root

/-- `get_json`. -/
def getJson (s : ChannelState) : Node N.D := (members s).foldl write .emptyObject

/-! ## Reading -/

/-- A number as an integer type of `w` bits. -/
def toBits (w : Nat) (signed : Bool) (d : N.D) : BitVec w :=
  BitVec.ofNat w (N.convert (w / 8) signed d)

/-- `Fields |= SUPLA_CHANNELSTATE_FIELD_*`, and the member of the field. -/
def read {α : Type} (f : StateField) (set : α → ChannelState → ChannelState) (value : Option α)
    (s : ChannelState) : ChannelState :=
  match value with
  | some a => set a { s with fields := s.fields ||| f.mask }
  | none => s

/-- A member that is a number. -/
def number (w : Nat) (signed : Bool) (root : Option (Node N.D)) (key : String) :
    Option (BitVec w) :=
  (getDouble root key).map (toBits w signed)

/-- A member that is a truth value. -/
def boolean (root : Option (Node N.D)) (key : String) : Option (BitVec 8) :=
  (getBool root key).map fun b => if b then 1 else 0

def readDefaultIconField (root : Option (Node N.D)) (s : ChannelState) : ChannelState :=
  match number 32 false root "switchCycleCount" with
  | some a =>
    { s with fields := s.fields ||| StateField.mask .switchCycleCount, defaultIconField := a }
  | none =>
    match number 32 true root "defaultIconField" with
    | some a => { s with defaultIconField := a }
    | none => s

def resetCause (root : Option (Node N.D)) : Option (BitVec 8) :=
  match number 8 false root "lastConnectionResetCause" with
  | some a => some a
  | none => (getString root "lastConnectionResetCause").map stringToResetCause

/-- The three members that share a place, and what is in `dbl_val` behind them. -/
def readOperatingTime (root : Option (Node N.D)) (s : ChannelState) : ChannelState × N.D :=
  match getDouble root "lightSourceLifespanLeft" with
  | some d =>
    ({ s with
      fields := s.fields ||| StateField.mask .lightSourceLifespan
      operatingTime := s.operatingTime.extractLsb' 16 16 ++ toBits 16 true d }, d)
  | none =>
    match getDouble root "lightSourceOperatingTime" with
    | some d =>
      ({ s with
        fields := s.fields ||| StateField.mask .lightSourceOperatingTime
        operatingTime := toBits 32 true d }, d)
    | none =>
      match getDouble root "operatingTime" with
      | some d =>
        ({ s with
          fields := s.fields ||| StateField.mask .operatingTime
          operatingTime := toBits 32 false d }, d)
      | none => (s, N.ofInt 0)

/-- `apply_json`. -/
def applyJson (json : Node N.D) : ChannelState :=
  let root := some json
  let s := readDefaultIconField root zero
  let s := read .ipv4 (fun a s => { s with ipv4 := a })
    ((getString root "ipv4").bind stringToIpv4) s
  let s := read .mac (fun a s => { s with mac := a }) ((getString root "mac").bind stringToMac) s
  let s := read .batteryLevel (fun a s => { s with batteryLevel := a })
    (number 8 false root "batteryLevel") s
  let s := read .batteryPowered (fun a s => { s with batteryPowered := a })
    (boolean root "batteryPowered") s
  let s := read .wifiRssi (fun a s => { s with wifiRssi := a }) (number 8 true root "wifiRSSI") s
  let s := read .wifiSignalStrength (fun a s => { s with wifiSignalStrength := a })
    (number 8 false root "wifiSignalStrength") s
  let s := read .bridgeNodeOnline (fun a s => { s with bridgeNodeOnline := a })
    (boolean root "bridgeNodeOnline") s
  let s := read .bridgeNodeSignalStrength (fun a s => { s with bridgeNodeSignalStrength := a })
    (number 8 false root "bridgeNodeSignalStrength") s
  let s := read .uptime (fun a s => { s with uptime := a }) (number 32 false root "uptime") s
  let s := read .connectionUptime (fun a s => { s with connectionUptime := a })
    (number 32 false root "connectionUptime") s
  let s := read .batteryHealth (fun a s => { s with batteryHealth := a })
    (number 8 false root "batteryHealth") s
  let s := read .lastConnectionResetCause (fun a s => { s with lastConnectionResetCause := a })
    (resetCause root) s
  let s := read .lightSourceLifespan (fun a s => { s with lightSourceLifespan := a })
    (number 16 false root "lightSourceLifespan") s
  let (s, dblVal) := readOperatingTime root s
  read .deviceBatteryLevel (fun _ s => { s with operatingTime := toBits 32 false dblVal })
    (getBool root "deviceBatteryLevel") s

end ChannelState

end Device
