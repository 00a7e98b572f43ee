import SuplaCore.Device.Proof.JsonField

/-!
# The Modbus field of a device configuration

The getter of the Modbus structure writes its parts one by one (`modbus_image`), also those that do
not make the structure readable: when it answers that it read nothing, a baud rate and a port may
stand in memory (`modbus_unread`). A structure that was read is read back (`modbus_readsAs`).
-/

namespace Device.JsonConfig

open Json Bytes

variable {N : Doubles} {D : Type}

/-! ## The structure -/

/-- `TDeviceConfig_Modbus`, its bit fields as numbers. -/
structure Modbus where
  role : Nat
  address : Nat
  timeout : Nat
  serialMode : Nat
  baudrate : Nat
  stopBits : Nat
  networkMode : Nat
  port : Nat
  protocols : Nat
  baudrates : Nat
  stops : Nat

/-- The parts of the structure, the reserved ones included. -/
def Modbus.parts (m : Modbus) : List (List UInt8) :=
  [toLE 1 m.role, toLE 1 m.address, toLE 4 m.timeout, toLE 1 m.serialMode, toLE 4 m.baudrate,
    toLE 1 m.stopBits, List.replicate 20 0, toLE 1 m.networkMode, toLE 4 m.port,
    List.replicate 20 0, toLE 1 m.protocols, [0], toLE 1 m.baudrates, [0], toLE 1 m.stops,
    List.replicate 40 0]

/-- The structure in memory. -/
def Modbus.bytes (m : Modbus) : List UInt8 := m.parts.flatten

/-- Nothing was read. -/
def Modbus.zero : Modbus := ⟨0, 0, 0, 0, 0, 0, 0, 0, 0, 0, 0⟩

/-- A text, or nothing. -/
def textAt (parent : Option (Node D)) (key : String) (value : String → Nat) : Nat :=
  ((getString parent key).map value).getD 0

/-- A number, or nothing. -/
def numberAt (parent : Option (Node N.D)) (key : String) (w : Nat) (signed : Bool) : Nat :=
  ((getDouble parent key).map (N.convert w signed)).getD 0

/-- The flags of a list, or nothing. -/
def flagsAt (parent : Option (Node D)) (key : String) (flag : Node D → Nat) : Nat :=
  ((parent.bind (·.get key)).map fun list => readFlags flag list.items).getD 0

/-- What the getter finds in the user's and the properties' items. -/
def modbusOf (user : Node N.D) (properties : Option (Node N.D)) : Modbus where
  role := textAt (some user) "role" stringToModbusRole
  address := numberAt (some user) "modbusAddress" 1 false
  timeout := numberAt (some user) "slaveTimeoutMs" 4 false
  serialMode := textAt (user.get "serialConfig") "mode" stringToModbusSerialMode
  baudrate := numberAt (user.get "serialConfig") "baudRate" 4 true
  stopBits := textAt (user.get "serialConfig") "stopBits" stringToModbusStopBits
  networkMode := textAt (user.get "networkConfig") "mode" stringToModbusNetworkMode
  port := numberAt (user.get "networkConfig") "port" 4 false
  protocols := flagsAt properties "availableProtocols" protocolFlag
  baudrates := flagsAt properties "availableBaudrates" (baudrateFlag N)
  stops := flagsAt properties "availableStopbits" stopBitsFlag

/-! ## Writing the structure -/


theorem poke_text {parent : Option (Node N.D)} {key : String} {off : Nat} {value : String → Nat}
    (mem : Nat → List UInt8) (h : ∀ x, memcpy (mem 0) off (toLE 1 x) 1 = mem x) :
    poke (mem 0) 0 (readText parent key off value).2 = mem (textAt parent key value) := by
  unfold readText textAt
  cases getString parent key with
  | none => rfl
  | some s =>
    rw [poke_cons, Nat.zero_add, length_toLE]
    exact h _

theorem poke_number {parent : Option (Node N.D)} {key : String} {off w : Nat} {signed : Bool}
    (mem : Nat → List UInt8) (h : ∀ x, memcpy (mem 0) off (toLE w x) w = mem x) :
    poke (mem 0) 0 (readNumber parent key off w signed).2 =
      mem (numberAt parent key w signed) := by
  unfold readNumber numberAt
  cases getDouble parent key with
  | none => rfl
  | some d =>
    rw [poke_cons, Nat.zero_add, length_toLE]
    exact h _

theorem poke_available {json : Node N.D} {key : String} {k size : Nat} {flag : Node N.D → Nat}
    (mem : Nat → List UInt8) (hclear : memcpy (mem 0) k (toLE size 0) size = mem 0)
    (h : ∀ x, memcpy (mem 0) k (toLE 1 x) 1 = mem x) :
    poke (mem 0) 0 ((readAvailable json key size flag).shift k).2 =
      mem (flagsAt (some json) key flag) := by
  unfold readAvailable flagsAt
  rw [Option.bind_some]
  cases json.get key with
  | none =>
    simp only [Got.shift, List.map_cons, List.map_nil, poke_cons, Nat.zero_add, Nat.add_zero,
      length_toLE, hclear]
    rfl
  | some list =>
    simp only [Got.shift, List.map_cons, List.map_nil, poke_cons, Nat.zero_add, Nat.add_zero,
      length_toLE, hclear, h]
    rfl

theorem shift_readText (parent : Option (Node N.D)) (key : String) (off k : Nat)
    (value : String → Nat) :
    (readText parent key off value).shift k = readText parent key (k + off) value := by
  unfold readText
  cases getString parent key <;> rfl

theorem shift_readNumber (parent : Option (Node N.D)) (key : String) (off k w : Nat)
    (signed : Bool) :
    (readNumber parent key off w signed).shift k = readNumber parent key (k + off) w signed := by
  unfold readNumber
  cases getDouble parent key <;> rfl

theorem shift_also (a b : Got) (k : Nat) : (a.also b).shift k = (a.shift k).also (b.shift k) := by
  simp [Got.also, Got.shift]

theorem shift_unanswered (a : Got) (k : Nat) : a.unanswered.shift k = (a.shift k).unanswered := rfl

theorem unanswered_writes (a : Got) : a.unanswered.2 = a.2 := rfl

theorem also_writes (a b : Got) : (a.also b).2 = a.2 ++ b.2 := rfl

/-- The writes of the user's part. -/
theorem poke_modbus_user (user : Node N.D) :
    poke Modbus.zero.bytes 0 (((((readText (some user) "role" 0 stringToModbusRole).also
      (readNumber (some user) "modbusAddress" 1 1 false)).also
      (readNumber (some user) "slaveTimeoutMs" 2 4 false)).also
      ((modbusJsonToSerialConfig (user.get "serialConfig")).shift 6)).also
      ((modbusJsonToNetworkConfig (user.get "networkConfig")).shift 32)).2 =
      (modbusOf user none).bytes := by
  simp only [modbusJsonToSerialConfig, modbusJsonToNetworkConfig, shift_also, shift_unanswered,
    shift_readText, shift_readNumber, also_writes, unanswered_writes, poke_append, Nat.add_zero,
    Nat.reduceAdd]
  rw [Modbus.zero,
    poke_text (fun x => Modbus.bytes ⟨x, 0, 0, 0, 0, 0, 0, 0, 0, 0, 0⟩) (fun x => rfl),
    poke_number (fun x => Modbus.bytes ⟨_, x, 0, 0, 0, 0, 0, 0, 0, 0, 0⟩) (fun x => rfl),
    poke_number (fun x => Modbus.bytes ⟨_, _, x, 0, 0, 0, 0, 0, 0, 0, 0⟩) (fun x => rfl),
    poke_text (fun x => Modbus.bytes ⟨_, _, _, x, 0, 0, 0, 0, 0, 0, 0⟩) (fun x => rfl),
    poke_number (fun x => Modbus.bytes ⟨_, _, _, _, x, 0, 0, 0, 0, 0, 0⟩) (fun x => rfl),
    poke_text (fun x => Modbus.bytes ⟨_, _, _, _, _, x, 0, 0, 0, 0, 0⟩) (fun x => rfl),
    poke_text (fun x => Modbus.bytes ⟨_, _, _, _, _, _, x, 0, 0, 0, 0⟩) (fun x => rfl),
    poke_number (fun x => Modbus.bytes ⟨_, _, _, _, _, _, _, x, 0, 0, 0⟩) (fun x => rfl)]
  rfl

/-- **What the getter leaves in zeroed memory.** -/
theorem modbus_image {c : Config N} {user : Node N.D}
    (h : c.user.get (Field.name .modbus) = some user) :
    image .modbus (getModbusConfig c).2 =
      (modbusOf user (c.properties.get (Field.name .modbus))).bytes := by
  have hzero : List.replicate (Field.size .modbus) 0 = Modbus.zero.bytes := rfl
  unfold image
  rw [hzero]
  simp only [getModbusConfig, h]
  cases c.properties.get (Field.name .modbus) with
  | none => exact poke_modbus_user user
  | some properties =>
    simp only [also_writes _ (Got.shift _ 61), also_writes _ (Got.shift _ 59),
      also_writes _ (Got.shift _ 57), poke_append, poke_modbus_user,
      modbusJsonToAvailableProtocols, modbusJsonToAvailableBaudrates, modbusJsonToAvailableStopBits]
    show poke (poke (poke (Modbus.bytes ⟨_, _, _, _, _, _, _, _, 0, 0, 0⟩) 0 _) 0 _) 0 _ = _
    rw [poke_available (fun x => Modbus.bytes ⟨_, _, _, _, _, _, _, _, x, 0, 0⟩) rfl
        (fun x => rfl),
      poke_available (fun x => Modbus.bytes ⟨_, _, _, _, _, _, _, _, _, x, 0⟩) rfl (fun x => rfl),
      poke_available (fun x => Modbus.bytes ⟨_, _, _, _, _, _, _, _, _, _, x⟩) rfl (fun x => rfl)]
    rfl

/-! ## Reading back -/

theorem textAt_le {value : String → Nat} {text : Nat → String} {top : Nat}
    (code : TextCode value text top) (parent : Option (Node D)) (key : String) :
    textAt parent key value ≤ top := by
  unfold textAt
  cases getString parent key with
  | none => exact Nat.zero_le _
  | some s => exact code.le s

theorem flagsAt_lt {flag : Node D → Nat} {n : Nat} (h : ∀ it, flag it < 2 ^ n)
    (parent : Option (Node D)) (key : String) : flagsAt parent key flag < 2 ^ n := by
  unfold flagsAt
  cases parent.bind (·.get key) with
  | none => exact Nat.two_pow_pos n
  | some list => exact readFlags_lt h _

theorem textAt_eq {node : Node D} {key : String} {value : String → Nat} {s : String}
    (h : node.get key = some (.leaf (.string s))) : textAt (some node) key value = value s := by
  simp only [textAt, getString, Option.bind_some, h]
  rfl

theorem numberAt_eq {node : Node N.D} {key : String} {w : Nat} {signed : Bool} {d : N.D}
    (h : node.get key = some (.leaf (.number d))) :
    numberAt (some node) key w signed = N.convert w signed d := by
  simp only [numberAt, getDouble, Option.bind_some, h]
  rfl

theorem flagsAt_eq {node : Node D} {key : String} {flag : Node D → Nat} {items : List (Node D)}
    (h : node.get key = some (.ofItems items)) :
    flagsAt (some node) key flag = readFlags flag items := by
  simp only [flagsAt, Option.bind_some, h, Option.map_some, Option.getD_some, Node.items_ofItems]

/-- The members that the setter gives the Modbus object of the user. -/
theorem get_modbus_members (a b c d e : Item D) :
    let user := setItemValue (setItemValue (setItemValue (setItemValue (setItemValue .emptyObject
      "role" a true) "modbusAddress" b true) "slaveTimeoutMs" c true) "serialConfig" d true)
      "networkConfig" e true
    user.get "role" = some a.node ∧ user.get "modbusAddress" = some b.node ∧
      user.get "slaveTimeoutMs" = some c.node ∧ user.get "serialConfig" = some d.node ∧
      user.get "networkConfig" = some e.node := ⟨rfl, rfl, rfl, rfl, rfl⟩

theorem get_serial_members (a b c : Item D) :
    let json := setItemValue (setItemValue (setItemValue .emptyObject "mode" a true)
      "baudRate" b true) "stopBits" c true
    json.get "mode" = some a.node ∧ json.get "baudRate" = some b.node ∧
      json.get "stopBits" = some c.node := ⟨rfl, rfl, rfl⟩

theorem get_network_members (a b : Item D) :
    let json := setItemValue (setItemValue .emptyObject "mode" a true) "port" b true
    json.get "mode" = some a.node ∧ json.get "port" = some b.node := ⟨rfl, rfl⟩

theorem get_properties_members (a b c : Item D) :
    let json := setItemValue (setItemValue (setItemValue .emptyObject "availableProtocols" a true)
      "availableBaudrates" b true) "availableStopbits" c true
    json.get "availableProtocols" = some a.node ∧ json.get "availableBaudrates" = some b.node ∧
      json.get "availableStopbits" = some c.node := ⟨rfl, rfl, rfl⟩

/-- The Modbus item of the user that is stored from a block. -/
def storedUser (N : Doubles) (b : List UInt8) : Node N.D :=
  setItemValue (setItemValue (setItemValue (setItemValue (setItemValue .emptyObject
    "role" (.string (modbusRoleToString (readLE b 0 1))) true)
    "modbusAddress" (.number (N.ofInt (readInt 1 false b 1))) true)
    "slaveTimeoutMs" (.number (N.ofInt (readInt 4 false b 2))) true)
    "serialConfig" (.object (modbusSerialConfigToJson N (b.drop 6))) true)
    "networkConfig" (.object (modbusNetworkConfigToJson N (b.drop 32))) true

/-- The Modbus item of the properties that is stored from a block. -/
def storedProperties (N : Doubles) (b : List UInt8) : Node N.D :=
  setItemValue (setItemValue (setItemValue .emptyObject
    "availableProtocols" (.object (modbusAvailableProtocolsToJson N.D (b.drop 57))) true)
    "availableBaudrates" (.object (modbusAvailableBaudratesToJson N (b.drop 59))) true)
    "availableStopbits" (.object (modbusAvailableStopBitsToJson N.D (b.drop 61))) true

/-- What is stored from a block is found there again, number by number. -/
theorem modbusOf_stored (b : List UInt8) :
    modbusOf (storedUser N b) (some (storedProperties N b)) =
      { role := stringToModbusRole (modbusRoleToString (readLE b 0 1))
        address := readLE b 1 1
        timeout := readLE b 2 4
        serialMode := stringToModbusSerialMode (modbusSerialModeToString (readLE b 6 1))
        baudrate := readLE b 7 4
        stopBits := stringToModbusStopBits (modbusStopBitsToString (readLE b 11 1))
        networkMode := stringToModbusNetworkMode (modbusNetworkModeToString (readLE b 32 1))
        port := readLE b 33 4
        protocols := readFlags (protocolFlag (D := N.D))
          (flagItems [0, 1, 2, 3, 4, 5] protocolItem (readLE b 57 1))
        baudrates := readFlags (baudrateFlag N)
          (flagItems [0, 1, 2, 3, 4, 5] (baudrateItem N) (readLE b 59 1))
        stops := readFlags (stopBitsFlag (D := N.D))
          (flagItems [0, 2, 1] stopBitsItem (readLE b 61 1)) } := by
  obtain ⟨hrole, haddress, htimeout, hserial, hnetwork⟩ := get_modbus_members
    (.string (modbusRoleToString (readLE b 0 1))) (.number (N.ofInt (readInt 1 false b 1)))
    (.number (N.ofInt (readInt 4 false b 2))) (.object (modbusSerialConfigToJson N (b.drop 6)))
    (.object (modbusNetworkConfigToJson N (b.drop 32)))
  obtain ⟨hsmode, hbaud, hstop⟩ := get_serial_members
    (.string (modbusSerialModeToString (readLE (b.drop 6) 0 1)))
    (.number (N.ofInt (readInt 4 true (b.drop 6) 1)))
    (.string (modbusStopBitsToString (readLE (b.drop 6) 5 1)))
  obtain ⟨hnmode, hport⟩ := get_network_members
    (.string (modbusNetworkModeToString (readLE (b.drop 32) 0 1)))
    (.number (N.ofInt (readInt 4 false (b.drop 32) 1)))
  obtain ⟨hprotocols, hbaudrates, hstops⟩ := get_properties_members
    (.object (modbusAvailableProtocolsToJson N.D (b.drop 57)))
    (.object (modbusAvailableBaudratesToJson N (b.drop 59)))
    (.object (modbusAvailableStopBitsToJson N.D (b.drop 61)))
  unfold modbusOf storedUser storedProperties
  simp only [hserial, hnetwork, Item.node]
  rw [textAt_eq (s := modbusRoleToString (readLE b 0 1)) hrole,
    numberAt_eq (d := N.ofInt (readInt 1 false b 1)) haddress,
    numberAt_eq (d := N.ofInt (readInt 4 false b 2)) htimeout]
  unfold modbusSerialConfigToJson modbusNetworkConfigToJson
  rw [textAt_eq (s := modbusSerialModeToString (readLE (b.drop 6) 0 1)) hsmode,
    numberAt_eq (d := N.ofInt (readInt 4 true (b.drop 6) 1)) hbaud,
    textAt_eq (s := modbusStopBitsToString (readLE (b.drop 6) 5 1)) hstop,
    textAt_eq (s := modbusNetworkModeToString (readLE (b.drop 32) 0 1)) hnmode,
    numberAt_eq (d := N.ofInt (readInt 4 false (b.drop 32) 1)) hport,
    flagsAt_eq hprotocols, flagsAt_eq hbaudrates, flagsAt_eq hstops]
  simp only [convert_readInt, readLE_drop, Nat.reduceAdd, Nat.add_zero, Nat.one_le_ofNat,
    Nat.le_refl]

/-- Texts and flags as the getter finds them. -/
structure Modbus.Canonical (m : Modbus) : Prop where
  role : m.role ≤ 2
  serialMode : m.serialMode ≤ 2
  stopBits : m.stopBits ≤ 2
  networkMode : m.networkMode ≤ 2
  protocols : m.protocols < 2 ^ 6
  baudrates : m.baudrates < 2 ^ 6
  stops : m.stops < 2 ^ 3

theorem modbusOf_canonical (user : Node N.D) (properties : Option (Node N.D)) :
    (modbusOf user properties).Canonical where
  role := textAt_le modbusRole_code _ _
  serialMode := textAt_le modbusSerialMode_code _ _
  stopBits := textAt_le modbusStopBits_code _ _
  networkMode := textAt_le modbusNetworkMode_code _ _
  protocols := flagsAt_lt protocol_code.lt _ _
  baudrates := flagsAt_lt (baudrate_code N).lt _ _
  stops := flagsAt_lt stopBits_code.lt _ _

/-- The structure that is stored from the bytes of another one has its bytes. -/
theorem stored_bytes {m : Modbus} (hm : m.Canonical) {b : List UInt8}
    (hb : ∀ off w, off + w ≤ 102 → readLE b off w = readLE m.bytes off w) :
    Modbus.bytes
      { role := stringToModbusRole (modbusRoleToString (readLE b 0 1))
        address := readLE b 1 1
        timeout := readLE b 2 4
        serialMode := stringToModbusSerialMode (modbusSerialModeToString (readLE b 6 1))
        baudrate := readLE b 7 4
        stopBits := stringToModbusStopBits (modbusStopBitsToString (readLE b 11 1))
        networkMode := stringToModbusNetworkMode (modbusNetworkModeToString (readLE b 32 1))
        port := readLE b 33 4
        protocols := readFlags (protocolFlag (D := N.D))
          (flagItems [0, 1, 2, 3, 4, 5] protocolItem (readLE b 57 1))
        baudrates := readFlags (baudrateFlag N)
          (flagItems [0, 1, 2, 3, 4, 5] (baudrateItem N) (readLE b 59 1))
        stops := readFlags (stopBitsFlag (D := N.D))
          (flagItems [0, 2, 1] stopBitsItem (readLE b 61 1)) } = m.bytes := by
  have hpart : ∀ off w x, off + w ≤ 102 → readLE m.bytes off w = ofLE (toLE w x) →
      readLE b off w = x % 256 ^ w := by
    intro off w x hfit hpart
    rw [hb off w hfit, hpart, ofLE_toLE]
  have hbyte : ∀ off x, off + 1 ≤ 102 → x < 256 → readLE m.bytes off 1 = ofLE (toLE 1 x) →
      readLE b off 1 = x := by
    intro off x hfit hx hp
    rw [hpart off 1 x hfit hp]
    omega
  have hrole := hm.role
  have hserial := hm.serialMode
  have hstop := hm.stopBits
  have hnetwork := hm.networkMode
  have hprotocols := hm.protocols
  have hbaudrates := hm.baudrates
  have hstops := hm.stops
  rw [hbyte 0 m.role (by decide) (by omega) rfl, hpart 1 1 m.address (by decide) rfl,
    hpart 2 4 m.timeout (by decide) rfl, hbyte 6 m.serialMode (by decide) (by omega) rfl,
    hpart 7 4 m.baudrate (by decide) rfl, hbyte 11 m.stopBits (by decide) (by omega) rfl,
    hbyte 32 m.networkMode (by decide) (by omega) rfl, hpart 33 4 m.port (by decide) rfl,
    hbyte 57 m.protocols (by decide) (by omega) rfl,
    hbyte 59 m.baudrates (by decide) (by omega) rfl, hbyte 61 m.stops (by decide) (by omega) rfl,
    modbusRole_code.back _ hrole, modbusSerialMode_code.back _ hserial,
    modbusStopBits_code.back _ hstop, modbusNetworkMode_code.back _ hnetwork,
    protocol_code.back hprotocols, (baudrate_code N).back hbaudrates, stopBits_code.back hstops]
  simp only [Modbus.bytes, Modbus.parts, toLE_mod]

/-- What is stored is what the setter puts there. -/
theorem setModbus_absent {d : Config N} (hd : Absent d .modbus) (b : List UInt8) :
    (setModbusConfig d b).user.get (Field.name .modbus) = some (storedUser N b) ∧
    (setModbusConfig d b).properties.get (Field.name .modbus) = some (storedProperties N b) := by
  have hu : d.user.get (Field.name .modbus) = none := hd.1
  have hp : d.properties.get (Field.name .modbus) = none := hd.2
  simp only [setModbusConfig, Node.get_within_self, hu, hp, Option.getD_none]
  exact ⟨rfl, rfl⟩

theorem readText_answer (parent : Option (Node N.D)) (key : String) (off : Nat)
    (value : String → Nat) :
    (readText parent key off value).1 = (getString parent key).isSome := by
  unfold readText
  cases getString parent key <;> rfl

theorem readNumber_answer (parent : Option (Node N.D)) (key : String) (off w : Nat)
    (signed : Bool) :
    (readNumber parent key off w signed).1 = (getDouble parent key).isSome := by
  unfold readNumber
  cases getDouble parent key <;> rfl

theorem readAvailable_answer (json : Node N.D) (key : String) (size : Nat)
    (flag : Node N.D → Nat) : (readAvailable json key size flag).1 = (json.get key).isSome := by
  unfold readAvailable
  cases json.get key <;> rfl

theorem also_answer (a b : Got) : (a.also b).1 = (a.1 || b.1) := rfl

theorem shift_answer (a : Got) (k : Nat) : (a.shift k).1 = a.1 := rfl

theorem unanswered_answer (a : Got) : a.unanswered.1 = false := rfl

/-- The Modbus configuration of the user that nothing can be read from, a baud rate or a port
apart. -/
structure UserUnread (user : Node N.D) : Prop where
  role : getString (some user) "role" = none
  address : getDouble (some user) "modbusAddress" = none
  timeout : getDouble (some user) "slaveTimeoutMs" = none
  serialMode : getString (user.get "serialConfig") "mode" = none
  stopBits : getString (user.get "serialConfig") "stopBits" = none
  networkMode : getString (user.get "networkConfig") "mode" = none

/-- Properties without a list of Modbus. -/
structure PropertiesUnread (properties : Node N.D) : Prop where
  protocols : properties.get "availableProtocols" = none
  baudrates : properties.get "availableBaudrates" = none
  stops : properties.get "availableStopbits" = none

/-- When the Modbus getter answers that it read nothing. -/
theorem getModbus_unread {c : Config N} {user : Node N.D}
    (h : c.user.get (Field.name .modbus) = some user) :
    (getModbusConfig c).1 = false ↔ UserUnread user ∧
      ∀ properties, c.properties.get (Field.name .modbus) = some properties →
        PropertiesUnread properties := by
  simp only [getModbusConfig, h]
  cases c.properties.get (Field.name .modbus) with
  | none =>
    simp only [modbusJsonToSerialConfig, modbusJsonToNetworkConfig, also_answer, shift_answer,
      unanswered_answer, readText_answer, readNumber_answer, Bool.or_eq_false_iff,
      Option.isSome_eq_false_iff, Option.isNone_iff_eq_none, Bool.or_false]
    constructor
    · rintro ⟨⟨⟨⟨h1, h2⟩, h3⟩, h4, h5⟩, h6⟩
      exact ⟨⟨h1, h2, h3, h4, h5, h6⟩, fun _ hp => by cases hp⟩
    · rintro ⟨⟨h1, h2, h3, h4, h5, h6⟩, -⟩
      exact ⟨⟨⟨⟨h1, h2⟩, h3⟩, h4, h5⟩, h6⟩
  | some properties =>
    simp only [modbusJsonToSerialConfig, modbusJsonToNetworkConfig, modbusJsonToAvailableProtocols,
      modbusJsonToAvailableBaudrates, modbusJsonToAvailableStopBits, also_answer, shift_answer,
      unanswered_answer, readText_answer, readNumber_answer, readAvailable_answer,
      Bool.or_eq_false_iff, Option.isSome_eq_false_iff, Option.isNone_iff_eq_none, Bool.or_false]
    constructor
    · rintro ⟨⟨⟨⟨⟨⟨⟨h1, h2⟩, h3⟩, h4, h5⟩, h6⟩, h7⟩, h8⟩, h9⟩
      refine ⟨⟨h1, h2, h3, h4, h5, h6⟩, ?_⟩
      rintro p ⟨⟩
      exact ⟨h7, h8, h9⟩
    · rintro ⟨⟨h1, h2, h3, h4, h5, h6⟩, hp⟩
      obtain ⟨h7, h8, h9⟩ := hp properties rfl
      exact ⟨⟨⟨⟨⟨⟨⟨h1, h2⟩, h3⟩, h4, h5⟩, h6⟩, h7⟩, h8⟩, h9⟩

/-- **The parts that stay in memory** when the structure could not be read. -/
theorem modbus_unread {c : Config N} {user : Node N.D}
    (h : c.user.get (Field.name .modbus) = some user) (hno : (getModbusConfig c).1 = false) :
    image .modbus (getModbusConfig c).2 = Modbus.bytes
      { Modbus.zero with
        baudrate := numberAt (user.get "serialConfig") "baudRate" 4 true
        port := numberAt (user.get "networkConfig") "port" 4 false } := by
  obtain ⟨hu, hp⟩ := (getModbus_unread h).mp hno
  have hflags : ∀ key ∈ ["availableProtocols", "availableBaudrates", "availableStopbits"],
      (c.properties.get (Field.name .modbus)).bind (·.get key) = none := by
    intro key hkey
    cases hprops : c.properties.get (Field.name .modbus) with
    | none => rfl
    | some properties =>
      obtain ⟨h7, h8, h9⟩ := hp properties hprops
      simp only [List.mem_cons, List.not_mem_nil, or_false] at hkey
      rcases hkey with rfl | rfl | rfl
      · exact h7
      · exact h8
      · exact h9
  rw [modbus_image h]
  simp only [modbusOf, textAt, hu.role, hu.serialMode, hu.stopBits, hu.networkMode,
    Option.map_none, Option.getD_none, flagsAt, hflags _ (List.mem_cons_self),
    hflags "availableBaudrates" (by simp), hflags "availableStopbits" (by simp)]
  congr 1
  simp only [numberAt, hu.address, hu.timeout, Option.map_none, Option.getD_none, Modbus.zero]

/-- **The Modbus structure is read back.** -/
theorem modbus_readsAs {c d : Config N} {ws : List Write} {b : List UInt8}
    (h : getField c .modbus = (true, ws)) (hd : Absent d .modbus) (hb : Starts .modbus ws b) :
    ReadsAs (setField d b .modbus) .modbus ws := by
  have hws : (getModbusConfig c).2 = ws := congrArg Prod.snd h
  have hanswer : (getModbusConfig c).1 = true := congrArg Prod.fst h
  cases huser : c.user.get (Field.name .modbus) with
  | none =>
    simp only [getModbusConfig, huser] at hanswer
    cases hanswer
  | some user =>
    have himage := modbus_image huser
    rw [hws] at himage
    obtain ⟨hu, hp⟩ := setModbus_absent hd b
    refine ⟨(getModbusConfig (setModbusConfig d b)).2, ?_, ?_⟩
    · have htrue : (getModbusConfig (setModbusConfig d b)).1 = true := by
        by_contra hno
        have hrole := ((getModbus_unread hu).mp (by simpa using hno)).1.role
        cases hrole
      exact Prod.ext htrue rfl
    · rw [modbus_image hu, hp, modbusOf_stored, himage]
      exact stored_bytes (modbusOf_canonical user _) fun off w hfit => by
        rw [hb.readLE off w hfit, himage]

end Device.JsonConfig
