import SuplaCore.Client.ObjContainer
import SuplaCore.Srpc.Proof.EvAdd

/-!
# The channels of a client

`supla_client_channels` (`supla-server/src/client/clientchannels.cpp`) as a container of objects:
which data a channel has for a data type, the packs it is collected in and the calls with which they
are handed to `srpc`. What the `proto_get` of a channel or a value copies into an item is a value of
any type; extended values are the structures of `proto.h`.
-/

namespace Client.Channels

open Batch ObjContainer Srpc

/-- `OI_REMOTEUPDATE_DATA1`, `DATA2` and `DATA3`: the channel, its value, its extended value. -/
inductive DataType
  | data1
  | data2
  | data3
  deriving DecidableEq

/-- `available_data_types_for_remote`. -/
def availableDataTypesForRemote : List DataType := [.data1, .data2, .data3]

/-- `SUPLA_CHANNELPACK_MAXCOUNT`. -/
def channelpackMaxcount : Nat := 20

/-- `SUPLA_CHANNELVALUE_PACK_MAXCOUNT`. -/
def channelvaluePackMaxcount : Nat := 20

/-- `SUPLA_CHANNELEXTENDEDVALUE_PACK_MAXCOUNT`. -/
def channelextendedvaluePackMaxcount : Nat := 5

/-- `SUPLA_CHANNELEXTENDEDVALUE_PACK_MAXDATASIZE`. -/
def channelextendedvaluePackMaxdatasize : Nat := Proto.suplaMaxDataSize - 50

/-! ## Extended values -/

/-- An extended value within its capacity, as `srpc` lets it in. -/
abbrev ExtendedValue :=
  { ev : TSuplaChannelExtendedValue // ev.size ≤ channelExtendedValueSize }

theorem ExtendedValue.length_zero :
    (List.replicate (evHeaderSize + channelExtendedValueSize) (0 : UInt8)).length =
      evHeaderSize + channelExtendedValueSize :=
  List.length_replicate

/-- `memset` to zero. -/
def ExtendedValue.zero : ExtendedValue where
  val := ⟨List.replicate (evHeaderSize + channelExtendedValueSize) 0, length_zero⟩
  property := by decide

def ExtendedValue.add (dest src : ExtendedValue) : ExtendedValue where
  val := (srpcEvtoolValueAdd dest.1 src.1).2
  property := size_srpcEvtoolValueAdd_le dest.2 src.2

/-- `TSC_SuplaChannelExtendedValue`. -/
structure Cev where
  id : Int
  value : ExtendedValue

/-- `cev_size`: the structure without the unused end of the value. -/
def Cev.size (cev : Cev) : Nat := 4 + evHeaderSize + cev.value.1.size

/-! ## Channels -/

structure Channel (V : Type) where
  id : Int
  /-- what is copied into an item -/
  content : V
  /-- `get_cs_extended_value` of the channel, if its device is there -/
  extendedValue : Option ExtendedValue
  /-- the same of the related meter, for a channel that switches -/
  meterValue : Option ExtendedValue

/-- An item of a pack, and `TSC_SuplaChannelValue`. -/
structure Item (V : Type) where
  eol : Bool
  id : Int
  content : V
  deriving DecidableEq

variable {V : Type}

/-- `proto_get`, with `EOL` as it is set after it. -/
def Channel.protoGet (c : Channel V) : Item V := ⟨false, c.id, c.content⟩

/-- `proto_get` of an extended value. -/
def Channel.protoGetExtendedValue (version : Nat) (c : Channel V) : Option Cev :=
  let cev := c.extendedValue.getD .zero
  match c.meterValue with
  | some second => some ⟨c.id, if version ≥ 17 then cev.add second else second⟩
  | none => if c.extendedValue.isSome then some ⟨c.id, cev⟩ else none

/-! ## Collecting -/

/-- `get_datapack_for_remote`. -/
def getDatapackForRemote (maxCount : Nat) (c : Channel V) (data : Option (Pack (Item V))) :
    Fetch (Pack (Item V)) :=
  let pack := data.getD ⟨[], 0⟩
  if pack.items.length < maxCount then ⟨true, some (pack.add c.protoGet), true⟩
  else ⟨false, some pack.leave, true⟩

/-- `pack_size`: what has been copied to a pack of extended values. -/
def packSize (pack : Pack Cev) : Nat := (pack.items.map Cev.size).sum

/-- `get_ev_datapack_for_remote`. -/
def getEvDatapackForRemote (version : Nat) (c : Channel V) :
    Option (Pack Cev) → Fetch (Pack Cev)
  | none =>
    match c.protoGetExtendedValue version with
    | none => ⟨false, none, true⟩
    | some cev =>
      if cev.size ≤ channelextendedvaluePackMaxdatasize then ⟨true, some ⟨[cev], 0⟩, true⟩
      else ⟨false, none, true⟩
  | some pack =>
    if pack.items.length ≥ channelextendedvaluePackMaxcount ∨
        packSize pack ≥ channelextendedvaluePackMaxdatasize then ⟨false, some pack.leave, true⟩
    else
      match c.protoGetExtendedValue version with
      | none => ⟨false, some pack.leave, true⟩
      | some cev =>
        if cev.size + packSize pack ≤ channelextendedvaluePackMaxdatasize then
          ⟨true, some (pack.add cev), true⟩
        else ⟨false, some pack.leave, true⟩

/-- The one record for clients of a version below 9. -/
def getValueForRemote (c : Channel V) (_ : Option (Item V)) : Fetch (Item V) :=
  ⟨true, some c.protoGet, true⟩

/-! ## Sending -/

/-- `set_pack_eol`. -/
def setPackEol (pack : Pack (Item V)) : Pack (Item V) :=
  if pack.totalLeft = 0 then
    { pack with
      items := pack.items.modify (pack.items.length - 1) fun item => { item with eol := true } }
  else pack

/-- The layouts of `TSC_SuplaChannel`. -/
inductive ChannelLayout
  | a
  | b
  | c
  | d
  | e
  deriving DecidableEq

def channelLayout (version : Nat) : ChannelLayout :=
  if version ≥ 23 then .e
  else if version ≥ 15 then .d
  else if version ≥ 10 then .c
  else if version ≥ 8 then .b
  else .a

/-- The layouts of `TSC_SuplaChannelValue` in packs. -/
inductive ValueLayout
  | a
  | b
  deriving DecidableEq

def valueLayout (version : Nat) : ValueLayout := if version ≥ 15 then .b else .a

/-- The calls of `srpc` with what they are given. -/
inductive Message (V : Type)
  | channelpackUpdate (layout : ChannelLayout) (pack : Pack (Item V))
  | channelvaluePackUpdate (layout : ValueLayout) (pack : Pack (Item V))
  | channelValueUpdate (value : Item V)
  | channelextendedvaluePackUpdate (pack : Pack Cev)

/-- `get_data_for_remote` and `send_data_to_remote_and_free` for a version of the protocol. -/
def remote (version : Nat) : DataType → Remote (Channel V) (Message V)
  | .data1 => {
      Data := Pack (Item V)
      getData := getDatapackForRemote channelpackMaxcount
      send := fun pack => .channelpackUpdate (channelLayout version) (setPackEol pack) }
  | .data2 =>
    if version ≥ 9 then {
      Data := Pack (Item V)
      getData := getDatapackForRemote channelvaluePackMaxcount
      send := fun pack => .channelvaluePackUpdate (valueLayout version) (setPackEol pack) }
    else {
      Data := Item V
      getData := getValueForRemote
      send := .channelValueUpdate }
  | .data3 => {
      Data := Pack Cev
      getData := fun c data =>
        if version ≥ 10 then getEvDatapackForRemote version c data else ⟨false, data, true⟩
      send := .channelextendedvaluePackUpdate }

/-- `remote_update` until it returns false. -/
def updates (version : Nat) : Nat → List (Obj DataType (Channel V)) →
    Option (List (Message V) × List (Obj DataType (Channel V))) :=
  ObjContainer.updates (remote version) availableDataTypesForRemote

end Client.Channels
