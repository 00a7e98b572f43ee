import SuplaCore.Device.Register

/-!
# The channels of a device in a table

`add_channels` (`supla-server/src/device/call_handler/abstract_register_device.cpp`) over a database
that keeps the channels of a device in a table with at most one row for a number: `addRow` fails
where the number is taken, and every other call answers from the rows. `Reg.addChannels` has the
answers one by one; `answers` are those of a table. `writes` keeps the function lists that are
stored, each with the channel of the message that it is stored for.

Left out: the columns that are not read again (parameters, icon, sub device, user).
-/

namespace Device

def channeltypeActiontrigger : Int := 11000

/-- `supla_device_channel::func_list_filter` -/
def funcListFilter (funcList : BitVec 32) (type : Int) : BitVec 32 :=
  if type = channeltypeActiontrigger then 0 else funcList

namespace ChannelTable

structure Row where
  type : Int
  func : Int
  funcList : BitVec 32
  flags : BitVec 64

/-- The rows of a device under their channel numbers. -/
def Table : Type := UInt8 → Option Row

def Table.insert (t : Table) (number : UInt8) (row : Row) : Table :=
  fun n => if n = number then some row else t n

/-- All channel numbers. -/
def numbers : List UInt8 := (List.range 256).map UInt8.ofNat

/-- `get_device_channel_count` -/
def Table.count (t : Table) : Nat := numbers.countP fun n => (t n).isSome

/-- The type of a row, 0 where there is none. -/
def Table.type (t : Table) (number : UInt8) : Int :=
  match t number with
  | some row => row.type
  | none => 0

/-- The function list of a row, 0 where there is none. -/
def Table.funcList (t : Table) (number : UInt8) : BitVec 32 :=
  match t number with
  | some row => row.funcList
  | none => 0

/-- A function list that is stored for a channel of the message. -/
inductive ListWrite
  | added (ch : DevChannel) (funcList : BitVec 32)
  | updated (ch : DevChannel) (old new : BitVec 32)

structure Stored where
  rows : Table
  writes : List ListWrite

/-- `add_channel` -/
def addRow (ch : DevChannel) (s : Stored) : Option Stored :=
  match s.rows ch.number with
  | some _ => none
  | none => some
    { rows := s.rows.insert ch.number ⟨ch.type, ch.defaultFunc, ch.funcList, ch.flags⟩
      writes := s.writes ++ [.added ch ch.funcList] }

/-- `update_channel_functions` -/
def updateFunctions (ch : DevChannel) (funcList : BitVec 32) (s : Stored) : Stored :=
  match s.rows ch.number with
  | some row =>
    { rows := s.rows.insert ch.number { row with funcList := funcList }
      writes := s.writes ++ [.updated ch row.funcList funcList] }
  | none => s

/-- One channel in `add_channels`. What `func_list_filter` answers is not used. -/
def addChannel (blocked : Bool) (ch : DevChannel) (s : Stored) : Bool × Stored :=
  if s.rows.type ch.number = 0 then
    if blocked then (false, s)
    else
      match addRow ch s with
      | none => (false, s)
      | some s' => (true, s')
  else if s.rows.type ch.number ≠ ch.type then (false, s)
  else if s.rows.funcList ch.number ||| ch.funcList ≠ s.rows.funcList ch.number then
    (true, updateFunctions ch (s.rows.funcList ch.number ||| ch.funcList) s)
  else (true, s)

/-- The loop of `add_channels`: `processed_count`, or `none` for -1. -/
def addChannelsLoop (blocked : Bool) : List DevChannel → Nat → Stored → Option Nat × Stored
  | [], n, s => (some n, s)
  | ch :: chs, n, s =>
    if ch.type = 0 then (some (n + 1), s)
    else
      match addChannel blocked ch s with
      | (false, s') => (none, s')
      | (true, s') => addChannelsLoop blocked chs (n + 1) s'

/-- The channels that the loop visits. -/
def entries (m : Message) : List DevChannel := (Reg.channelIndices m).map m.channels

def addChannels (blocked : Bool) (m : Message) (t : Table) : Bool × Stored :=
  match addChannelsLoop blocked (entries m) 0 ⟨t, []⟩ with
  | (none, s) => (false, s)
  | (some n, s) => if s.rows.count ≠ n then (false, s) else (true, s)

/-! ## The answers of a table -/

/-- The table before the channel at index `a`. -/
def tableAt (blocked : Bool) (m : Message) (t : Table) : Nat → Stored
  | 0 => ⟨t, []⟩
  | a + 1 => (addChannel blocked (m.channels a) (tableAt blocked m t a)).2

/-- `get_channel_properties`: id, type and function list; the id of a row is 1. -/
def Table.properties (t : Table) (number : UInt8) : Int × Int × BitVec 32 :=
  match t number with
  | some row => (1, row.type, row.funcList)
  | none => (0, 0, 0)

/-- The id that `add_channel` returns. -/
def Table.newId (t : Table) (number : UInt8) : Int :=
  match t number with
  | some _ => 0
  | none => 1

/-- A DAO that answers from the table. -/
def answers (blocked : Bool) (m : Message) (t : Table) (dao : Dao) : Dao :=
  { dao with
    getChannelProperties := fun a => (tableAt blocked m t a).rows.properties (m.channels a).number
    addChannel := fun a => (tableAt blocked m t a).rows.newId (m.channels a).number
    getDeviceChannelCount := (addChannels blocked m t).2.rows.count }

end ChannelTable

end Device
