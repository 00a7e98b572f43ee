import SuplaCore.Proto.Packet

/-!
# Extended values (`srpc_evtool_value_add`, `srpc_evtool_value_get`)

A multi value holds other extended values one after another, each without the unused end of its
`value`. `srpc_evtool_value_get` is given with the bytes of `ev->value` that it reads.
-/

namespace Srpc

open Bytes Proto

def evTypeNone : UInt8 := 0
def evTypeMultiValue : UInt8 := 100

/-- `SUPLA_CHANNELEXTENDEDVALUE_SIZE`. -/
def channelExtendedValueSize : Nat := 1024

/-- `sizeof(TSuplaChannelExtendedValue) - sizeof(value)`: the type and the size. -/
def evHeaderSize : Nat := 1 + 4

/-- The `type` of the extended value at the start of a block. -/
def typeAt (bs : List UInt8) : UInt8 := bs.getD 0 0

/-- Its `size`. -/
def sizeAt (bs : List UInt8) : Nat := readLE bs 1 4

/-- The structure as it lies in memory. -/
structure TSuplaChannelExtendedValue where
  bytes : List UInt8
  length_bytes : bytes.length = evHeaderSize + channelExtendedValueSize

namespace TSuplaChannelExtendedValue

def type (ev : TSuplaChannelExtendedValue) : UInt8 := typeAt ev.bytes

def size (ev : TSuplaChannelExtendedValue) : Nat := sizeAt ev.bytes

def value (ev : TSuplaChannelExtendedValue) : List UInt8 := ev.bytes.drop evHeaderSize

theorem length_copy (ev : TSuplaChannelExtendedValue) (off : Nat) (src : List UInt8) (n : Nat) :
    ((memcpy ev.bytes off src n).take (evHeaderSize + channelExtendedValueSize)).length =
      evHeaderSize + channelExtendedValueSize := by
  have hlen := ev.length_bytes
  simp only [memcpy, List.length_take, List.length_append, List.length_drop]
  omega

/-- `memcpy` to an offset of the structure; what would lie behind it is not kept. -/
def copy (ev : TSuplaChannelExtendedValue) (off : Nat) (src : List UInt8) (n : Nat) :
    TSuplaChannelExtendedValue where
  bytes := (memcpy ev.bytes off src n).take (evHeaderSize + channelExtendedValueSize)
  length_bytes := ev.length_copy off src n

def setType (ev : TSuplaChannelExtendedValue) (t : UInt8) : TSuplaChannelExtendedValue :=
  ev.copy 0 [t] 1

def setSize (ev : TSuplaChannelExtendedValue) (n : Nat) : TSuplaChannelExtendedValue :=
  ev.copy 1 (toLE 4 n) 4

end TSuplaChannelExtendedValue

open TSuplaChannelExtendedValue

/-! ## Adding -/

/-- `sizeof(TSuplaChannelExtendedValue) - (sizeof(src->value) - src->size)`. -/
def recordSize (ev : TSuplaChannelExtendedValue) : Nat := add32 evHeaderSize ev.size

/-- The branch of `srpc_evtool_value_add` for a multi value. -/
def addToMultiValue (dest src : TSuplaChannelExtendedValue) : Bool × TSuplaChannelExtendedValue :=
  if add32 dest.size (recordSize src) > channelExtendedValueSize then (false, dest)
  else (true, (dest.copy (evHeaderSize + dest.size) src.bytes (recordSize src)).setSize
    (add32 dest.size (recordSize src)))

def srpcEvtoolValueAdd (dest src : TSuplaChannelExtendedValue) :
    Bool × TSuplaChannelExtendedValue :=
  if src.type = evTypeNone ∨ src.size = 0 then (false, dest)
  else if dest.type = evTypeNone then (true, src)
  else if dest.type = evTypeMultiValue then addToMultiValue dest src
  else
    let prevSize := recordSize dest
    if add32 prevSize (recordSize src) > channelExtendedValueSize then (false, dest)
    else
      let multi := (dest.setType evTypeMultiValue).setSize prevSize
      -- the call of itself finds a multi value
      addToMultiValue (multi.copy evHeaderSize dest.bytes prevSize) src

/-! ## Getting -/

/-- Bytes of `ev->value` that are read: an offset and their number. -/
abbrev Reads := List (Nat × Nat)

/-- How the loop of `srpc_evtool_value_get` ends. -/
inductive Walk where
  /-- With `return 0`. -/
  | refused
  /-- At the value that is asked for. -/
  | found (offset : Nat)
  /-- With the condition of the loop. -/
  | ended

/-- The loop; it is given how often it turns at most. -/
def walk (ev : TSuplaChannelExtendedValue) (index : UInt16) (size : Nat) :
    Nat → UInt16 → Nat → Option (Walk × Reads)
  | 0, _, _ => none
  | fuel + 1, n, offset =>
    if offset < size then
      let next := ev.value.drop offset
      if typeAt next = evTypeNone then some (.refused, [(offset, 1)])
      else
        let seen : Reads := [(offset, 1), (offset + 1, 4)]
        if sizeAt next = 0 ∨
            add32 (add32 (sizeAt next) offset) evHeaderSize > channelExtendedValueSize then
          some (.refused, seen)
        else if n = index then some (.found offset, seen)
        else
          (walk ev index size fuel (n + 1) (add32 offset (add32 evHeaderSize (sizeAt next)))).map
            fun r => (r.1, seen ++ r.2)
    else some (.ended, [])

structure GetResult where
  ok : Bool
  dest : TSuplaChannelExtendedValue
  reads : Reads

/-- `dest` is what the destination held before; `none` if the loop would not end. -/
def srpcEvtoolValueGet (ev : TSuplaChannelExtendedValue) (index : UInt16)
    (dest : TSuplaChannelExtendedValue) : Option GetResult :=
  if ev.type = evTypeNone then some ⟨false, dest, []⟩
  else if ev.type = evTypeMultiValue then
    let size := sub32 (min ev.size channelExtendedValueSize) evHeaderSize
    match walk ev index size (2 ^ 16) 0 0 with
    | none => none
    | some (.refused, reads) => some ⟨false, dest, reads⟩
    | some (.found offset, reads) =>
      let next := ev.value.drop offset
      let len := add32 evHeaderSize (sizeAt next)
      some ⟨true, dest.copy 0 next len, reads ++ [(offset, len)]⟩
    | some (.ended, reads) =>
      if index = 0 then some ⟨true, ev, reads ++ [(0, channelExtendedValueSize)]⟩
      else some ⟨false, dest, reads⟩
  else if index = 0 then some ⟨true, ev, [(0, channelExtendedValueSize)]⟩
  else some ⟨false, dest, []⟩

end Srpc
