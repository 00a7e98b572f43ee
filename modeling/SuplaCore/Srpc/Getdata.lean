import SuplaCore.Srpc.Message
import SuplaCore.Srpc.Srpc

/-!
# Decoding (`srpc_getdata`, `srpc_getpack`)

A received structure is the block `rd->data` points to. What `malloc` returns holds anything
(`Heap.junk`), what `calloc` returns is zero.
-/

namespace Srpc

open Bytes Proto

structure Heap where
  /-- The allocation succeeds. -/
  ok : Bool
  /-- The content of uninitialised memory. -/
  junk : Nat → UInt8

def Heap.alloc (h : Heap) (a : Alloc) (n : Nat) : Option (List UInt8) :=
  if h.ok then
    some (match a with
      | .calloc => List.replicate n 0
      | .malloc => (List.range n).map h.junk)
  else none

/-- A 32-bit number as `_supla_int_t`. -/
def toInt32 (n : Nat) : Int := if n < 2 ^ 31 then n else n - 2 ^ 32

/-! ## `VALID_SIZE` -/

namespace VarStruct

/-- Field `i` of the structure at the start of a block. -/
def field (t : VarStruct) (bs : List UInt8) (i : Nat) : Int :=
  let n := readLE bs (t.header.take i).sum (t.header.getD i 0)
  if t.signed then toInt32 n else n

/-- The number of elements in use, as the structure says. -/
def used (t : VarStruct) (bs : List UInt8) : Int := (t.count.map (t.field bs)).sum

/-- `VALID_SIZE`; the product is computed with `size_t`. -/
def validSize (t : VarStruct) (sdp : TSuplaDataPacket) : Prop :=
  t.used sdp.data ≤ t.max ∧ t.sizeof - t.item * t.max ≤ sdp.dataSize.toNat ∧
    sdp.dataSize.toNat ≤ t.sizeof ∧
    (t.used sdp.data * t.item) % 2 ^ 64 = (sdp.dataSize.toNat : Int) - t.headerSize

instance (t : VarStruct) (sdp : TSuplaDataPacket) : Decidable (t.validSize sdp) :=
  inferInstanceAs (Decidable (_ ∧ _ ∧ _ ∧ _))

end VarStruct

/-! ## `srpc_getpack` -/

namespace PackSpec

/-- `count` and `total_left`. -/
def headerSize : Nat := 8

def sizeof (p : PackSpec) : Nat := headerSize + p.record.sizeof * p.maxCount

def getCount (pack : List UInt8) : Int := toInt32 (readLE pack 0 4)

def setCount (pack : List UInt8) (count : Int) : List UInt8 :=
  memcpy pack 0 (toLE 4 (count % 2 ^ 32).toNat) 4

/-- The caption size of the item at the start of a block, read as `_supla_int_t`. -/
def captionSize (p : PackSpec) (item : List UInt8) : Int :=
  toInt32 (readLE item (p.record.headerSize - p.record.header.getLastD 0)
    (p.record.header.getLastD 0))

/-- The loop over the items `a`, `a + 1`, …: `n` of them are left, `offset` bytes of the data are
used up. -/
def items (p : PackSpec) (sdp : TSuplaDataPacket) :
    Nat → Nat → Nat → List UInt8 → List UInt8
  | 0, _, _, pack => pack
  | n + 1, a, offset, pack =>
    let left := sub32 sdp.dataSize.toNat offset
    if left ≥ p.record.headerSize then
      let size := p.captionSize (sdp.data.drop offset)
      if 0 ≤ size ∧ size ≤ p.record.max ∧ left ≥ p.record.headerSize + size.toNat then
        let len := p.record.headerSize + size.toNat
        let pack := memcpy pack (headerSize + p.record.sizeof * a) (sdp.data.drop offset) len
        p.items sdp n (a + 1) (offset + len) (setCount pack (getCount pack + 1))
      else pack
    else p.items sdp n (a + 1) offset pack

/-- The block with the decoded pack, if it is accepted. -/
def srpcGetpack (h : Heap) (p : PackSpec) (sdp : TSuplaDataPacket) : Option (List UInt8) :=
  if sdp.dataSize.toNat < headerSize ∨ sdp.dataSize.toNat > p.sizeof then none
  else
    let count := getCount sdp.data
    if count < 0 ∨ count > p.maxCount then none
    else
      -- `malloc` and `memset`
      match h.alloc .calloc (headerSize + p.record.sizeof * count.toNat) with
      | none => none
      | some pack =>
        let pack := setCount (memcpy pack 0 sdp.data headerSize) 0
        let pack := p.items sdp count.toNat 0 headerSize pack
        if count = getCount pack then some pack else none

end PackSpec

/-! ## `srpc_getdata` -/

structure TsrpcReceivedData where
  callId : UInt32
  rrId : UInt32
  /-- The block `data` points to, if any. -/
  data : Option (List UInt8)

/-- `memcpy(rd->data.dcs_ping, srpc->sdp.data, srpc->sdp.data_size)` and the result code. -/
def fillBlock (sdp : TSuplaDataPacket) (block : Option (List UInt8)) :
    SuplaResult × Option (List UInt8) :=
  match block with
  | some b => (.true, some (memcpy b 0 sdp.data sdp.dataSize.toNat))
  | none => (.dataError, none)

/-- The two 32-bit times of the older ping, widened. -/
def widenPing (data : List UInt8) : List UInt8 :=
  let widen := fun n => toLE 8 (toInt32 n % 2 ^ 64).toNat
  widen (readLE data 0 4) ++ widen (readLE data 4 4)

/-- The switch of `srpc_getdata` and what follows it: the result code and the block. -/
def decodeCall (h : Heap) (sdp : TSuplaDataPacket) (d : Decode) :
    SuplaResult × Option (List UInt8) :=
  match d with
  | .noData => (.true, none)
  | .exact fields a =>
    if sdp.dataSize.toNat = fields.sum then fillBlock sdp (h.alloc a fields.sum)
    else (.dataError, none)
  | .sized t a =>
    if t.validSize sdp then fillBlock sdp (h.alloc a t.sizeof) else (.dataError, none)
  | .ping =>
    if sdp.dataSize.toNat = 16 then fillBlock sdp (h.alloc .calloc 16)
    else if sdp.dataSize.toNat = 8 then
      match h.alloc .calloc 16 with
      | some _ => (.true, some (widenPing sdp.data))
      | none => (.dataError, none)
    else (.dataError, none)
  | .firmwareUrl =>
    -- `TSD_FirmwareUpdate_UrlResult`: exists, available protocols, host, port, path
    if sdp.dataSize.toNat = 208 ∨ sdp.dataSize.toNat = 1 then
      fillBlock sdp (h.alloc .calloc 208)
    else (.dataError, none)
  | .pack p =>
    match p.srpcGetpack h sdp with
    | some block => (.true, some block)
    | none => (.dataError, none)

def decodePacket (h : Heap) (sdp : TSuplaDataPacket) : SuplaResult × Option (List UInt8) :=
  match Call.ofId sdp.callId with
  | some c => decodeCall h sdp c.decode
  | none => (.dataError, none)

/-- Where no packet is found only `rd->call_id` is written. After a pack `srpc->sdp.data_size` is
zero. -/
def srpcGetdata (h : Heap) (srpc : Tsrpc) (rrId : UInt32) :
    SuplaResult × TsrpcReceivedData × Tsrpc :=
  let q := srpcQueuePop .server srpc.inQueue srpc.sdp rrId
  let srpc := { srpc with inQueue := q.2.1, sdp := q.2.2 }
  if q.1 = .true then
    let d := decodePacket h srpc.sdp
    let sdp := match (Call.ofId srpc.sdp.callId).map Call.decode with
      | some (.pack _) => if d.1 = .true then { srpc.sdp with dataSize := 0 } else srpc.sdp
      | _ => srpc.sdp
    (d.1, ⟨srpc.sdp.callId, srpc.sdp.rrId, d.2⟩, { srpc with sdp := sdp })
  else (.false, ⟨0, 0, none⟩, srpc)

end Srpc
