import SuplaCore.Proto.Packet

/-!
# The stream buffers (`proto.c`)

`TSuplaProtoData` and the functions of `proto.c` on it. A buffer is its three C fields and the
block the pointer `buffer` designates, whose length is the allocated size. Every function that
calls `realloc` takes its answer as an argument (`Realloc`): success or failure, what `errno`
holds afterwards, and what the new bytes contain.
-/

namespace Proto

open Bytes

/-- The answer to one call of `realloc`. -/
structure Realloc where
  /-- A block was returned. -/
  ok : Bool
  /-- `errno == ENOMEM` after the call (it may stem from an earlier one). -/
  enomem : Bool
  /-- The content of the bytes the block did not have before. -/
  fresh : Nat → UInt8

/-- A `realloc` that succeeds and leaves no `ENOMEM`. -/
def Realloc.good : Realloc := ⟨true, false, fun _ => 0⟩

/-- The block after `realloc(block, n)`. -/
def Realloc.block (r : Realloc) (block : List UInt8) (n : Nat) : List UInt8 :=
  block.take n ++ (List.range (n - block.length)).map r.fresh

theorem Realloc.length_block (r : Realloc) (block : List UInt8) (n : Nat) :
    (r.block block n).length = n := by
  simp only [Realloc.block, List.length_append, List.length_take, List.length_map,
    List.length_range]
  omega

theorem Realloc.take_block (r : Realloc) {block : List UInt8} {n k : Nat} (hn : k ≤ n)
    (hk : k ≤ block.length) : (r.block block n).take k = block.take k := by
  rw [Realloc.block, List.take_append_of_le_length (by simp; omega), List.take_take,
    Nat.min_eq_left hn]

structure TSuplaProtoOutBuffer where
  size : Nat
  dataSize : Nat
  /-- The block allocated last for this buffer. -/
  buffer : List UInt8
  /-- The stored pointer designates that block. -/
  live : Bool

structure TSuplaProtoInBuffer extends TSuplaProtoOutBuffer where
  beginTag : Bool

structure TSuplaProtoData where
  nextRrId : UInt32
  version : UInt8
  inBuf : TSuplaProtoInBuffer
  outBuf : TSuplaProtoOutBuffer

def sprotoInit : TSuplaProtoData where
  nextRrId := 0
  version := UInt8.ofNat suplaProtoVersion
  inBuf := { size := 0, dataSize := 0, buffer := [], live := true, beginTag := false }
  outBuf := { size := 0, dataSize := 0, buffer := [], live := true }

/-! ## Appending -/

/-- The size `sproto_buffer_append` asks for. -/
def appendSize (b : TSuplaProtoOutBuffer) (dataSize : Nat) : Nat :=
  let size := if b.size < bufferMinSize then bufferMinSize else b.size
  if dataSize > sub32 size b.dataSize then add32 size (sub32 dataSize (sub32 size b.dataSize))
  else size

def sprotoBufferAppend (r : Realloc) (b : TSuplaProtoOutBuffer) (data : List UInt8)
    (dataSize : Nat) : SuplaResult × TSuplaProtoOutBuffer :=
  let size := appendSize b dataSize
  if size ≥ bufferMaxSize then (.bufferOverflow, b)
  else if size ≠ b.size ∧ size > 0 ∧ r.ok = false then (.false, b)
  else if size ≠ b.size ∧ r.enomem = true then
    -- `*buffer` keeps the pointer that `realloc` has just given back
    (.false, { b with live := false })
  else
    let buffer := if size ≠ b.size then r.block b.buffer size else b.buffer
    (.true, { b with size := size, dataSize := add32 b.dataSize dataSize,
                     buffer := memcpy buffer b.dataSize data dataSize })

def sprotoInBufferAppend (r : Realloc) (spd : TSuplaProtoData) (data : List UInt8) :
    SuplaResult × TSuplaProtoData :=
  let p := sprotoBufferAppend r spd.inBuf.toTSuplaProtoOutBuffer data data.length
  (p.1, { spd with inBuf := { spd.inBuf with toTSuplaProtoOutBuffer := p.2 } })

/-- The two `realloc`s are those of the two appends. -/
def sprotoOutBufferAppend (r₁ r₂ : Realloc) (spd : TSuplaProtoData) (sdp : TSuplaDataPacket) :
    SuplaResult × TSuplaProtoData :=
  let packetSize := add32 (sizeofTSuplaDataPacket - suplaMaxDataSize) sdp.dataSize.toNat
  if packetSize > sizeofTSuplaDataPacket then (.dataTooLarge, spd)
  else
    let p₁ := sprotoBufferAppend r₁ spd.outBuf sdp.bytes packetSize
    if p₁.1 = .true then
      let p₂ := sprotoBufferAppend r₂ p₁.2 sprotoTag suplaTagSize
      (p₂.1, { spd with outBuf := p₂.2 })
    else (.false, { spd with outBuf := p₁.2 })

/-! ## Taking bytes off the front -/

/-- Shrink the block to the data (at least `BUFFER_MIN_SIZE`), unless `realloc` fails. -/
def shrinkBlock (r : Realloc) (b : TSuplaProtoOutBuffer) : TSuplaProtoOutBuffer :=
  if b.dataSize < b.size then
    let size := if b.dataSize < bufferMinSize then bufferMinSize else b.dataSize
    if b.size ≠ size then
      if r.ok = false ∧ size > 0 then b
      else { b with size := size, buffer := r.block b.buffer size }
    else { b with size := size }
  else b

/-- Shift the data down by `n` bytes and shrink the block. -/
def dropFront (r : Realloc) (b : TSuplaProtoOutBuffer) (n : Nat) : TSuplaProtoOutBuffer :=
  shrinkBlock r { b with buffer := shiftDown b.buffer n 0 (b.dataSize - n)
                         dataSize := sub32 b.dataSize n }

/-- The bytes copied to `buffer` (their number is what the C function returns) and the new
state. -/
def sprotoPopOutData (r : Realloc) (spd : TSuplaProtoData) (bufferSize : Nat) :
    List UInt8 × TSuplaProtoData :=
  let out := spd.outBuf
  if out.dataSize = 0 ∨ bufferSize = 0 then ([], spd)
  else
    let n := if out.dataSize < bufferSize then out.dataSize else bufferSize
    (out.buffer.take n, { spd with outBuf := dropFront r out n })

def sprotoOutDataexists (spd : TSuplaProtoData) : Bool := 0 < spd.outBuf.dataSize

def sprotoInDataexists (spd : TSuplaProtoData) : Bool := 0 < spd.inBuf.dataSize

def sprotoShrinkInBuffer (r : Realloc) (inb : TSuplaProtoInBuffer) (size : Nat) :
    TSuplaProtoInBuffer :=
  let size := if size > inb.dataSize then inb.dataSize else size
  { toTSuplaProtoOutBuffer := dropFront r inb.toTSuplaProtoOutBuffer size, beginTag := false }

/-! ## Popping a packet -/

/-- `memcpy(sdp, buffer, header_size + data_size)`: the header and the data of the packet at the
start of `buffer`; the rest of `sdp->data` stays. -/
def TSuplaDataPacket.load (sdp : TSuplaDataPacket) (buffer : List UInt8)
    (hs : (dataSizeAt buffer).toNat ≤ suplaMaxDataSize) : TSuplaDataPacket where
  tag := (buffer.take suplaTagSize ++ sdp.tag).take suplaTagSize
  version := versionAt buffer
  rrId := rrIdAt buffer
  callId := callIdAt buffer
  dataSize := dataSizeAt buffer
  data := memcpy sdp.data 0 (buffer.drop headerSize) (dataSizeAt buffer).toNat
  tag_length := by simp [sdp.tag_length]
  data_length := by
    rw [length_memcpy _ (by rw [sdp.data_length]; omega)]
    exact sdp.data_length

/-- `version > SUPLA_PROTO_VERSION || version < SUPLA_PROTO_VERSION_MIN`. -/
def badVersion (v : UInt8) : Prop := v.toNat > suplaProtoVersion ∨ v.toNat < suplaProtoVersionMin

instance (v : UInt8) : Decidable (badVersion v) :=
  inferInstanceAs (Decidable (v.toNat > suplaProtoVersion ∨ v.toNat < suplaProtoVersionMin))

/-- The part of `sproto_pop_in_sdp` after the opening tag was seen. -/
def popInSdpTagged (r : Realloc) (inb : TSuplaProtoInBuffer) (sdp : TSuplaDataPacket) :
    SuplaResult × TSuplaProtoInBuffer × TSuplaDataPacket :=
  if sub32 inb.dataSize suplaTagSize ≥ headerSize then
    if badVersion (versionAt inb.buffer) then
      (.versionError, sprotoShrinkInBuffer r inb inb.dataSize,
        { sdp with version := versionAt inb.buffer })
    else if h : (dataSizeAt inb.buffer).toNat > sizeofTSuplaDataPacket - headerSize then
      (.dataError, sprotoShrinkInBuffer r inb inb.dataSize, sdp)
    else
      let packetSize := headerSize + (dataSizeAt inb.buffer).toNat
      if packetSize + suplaTagSize > inb.dataSize then (.false, inb, sdp)
      else if packetSize ≥ inb.size ∨
          (inb.buffer.drop packetSize).take suplaTagSize ≠ sprotoTag then
        (.dataError, sprotoShrinkInBuffer r inb inb.dataSize, sdp)
      else
        (.true, sprotoShrinkInBuffer r inb (packetSize + suplaTagSize),
          sdp.load inb.buffer (by simp at h; exact h))
  else (.false, inb, sdp)

/-- `sproto_pop_in_sdp` on `spd->in`. -/
def popInSdp (r : Realloc) (inb : TSuplaProtoInBuffer) (sdp : TSuplaDataPacket) :
    SuplaResult × TSuplaProtoInBuffer × TSuplaDataPacket :=
  if inb.beginTag = false ∧ inb.dataSize ≥ suplaTagSize then
    if inb.buffer.take suplaTagSize = sprotoTag then
      popInSdpTagged r { inb with beginTag := true } sdp
    else (.dataError, sprotoShrinkInBuffer r inb inb.dataSize, sdp)
  else if inb.beginTag = true then popInSdpTagged r inb sdp
  else (.false, inb, sdp)

def sprotoPopInSdp (r : Realloc) (spd : TSuplaProtoData) (sdp : TSuplaDataPacket) :
    SuplaResult × TSuplaProtoData × TSuplaDataPacket :=
  let p := popInSdp r spd.inBuf sdp
  (p.1, { spd with inBuf := p.2.1 }, p.2.2)

/-! ## Building a packet -/

def sprotoSetVersion (spd : TSuplaProtoData) (version : UInt8) : TSuplaProtoData :=
  if version.toNat ≥ suplaProtoVersionMin ∧ version.toNat ≤ suplaProtoVersion then
    { spd with version := version }
  else { spd with version := UInt8.ofNat suplaProtoVersion }

def sprotoGetVersion (spd : TSuplaProtoData) : UInt8 := spd.version

def sprotoSdpInit (spd : TSuplaProtoData) : TSuplaProtoData × TSuplaDataPacket :=
  let rrId := if spd.nextRrId + 1 = 0 then spd.nextRrId + 1 + 1 else spd.nextRrId + 1
  ({ spd with nextRrId := rrId },
    { TSuplaDataPacket.zero with
      tag := sprotoTag, version := spd.version, rrId := rrId, tag_length := rfl })

/-- `data` is `none` for a null pointer. -/
def sprotoSetData (sdp : TSuplaDataPacket) (data : Option (List UInt8)) (dataSize callId : UInt32) :
    SuplaResult × TSuplaDataPacket :=
  if h : dataSize.toNat > suplaMaxDataSize ∨ dataSize.toNat > 0 ∧ data = none then (.false, sdp)
  else
    (.true, { sdp with
      data := memcpy sdp.data 0 (data.getD []) dataSize.toNat
      dataSize := dataSize
      callId := callId
      data_length := by
        rw [length_memcpy _ (by rw [sdp.data_length]; omega)]
        exact sdp.data_length })

end Proto
