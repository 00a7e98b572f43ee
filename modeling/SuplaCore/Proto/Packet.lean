import SuplaCore.Lib.Bytes

/-!
# Packets (`proto.h`, `proto.c`)

`TSuplaDataPacket` as the packed C structure, with the constants of the server build. The bytes of
a packet (`TSuplaDataPacket.bytes`) are the structure as it lies in memory, integers least
significant byte first; a packet travels as its header and the first `data_size` bytes of `data`,
closed by the tag (`TSuplaDataPacket.frame`). The rest of `data` is whatever the structure held
before, so what a packet says is its `view`.
-/

namespace Proto

open Bytes

/-! ## Constants -/

@[simp] def suplaTagSize : Nat := 5
@[simp] def suplaMaxDataSize : Nat := 10240
@[simp] def suplaProtoVersion : Nat := 28
@[simp] def suplaProtoVersionMin : Nat := 1
@[simp] def bufferMinSize : Nat := 0
@[simp] def bufferMaxSize : Nat := 131072
@[simp] def srpcBufferSize : Nat := 32768

/-- `sproto_tag`: the characters `SUPLA`. -/
def sprotoTag : List UInt8 := [0x53, 0x55, 0x50, 0x4C, 0x41]

@[simp] theorem length_sprotoTag : sprotoTag.length = 5 := rfl

/-- `SUPLA_RESULT_*` of the framing layer. -/
inductive SuplaResult where
  | dataTooLarge
  | bufferOverflow
  | dataError
  | versionError
  | false
  | true
deriving DecidableEq, Repr

/-! ## Unsigned 32-bit arithmetic -/

def add32 (a b : Nat) : Nat := (a + b) % 2 ^ 32
def sub32 (a b : Nat) : Nat := (2 ^ 32 - b + a) % 2 ^ 32

theorem add32_of_lt {a b : Nat} (h : a + b < 2 ^ 32) : add32 a b = a + b := Nat.mod_eq_of_lt h

theorem sub32_of_le {a b : Nat} (h : b ≤ a) (ha : a < 2 ^ 32) : sub32 a b = a - b := by
  unfold sub32; omega

/-! ## The packet -/

structure TSuplaDataPacket where
  tag : List UInt8
  version : UInt8
  rrId : UInt32
  callId : UInt32
  dataSize : UInt32
  data : List UInt8
  tag_length : tag.length = suplaTagSize
  data_length : data.length = suplaMaxDataSize

/-- `sizeof(TSuplaDataPacket) - SUPLA_MAX_DATA_SIZE`: tag, version, `rr_id`, `call_id`,
`data_size`. -/
@[simp] def headerSize : Nat := suplaTagSize + 1 + 4 + 4 + 4

/-- `sizeof(TSuplaDataPacket)`. -/
@[simp] def sizeofTSuplaDataPacket : Nat := headerSize + suplaMaxDataSize

namespace TSuplaDataPacket

/-- The header fields as they lie in memory. -/
def header (sdp : TSuplaDataPacket) : List UInt8 :=
  sdp.tag ++ sdp.version :: (toLE 4 sdp.rrId.toNat ++ (toLE 4 sdp.callId.toNat ++
    toLE 4 sdp.dataSize.toNat))

/-- The structure as it lies in memory. -/
def bytes (sdp : TSuplaDataPacket) : List UInt8 := sdp.header ++ sdp.data

/-- The packet on the wire: header, `data_size` bytes of data, closing tag. -/
def frame (sdp : TSuplaDataPacket) : List UInt8 :=
  sdp.header ++ sdp.data.take sdp.dataSize.toNat ++ sprotoTag

@[simp] theorem length_header (sdp : TSuplaDataPacket) : sdp.header.length = headerSize := by
  simp [header, sdp.tag_length]

/-- All fields zero (`memset`). -/
def zero : TSuplaDataPacket where
  tag := List.replicate suplaTagSize 0
  version := 0
  rrId := 0
  callId := 0
  dataSize := 0
  data := List.replicate suplaMaxDataSize 0
  tag_length := List.length_replicate
  data_length := List.length_replicate

end TSuplaDataPacket

/-- What a packet says: its header and the first `data_size` bytes of data. -/
structure PacketView where
  version : UInt8
  rrId : UInt32
  callId : UInt32
  dataSize : UInt32
  payload : List UInt8
deriving DecidableEq, Repr

def TSuplaDataPacket.view (sdp : TSuplaDataPacket) : PacketView :=
  ⟨sdp.version, sdp.rrId, sdp.callId, sdp.dataSize, sdp.data.take sdp.dataSize.toNat⟩

/-! ## Fields of a buffer read as a packet (`(TSuplaDataPacket *)buffer`) -/

def versionAt (b : List UInt8) : UInt8 := b.getD 5 0
def rrIdAt (b : List UInt8) : UInt32 := UInt32.ofNat (readLE b 6 4)
def callIdAt (b : List UInt8) : UInt32 := UInt32.ofNat (readLE b 10 4)
def dataSizeAt (b : List UInt8) : UInt32 := UInt32.ofNat (readLE b 14 4)

/-- The view of the packet at the start of a buffer. -/
def viewAt (b : List UInt8) : PacketView :=
  ⟨versionAt b, rrIdAt b, callIdAt b, dataSizeAt b,
    (b.drop headerSize).take (dataSizeAt b).toNat⟩

section
variable {xs ys : List UInt8} (h : headerSize ≤ xs.length)
include h

theorem versionAt_append : versionAt (xs ++ ys) = versionAt xs := by
  simp only [headerSize, suplaTagSize] at h
  simp [versionAt, List.getElem?_append_left (show 5 < xs.length by omega)]

theorem dataSizeAt_append : dataSizeAt (xs ++ ys) = dataSizeAt xs := by
  simp only [headerSize, suplaTagSize] at h
  rw [dataSizeAt, dataSizeAt, readLE_append (by omega)]

theorem viewAt_append (hd : headerSize + (dataSizeAt xs).toNat ≤ xs.length) :
    viewAt (xs ++ ys) = viewAt xs := by
  have hv := @versionAt_append xs ys h
  have hs := @dataSizeAt_append xs ys h
  unfold viewAt rrIdAt callIdAt
  simp only [headerSize, suplaTagSize] at h hd ⊢
  rw [hv, hs, readLE_append (by omega), readLE_append (by omega),
    List.drop_append_of_le_length (by omega), List.take_append_of_le_length (by simp; omega)]

end

/-- Reading the header back from its bytes. -/
theorem viewAt_frame (sdp : TSuplaDataPacket) (rest : List UInt8)
    (hd : sdp.dataSize.toNat ≤ suplaMaxDataSize) :
    viewAt (sdp.header ++ sdp.data.take sdp.dataSize.toNat ++ rest) = sdp.view := by
  obtain ⟨tag, version, rrId, callId, dataSize, data, ht, hl⟩ := sdp
  match tag, ht with
  | [t0, t1, t2, t3, t4], _ =>
    have h32 : ∀ x : UInt32, UInt32.ofNat (ofLE (toLE 4 x.toNat)) = x := by
      intro x
      rw [ofLE_toLE, Nat.mod_eq_of_lt (show x.toNat < 256 ^ 4 from x.toNat_lt), UInt32.ofNat_toNat]
    have hds : dataSizeAt (TSuplaDataPacket.header ⟨[t0, t1, t2, t3, t4], version, rrId, callId,
        dataSize, data, by rfl, hl⟩ ++ data.take dataSize.toNat ++ rest) = dataSize := by
      simpa [dataSizeAt, readLE, TSuplaDataPacket.header, toLE] using h32 dataSize
    unfold viewAt
    rw [hds]
    simp only [TSuplaDataPacket.view, PacketView.mk.injEq, true_and]
    refine ⟨?_, ?_, ?_, ?_⟩
    · simp [versionAt, TSuplaDataPacket.header]
    · simpa [rrIdAt, readLE, TSuplaDataPacket.header, toLE] using h32 rrId
    · simpa [callIdAt, readLE, TSuplaDataPacket.header, toLE] using h32 callId
    · rw [List.append_assoc, List.drop_left' (TSuplaDataPacket.length_header _),
        List.take_left' (by simp only [List.length_take, hl]; exact Nat.min_eq_left hd)]

end Proto
