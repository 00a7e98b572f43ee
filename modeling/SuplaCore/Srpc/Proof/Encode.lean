import SuplaCore.Srpc.Encode
import SuplaCore.Srpc.Register
import SuplaCore.Srpc.Proof.Getdata
import SuplaCore.Srpc.Proof.Srpc

/-!
# Senders and `srpc_getdata`

Each sender computes the size of the message as `VALID_SIZE` expects it (`Agrees`). A structure
that is sent is decoded (`send_roundtrips`), unless its size field is so large that the size of the
message does not fit in 32 bits and the sender does not look at the field itself (`Wraps`).
-/

namespace Srpc

open Bytes
open Proto hiding headerSize

/-- The sender of a registration that can also be sent in chunks. -/
def RegisterDevice.encoder : RegisterDevice → Encoder
  | f => srpcDsAsyncRegisterdeviceF
  | g => srpcDsAsyncRegisterdeviceG

namespace Encoder

/-- What is sent is decoded: the numbers of elements are at most the declared ones, and the peer
that gets the packet has the structure as far as it was sent. -/
def RoundTrips (e : Encoder) (s : List UInt8) : Prop :=
  ∀ (m : Option Nat) (srpc : Tsrpc), (e.send s m srpc).1 ≠ 0 →
    (∀ c ∈ e.counts ++ e.others, e.struct.field s c.1 ≤ c.2) ∧
    (srpc.outQueue.Ok .server → (e.send s m srpc).2.outQueue.packets =
      srpc.outQueue.packets ++ [(e.send s m srpc).2.sdp]) ∧
    ∀ (h : Heap) (peer : Tsrpc) (rrId : UInt32) (sdp : TSuplaDataPacket),
      h.ok = true → Finds peer rrId sdp → sdp.view = (e.send s m srpc).2.sdp.view →
        (srpcGetdata h peer rrId).1 = .true ∧
        (srpcGetdata h peer rrId).2.1.callId = e.call.id ∧
        ∃ block, (srpcGetdata h peer rrId).2.1.data = some block ∧
          block.take sdp.dataSize.toNat = s.take sdp.dataSize.toNat

/-- The header and the elements that the structure says are in use have `2 ^ 32` bytes or more, and
the field is not checked. -/
def Wraps (e : Encoder) (s : List UInt8) : Prop :=
  e.least = none ∧ 2 ^ 32 ≤ (e.struct.headerSize : Int) + e.item * e.used s

/-! ## A sender and what the peer expects -/

/-- The size that is sent is the one that is expected. A sender that does not check the field has
one, unsigned, which counts less than `2 ^ 32` bytes. -/
structure Agrees (e : Encoder) : Prop where
  decode : ∃ a, e.call.decode = .sized e.struct a
  item : e.struct.item = e.item
  item_pos : 0 < e.item
  fields : e.struct.count = e.counts.map Prod.fst
  max : e.struct.max = (e.counts.map Prod.snd).sum
  unchecked : e.least = none → e.late = true ∧ e.struct.signed = false ∧ e.others = [] ∧
    ∃ i, e.counts = [(i, e.struct.max)] ∧ e.item * (256 ^ e.struct.header.getD i 0 - 1) < 2 ^ 32

theorem agrees_of_mem {e : Encoder} (he : e ∈ encoders) : e.Agrees := by
  revert e
  simp only [encoders, List.forall_mem_cons]
  and_intros
  all_goals first
    | exact ⟨⟨_, rfl⟩, rfl, by decide, rfl, rfl, fun _ => ⟨rfl, rfl, rfl, _, rfl, by decide⟩⟩
    | exact ⟨⟨_, rfl⟩, rfl, by decide, rfl, rfl, fun h => by cases h⟩
    | exact fun _ h => absurd h List.not_mem_nil

/-! ## The size of the message -/

/-- A 32-bit number that is compared, as a signed one, with a `size_t`. -/
theorem toInt32_le {n b : Nat} (hn : n < 2 ^ 32) (hb : b < 2 ^ 31) :
    toInt32 n % 2 ^ 64 ≤ b ↔ n ≤ b := by
  unfold toInt32
  split <;> omega

section
variable {e : Encoder} {s : List UInt8}

theorem size_lt : e.size s < 2 ^ 32 := by
  rw [size]
  omega

theorem size_eq (hnonneg : 0 ≤ e.fullSize s) (hlt : e.fullSize s < 2 ^ 32) :
    (e.size s : Int) = e.fullSize s := by
  rw [size]
  omega

variable (ha : e.Agrees)
include ha

theorem Agrees.sizeof_le : e.struct.sizeof ≤ suplaMaxDataSize := by
  obtain ⟨a, hdecode⟩ := ha.decode
  have hfits := e.call.decode_fits
  rw [hdecode] at hfits
  exact of_decide_eq_true hfits

/-- The header and as many elements as are declared. -/
theorem Agrees.sizeof_eq :
    (e.struct.sizeof : Int) = e.struct.headerSize + e.item * e.struct.max := by
  rw [VarStruct.sizeof, ha.item, Int.natCast_add, Int.natCast_mul]

theorem Agrees.sizeFits (hlate : e.late = true) : e.SizeFits s ↔ e.size s ≤ e.struct.sizeof := by
  have hsmall : e.struct.sizeof < 2 ^ 31 := Nat.lt_of_le_of_lt ha.sizeof_le (by decide)
  rw [SizeFits, ← toInt32_le size_lt hsmall]
  exact ⟨fun h => h hlate, fun h _ => h⟩

theorem Agrees.used_struct : e.struct.used s = e.used s := by
  rw [VarStruct.used, ha.fields, List.map_map]
  rfl

/-- The header and the elements in use. -/
theorem Agrees.fullSize_eq : e.fullSize s = e.struct.headerSize + e.item * e.used s := by
  rw [fullSize, VarStruct.sizeof, ha.item, ← ha.max]
  push_cast
  omega

/-- The fields of a sender that checks them are at most what is declared, and so is their sum. -/
theorem Agrees.used_checked {least : Nat} (hleast : e.least = some least)
    (hlimits : e.InLimits s) : (0 ≤ e.used s ∧ e.used s ≤ e.struct.max) ∧
      ∀ c ∈ e.counts ++ e.others, e.struct.field s c.1 ≤ c.2 := by
  have hfields := hlimits least hleast
  refine ⟨?_, fun c hc => (hfields c hc).2⟩
  have hcounts : ∀ c ∈ e.counts, (least : Int) ≤ e.struct.field s c.1 ∧
      e.struct.field s c.1 ≤ c.2 := fun c hc => hfields c (List.mem_append_left _ hc)
  rw [used, ha.max]
  generalize e.counts = counts at hcounts
  induction counts with
  | nil => exact ⟨Int.le_refl 0, Int.le_refl 0⟩
  | cons c counts ih =>
    obtain ⟨hc, hrest⟩ := List.forall_mem_cons.mp hcounts
    have hsum := ih hrest
    simp only [List.map_cons, List.sum_cons]
    omega

/-- The field of a sender that does not check it. -/
theorem Agrees.used_unchecked (hnone : e.least = none) : 0 ≤ e.used s ∧
    e.item * e.used s < 2 ^ 32 ∧
      ∃ i, e.counts ++ e.others = [(i, e.struct.max)] ∧ e.struct.field s i = e.used s := by
  obtain ⟨-, hunsigned, hothers, i, hcounts, hnarrow⟩ := ha.unchecked hnone
  have hused : e.used s = e.struct.field s i := by
    rw [used, hcounts, List.map_singleton, List.sum_singleton]
  have hfield : e.struct.field s i =
      (readLE s (e.struct.header.take i).sum (e.struct.header.getD i 0) : Nat) := by
    rw [VarStruct.field, hunsigned]
    rfl
  have hlt := readLE_lt s (e.struct.header.take i).sum (e.struct.header.getD i 0)
  have hbytes := Nat.mul_le_mul_left e.item (Nat.le_sub_one_of_lt hlt)
  refine ⟨?_, ?_, i, ?_, hused.symm⟩
  · rw [hused, hfield]
    exact Int.natCast_nonneg _
  · rw [hused, hfield]
    exact_mod_cast Nat.lt_of_le_of_lt hbytes hnarrow
  · rw [hothers, List.append_nil, hcounts]

/-- **What passes the checks** without a wrap has as many elements as are declared, and is sent up
to the last one. -/
theorem Agrees.checked (hlimits : e.InLimits s) (hsize : e.SizeFits s) (hwraps : ¬ e.Wraps s) :
    (∀ c ∈ e.counts ++ e.others, e.struct.field s c.1 ≤ c.2) ∧
      (0 ≤ e.used s ∧ e.used s ≤ e.struct.max) ∧
      (e.size s : Int) = e.struct.headerSize + e.item * e.used s ∧
      e.size s ≤ e.struct.sizeof := by
  have hsizeof := ha.sizeof_le
  rw [suplaMaxDataSize] at hsizeof
  have hmax := ha.sizeof_eq
  have hfull := ha.fullSize_eq (s := s)
  have hitem : (0 : Int) < e.item := Int.natCast_pos.mpr ha.item_pos
  cases hleast : e.least with
  | some least =>
    obtain ⟨⟨hnonneg, hle⟩, hcounts⟩ := ha.used_checked hleast hlimits
    have hbytes := Int.mul_nonneg hitem.le hnonneg
    have hbytesLe := Int.mul_le_mul_of_nonneg_left hle hitem.le
    have heq := size_eq (e := e) (s := s) (by omega) (by omega)
    exact ⟨hcounts, ⟨hnonneg, hle⟩, by omega, by omega⟩
  | none =>
    obtain ⟨hnonneg, -, i, hcounts, hfield⟩ := ha.used_unchecked (s := s) hleast
    have hbytes := Int.mul_nonneg hitem.le hnonneg
    have hfits := (ha.sizeFits (ha.unchecked hleast).1).mp hsize
    have hsmall := Int.not_le.mp fun hlarge => hwraps ⟨hleast, hlarge⟩
    have heq := size_eq (e := e) (s := s) (by omega) (by omega)
    have hle : e.used s ≤ e.struct.max := Int.le_of_mul_le_mul_left (by omega) hitem
    refine ⟨fun c hc => ?_, ⟨hnonneg, hle⟩, by omega, hfits⟩
    rw [hcounts, List.mem_singleton] at hc
    rw [hc, hfield]
    exact hle

end

/-! ## The packet -/

section
variable {e : Encoder} {s : List UInt8} {m : Option Nat} {srpc : Tsrpc}

variable (ha : e.Agrees)
include ha

/-- `VALID_SIZE` accepts what is sent without a wrap. -/
theorem Agrees.validSize (hlimits : e.InLimits s) (hsize : e.SizeFits s) (hwraps : ¬ e.Wraps s)
    {sdp : TSuplaDataPacket} (hdataSize : sdp.dataSize.toNat = e.size s)
    (hdata : sdp.data.take (e.size s) = s.take (e.size s)) : e.struct.validSize sdp := by
  obtain ⟨-, ⟨hnonneg, hle⟩, heq, hfits⟩ := ha.checked hlimits hsize hwraps
  have hsizeof := ha.sizeof_le
  rw [suplaMaxDataSize] at hsizeof
  have hbytes := Int.mul_nonneg (Int.natCast_nonneg e.item) hnonneg
  have hheader : e.struct.headerSize ≤ e.size s := by omega
  have hused : e.struct.used sdp.data = e.used s := by
    rw [← e.struct.used_take hheader, hdata, e.struct.used_take hheader, ha.used_struct]
  rw [VarStruct.validSize, hused, hdataSize, ha.item, Int.mul_comm]
  refine ⟨hle, ?_, hfits, ?_⟩
  · rw [VarStruct.sizeof, ha.item, Nat.add_sub_cancel]
    exact hheader
  · omega

end

/-- The registrations that can also be sent in chunks. -/
theorem registerdevice_eq_send (k : RegisterDevice) (m : Option Nat) (srpc : Tsrpc)
    (s : List UInt8) : srpcDsAsyncRegisterdevice k m srpc s = k.encoder.send s m srpc := by
  have hmem : k.encoder ∈ encoders := by cases k <;> simp [RegisterDevice.encoder, encoders]
  have ha := agrees_of_mem hmem
  have hstruct : k.encoder.struct = k.spec := by cases k <;> rfl
  have hcall : k.encoder.call = k.call := by cases k <;> rfl
  have hlate : k.encoder.late = true := by cases k <;> rfl
  have hnone : k.encoder.least = none := by cases k <;> rfl
  have hitem : k.encoder.item = k.spec.item := by cases k <;> rfl
  have hused : k.encoder.used s = readLE s 583 1 := by
    cases k <;> exact Int.add_zero _
  have hsmall : k.spec.sizeof + k.spec.item * 256 < 2 ^ 32 := by cases k <;> decide
  have hcount := Nat.mul_le_mul_left k.spec.item (readLE_lt s 583 1).le
  have hfull := ha.fullSize_eq (s := s)
  rw [hstruct, hitem, hused, ← Int.natCast_mul] at hfull
  have hsizeof : k.spec.sizeof = k.spec.headerSize + k.spec.item * k.spec.max := rfl
  have hsize : k.encoder.size s =
      k.spec.sizeof - k.spec.item * k.spec.max + k.spec.item * readLE s 583 1 := by
    have heq := size_eq (e := k.encoder) (s := s) (by omega) (by omega)
    omega
  have hlimits : k.encoder.InLimits s := fun least hleast => by
    rw [hnone] at hleast
    cases hleast
  have hfits := ha.sizeFits (s := s) hlate
  rw [hstruct, hsize] at hfits
  rw [srpcDsAsyncRegisterdevice, send, hsize, hcall]
  by_cases hlarge : k.spec.sizeof - k.spec.item * k.spec.max + k.spec.item * readLE s 583 1 >
      k.spec.sizeof
  · have hrejected : ¬ (k.encoder.InLimits s ∧ k.encoder.SizeFits s) := fun hchecks =>
      absurd (hfits.mp hchecks.2) (Nat.not_le_of_lt hlarge)
    rw [if_pos hlarge, if_neg hrejected]
  · have hchecks : k.encoder.InLimits s ∧ k.encoder.SizeFits s :=
      ⟨hlimits, hfits.mpr (Nat.le_of_not_lt hlarge)⟩
    rw [if_neg hlarge, if_pos hchecks]

end Encoder

end Srpc
