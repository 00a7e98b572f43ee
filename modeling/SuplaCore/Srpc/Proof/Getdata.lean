import SuplaCore.Srpc.Getdata
import SuplaCore.Srpc.Proof.Pack

/-!
# What a decoded structure depends on

Two packets are the same if they agree on the header and the received data (`Same`); what lies
behind the data is left over from earlier packets. `decodePacket_same`: same packets are decoded to
the same structure, whatever uninitialised memory holds, unless a structure of variable size is
allocated with `malloc` and not filled (`Leaks`).
-/

namespace Srpc

open Bytes
open Proto hiding headerSize

/-- What was received is the same. -/
structure Same (p q : TSuplaDataPacket) : Prop where
  rrId : q.rrId = p.rrId
  callId : q.callId = p.callId
  dataSize : q.dataSize = p.dataSize
  data : q.data.take p.dataSize.toNat = p.data.take p.dataSize.toNat

theorem Same.refl (p : TSuplaDataPacket) : Same p p := ⟨rfl, rfl, rfl, rfl⟩

/-- `srpc_getdata` takes the packet out of the in queue: it is the oldest one that it asks for. -/
def Finds (srpc : Tsrpc) (rrId : UInt32) (p : TSuplaDataPacket) : Prop :=
  (srpcQueuePop .server srpc.inQueue srpc.sdp rrId).1 = .true ∧
    (srpcQueuePop .server srpc.inQueue srpc.sdp rrId).2.2 = p

/-- A structure that `malloc` has allocated is accepted with less than its size. -/
def Leaks (p : TSuplaDataPacket) : Prop :=
  ∃ c t, Call.ofId p.callId = some c ∧ c.decode = .sized t .malloc ∧ t.validSize p ∧
    p.dataSize.toNat < t.sizeof

/-! ## Reading within the data -/

section
variable {p q : TSuplaDataPacket} (h : Same p q)
include h

theorem Same.readLE {off w : Nat} (hfits : off + w ≤ p.dataSize.toNat) :
    readLE q.data off w = Bytes.readLE p.data off w := by
  rw [← readLE_take hfits, h.data, readLE_take hfits]

theorem Same.memcpy (block : List UInt8) :
    memcpy block 0 q.data q.dataSize.toNat = Bytes.memcpy block 0 p.data p.dataSize.toNat := by
  rw [h.dataSize, ← memcpy_take, h.data, memcpy_take]

end

/-! ## Structures of variable size -/

/-- A field lies within the header. -/
theorem field_end_le (header : List Nat) (i : Nat) :
    (header.take i).sum + header.getD i 0 ≤ header.sum := by
  induction header generalizing i with
  | nil => simp
  | cons n header ih =>
    cases i with
    | zero =>
      rw [List.take_zero, List.sum_nil, List.getD_cons_zero, List.sum_cons]
      omega
    | succ i =>
      have hrest := ih i
      rw [List.take_succ_cons, List.sum_cons, List.getD_cons_succ, List.sum_cons]
      omega

/-- A field that is received whole. -/
theorem VarStruct.field_take (t : VarStruct) {bs : List UInt8} {n : Nat} (hn : t.headerSize ≤ n)
    (i : Nat) : t.field (bs.take n) i = t.field bs i := by
  rw [VarStruct.field, VarStruct.field, readLE_take (Nat.le_trans (field_end_le t.header i) hn)]

theorem VarStruct.used_take (t : VarStruct) {bs : List UInt8} {n : Nat} (hn : t.headerSize ≤ n) :
    t.used (bs.take n) = t.used bs := by
  rw [VarStruct.used, VarStruct.used, funext (t.field_take hn)]

theorem Same.used {p q : TSuplaDataPacket} (h : Same p q) {t : VarStruct}
    (hsize : t.headerSize ≤ p.dataSize.toNat) : t.used q.data = t.used p.data := by
  rw [← t.used_take hsize, h.data, t.used_take hsize]

theorem VarStruct.validSize.header {t : VarStruct} {p : TSuplaDataPacket} (h : t.validSize p) :
    t.headerSize ≤ p.dataSize.toNat := by
  have hle := h.2.1
  rw [VarStruct.sizeof, Nat.add_sub_cancel] at hle
  exact hle

/-- `VALID_SIZE` reads the number of elements before it checks that it was received; what it says
of a longer packet is not used. -/
theorem Same.validSize {p q : TSuplaDataPacket} (h : Same p q) (t : VarStruct) :
    t.validSize q ↔ t.validSize p := by
  by_cases hheader : t.headerSize ≤ p.dataSize.toNat
  · rw [VarStruct.validSize, VarStruct.validSize, h.used hheader, h.dataSize]
  · refine iff_of_false (fun hvalid => hheader ?_) fun hvalid => hheader hvalid.header
    rw [← h.dataSize]
    exact hvalid.header

/-! ## Blocks -/

theorem alloc_calloc {h₁ h₂ : Heap} (hok : h₁.ok = h₂.ok) (n : Nat) :
    h₁.alloc .calloc n = h₂.alloc .calloc n := by
  rw [Heap.alloc, Heap.alloc, hok]

/-- The structures that `srpc_getdata` expects fit in a packet. -/
def Decode.fits : Decode → Bool
  | .exact fields _ => fields.sum ≤ suplaMaxDataSize
  | .sized t _ => t.sizeof ≤ suplaMaxDataSize
  | _ => true

theorem Call.decode_fits (c : Call) : c.decode.fits = true := by cases c <;> rfl

/-- A block that is filled to its end holds what was received. -/
theorem fill_whole {p : TSuplaDataPacket} {n : Nat} (hn : p.dataSize.toNat = n)
    (hmax : n ≤ suplaMaxDataSize) {block : List UInt8} (hlen : block.length = n) :
    memcpy block 0 p.data p.dataSize.toNat = p.data.take n := by
  rw [memcpy, hn, p.data_length, Nat.min_eq_left hmax, List.take_zero, List.nil_append,
    Nat.zero_add, ← hlen, List.drop_length, List.append_nil]

theorem alloc_ok {h : Heap} (hok : h.ok = true) (a : Alloc) (n : Nat) :
    ∃ block, h.alloc a n = some block ∧ block.length = n := by
  refine ⟨_, if_pos hok, ?_⟩
  cases a with
  | calloc => exact List.length_replicate
  | malloc => exact (List.length_map _).trans List.length_range

section
variable {p q : TSuplaDataPacket} (h : Same p q) {h₁ h₂ : Heap} (hok₁ : h₁.ok = true)
  (hok₂ : h₂.ok = true)
include h hok₁ hok₂

theorem fillBlock_calloc (n : Nat) :
    fillBlock q (h₂.alloc .calloc n) = fillBlock p (h₁.alloc .calloc n) := by
  obtain ⟨block, hblock, -⟩ := alloc_ok hok₁ .calloc n
  rw [alloc_calloc (hok₂.trans hok₁.symm), hblock, fillBlock, fillBlock, h.memcpy]

/-- How a block was allocated does not matter if it is filled. -/
theorem fillBlock_whole {a : Alloc} {n : Nat} (hn : p.dataSize.toNat = n)
    (hmax : n ≤ suplaMaxDataSize) :
    fillBlock q (h₂.alloc a n) = fillBlock p (h₁.alloc a n) := by
  obtain ⟨block₁, hblock₁, hlen₁⟩ := alloc_ok hok₁ a n
  obtain ⟨block₂, hblock₂, hlen₂⟩ := alloc_ok hok₂ a n
  rw [hblock₁, hblock₂, fillBlock, fillBlock, h.memcpy, fill_whole hn hmax hlen₁,
    fill_whole hn hmax hlen₂]

/-! ## The switch -/

theorem getpack_same {spec : PackSpec} (hp : spec.Captioned) :
    spec.srpcGetpack h₂ q = spec.srpcGetpack h₁ p := by
  by_cases hsize : p.dataSize.toNat ≤ suplaMaxDataSize
  · rw [getpack_spec hp h₁ hsize, getpack_spec hp h₂ (h.dataSize ▸ hsize), h.dataSize, hok₁, hok₂]
    by_cases hheader : PackSpec.headerSize ≤ p.dataSize.toNat
    · have height : 8 ≤ p.dataSize.toNat := hheader
      have hcount : PackSpec.getCount q.data = PackSpec.getCount p.data := by
        rw [PackSpec.getCount, PackSpec.getCount, h.readLE (by omega)]
      have hrest : restAt q PackSpec.headerSize = restAt p PackSpec.headerSize := by
        rw [restAt, restAt, h.dataSize, h.data]
      have htotal : (q.data.drop 4).take 4 = (p.data.drop 4).take 4 := by
        have htake : (q.data.take 8).drop 4 = (p.data.take 8).drop 4 := by
          rw [← Nat.min_eq_left height, ← List.take_take, h.data, List.take_take]
        rw [List.drop_take, List.drop_take] at htake
        exact htake
      rw [hcount, hrest, htotal]
    · rw [if_neg fun hall => hheader hall.1.1, if_neg fun hall => hheader hall.1.1]
  · have hlarge : p.dataSize.toNat > spec.sizeof := by
      have hfits := hp.fits
      omega
    rw [PackSpec.srpcGetpack, PackSpec.srpcGetpack, h.dataSize, if_pos (.inr hlarge),
      if_pos (.inr hlarge)]

theorem decodeCall_same {c : Call} (hleaks : ∀ t, c.decode = .sized t .malloc → t.validSize p →
    t.sizeof ≤ p.dataSize.toNat) : decodeCall h₂ q c.decode = decodeCall h₁ p c.decode := by
  have hfits := c.decode_fits
  cases hdecode : c.decode with
  | noData => rfl
  | exact fields a =>
    rw [hdecode] at hfits
    rw [decodeCall, decodeCall, h.dataSize]
    split
    · rename_i hsize
      exact fillBlock_whole h hok₁ hok₂ hsize (of_decide_eq_true hfits)
    · rfl
  | sized t a =>
    rw [hdecode] at hfits
    rw [decodeCall, decodeCall]
    simp only [h.validSize]
    split
    · rename_i hvalid
      cases a with
      | calloc => exact fillBlock_calloc h hok₁ hok₂ _
      | malloc =>
        have hsize : p.dataSize.toNat = t.sizeof :=
          Nat.le_antisymm hvalid.2.2.1 (hleaks t hdecode hvalid)
        exact fillBlock_whole h hok₁ hok₂ hsize (of_decide_eq_true hfits)
    · rfl
  | ping =>
    rw [decodeCall, decodeCall, h.dataSize]
    split
    · exact fillBlock_calloc h hok₁ hok₂ _
    · split
      · rename_i hsize
        have hwiden : widenPing q.data = widenPing p.data := by
          rw [widenPing, widenPing, h.readLE (by omega), h.readLE (by omega)]
        rw [alloc_calloc (hok₂.trans hok₁.symm), hwiden]
      · rfl
  | firmwareUrl =>
    rw [decodeCall, decodeCall, h.dataSize]
    split
    · exact fillBlock_calloc h hok₁ hok₂ _
    · rfl
  | pack spec =>
    obtain ⟨t, -, rfl⟩ := PackType.of_decode hdecode
    rw [decodeCall, decodeCall, getpack_same h hok₁ hok₂ t.captioned]

theorem decodePacket_same (hleaks : ¬ Leaks p) : decodePacket h₂ q = decodePacket h₁ p := by
  rw [decodePacket, decodePacket, h.callId]
  cases hcall : Call.ofId p.callId with
  | none => rfl
  | some c =>
    refine decodeCall_same h hok₁ hok₂ fun t hdecode hvalid => ?_
    exact Nat.le_of_not_lt fun hlt => hleaks ⟨c, t, hcall, hdecode, hvalid, hlt⟩

end

/-! ## `srpc_getdata` -/

/-- The packet that is found is decoded. -/
theorem getdata_found {srpc : Tsrpc} {rrId : UInt32} {p : TSuplaDataPacket}
    (h : Finds srpc rrId p) (heap : Heap) :
    (srpcGetdata heap srpc rrId).1 = (decodePacket heap p).1 ∧
      (srpcGetdata heap srpc rrId).2.1 = ⟨p.callId, p.rrId, (decodePacket heap p).2⟩ := by
  simp [srpcGetdata, h.1, h.2]

/-- Two calls of `srpc_getdata` say the same. -/
structure Agree (r₁ r₂ : SuplaResult × TsrpcReceivedData × Tsrpc) : Prop where
  result : r₁.1 = r₂.1
  data : r₁.1 = .true → r₁.2.1.data = r₂.2.1.data

/-- A connection that has received one packet. -/
def received (p : TSuplaDataPacket) : Tsrpc :=
  { srpcInit with inQueue := ⟨1, 1, some ⟨0, p⟩ :: List.replicate 9 none⟩ }

theorem finds_received (p : TSuplaDataPacket) : Finds (received p) p.rrId p := by
  have hpop : srpcQueuePop .server (received p).inQueue (received p).sdp p.rrId =
      (.true, srpcQueueTake .server (received p).inQueue 0, p) := by
    have hmatches : rrIdMatches p.rrId (some ⟨0, p⟩) = true := by
      rw [rrIdMatches, Option.any_some, beq_self_eq_true, Bool.or_true]
    have hfind : ((received p).inQueue.item.take (received p).inQueue.itemCount).findIdx?
        (rrIdMatches p.rrId) = some 0 := by
      show [some ⟨0, p⟩].findIdx? (rrIdMatches p.rrId) = some 0
      rw [List.findIdx?_cons, if_pos hmatches]
    rw [srpcQueuePop, hfind]
    rfl
  rw [Finds, hpop]
  exact ⟨rfl, rfl⟩

/-- Memory that is all the same byte. -/
def junkOf (b : UInt8) : Heap := ⟨true, fun _ => b⟩

/-- The end of a structure that is not filled is what `malloc` has left there. -/
theorem tail_junk {p : TSuplaDataPacket} {c : Call} {t : VarStruct}
    (hcall : Call.ofId p.callId = some c) (hdecode : c.decode = .sized t .malloc)
    (hvalid : t.validSize p) (hlt : p.dataSize.toNat < t.sizeof) (b : UInt8) :
    ∃ block, decodePacket (junkOf b) p = (.true, some block) ∧ block.getLast? = some b := by
  refine ⟨memcpy ((List.range t.sizeof).map fun _ => b) 0 p.data p.dataSize.toNat, ?_, ?_⟩
  · rw [decodePacket, hcall]
    show decodeCall (junkOf b) p c.decode = _
    rw [hdecode, decodeCall, if_pos hvalid]
    rfl
  · obtain ⟨n, hn⟩ : ∃ n, t.sizeof - (0 + min p.dataSize.toNat p.data.length) = n + 1 :=
      ⟨t.sizeof - (0 + min p.dataSize.toNat p.data.length) - 1, by omega⟩
    rw [memcpy, List.map_const', List.length_range, List.drop_replicate, hn,
      List.replicate_succ', ← List.append_assoc, List.getLast?_concat]

/-- Two heaps with which the same connection decodes the packet differently. -/
theorem Leaks.not_agree {p : TSuplaDataPacket} (h : Leaks p) :
    ¬ Agree (srpcGetdata (junkOf 0) (received p) p.rrId)
      (srpcGetdata (junkOf 1) (received p) p.rrId) := by
  obtain ⟨c, t, hcall, hdecode, hvalid, hlt⟩ := h
  intro hagree
  obtain ⟨block₀, hblock₀, hlast₀⟩ := tail_junk hcall hdecode hvalid hlt 0
  obtain ⟨block₁, hblock₁, hlast₁⟩ := tail_junk hcall hdecode hvalid hlt 1
  obtain ⟨hresult₀, hdata₀⟩ := getdata_found (finds_received p) (junkOf 0)
  obtain ⟨-, hdata₁⟩ := getdata_found (finds_received p) (junkOf 1)
  have hdata := hagree.data (by rw [hresult₀, hblock₀])
  rw [hdata₀, hdata₁, hblock₀, hblock₁] at hdata
  rw [Option.some.inj hdata, hlast₁] at hlast₀
  cases hlast₀

/-- **Decoding is a function of the packet** unless it leaves the end of a structure as `malloc`
returned it. -/
theorem getdata_agrees_iff (p : TSuplaDataPacket) :
    (∀ (h₁ h₂ : Heap) (s₁ s₂ : Tsrpc) (rrId : UInt32) (p₁ p₂ : TSuplaDataPacket),
      h₁.ok = true → h₂.ok = true → Same p p₁ → Same p p₂ → Finds s₁ rrId p₁ → Finds s₂ rrId p₂ →
        Agree (srpcGetdata h₁ s₁ rrId) (srpcGetdata h₂ s₂ rrId)) ↔ ¬ Leaks p := by
  constructor
  · intro hagree hleaks
    exact hleaks.not_agree (hagree _ _ _ _ _ p p rfl rfl (.refl p) (.refl p) (finds_received p)
      (finds_received p))
  · intro hleaks h₁ h₂ s₁ s₂ rrId p₁ p₂ hok₁ hok₂ hsame₁ hsame₂ hfinds₁ hfinds₂
    have hdecode₁ := decodePacket_same hsame₁ hok₁ hok₁ hleaks
    have hdecode₂ := decodePacket_same hsame₂ hok₁ hok₂ hleaks
    obtain ⟨hresult₁, hdata₁⟩ := getdata_found hfinds₁ h₁
    obtain ⟨hresult₂, hdata₂⟩ := getdata_found hfinds₂ h₂
    constructor
    · rw [hresult₁, hresult₂, hdecode₁, hdecode₂]
    · intro _
      rw [hdata₁, hdata₂, hdecode₁, hdecode₂]

/-- The calls whose structures of variable size are allocated with `malloc`. -/
theorem malloc_calls (c : Call) : (∃ t, c.decode = .sized t .malloc) ↔
    c ∈ [Call.dsSetChannelConfig, .sdSetChannelConfig, .dsSetDeviceConfig, .sdSetDeviceConfig,
      .csSetChannelConfig, .scDeviceConfigUpdateOrResult] := by
  cases c <;> first
    | exact iff_of_true ⟨_, rfl⟩ (by decide)
    | exact iff_of_false (fun ⟨t, ht⟩ => by cases ht) (by decide)

/-- A channel configuration without content. -/
def emptyConfig : TSuplaDataPacket :=
  { TSuplaDataPacket.zero with
    tag := sprotoTag, version := 28, rrId := 1, callId := Call.dsSetChannelConfig.id, dataSize := 8,
    tag_length := length_sprotoTag }

/-- Its structure has room for a configuration, which is not written. -/
theorem config_unwritten : (srpcGetdata (junkOf 0) (received emptyConfig) 1).1 = .true ∧
    ¬ Agree (srpcGetdata (junkOf 0) (received emptyConfig) 1)
      (srpcGetdata (junkOf 1) (received emptyConfig) 1) := by
  have hcall : Call.ofId emptyConfig.callId = some .dsSetChannelConfig :=
    Call.ofId_id .dsSetChannelConfig
  have hvalid : VarStruct.tsdsSetChannelConfig.validSize emptyConfig := by decide
  have hlt : emptyConfig.dataSize.toNat < VarStruct.tsdsSetChannelConfig.sizeof := by decide
  constructor
  · obtain ⟨block, hblock, -⟩ := tail_junk hcall rfl hvalid hlt 0
    exact (getdata_found (finds_received emptyConfig) (junkOf 0)).1.trans
      (congrArg Prod.fst hblock)
  · exact Leaks.not_agree ⟨_, _, hcall, rfl, hvalid, hlt⟩

end Srpc
