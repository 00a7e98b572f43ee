import SuplaCore.Lib.Framing
import SuplaCore.Proto.Proof.Buffer

/-!
# What `sproto_pop_in_sdp` takes from the stream

The decisions of `sproto_pop_in_sdp` as a function of the bytes in the input buffer (`look`): they
are stable under arrival of more bytes, so `look` is a framer (`framer`), and with the invariant
`InOk` of the input buffer the C function does what `look` says (`popInSdp_spec`).
-/

namespace Proto

open Bytes Framing

/-! ## The framer -/

/-- Size on the wire of the packet at the start of a buffer. -/
def frameSizeAt (xs : List UInt8) : Nat := headerSize + (dataSizeAt xs).toNat + suplaTagSize

/-- What the received bytes call for. -/
def look (xs : List UInt8) : Verdict PacketView SuplaResult :=
  if xs.length < suplaTagSize then .wait
  else if xs.take suplaTagSize ≠ sprotoTag then .fail .dataError
  else if xs.length < headerSize + suplaTagSize then .wait
  else if badVersion (versionAt xs) then .fail .versionError
  else if (dataSizeAt xs).toNat > suplaMaxDataSize then .fail .dataError
  else if xs.length < frameSizeAt xs then .wait
  else if (xs.drop (headerSize + (dataSizeAt xs).toNat)).take suplaTagSize ≠ sprotoTag then
    .fail .dataError
  else .take (viewAt xs) (frameSizeAt xs)

/-- The bytes are decided on: more of them change nothing. -/
theorem look_append {xs : List UInt8} (ys : List UInt8) (h : look xs ≠ .wait) :
    look (xs ++ ys) = look xs := by
  have hlen : (xs ++ ys).length = xs.length + ys.length := List.length_append
  unfold look at h ⊢
  by_cases h5 : xs.length < suplaTagSize
  · exact absurd (if_pos h5) h
  rw [if_neg h5] at h ⊢
  rw [if_neg (show ¬ (xs ++ ys).length < suplaTagSize by omega),
    List.take_append_of_le_length (show suplaTagSize ≤ xs.length by omega)]
  by_cases ht : xs.take suplaTagSize ≠ sprotoTag
  · rw [if_pos ht, if_pos ht]
  rw [if_neg ht] at h ⊢
  rw [if_neg ht]
  by_cases h23 : xs.length < headerSize + suplaTagSize
  · exact absurd (if_pos h23) h
  have hh : headerSize ≤ xs.length := by omega
  rw [if_neg h23] at h ⊢
  rw [if_neg (show ¬ (xs ++ ys).length < headerSize + suplaTagSize by omega),
    versionAt_append hh, frameSizeAt, dataSizeAt_append hh, ← frameSizeAt]
  by_cases hv : badVersion (versionAt xs)
  · rw [if_pos hv, if_pos hv]
  rw [if_neg hv] at h ⊢
  rw [if_neg hv]
  by_cases hd : (dataSizeAt xs).toNat > suplaMaxDataSize
  · rw [if_pos hd, if_pos hd]
  rw [if_neg hd] at h ⊢
  rw [if_neg hd]
  by_cases hs : xs.length < frameSizeAt xs
  · exact absurd (if_pos hs) h
  have hs' : headerSize + (dataSizeAt xs).toNat + suplaTagSize ≤ xs.length := Nat.not_lt.1 hs
  rw [if_neg hs, if_neg (show ¬ (xs ++ ys).length < frameSizeAt xs by omega),
    List.drop_append_of_le_length (by omega),
    List.take_append_of_le_length (by rw [List.length_drop]; omega),
    viewAt_append hh (by omega)]

theorem look_take_bounds {xs : List UInt8} {p : PacketView} {n : Nat} (h : look xs = .take p n) :
    0 < n ∧ n ≤ xs.length := by
  unfold look at h
  split at h <;> try cases h
  split at h <;> try cases h
  split at h <;> try cases h
  split at h <;> try cases h
  split at h <;> try cases h
  split at h <;> try cases h
  split at h <;> try cases h
  refine ⟨?_, by omega⟩
  unfold frameSizeAt
  simp

/-- `sproto_pop_in_sdp` as a framer. -/
def framer : Framer UInt8 PacketView SuplaResult where
  look := look
  take_pos := look_take_bounds
  take_stable := fun {xs ys p n} h => (look_append ys (by rw [h]; nofun)).trans h
  fail_stable := fun {xs ys e} h => (look_append ys (by rw [h]; nofun)).trans h

@[simp] theorem framer_look (xs : List UInt8) : framer.look xs = look xs := rfl

theorem look_nil : look [] = .wait := rfl

theorem length_frame {sdp : TSuplaDataPacket} (hd : sdp.dataSize.toNat ≤ suplaMaxDataSize) :
    sdp.frame.length = headerSize + sdp.dataSize.toNat + suplaTagSize := by
  rw [TSuplaDataPacket.frame, List.length_append, List.length_append, sdp.length_header,
    List.length_take, sdp.data_length, Nat.min_eq_left hd]
  rfl

/-- **A framed packet is taken as it was framed.** -/
theorem look_frame {sdp : TSuplaDataPacket} (ht : sdp.tag = sprotoTag)
    (hv : ¬ badVersion sdp.version) (hd : sdp.dataSize.toNat ≤ suplaMaxDataSize) :
    look sdp.frame = .take sdp.view sdp.frame.length := by
  have hview : viewAt sdp.frame = sdp.view := viewAt_frame sdp sprotoTag hd
  have hver : versionAt sdp.frame = sdp.version := congrArg PacketView.version hview
  have hsize : dataSizeAt sdp.frame = sdp.dataSize := congrArg PacketView.dataSize hview
  have hpre : (sdp.header ++ sdp.data.take sdp.dataSize.toNat).length =
      headerSize + sdp.dataSize.toNat := by
    rw [List.length_append, sdp.length_header, List.length_take, sdp.data_length,
      Nat.min_eq_left hd]
  have hlen := length_frame hd
  have htag : sdp.frame.take suplaTagSize = sprotoTag := by
    rw [TSuplaDataPacket.frame, List.append_assoc, TSuplaDataPacket.header, ht]; rfl
  have hend : sdp.frame.drop (headerSize + sdp.dataSize.toNat) = sprotoTag := List.drop_left' hpre
  have htail :
      (sdp.frame.drop (headerSize + sdp.dataSize.toNat)).take suplaTagSize = sprotoTag := by
    rw [hend]
    rfl
  unfold look
  rw [frameSizeAt, hver, hsize, hview, if_neg (by omega), if_neg (not_not_intro htag),
    if_neg (by omega), if_neg hv, if_neg (by omega), if_neg (by omega),
    if_neg (not_not_intro htail), hlen]

/-! ## The C function -/

/-- The invariant of the input buffer: `begin_tag` is set only on data that starts with the
tag. -/
structure InOk (inb : TSuplaProtoInBuffer) : Prop where
  ok : inb.toTSuplaProtoOutBuffer.Ok
  tagged : inb.beginTag = true →
    suplaTagSize ≤ inb.dataSize ∧ inb.content.take suplaTagSize = sprotoTag

theorem inOk_init : InOk sprotoInit.inBuf := ⟨⟨rfl, Nat.le_refl 0, by decide⟩, nofun⟩

/-- What `sproto_pop_in_sdp` answers and leaves when the buffer held `xs` and the caller's packet
was `sdp`. -/
def PopSpec (xs : List UInt8) (sdp : TSuplaDataPacket) (res : SuplaResult)
    (inb' : TSuplaProtoInBuffer) (sdp' : TSuplaDataPacket) : Prop :=
  match look xs with
  | .wait => res = .false ∧ inb'.content = xs ∧ sdp' = sdp
  | .fail e => res = e ∧ inb'.content = []
  | .take p n => res = .true ∧ inb'.content = xs.drop n ∧ sdp'.view = p

theorem buffer_eq (inb : TSuplaProtoInBuffer) :
    inb.buffer = inb.content ++ inb.buffer.drop inb.dataSize :=
  (List.take_append_drop inb.dataSize inb.buffer).symm

section
variable {r : Realloc} {inb : TSuplaProtoInBuffer} {sdp : TSuplaDataPacket}
variable (hi : InOk inb)
include hi

theorem shrink_inOk {n : Nat} (hn : n ≤ inb.dataSize) :
    InOk (sprotoShrinkInBuffer r inb n) ∧
      (sprotoShrinkInBuffer r inb n).content = inb.content.drop n := by
  obtain ⟨h1, h2, h3⟩ := shrinkInBuffer_spec (r := r) hi.ok hn
  exact ⟨⟨h1, by rw [h3]; nofun⟩, h2⟩

/-- Throwing the whole input away. -/
theorem shrink_all : InOk (sprotoShrinkInBuffer r inb inb.dataSize) ∧
    (sprotoShrinkInBuffer r inb inb.dataSize).content = [] := by
  obtain ⟨h1, h2⟩ := shrink_inOk (r := r) hi (Nat.le_refl inb.dataSize)
  exact ⟨h1, h2.trans (List.drop_eq_nil_of_le (by rw [hi.ok.length_content]))⟩

theorem load_view (hs : (dataSizeAt inb.buffer).toNat ≤ suplaMaxDataSize)
    (hh : headerSize + (dataSizeAt inb.content).toNat ≤ inb.dataSize) :
    (sdp.load inb.buffer hs).view = viewAt inb.content := by
  have hl := hi.ok.length_content
  have hb := buffer_eq inb
  have hview : viewAt inb.buffer = viewAt inb.content := by
    rw [hb]; exact viewAt_append (by omega) (by omega)
  have hsize : dataSizeAt inb.buffer = dataSizeAt inb.content := by
    rw [hb]; exact dataSizeAt_append (by omega)
  have hdata := @take_memcpy sdp.data (inb.buffer.drop headerSize) 0
    (dataSizeAt inb.buffer).toNat
    (by rw [List.length_drop, hi.ok.block, hsize]; have := hi.ok.fits; omega) (Nat.zero_le _)
  rw [Nat.zero_add, List.take_zero, List.nil_append] at hdata
  rw [← hview]
  simp only [TSuplaDataPacket.view, TSuplaDataPacket.load, viewAt, hdata]

/-- The second half of `sproto_pop_in_sdp`, on data that starts with the tag. -/
theorem popInSdpTagged_spec (h5 : suplaTagSize ≤ inb.dataSize)
    (ht : inb.content.take suplaTagSize = sprotoTag) :
    InOk (popInSdpTagged r inb sdp).2.1 ∧
      PopSpec inb.content sdp (popInSdpTagged r inb sdp).1 (popInSdpTagged r inb sdp).2.1
        (popInSdpTagged r inb sdp).2.2 := by
  have hl := hi.ok.length_content
  have hf := hi.ok.fits
  have hsub : sub32 inb.dataSize suplaTagSize = inb.dataSize - suplaTagSize :=
    sub32_of_le h5 (by have := hi.ok.bound32; omega)
  obtain ⟨hall, hnil⟩ := shrink_all (r := r) hi
  unfold PopSpec look popInSdpTagged
  rw [if_neg (show ¬ inb.content.length < suplaTagSize by omega), if_neg (not_not.2 ht), hsub]
  by_cases h23 : inb.content.length < headerSize + suplaTagSize
  · rw [if_pos h23, if_neg (show ¬ inb.dataSize - suplaTagSize ≥ headerSize by omega)]
    exact ⟨hi, rfl, rfl, rfl⟩
  have hver : versionAt inb.buffer = versionAt inb.content := by
    rw [buffer_eq inb]; exact versionAt_append (by omega)
  have hsize : dataSizeAt inb.buffer = dataSizeAt inb.content := by
    rw [buffer_eq inb]; exact dataSizeAt_append (by omega)
  rw [if_neg h23, if_pos (show inb.dataSize - suplaTagSize ≥ headerSize by omega)]
  by_cases hv : badVersion (versionAt inb.content)
  · rw [if_pos hv, if_pos (by rw [hver]; exact hv)]
    exact ⟨hall, rfl, hnil⟩
  rw [if_neg hv, if_neg (show ¬ badVersion (versionAt inb.buffer) by rw [hver]; exact hv)]
  by_cases hd : (dataSizeAt inb.content).toNat > suplaMaxDataSize
  · rw [if_pos hd, dif_pos (by rw [hsize]; simpa using hd)]
    exact ⟨hall, rfl, hnil⟩
  rw [if_neg hd, dif_neg (by rw [hsize]; simpa using hd)]
  simp only [hsize]
  by_cases hs : inb.content.length < frameSizeAt inb.content
  · rw [if_pos hs, if_pos (by rw [frameSizeAt] at hs; omega)]
    exact ⟨hi, rfl, rfl, rfl⟩
  rw [if_neg hs]
  rw [frameSizeAt] at hs ⊢
  have hend : (inb.buffer.drop (headerSize + (dataSizeAt inb.content).toNat)).take suplaTagSize =
      (inb.content.drop (headerSize + (dataSizeAt inb.content).toNat)).take suplaTagSize := by
    conv_lhs => rw [buffer_eq inb]
    rw [List.drop_append_of_le_length (by omega),
      List.take_append_of_le_length (by rw [List.length_drop]; omega)]
  rw [if_neg (show ¬ headerSize + (dataSizeAt inb.content).toNat + suplaTagSize > inb.dataSize by
    omega), hend]
  by_cases he : (inb.content.drop (headerSize + (dataSizeAt inb.content).toNat)).take
      suplaTagSize ≠ sprotoTag
  · rw [if_pos he, if_pos (.inr he)]
    exact ⟨hall, rfl, hnil⟩
  have hne : ¬ (headerSize + (dataSizeAt inb.content).toNat ≥ inb.size ∨
      (inb.content.drop (headerSize + (dataSizeAt inb.content).toNat)).take suplaTagSize ≠
        sprotoTag) := by
    rintro (h | h)
    · simp only [suplaTagSize] at hs; omega
    · exact he h
  rw [if_neg he, if_neg hne]
  obtain ⟨h1, h2⟩ := shrink_inOk (r := r) hi
    (n := headerSize + (dataSizeAt inb.content).toNat + suplaTagSize) (by omega)
  exact ⟨h1, rfl, h2, load_view hi (by rw [hsize]; omega) (by omega)⟩

/-- **`sproto_pop_in_sdp` does what the received bytes call for.** -/
theorem popInSdp_spec : InOk (popInSdp r inb sdp).2.1 ∧
    PopSpec inb.content sdp (popInSdp r inb sdp).1 (popInSdp r inb sdp).2.1
      (popInSdp r inb sdp).2.2 := by
  have hl := hi.ok.length_content
  by_cases hnew : inb.beginTag = false ∧ inb.dataSize ≥ suplaTagSize
  · have htake : inb.buffer.take suplaTagSize = inb.content.take suplaTagSize := by
      rw [TSuplaProtoOutBuffer.content, List.take_take, Nat.min_eq_left hnew.2]
    by_cases ht : inb.content.take suplaTagSize = sprotoTag
    · rw [popInSdp, if_pos hnew, if_pos (htake.trans ht)]
      have htag : InOk { inb with beginTag := true } := ⟨hi.ok, fun _ => ⟨hnew.2, ht⟩⟩
      exact @popInSdpTagged_spec r _ sdp htag hnew.2 ht
    · rw [popInSdp, if_pos hnew, if_neg (by rw [htake]; exact ht)]
      obtain ⟨hall, hnil⟩ := shrink_all (r := r) hi
      refine ⟨hall, ?_⟩
      unfold PopSpec look
      rw [if_neg (by omega), if_pos ht]
      exact ⟨rfl, hnil⟩
  · by_cases hb : inb.beginTag = true
    · obtain ⟨h5, ht⟩ := hi.tagged hb
      rw [popInSdp, if_neg hnew, if_pos hb]
      exact popInSdpTagged_spec hi h5 ht
    · have h5 : inb.content.length < suplaTagSize := by
        rw [hl]
        exact Nat.not_le.1 fun h => hnew ⟨Bool.eq_false_iff.2 hb, h⟩
      rw [popInSdp, if_neg hnew, if_neg hb]
      refine ⟨hi, ?_⟩
      unfold PopSpec look
      rw [if_pos h5]
      exact ⟨rfl, rfl, rfl⟩

end

end Proto
