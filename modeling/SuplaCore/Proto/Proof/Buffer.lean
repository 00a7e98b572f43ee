import SuplaCore.Proto.Buffer

/-!
# The stream buffers as byte queues

`Ok b`: the block has the allocated size and holds the data. The bytes the buffer stands for
(`content`) behave as a queue: an append that returns `TRUE` adds its data at the end
(`append_true`), one that does not leaves them (`append_not_true`), and both ways of taking bytes
off the front drop a prefix (`popOutData_spec`, `shrinkInBuffer_spec`). With memory at hand an
append that stays below `BUFFER_MAX_SIZE` succeeds (`append_good`).
-/

namespace Proto

open Bytes

namespace TSuplaProtoOutBuffer

/-- The bytes the buffer stands for. -/
def content (b : TSuplaProtoOutBuffer) : List UInt8 := b.buffer.take b.dataSize

structure Ok (b : TSuplaProtoOutBuffer) : Prop where
  block : b.buffer.length = b.size
  fits : b.dataSize ≤ b.size
  bound : b.size < bufferMaxSize

variable {b : TSuplaProtoOutBuffer}

theorem Ok.length_content (h : b.Ok) : b.content.length = b.dataSize := by
  rw [content, List.length_take, h.block]
  exact Nat.min_eq_left h.fits

theorem Ok.bound32 (h : b.Ok) : b.size < 2 ^ 32 :=
  Nat.lt_of_lt_of_le h.bound (by decide)

end TSuplaProtoOutBuffer

open TSuplaProtoOutBuffer

/-! ## Appending -/

theorem appendSize_eq {b : TSuplaProtoOutBuffer} (h : b.Ok) {n : Nat} (hn : n < 2 ^ 31) :
    appendSize b n = max b.size (b.dataSize + n) := by
  have hf := h.fits
  have hb := h.bound
  simp only [bufferMaxSize] at hb
  have h1 : sub32 b.size b.dataSize = b.size - b.dataSize := sub32_of_le hf h.bound32
  unfold appendSize
  simp only [bufferMinSize, Nat.not_lt_zero, if_false, h1]
  split
  · rw [sub32_of_le (by omega) (by omega), add32_of_lt (by omega)]
    omega
  · omega

/-- **A successful append** adds its data at the end. -/
theorem append_true {r : Realloc} {b : TSuplaProtoOutBuffer} {data : List UInt8} {n : Nat}
    (h : b.Ok) (hn : n < 2 ^ 31) (hd : n ≤ data.length)
    (ha : (sprotoBufferAppend r b data n).1 = .true) :
    (sprotoBufferAppend r b data n).2.Ok ∧
      (sprotoBufferAppend r b data n).2.content = b.content ++ data.take n := by
  have hsize := appendSize_eq h hn
  have hf := h.fits
  have hbl := h.block
  have hbd := h.bound
  unfold sprotoBufferAppend at ha ⊢
  simp only [hsize] at ha ⊢
  split at ha
  · cases ha
  rename_i hmax
  rw [if_neg hmax]
  split at ha
  · cases ha
  rename_i hok
  rw [if_neg hok]
  split at ha
  · cases ha
  rename_i hno
  rw [if_neg hno, show add32 b.dataSize n = b.dataSize + n from
    add32_of_lt (by simp only [bufferMaxSize] at hbd; omega)]
  -- the block memcpy writes to, whether it was moved or not
  generalize hblk : (if max b.size (b.dataSize + n) ≠ b.size then
      r.block b.buffer (max b.size (b.dataSize + n)) else b.buffer) = blk
  have hlen : blk.length = max b.size (b.dataSize + n) := by
    subst hblk
    split
    · exact r.length_block _ _
    · omega
  have hpre : blk.take b.dataSize = b.buffer.take b.dataSize := by
    subst hblk
    split
    · exact r.take_block (by omega) (by omega)
    · rfl
  refine ⟨⟨?_, ?_, ?_⟩, ?_⟩
  · exact (length_memcpy data (by omega)).trans hlen
  · exact Nat.le_max_right _ _
  · exact Nat.lt_of_not_le hmax
  · rw [content, take_memcpy hd (by omega), hpre]
    rfl

/-- **A failed append** leaves the fields of the buffer and the block as they were. -/
theorem append_not_true {r : Realloc} {b : TSuplaProtoOutBuffer} {data : List UInt8} {n : Nat}
    (hr : (sprotoBufferAppend r b data n).1 ≠ .true) :
    (sprotoBufferAppend r b data n).2 = b ∨
      (sprotoBufferAppend r b data n).2 = { b with live := false } := by
  unfold sprotoBufferAppend at hr ⊢
  simp only at hr ⊢
  split at hr
  · rename_i h1; rw [if_pos h1]; exact .inl rfl
  rename_i h1
  rw [if_neg h1]
  split at hr
  · rename_i h2; rw [if_pos h2]; exact .inl rfl
  rename_i h2
  rw [if_neg h2]
  split at hr
  · rename_i h3; rw [if_pos h3]; exact .inr rfl
  · exact absurd rfl hr

/-- With memory at hand, an append that stays below `BUFFER_MAX_SIZE` succeeds. -/
theorem append_good {r : Realloc} {b : TSuplaProtoOutBuffer} {data : List UInt8} {n : Nat}
    (h : b.Ok) (hr : r.ok = true ∧ r.enomem = false) (hn : b.dataSize + n < bufferMaxSize) :
    (sprotoBufferAppend r b data n).1 = .true := by
  have hbd := h.bound
  have hsize := appendSize_eq h (n := n) (by simp at hn; omega)
  unfold sprotoBufferAppend
  simp only [hsize, hr.1, hr.2]
  rw [if_neg (by omega), if_neg (by simp), if_neg (by simp)]

/-! ## Taking bytes off the front -/

theorem shrinkBlock_spec {r : Realloc} {b : TSuplaProtoOutBuffer} (h : b.Ok) :
    (shrinkBlock r b).Ok ∧ (shrinkBlock r b).content = b.content := by
  have hf := h.fits
  have hbl := h.block
  have hbd := h.bound
  unfold shrinkBlock
  split
  · simp only [bufferMinSize, Nat.not_lt_zero, if_false]
    split
    · split
      · exact ⟨h, rfl⟩
      · refine ⟨⟨r.length_block _ _, Nat.le_refl _, Nat.lt_of_le_of_lt hf hbd⟩, ?_⟩
        exact r.take_block (Nat.le_refl _) (by rw [hbl]; exact hf)
    · omega
  · exact ⟨h, rfl⟩

theorem dropFront_spec {r : Realloc} {b : TSuplaProtoOutBuffer} (h : b.Ok) {n : Nat}
    (hn : n ≤ b.dataSize) :
    (dropFront r b n).Ok ∧ (dropFront r b n).content = b.content.drop n := by
  have hf := h.fits
  have hbl := h.block
  have hds : sub32 b.dataSize n = b.dataSize - n := sub32_of_le hn (by have := h.bound32; omega)
  unfold dropFront
  rw [hds]
  have h0 : Ok { b with buffer := shiftDown b.buffer n 0 (b.dataSize - n)
                        dataSize := b.dataSize - n } :=
    ⟨by simp [hbl], by simp only; omega, h.bound⟩
  obtain ⟨h1, h2⟩ := shrinkBlock_spec (r := r) h0
  exact ⟨h1, h2.trans (take_shiftDown hn (by omega))⟩

theorem popOutData_eq {r : Realloc} {spd : TSuplaProtoData} (h : spd.outBuf.Ok) {n : Nat}
    (h0 : spd.outBuf.dataSize ≠ 0) (hn : n ≠ 0) :
    sprotoPopOutData r spd n =
      (spd.outBuf.content.take n,
        { spd with outBuf := dropFront r spd.outBuf (min n spd.outBuf.dataSize) }) := by
  have hl := h.length_content
  have hsize : (if spd.outBuf.dataSize < n then spd.outBuf.dataSize else n) =
      min n spd.outBuf.dataSize := by
    split <;> omega
  unfold sprotoPopOutData
  rw [if_neg (by rintro (h | h) <;> contradiction), hsize, content, List.take_take]

/-- `sproto_pop_out_data` hands out the first bytes, at most as many as asked for. -/
theorem popOutData_spec (r : Realloc) {spd : TSuplaProtoData} (h : spd.outBuf.Ok) (n : Nat) :
    (sprotoPopOutData r spd n).1 = spd.outBuf.content.take n ∧
      (sprotoPopOutData r spd n).2.outBuf.Ok ∧
      (sprotoPopOutData r spd n).2.outBuf.content = spd.outBuf.content.drop n := by
  have hl := h.length_content
  by_cases h0 : spd.outBuf.dataSize = 0
  · have hnil : spd.outBuf.content = [] := List.length_eq_zero_iff.1 (hl.trans h0)
    rw [sprotoPopOutData, if_pos (.inl h0), hnil, List.take_nil, List.drop_nil]
    exact ⟨rfl, h, rfl⟩
  by_cases hn : n = 0
  · rw [sprotoPopOutData, if_pos (.inr hn), hn, List.take_zero, List.drop_zero]
    exact ⟨rfl, h, rfl⟩
  obtain ⟨h1, h2⟩ := dropFront_spec (r := r) h (Nat.min_le_right n spd.outBuf.dataSize)
  rw [popOutData_eq h h0 hn]
  refine ⟨rfl, h1, h2.trans ?_⟩
  rcases Nat.le_total n spd.outBuf.dataSize with hle | hle
  · rw [Nat.min_eq_left hle]
  · rw [Nat.min_eq_right hle, List.drop_eq_nil_of_le (by omega), List.drop_eq_nil_of_le (by omega)]

/-- Everything but the output buffer is left alone. -/
theorem popOutData_frame (r : Realloc) (spd : TSuplaProtoData) (n : Nat) :
    (sprotoPopOutData r spd n).2 = { spd with outBuf := (sprotoPopOutData r spd n).2.outBuf } := by
  unfold sprotoPopOutData
  simp only
  split <;> rfl

/-- `sproto_shrink_in_buffer` drops the first bytes and forgets that a tag was seen. -/
theorem shrinkInBuffer_spec {r : Realloc} {inb : TSuplaProtoInBuffer}
    (h : inb.toTSuplaProtoOutBuffer.Ok) {n : Nat} (hn : n ≤ inb.dataSize) :
    (sprotoShrinkInBuffer r inb n).toTSuplaProtoOutBuffer.Ok ∧
      (sprotoShrinkInBuffer r inb n).content = inb.content.drop n ∧
      (sprotoShrinkInBuffer r inb n).beginTag = false := by
  obtain ⟨h1, h2⟩ := dropFront_spec (r := r) h hn
  unfold sprotoShrinkInBuffer
  simp only
  rw [if_neg (show ¬ n > inb.dataSize by omega)]
  exact ⟨h1, h2, trivial⟩

end Proto
