import SuplaCore.Lib.Bytes

/-!
# C strings

A block of bytes read as a C string: the bytes before its first zero (`text`). What lies behind the
zero may be anything.
-/

namespace CString

/-- The bytes before the first zero. -/
def text (s : List UInt8) : List UInt8 := s.takeWhile (· ≠ 0)

/-- `strnlen(s, n)`. -/
def strnlen (s : List UInt8) (n : Nat) : Nat := (text (s.take n)).length

/-- `strncmp(a, b, n) == 0`. -/
def strnEq : Nat → List UInt8 → List UInt8 → Bool
  | 0, _, _ => true
  | n + 1, a, b =>
    decide (a.headD 0 = b.headD 0) && (decide (a.headD 0 = 0) || strnEq n a.tail b.tail)

/-- `strndup(s, n)`. -/
def strndup (s : List UInt8) (n : Nat) : List UInt8 := text (s.take n) ++ [0]

/-- `snprintf(dst, n, "%s", src)`, for `0 < n`. -/
def snprintf (dst : List UInt8) (n : Nat) (src : List UInt8) : List UInt8 :=
  Bytes.memcpy dst 0 ((text src).take (n - 1) ++ [0]) n

variable {a b s t rest : List UInt8} {n : Nat}

theorem text_cons (c : UInt8) (s : List UInt8) :
    text (c :: s) = if c = 0 then [] else c :: text s := by
  by_cases hc : c = 0
  · simp [text, hc]
  · simp [text, hc]

theorem zero_not_mem_text : 0 ∉ text s := by
  induction s with
  | nil => exact List.not_mem_nil
  | cons c s ih =>
    rw [text_cons]
    split
    · exact List.not_mem_nil
    · rename_i hc
      exact fun hmem => ih ((List.mem_cons.mp hmem).resolve_left (Ne.symm hc))

/-- A text with its zero, whatever comes behind it. -/
theorem text_append (ht : 0 ∉ t) : text (t ++ 0 :: rest) = t := by
  induction t with
  | nil => rfl
  | cons c t ih =>
    rw [List.mem_cons, not_or] at ht
    rw [List.cons_append, text_cons, if_neg (Ne.symm ht.1), ih ht.2]

/-- A block that has a zero is its text, the zero and the rest. -/
theorem split (h : 0 ∈ s) : ∃ rest, s = text s ++ 0 :: rest := by
  induction s with
  | nil => exact absurd h List.not_mem_nil
  | cons c s ih =>
    rw [text_cons]
    split
    · rename_i hc
      exact ⟨s, by rw [hc, List.nil_append]⟩
    · rename_i hc
      obtain ⟨rest, heq⟩ := ih ((List.mem_cons.mp h).resolve_left (Ne.symm hc))
      refine ⟨rest, ?_⟩
      rw [List.cons_append, ← heq]

theorem length_text_lt (h : 0 ∈ s) : (text s).length < s.length := by
  obtain ⟨rest, heq⟩ := split h
  have hlen := congrArg List.length heq
  rw [List.length_append, List.length_cons] at hlen
  omega

/-- A text shorter than the limit is read whole. -/
theorem text_take (hn : (text s).length < n) : text (s.take n) = text s := by
  induction s generalizing n with
  | nil => rw [List.take_nil]
  | cons c s ih =>
    cases n with
    | zero => exact absurd hn (Nat.not_lt_zero _)
    | succ n =>
      rw [List.take_succ_cons, text_cons, text_cons]
      split
      · rfl
      · rename_i hc
        rw [text_cons, if_neg hc, List.length_cons] at hn
        rw [ih (Nat.lt_of_succ_lt_succ hn)]

theorem strnlen_eq (hn : (text s).length < n) : strnlen s n = (text s).length := by
  rw [strnlen, text_take hn]

theorem text_take_succ (s : List UInt8) (n : Nat) :
    text (s.take (n + 1)) = if s.headD 0 = 0 then [] else s.headD 0 :: text (s.tail.take n) := by
  cases s with
  | nil => rfl
  | cons c s => exact text_cons c (s.take n)

/-- `strncmp` compares the texts, as far as it reads. -/
theorem strnEq_iff : strnEq n a b = true ↔ text (a.take n) = text (b.take n) := by
  induction n generalizing a b with
  | zero => exact ⟨fun _ => rfl, fun _ => rfl⟩
  | succ n ih =>
    rw [strnEq, Bool.and_eq_true, Bool.or_eq_true, decide_eq_true_iff, decide_eq_true_iff, ih,
      text_take_succ, text_take_succ]
    by_cases ha : a.headD 0 = 0 <;> by_cases hb : b.headD 0 = 0
    · simp only [ha, hb, if_true, true_or, and_self]
    · simp only [ha, hb, if_true, if_false, Ne.symm hb, false_and, reduceCtorEq]
    · simp only [ha, hb, if_true, if_false, false_and, reduceCtorEq]
    · simp only [ha, hb, if_false, false_or, List.cons.injEq]

/-- Two texts within the limit are compared whole. -/
theorem strnEq_iff_text (ha : (text a).length < n) (hb : (text b).length < n) :
    strnEq n a b = true ↔ text a = text b := by
  rw [strnEq_iff, text_take ha, text_take hb]

theorem zero_mem_strndup : 0 ∈ strndup s n :=
  List.mem_append_right _ (List.mem_singleton_self 0)

theorem text_strndup : text (strndup s n) = text (s.take n) := text_append zero_not_mem_text

/-- A block with room for the text and its zero holds the text afterwards. -/
theorem snprintf_eq (hn : (text s).length < n) :
    snprintf t n s = text s ++ 0 :: t.drop (min n ((text s).length + 1)) := by
  have hwhole : (text s).take (n - 1) = text s := List.take_of_length_le (by omega)
  have hout : (text s ++ [0]).take n = text s ++ [0] :=
    List.take_of_length_le (by rw [List.length_append, List.length_singleton]; omega)
  rw [snprintf, Bytes.memcpy, hwhole, hout, List.take_zero, List.nil_append, List.append_assoc,
    List.length_append, List.length_singleton, Nat.zero_add, List.singleton_append]

end CString
