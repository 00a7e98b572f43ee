import SuplaCore.Lib.AddrText

/-!
# Numbers and items of a text

What the C++ library makes of a text that holds numbers: `std::stoi` (`stoi`), which reads as far
as there is a number and has no value where there is none or where it does not fit an `int`, and
`getline` with a separator (`lines`). The characters of a text are its bytes.
-/

namespace Scan

open AddrText

/-! ## Decimal numbers -/

/-- The value of decimal digits. -/
def value (digits : List Char) : Nat := digits.foldl (fun v c => v * 10 + (c.toNat - '0'.toNat)) 0

/-- A sign, if there is one, and what stands behind it. -/
def sign : List Char → List Char × List Char
  | '+' :: rest => (['+'], rest)
  | '-' :: rest => (['-'], rest)
  | rest => ([], rest)

/-- The number of a sign and digits. -/
def signed (sgn digits : List Char) : Int :=
  if sgn = ['-'] then -(value digits : Int) else value digits

/-- The number that `strtol` reads, however large, and nothing where there are no digits. -/
def scan (text : List Char) : Option Int :=
  let r := sign (text.dropWhile isSpace)
  let digits := r.2.takeWhile Char.isDigit
  if digits = [] then none else some (signed r.1 digits)

/-- The values of an `int`. -/
def isInt (n : Int) : Prop := -2147483648 ≤ n ∧ n ≤ 2147483647

instance (n : Int) : Decidable (isInt n) := inferInstanceAs (Decidable (_ ∧ _))

/-- `std::stoi`, without a value where it throws. -/
def stoi (text : List Char) : Option Int := (scan text).filter fun n => decide (isInt n)

/-- A text that begins with the number `n`: behind white space and a sign the digits, up to the
first character that is none. -/
def Begins (text : List Char) (n : Int) : Prop :=
  ∃ blanks sgn digits rest, text = blanks ++ (sgn ++ (digits ++ rest)) ∧
    (∀ c ∈ blanks, isSpace c = true) ∧ (sgn = [] ∨ sgn = ['+'] ∨ sgn = ['-']) ∧
    digits ≠ [] ∧ (∀ c ∈ digits, c.isDigit = true) ∧ (∀ c ∈ rest.head?, c.isDigit = false) ∧
    n = signed sgn digits

variable {text digits rest : List Char} {n : Int}

theorem isSpace_of_isDigit {c : Char} (h : c.isDigit = true) : isSpace c = false := by
  have hge : '0'.val ≤ c.val := by
    rw [Char.isDigit, Bool.and_eq_true, decide_eq_true_iff] at h
    exact h.1
  have h48 : 48 ≤ c.toNat := hge
  rw [isSpace, decide_eq_false_iff_not]
  rintro (rfl | ⟨-, h13⟩)
  · exact absurd h (by decide)
  · omega

theorem dropWhile_blanks {blanks : List Char} (h : ∀ c ∈ blanks, isSpace c = true)
    (hrest : ∀ c ∈ rest.head?, isSpace c = false) :
    (blanks ++ rest).dropWhile isSpace = rest := by
  rw [List.dropWhile_append_of_pos h]
  cases rest with
  | nil => rfl
  | cons c rest => exact List.dropWhile_cons_of_neg (by simp [hrest c rfl])

theorem takeWhile_digits (h : ∀ c ∈ digits, c.isDigit = true)
    (hrest : ∀ c ∈ rest.head?, c.isDigit = false) :
    (digits ++ rest).takeWhile Char.isDigit = digits := by
  rw [List.takeWhile_append_of_pos h]
  cases rest with
  | nil => rw [List.takeWhile_nil, List.append_nil]
  | cons c rest => rw [List.takeWhile_cons_of_neg (by simp [hrest c rfl]), List.append_nil]

theorem sign_digits (h : ∀ c ∈ digits, c.isDigit = true) (hne : digits ≠ []) :
    sign (digits ++ rest) = ([], digits ++ rest) := by
  obtain ⟨c, digits, rfl⟩ := List.exists_cons_of_ne_nil hne
  have hc := h c List.mem_cons_self
  rw [List.cons_append, sign.eq_3]
  · rintro r heq
    rw [List.cons.injEq] at heq
    rw [heq.1] at hc
    exact absurd hc (by decide)
  · rintro r heq
    rw [List.cons.injEq] at heq
    rw [heq.1] at hc
    exact absurd hc (by decide)

/-- The sign is what was taken off the text. -/
theorem sign_spec (s : List Char) : s = (sign s).1 ++ (sign s).2 ∧
    ((sign s).1 = [] ∨ (sign s).1 = ['+'] ∨ (sign s).1 = ['-']) := by
  unfold sign
  split
  · exact ⟨rfl, Or.inr (Or.inl rfl)⟩
  · exact ⟨rfl, Or.inr (Or.inr rfl)⟩
  · exact ⟨rfl, Or.inl rfl⟩

theorem head_dropWhile (p : Char → Bool) (s : List Char) :
    ∀ c ∈ (s.dropWhile p).head?, p c = false := by
  intro c hc
  have := List.head?_dropWhile_not p s
  rw [Option.mem_def.mp hc] at this
  simpa using this

/-- **What is scanned is the number that the text begins with.** -/
theorem scan_eq_some : scan text = some n ↔ Begins text n := by
  constructor
  · intro h
    unfold scan at h
    by_cases hd : (sign (text.dropWhile isSpace)).2.takeWhile Char.isDigit = []
    · rw [if_pos hd] at h
      exact absurd h (by simp)
    rw [if_neg hd, Option.some.injEq] at h
    have hs := sign_spec (text.dropWhile isSpace)
    refine ⟨text.takeWhile isSpace, _, _, (sign (text.dropWhile isSpace)).2.dropWhile Char.isDigit,
      ?_, ?_, hs.2, hd, ?_, head_dropWhile _ _, h.symm⟩
    · rw [List.takeWhile_append_dropWhile, ← hs.1, List.takeWhile_append_dropWhile]
    · exact fun c hc => List.all_eq_true.mp List.all_takeWhile c hc
    · exact fun c hc => List.all_eq_true.mp List.all_takeWhile c hc
  · rintro ⟨blanks, sgn, digits, rest, rfl, hblanks, hsgn, hne, hdigits, hrest, rfl⟩
    have hhead : ∀ c ∈ (sgn ++ (digits ++ rest)).head?, isSpace c = false := by
      obtain ⟨d, ds, rfl⟩ := List.exists_cons_of_ne_nil hne
      rcases hsgn with rfl | rfl | rfl
      · rintro c ⟨⟩
        exact isSpace_of_isDigit (hdigits d List.mem_cons_self)
      · rintro c ⟨⟩
        rfl
      · rintro c ⟨⟩
        rfl
    have hsign : sign (sgn ++ (digits ++ rest)) = (sgn, digits ++ rest) := by
      rcases hsgn with rfl | rfl | rfl
      · rw [List.nil_append]
        exact sign_digits hdigits hne
      · rfl
      · rfl
    unfold scan
    rw [dropWhile_blanks hblanks hhead, hsign]
    simp only [takeWhile_digits hdigits hrest]
    rw [if_neg hne]

theorem stoi_eq_some : stoi text = some n ↔ Begins text n ∧ isInt n := by
  rw [stoi, Option.filter_eq_some_iff, scan_eq_some, decide_eq_true_iff]

/-- One character is a number where it is a digit. -/
theorem stoi_singleton (c : Char) :
    stoi [c] = if c.isDigit then some ((c.toNat - '0'.toNat : Nat) : Int) else none := by
  by_cases hc : c.isDigit = true
  · rw [if_pos hc, stoi_eq_some]
    refine ⟨⟨[], [], [c], [], rfl, by simp, Or.inl rfl, by simp, by simpa using hc, by simp, ?_⟩,
      ?_⟩
    · simp [signed, value]
    · have hle : c.toNat ≤ 57 := by
        rw [Char.isDigit, Bool.and_eq_true, decide_eq_true_iff, decide_eq_true_iff] at hc
        exact hc.2
      unfold isInt
      omega
  · rw [if_neg hc]
    cases h : stoi [c] with
    | none => rfl
    | some n =>
      obtain ⟨⟨blanks, sgn, digits, rest, heq, -, -, hne, hdigits, -⟩, -⟩ := stoi_eq_some.mp h
      obtain ⟨d, ds, rfl⟩ := List.exists_cons_of_ne_nil hne
      have hmem : d ∈ [c] := by rw [heq]; simp
      rw [List.mem_singleton] at hmem
      exact absurd (hmem ▸ hdigits d List.mem_cons_self) hc

/-! ## Items -/

/-- The lines that `getline` gives one after another: none behind the last separator when nothing
follows it. -/
def lines (sep : Char) (text : List Char) : List (List Char) :=
  let pieces := text.splitOn sep
  if pieces.getLast? = some [] then pieces.dropLast else pieces

/-- An item that is not empty is among the lines when it is between two separators. -/
theorem mem_lines {sep : Char} {item : List Char} (hne : item ≠ []) :
    item ∈ lines sep text ↔ item ∈ (sep :: (text ++ [sep])).splitOn sep := by
  have hall : (sep :: (text ++ [sep])).splitOn sep = [] :: (text.splitOn sep ++ [[]]) := by
    rw [List.splitOn_cons_eq_if_modifyHead, if_pos (BEq.refl sep), List.splitOn_append_cons_self,
      List.splitOn_nil]
  rw [hall, List.mem_cons, List.mem_append, List.mem_singleton, or_iff_right hne, or_iff_left hne]
  unfold lines
  by_cases hlast : (text.splitOn sep).getLast? = some []
  · have heq := List.dropLast_append_getLast? [] hlast
    rw [if_pos hlast]
    conv_rhs => rw [← heq]
    rw [List.mem_append, List.mem_singleton, or_iff_left hne]
  · rw [if_neg hlast]

end Scan
