import SuplaCore.Lib.Json

/-!
# Numbers of JSON trees

What a program with integers sees of the numbers of a JSON tree, which are floating point: a number
is written from an integer, compared with integers and converted to an integer type. The conversion
drops the fraction; nothing is known of it where the whole part does not fit the type.
-/

namespace Json

class Number (D : Type) where
  ofInt : Int → D
  /-- The number without its fraction, if it is finite. -/
  whole : D → Option Int
  /-- What is left of a number that does not fit between two bounds. -/
  misfit : Int → Int → D → Int
  /-- `d >= lo && d <= hi`. -/
  between : Int → Int → D → Bool
  /-- The number as an `int`, the nearest one where it does not fit. -/
  valueint : D → Int
  whole_ofInt : ∀ n, -2147483648 ≤ n → n ≤ 2147483647 → whole (ofInt n) = some n
  between_ofInt : ∀ lo hi n, -2147483648 ≤ n → n ≤ 2147483647 →
    between lo hi (ofInt n) = decide (lo ≤ n ∧ n ≤ hi)
  between_whole : ∀ lo hi d, between lo hi d = true → ∃ n, whole d = some n ∧ lo ≤ n ∧ n ≤ hi
  valueint_ofInt : ∀ n, valueint (ofInt n) = max (-2147483648) (min n 2147483647)

variable {D : Type} [Number D]

/-- Conversion to the integer type that holds `lo..hi`. -/
def convert (lo hi : Int) (d : D) : Int :=
  match Number.whole d with
  | some n => if lo ≤ n ∧ n ≤ hi then n else Number.misfit lo hi d
  | none => Number.misfit lo hi d

theorem convert_of_whole {lo hi n : Int} {d : D} (h : Number.whole d = some n) (hlo : lo ≤ n)
    (hhi : n ≤ hi) : convert lo hi d = n := by
  unfold convert
  rw [h]
  exact if_pos ⟨hlo, hhi⟩

theorem convert_ofInt {lo hi n : Int} (hlo : lo ≤ n) (hhi : n ≤ hi) (hmin : -2147483648 ≤ lo)
    (hmax : hi ≤ 2147483647) : convert lo hi (Number.ofInt n : D) = n :=
  convert_of_whole (Number.whole_ofInt n (by omega) (by omega)) hlo hhi

theorem between_ofInt_of_le {lo hi n : Int} (hlo : lo ≤ n) (hhi : n ≤ hi)
    (hmin : -2147483648 ≤ lo) (hmax : hi ≤ 2147483647) :
    Number.between lo hi (Number.ofInt n : D) = true := by
  rw [Number.between_ofInt lo hi n (by omega) (by omega)]
  exact decide_eq_true ⟨hlo, hhi⟩

/-- `(unsigned char)d`. -/
def toUInt8 (d : D) : UInt8 := UInt8.ofNat (convert 0 255 d).toNat

/-- `(unsigned _supla_int16_t)d`. -/
def toUInt16 (d : D) : UInt16 := UInt16.ofNat (convert 0 65535 d).toNat

/-- `(signed char)d`. -/
def toInt8 (d : D) : Int8 := Int8.ofInt (convert (-128) 127 d)

/-- `(_supla_int16_t)d`. -/
def toInt16 (d : D) : Int16 := Int16.ofInt (convert (-32768) 32767 d)

@[simp] theorem toUInt8_ofInt (x : UInt8) : toUInt8 (Number.ofInt x.toNat : D) = x := by
  have h := x.toNat_lt
  rw [toUInt8, convert_ofInt (by omega) (by omega) (by decide) (by decide)]
  exact UInt8.ofNat_toNat

@[simp] theorem toUInt16_ofInt (x : UInt16) : toUInt16 (Number.ofInt x.toNat : D) = x := by
  have h := x.toNat_lt
  rw [toUInt16, convert_ofInt (by omega) (by omega) (by decide) (by decide)]
  exact UInt16.ofNat_toNat

@[simp] theorem toInt8_ofInt (x : Int8) : toInt8 (Number.ofInt x.toInt : D) = x := by
  have hlo : -128 ≤ x.toInt := x.le_toInt
  have hhi : x.toInt ≤ 127 := x.toInt_le
  rw [toInt8, convert_ofInt (by omega) (by omega) (by decide) (by decide)]
  exact Int8.ofInt_toInt x

@[simp] theorem toInt16_ofInt (x : Int16) : toInt16 (Number.ofInt x.toInt : D) = x := by
  have hlo : -32768 ≤ x.toInt := x.le_toInt
  have hhi : x.toInt ≤ 32767 := x.toInt_le
  rw [toInt16, convert_ofInt (by omega) (by omega) (by decide) (by decide)]
  exact Int16.ofInt_toInt x

/-- Numbers a program also adds one to and compares with zero alone. -/
class Arith (D : Type) extends Number D where
  /-- `d + 1`. -/
  succ : D → D
  /-- `d >= 0`. -/
  nonneg : D → Bool
  succ_ofInt : ∀ n, -2147483648 ≤ n → n < 2147483647 → succ (ofInt n) = ofInt (n + 1)
  nonneg_ofInt : ∀ n, -2147483648 ≤ n → n ≤ 2147483647 → nonneg (ofInt n) = decide (0 ≤ n)

/-- Numbers without fractions. -/
instance : Number Int where
  ofInt n := n
  whole n := some n
  misfit _ _ _ := 0
  between lo hi n := decide (lo ≤ n ∧ n ≤ hi)
  valueint n := max (-2147483648) (min n 2147483647)
  whole_ofInt _ _ _ := rfl
  between_ofInt _ _ _ _ _ := rfl
  between_whole _ _ n h := ⟨n, rfl, of_decide_eq_true h⟩
  valueint_ofInt _ := rfl

instance : Arith Int where
  succ n := n + 1
  nonneg n := decide (0 ≤ n)
  succ_ofInt _ _ _ := rfl
  nonneg_ofInt _ _ _ := rfl

/-- Numbers with halves, by the number of halves. -/
structure Halves where
  halves : Int
  deriving DecidableEq

instance : Number Halves where
  ofInt n := ⟨2 * n⟩
  whole d := some (d.halves.tdiv 2)
  misfit _ _ _ := 0
  between lo hi d := decide (2 * lo ≤ d.halves ∧ d.halves ≤ 2 * hi)
  valueint d := max (-2147483648) (min (d.halves.tdiv 2) 2147483647)
  whole_ofInt n _ _ := congrArg some (Int.mul_tdiv_cancel_left n (by decide))
  between_ofInt lo hi n _ _ := by
    refine decide_eq_decide.mpr ?_
    show 2 * lo ≤ 2 * n ∧ 2 * n ≤ 2 * hi ↔ _
    omega
  between_whole lo hi d h := by
    obtain ⟨hlo, hhi⟩ := of_decide_eq_true h
    have hwhole : d.halves.tdiv 2 =
        d.halves / 2 + if 0 ≤ d.halves ∨ 2 ∣ d.halves then 0 else 1 := Int.tdiv_eq_ediv
    refine ⟨d.halves.tdiv 2, rfl, ?_, ?_⟩
    · rw [hwhole]
      split
      · omega
      · omega
    · rw [hwhole]
      split
      · omega
      · omega
  valueint_ofInt n := by rw [Int.mul_tdiv_cancel_left n (by decide)]

instance : Arith Halves where
  succ d := ⟨d.halves + 2⟩
  nonneg d := decide (0 ≤ d.halves)
  succ_ofInt n _ _ := by
    show (⟨2 * n + 2⟩ : Halves) = ⟨2 * (n + 1)⟩
    rw [Int.mul_add]
    rfl
  nonneg_ofInt n _ _ := by
    refine decide_eq_decide.mpr ?_
    show 0 ≤ 2 * n ↔ _
    omega

end Json
