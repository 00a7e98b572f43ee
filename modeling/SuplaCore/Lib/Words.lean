import Mathlib.Algebra.Group.Nat.Defs
import Mathlib.Data.List.Basic

/-!
# Words of flags

64-bit words that are put together by bitwise or, and what is left of one that went through an
`int`. Words are compared bit by bit.
-/

namespace Words

/-- A word after an `int`. -/
def throughInt (w : BitVec 64) : BitVec 64 := (w.setWidth 32).signExtend 64

/-- A word that an `int` can hold: the upper half repeats bit 31. -/
def FitsInt (w : BitVec 64) : Prop := throughInt w = w

instance (w : BitVec 64) : Decidable (FitsInt w) := inferInstanceAs (Decidable (_ = _))

/-- The bitwise or of all words. -/
def orAll (words : List (BitVec 64)) : BitVec 64 := words.foldr (· ||| ·) 0

@[simp] theorem orAll_nil : orAll [] = 0 := rfl

@[simp] theorem orAll_cons (w : BitVec 64) (words : List (BitVec 64)) :
    orAll (w :: words) = w ||| orAll words := rfl

@[simp] theorem orAll_append (words words' : List (BitVec 64)) :
    orAll (words ++ words') = orAll words ||| orAll words' := by
  induction words with
  | nil => exact BitVec.zero_or.symm
  | cons w rest ih => rw [List.cons_append, orAll_cons, orAll_cons, ih, BitVec.or_assoc]

theorem getLsbD_throughInt (w : BitVec 64) {i : Nat} (hi : i < 64) :
    (throughInt w).getLsbD i = if i < 32 then w.getLsbD i else w.getLsbD 31 := by
  rw [throughInt, BitVec.getLsbD_signExtend, decide_eq_true hi, Bool.true_and,
    BitVec.msb_eq_getLsbD_last]
  simp only [BitVec.getLsbD_setWidth]
  split
  · rename_i hlt
    rw [decide_eq_true hlt, Bool.true_and]
  · rfl

theorem getLsbD_of_lt {w : BitVec 64} {n i : Nat} (hw : w.toNat < 2 ^ n) (hi : n ≤ i) :
    w.getLsbD i = false :=
  Nat.testBit_lt_two_pow (Nat.lt_of_lt_of_le hw (Nat.pow_le_pow_right (by decide) hi))

/-- Only the lower half of a word comes through. -/
theorem throughInt_congr {v w : BitVec 64} (h : v.setWidth 32 = w.setWidth 32) :
    throughInt v = throughInt w := by
  rw [throughInt, throughInt, h]

theorem getLsbD_orAll (words : List (BitVec 64)) (i : Nat) :
    (orAll words).getLsbD i = words.any (·.getLsbD i) := by
  induction words with
  | nil => exact BitVec.getLsbD_zero
  | cons w rest ih =>
    rw [orAll_cons, BitVec.getLsbD_or, List.any_cons, ih]

/-- A bit is lost on the way through an `int`, or it comes in with the extra ones. -/
theorem throughInt_or_iff {fixed ever cur : BitVec 64}
    (hlow : ∀ i, 31 ≤ i → ever.getLsbD i = false)
    (hcur : ∀ i, cur.getLsbD i = true → ever.getLsbD i = true) :
    throughInt (fixed ||| ever) = fixed ||| cur ↔
      FitsInt fixed ∧ fixed ||| cur ||| ever = fixed ||| cur := by
  have key : ∀ i, i < 64 →
      ((throughInt (fixed ||| ever)).getLsbD i = (fixed ||| cur).getLsbD i ↔
        (throughInt fixed).getLsbD i = fixed.getLsbD i ∧
          (fixed ||| cur ||| ever).getLsbD i = (fixed ||| cur).getLsbD i) := by
    intro i hi
    have hsub := hcur i
    simp only [getLsbD_throughInt _ hi, BitVec.getLsbD_or]
    by_cases hlt : i < 32
    · rw [if_pos hlt, if_pos hlt]
      revert hsub
      cases fixed.getLsbD i <;> cases ever.getLsbD i <;> cases cur.getLsbD i <;> decide
    · have hever : ever.getLsbD i = false := hlow i (by omega)
      have hnone : cur.getLsbD i = false := by
        rw [Bool.eq_false_iff]
        intro htrue
        exact absurd (hsub htrue) (by rw [hever]; decide)
      rw [if_neg hlt, if_neg hlt, hlow 31 (by omega), hever, hnone]
      simp only [Bool.or_false, and_true]
  rw [FitsInt, BitVec.eq_of_getLsbD_eq_iff, BitVec.eq_of_getLsbD_eq_iff,
    BitVec.eq_of_getLsbD_eq_iff, ← forall₂_and]
  exact forall₂_congr key

end Words
