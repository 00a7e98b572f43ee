import Mathlib.Data.List.Basic
import Mathlib.Tactic.Ring

/-!
# Byte blocks

Blocks of memory as lists of bytes: copying into a block (`memcpy`), shifting its content down in
place (`shiftDown`), and fixed-width little-endian numbers (`toLE`, `ofLE`, `readLE`).
-/

namespace Bytes

/-- An element of a block of fixed size after another one was written. -/
theorem get_setIfInBounds {α : Type} {n : Nat} (v : Vector α n) (a b : Fin n) (x : α) :
    (v.setIfInBounds a x).get b = if a = b then x else v.get b := by
  simp only [Fin.ext_iff]
  exact Vector.getElem_setIfInBounds b.isLt

/-! ## Copying -/

/-- `memcpy(dst + off, src, n)`; what lies past the end of `src` is not copied. -/
def memcpy (dst : List UInt8) (off : Nat) (src : List UInt8) (n : Nat) : List UInt8 :=
  dst.take off ++ src.take n ++ dst.drop (off + min n src.length)

theorem length_memcpy {dst : List UInt8} {off n : Nat} (src : List UInt8)
    (hd : off + n ≤ dst.length) : (memcpy dst off src n).length = dst.length := by
  simp only [memcpy, List.length_append, List.length_take, List.length_drop]
  omega

/-- What was copied, with everything before it. -/
theorem take_memcpy {dst src : List UInt8} {off n : Nat} (hs : n ≤ src.length)
    (hd : off ≤ dst.length) :
    (memcpy dst off src n).take (off + n) = dst.take off ++ src.take n := by
  unfold memcpy
  apply List.take_left'
  simp only [List.length_append, List.length_take]
  omega

/-- Only what is copied matters of the source. -/
theorem memcpy_take (dst src : List UInt8) (off n : Nat) :
    memcpy dst off (src.take n) n = memcpy dst off src n := by
  simp only [memcpy, List.take_take, List.length_take, Nat.min_self]
  rw [← Nat.min_assoc, Nat.min_self]

@[simp] theorem memcpy_zero (dst src : List UInt8) : memcpy dst 0 src 0 = dst := by simp [memcpy]

/-- `for (i = 0; i < n; i++) buf[b + i] = buf[a + i]`, one byte at a time. -/
def shiftDown (buf : List UInt8) (a b : Nat) : Nat → List UInt8
  | 0 => buf
  | n + 1 => shiftDown (buf.set b (buf.getD a 0)) (a + 1) (b + 1) n

@[simp] theorem length_shiftDown (n : Nat) :
    ∀ (buf : List UInt8) (a b : Nat), (shiftDown buf a b n).length = buf.length := by
  induction n with
  | zero => intro buf a b; rfl
  | succ n ih => intro buf a b; simp [shiftDown, ih]

/-- Shifting down never reads a byte it has written: cell `i` below the gap ends up with the byte
that stood `a - b` places above it. -/
theorem getElem?_shiftDown (n : Nat) : ∀ (buf : List UInt8) (a b i : Nat), b ≤ a →
    a + n ≤ buf.length → (shiftDown buf a b n)[i]? =
      if b ≤ i ∧ i < b + n then buf[a + (i - b)]? else buf[i]? := by
  induction n with
  | zero =>
    intro buf a b i _ _
    rw [if_neg (by omega)]; rfl
  | succ n ih =>
    intro buf a b i hab hlen
    rw [shiftDown, ih _ _ _ _ (by omega) (by simp; omega)]
    have ha : a < buf.length := by omega
    by_cases h1 : b + 1 ≤ i ∧ i < b + 1 + n
    · rw [if_pos h1, if_pos (by omega), List.getElem?_set_ne (by omega)]
      congr 1; omega
    · rw [if_neg h1]
      by_cases hbi : b = i
      · subst hbi
        rw [if_pos (by omega), List.getElem?_set_self (by omega), Nat.sub_self, Nat.add_zero,
          List.getD_eq_getElem?_getD, List.getElem?_eq_getElem ha]
        rfl
      · rw [if_neg (by omega), List.getElem?_set_ne hbi]

/-- **Shifting a block down** by `k` leaves the content from `k` on at its start. -/
theorem take_shiftDown {buf : List UInt8} {k d : Nat} (hk : k ≤ d) (hd : d ≤ buf.length) :
    (shiftDown buf k 0 (d - k)).take (d - k) = (buf.take d).drop k := by
  apply List.ext_getElem?
  intro i
  rw [List.getElem?_take, List.getElem?_drop, List.getElem?_take,
    getElem?_shiftDown _ _ _ _ _ (by omega) (by omega)]
  by_cases hi : i < d - k
  · rw [if_pos hi, if_pos (by omega), if_pos (by omega), Nat.sub_zero]
  · rw [if_neg hi, if_neg (by omega)]

/-! ## Little-endian numbers -/

/-- The `w` low bytes of `x`, least significant first. -/
def toLE : Nat → Nat → List UInt8
  | 0, _ => []
  | w + 1, x => UInt8.ofNat x :: toLE w (x / 256)

/-- The number with the given bytes, least significant first. -/
def ofLE : List UInt8 → Nat
  | [] => 0
  | b :: bs => b.toNat + 256 * ofLE bs

/-- The `w`-byte number at offset `off` of a block. -/
def readLE (bs : List UInt8) (off w : Nat) : Nat := ofLE ((bs.drop off).take w)

@[simp] theorem length_toLE (w : Nat) : ∀ x, (toLE w x).length = w := by
  induction w with
  | zero => intro x; rfl
  | succ w ih => intro x; simp [toLE, ih]

theorem ofLE_toLE (w : Nat) : ∀ x, ofLE (toLE w x) = x % 256 ^ w := by
  induction w with
  | zero => intro x; simp [toLE, ofLE, Nat.mod_one]
  | succ w ih =>
    intro x
    have h : x % (256 * 256 ^ w) = x % 256 + 256 * (x / 256 % 256 ^ w) := Nat.mod_mul
    rw [toLE, ofLE, ih, UInt8.toNat_ofNat',
      show 256 ^ (w + 1) = 256 * 256 ^ w from Nat.pow_succ', h]

theorem ofLE_lt : ∀ bs : List UInt8, ofLE bs < 256 ^ bs.length
  | [] => by simp [ofLE]
  | b :: bs => by
    have hb := b.toNat_lt
    have := ofLE_lt bs
    rw [ofLE, List.length_cons, Nat.pow_succ']
    omega

theorem toLE_ofLE : ∀ bs : List UInt8, toLE bs.length (ofLE bs) = bs
  | [] => rfl
  | b :: bs => by
    have hb := b.toNat_lt
    rw [List.length_cons, toLE, ofLE, show (b.toNat + 256 * ofLE bs) / 256 = ofLE bs by omega,
      toLE_ofLE bs, List.cons.injEq]
    refine ⟨UInt8.toNat.inj ?_, rfl⟩
    rw [UInt8.toNat_ofNat']
    omega

theorem readLE_lt (bs : List UInt8) (off w : Nat) : readLE bs off w < 256 ^ w := by
  have h := ofLE_lt ((bs.drop off).take w)
  refine Nat.lt_of_lt_of_le h (Nat.pow_le_pow_right (by decide) ?_)
  simp

/-- A number read inside the first `n` bytes does not depend on what follows them. -/
theorem readLE_append {xs ys : List UInt8} {off w : Nat} (h : off + w ≤ xs.length) :
    readLE (xs ++ ys) off w = readLE xs off w := by
  unfold readLE
  rw [List.drop_append_of_le_length (by omega), List.take_append_of_le_length (by simp; omega)]

theorem readLE_take {xs : List UInt8} {off w n : Nat} (h : off + w ≤ n) :
    readLE (xs.take n) off w = readLE xs off w := by
  unfold readLE
  rw [List.drop_take, List.take_take, Nat.min_eq_left (by omega)]

end Bytes
