import SuplaCore.Lib.Bytes

/-!
# Packed structures

How values lie in memory without padding: words, one value after another, arrays. What is read looks
only at the bytes of the value itself (`read_write`).
-/

open Bytes

/-- How the values of a type are written to `size` bytes and read from the start of a block. -/
structure Packed (α : Type) where
  size : Nat
  write : α → List UInt8
  read : List UInt8 → α
  length_write : ∀ a, (write a).length = size
  read_write : ∀ a bs, read (write a ++ bs) = a

namespace Packed

variable {α β : Type}

/-- A little-endian word of `w` bytes. -/
def word (w : Nat) : Packed (BitVec (8 * w)) where
  size := w
  write x := toLE w x.toNat
  read bs := BitVec.ofNat (8 * w) (readLE bs 0 w)
  length_write x := length_toLE w x.toNat
  read_write x bs := by
    have hlt : x.toNat < 256 ^ w := by
      rw [show 256 = 2 ^ 8 from rfl, ← Nat.pow_mul]
      exact x.isLt
    rw [readLE, List.drop_zero, List.take_left' (length_toLE w x.toNat), ofLE_toLE,
      Nat.mod_eq_of_lt hlt]
    exact (BitVec.ofNat_toNat _ x).trans (BitVec.setWidth_eq x)

/-- One value after another. -/
def pair (p : Packed α) (q : Packed β) : Packed (α × β) where
  size := p.size + q.size
  write x := p.write x.1 ++ q.write x.2
  read bs := (p.read bs, q.read (bs.drop p.size))
  length_write x := by rw [List.length_append, p.length_write, q.length_write]
  read_write x bs := by
    rw [List.append_assoc, p.read_write, List.drop_left' (p.length_write x.1), q.read_write]

/-- A structure with the fields of another one. -/
def iso (p : Packed α) (pack : α → β) (unpack : β → α) (h : ∀ b, pack (unpack b) = b) :
    Packed β where
  size := p.size
  write b := p.write (unpack b)
  read bs := pack (p.read bs)
  length_write b := p.length_write (unpack b)
  read_write b bs := by rw [p.read_write, h]

/-! ## Arrays -/

def readList (p : Packed α) : Nat → List UInt8 → List α
  | 0, _ => []
  | n + 1, bs => p.read bs :: p.readList n (bs.drop p.size)

theorem length_readList (p : Packed α) (n : Nat) (bs : List UInt8) :
    (p.readList n bs).length = n := by
  induction n generalizing bs with
  | zero => rfl
  | succ n ih => rw [readList, List.length_cons, ih]

theorem length_flatMap_write (p : Packed α) (l : List α) :
    (l.flatMap p.write).length = l.length * p.size := by
  induction l with
  | nil => exact (Nat.zero_mul _).symm
  | cons a l ih =>
    rw [List.flatMap_cons, List.length_append, p.length_write, ih, List.length_cons,
      Nat.succ_mul, Nat.add_comm]

theorem readList_flatMap (p : Packed α) (l : List α) (bs : List UInt8) :
    p.readList l.length (l.flatMap p.write ++ bs) = l := by
  induction l with
  | nil => rfl
  | cons a l ih =>
    rw [List.length_cons, readList, List.flatMap_cons, List.append_assoc, p.read_write,
      List.drop_left' (p.length_write a), ih]

def vector (p : Packed α) (n : Nat) : Packed (Vector α n) where
  size := n * p.size
  write v := v.toList.flatMap p.write
  read bs := ⟨(p.readList n bs).toArray, p.length_readList n bs⟩
  length_write v := by rw [length_flatMap_write, Vector.length_toList]
  read_write v bs := by
    have hread := p.readList_flatMap v.toList bs
    rw [Vector.length_toList] at hread
    exact Vector.toList_inj.mp hread

/-- The first elements, and zeros for the others. -/
def keepFirst {n : Nat} (zero : α) (k : Nat) (v : Vector α n) : Vector α n :=
  ⟨(v.toList.take k ++ List.replicate (n - k) zero).toArray, by
    rw [List.size_toArray, List.length_append, List.length_take, List.length_replicate,
      Vector.length_toList]
    omega⟩

theorem toList_keepFirst {n : Nat} (zero : α) (k : Nat) (v : Vector α n) :
    (keepFirst zero k v).toList = v.toList.take k ++ List.replicate (n - k) zero := rfl

theorem keepFirst_eq {n k : Nat} {zero : α} {v : Vector α n}
    (h : ∀ i (hi : i < n), k ≤ i → v[i] = zero) : keepFirst zero k v = v := by
  apply Vector.toList_inj.mp
  rw [toList_keepFirst]
  have hdrop : v.toList.drop k = List.replicate (n - k) zero := by
    refine List.eq_replicate_iff.mpr ⟨by rw [List.length_drop, Vector.length_toList], ?_⟩
    intro a ha
    obtain ⟨i, hi, rfl⟩ := List.mem_iff_getElem.mp ha
    rw [List.length_drop, Vector.length_toList] at hi
    rw [List.getElem_drop, Vector.getElem_toList]
    exact h (k + i) (by omega) (Nat.le_add_right k i)
  rw [← hdrop, List.take_append_drop]

theorem getElem_keepFirst {n k : Nat} {zero : α} {v : Vector α n} {i : Nat} (hi : i < n)
    (hk : k ≤ i) : (keepFirst zero k v)[i] = zero := by
  have hlength : ¬ i < (v.toList.take k).length := by
    rw [List.length_take]
    omega
  simp only [keepFirst, Vector.getElem_mk, List.getElem_toArray, List.getElem_append, hlength,
    dite_false, List.getElem_replicate]

/-- **A cut array** that is filled up with zero bytes: the elements behind the cut are zero. -/
theorem write_keepFirst (p : Packed α) {zero : α} (hzero : p.write zero = List.replicate p.size 0)
    {n k : Nat} (hk : k ≤ n) (v : Vector α n) :
    (p.vector n).write (keepFirst zero k v) =
      ((p.vector n).write v).take (k * p.size) ++ List.replicate ((n - k) * p.size) 0 := by
  have htake : (v.toList.flatMap p.write).take (k * p.size) =
      (v.toList.take k).flatMap p.write := by
    have hsplit := congrArg (List.flatMap p.write) (List.take_append_drop k v.toList)
    rw [List.flatMap_append] at hsplit
    rw [← hsplit]
    apply List.take_left'
    rw [length_flatMap_write, List.length_take, Vector.length_toList, Nat.min_eq_left hk]
  have hzeros (j : Nat) : (List.replicate j zero).flatMap p.write =
      List.replicate (j * p.size) 0 := by
    rw [List.flatMap_replicate, hzero, List.flatten_replicate_replicate]
  show (v.toList.take k ++ List.replicate (n - k) zero).flatMap p.write =
    (v.toList.flatMap p.write).take _ ++ _
  rw [List.flatMap_append, hzeros, htake]

end Packed
