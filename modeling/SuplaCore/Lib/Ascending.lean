import Mathlib.Order.Basic
import Mathlib.Data.List.Basic

/-!
# Lists in the order of a key

In a list whose keys do not fall, the elements of one key stand together (`Ascending.together`), so
that the last of them is the one whose next has another key (`Ascending.lastOfKey_iff`).
-/

namespace Ascend

variable {α κ : Type} (key : α → κ)

/-- The elements of one key stand together. -/
def Together (l : List α) : Prop := ∀ (i j k : Nat) (a b c : α), i ≤ j → j ≤ k →
  l[i]? = some a → l[j]? = some b → l[k]? = some c → key a = key c → key b = key a

/-- No element behind position `i` has the key `k`. -/
def LastOfKey (l : List α) (i : Nat) (k : κ) : Prop :=
  ∀ j b, i < j → l[j]? = some b → key b ≠ k

variable [PartialOrder κ]

/-- The keys do not fall. -/
def Ascending (l : List α) : Prop := l.Pairwise fun a b => key a ≤ key b

variable {key} {l : List α}

theorem Ascending.le (h : Ascending key l) {i j : Nat} (hij : i ≤ j) {a b : α}
    (ha : l[i]? = some a) (hb : l[j]? = some b) : key a ≤ key b := by
  obtain hlt | rfl := Nat.lt_or_eq_of_le hij
  · obtain ⟨hi, rfl⟩ := List.getElem?_eq_some_iff.mp ha
    obtain ⟨hj, rfl⟩ := List.getElem?_eq_some_iff.mp hb
    exact List.pairwise_iff_getElem.mp h i j hi hj hlt
  · rw [ha] at hb
    cases hb
    exact le_refl _

theorem Ascending.together (h : Ascending key l) : Together key l := by
  intro i j k a b c hij hjk ha hb hc heq
  refine le_antisymm ?_ (h.le hij ha hb)
  calc key b ≤ key c := h.le hjk hb hc
    _ = key a := heq.symm

/-- An element is the last of its key when the next one has another key. -/
theorem Ascending.lastOfKey_iff (h : Ascending key l) {i : Nat} {a b : α}
    (ha : l[i]? = some a) (hb : l[i + 1]? = some b) :
    LastOfKey key l i (key a) ↔ key b ≠ key a := by
  refine ⟨fun hlast => hlast (i + 1) b (Nat.lt_succ_self i) hb, fun hne j c hij hc heq => ?_⟩
  exact hne (h.together i (i + 1) j a b c (Nat.le_succ i) hij ha hb hc heq.symm)

end Ascend
