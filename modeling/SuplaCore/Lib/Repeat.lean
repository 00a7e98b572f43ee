import Mathlib.Algebra.Order.BigOperators.Group.Finset

/-!
# Lists whose repeats are neighbours

A list in which no member returns after its neighbour (`Apart`): a member occurs at most twice, the
second time right after the first, so the list is at most twice as long as it has members.
-/

namespace Repeat

variable {α : Type}

def Apart : List α → Prop
  | [] => True
  | a :: l => a ∉ l.tail ∧ Apart l

theorem Apart.adjacent {l : List α} (h : Apart l) {a : α} {i j : Nat} (hij : i < j)
    (hi : l[i]? = some a) (hj : l[j]? = some a) : j = i + 1 := by
  induction l generalizing i j with
  | nil => cases hi
  | cons b l ih =>
    obtain ⟨k, rfl⟩ : ∃ k, j = k + 1 := ⟨j - 1, by omega⟩
    rw [List.getElem?_cons_succ] at hj
    cases i with
    | zero =>
      rw [List.getElem?_cons_zero, Option.some.injEq] at hi
      subst hi
      cases k with
      | zero => rfl
      | succ k =>
        refine absurd ?_ h.1
        rw [← List.drop_one]
        refine List.mem_of_getElem? (i := k) ?_
        rw [List.getElem?_drop, Nat.add_comm]
        exact hj
    | succ i =>
      rw [List.getElem?_cons_succ] at hi
      rw [ih h.2 (by omega) hi hj]

variable [DecidableEq α]

theorem Apart.count_le {l : List α} (h : Apart l) (a : α) : l.count a ≤ 2 := by
  induction l with
  | nil => exact Nat.zero_le _
  | cons b l ih =>
    rw [List.count_cons]
    split
    · rename_i hab
      rw [beq_iff_eq] at hab
      subst hab
      have hone : l.count b ≤ 1 := by
        cases l with
        | nil => exact Nat.zero_le _
        | cons c l =>
          have hzero : l.count b = 0 := List.count_eq_zero_of_not_mem h.1
          rw [List.count_cons, hzero]
          split <;> omega
      omega
    · exact ih h.2

theorem Apart.length_le {l : List α} (h : Apart l) {F : Finset α} (hmem : ∀ a ∈ l, a ∈ F) :
    l.length ≤ 2 * F.card := by
  calc l.length = ∑ a ∈ l.toFinset, l.count a := (List.sum_toFinset_count_eq_length l).symm
    _ ≤ l.toFinset.card * 2 := Finset.sum_le_card_nsmul _ _ _ fun a _ => h.count_le a
    _ ≤ 2 * F.card := by
      rw [Nat.mul_comm]
      exact Nat.mul_le_mul_left 2 (Finset.card_le_card fun a ha => hmem a (List.mem_toFinset.mp ha))

end Repeat
