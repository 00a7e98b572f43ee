import Mathlib.Algebra.BigOperators.Group.List.Basic
import Mathlib.Algebra.Order.Ring.Nat
import Mathlib.Data.List.Nodup

/-!
# Collecting without repetition

Elements are appended to a list one after another, each only if the list has none yet that counts
as the same. `same` need not be equality: an element may then be kept out by a different one.
A second section is about folds over a store that change one place at a time, a third about merging
lists by a key, a fourth about lists in which one place is changed.
-/

namespace Collect

section
variable {α : Type*} (same : α → α → Bool)

/-- Append `x` unless the list has an element that counts as the same. -/
def push (acc : List α) (x : α) : List α := if acc.any (same x) then acc else acc ++ [x]

theorem mem_push {acc : List α} {x y : α} :
    y ∈ push same acc x ↔ y ∈ acc ∨ y = x ∧ ∀ z ∈ acc, same x z = false := by
  unfold push
  split
  · next h =>
    obtain ⟨z, hz, hs⟩ := List.any_eq_true.1 h
    constructor
    · exact Or.inl
    · rintro (hy | ⟨-, hno⟩)
      · exact hy
      · rw [hno z hz] at hs
        cases hs
  · next h =>
    have hno : ∀ z ∈ acc, same x z = false := by simpa using h
    rw [List.mem_append, List.mem_singleton, and_iff_left hno]

/-- Nothing is collected that was not offered. -/
theorem mem_of_mem_foldl {l acc : List α} {y : α} (h : y ∈ l.foldl (push same) acc) :
    y ∈ acc ∨ y ∈ l := by
  induction l generalizing acc with
  | nil => exact .inl h
  | cons x l ih =>
    obtain hy | hy := ih h
    · obtain hy | ⟨rfl, -⟩ := (mem_push same).1 hy
      · exact .inl hy
      · exact .inr (.head _)
    · exact .inr (.tail _ hy)

/-- Nothing collected is given up. -/
theorem mem_foldl_of_mem {l acc : List α} {y : α} (h : y ∈ acc) :
    y ∈ l.foldl (push same) acc := by
  induction l generalizing acc with
  | nil => exact h
  | cons x l ih => exact ih ((mem_push same).2 (.inl h))

/-- **All that is offered is collected** if only equal elements count as the same. -/
theorem mem_foldl {l acc : List α} {y : α}
    (hsame : ∀ a ∈ l, ∀ b ∈ acc ++ l, same a b = true → a = b) :
    y ∈ l.foldl (push same) acc ↔ y ∈ acc ∨ y ∈ l := by
  refine ⟨mem_of_mem_foldl same, ?_⟩
  induction l generalizing acc with
  | nil => simp
  | cons x l ih =>
    intro h
    by_cases hx : y = x
    · subst hx
      rw [List.foldl_cons]
      refine mem_foldl_of_mem same ((mem_push same).2 ?_)
      by_cases hm : y ∈ acc
      · exact .inl hm
      · refine .inr ⟨rfl, fun z hz => Bool.eq_false_iff.2 fun hs => hm ?_⟩
        rw [hsame y (.head _) z (by simp [hz]) hs]
        exact hz
    · refine ih (fun a ha b hb => hsame a (.tail _ ha) b ?_) ?_
      · obtain hb | hb := List.mem_append.1 hb
        · obtain hb | ⟨rfl, -⟩ := (mem_push same).1 hb <;> simp [*]
        · simp [hb]
      · obtain h | h := h
        · exact .inl ((mem_push same).2 (.inl h))
        · exact .inr ((List.mem_cons.1 h).resolve_left hx)

/-- **No two collected elements count as the same.** -/
theorem pairwise_foldl {l acc : List α} (hsymm : ∀ a b, same a b = same b a)
    (h : acc.Pairwise fun a b => same a b = false) :
    (l.foldl (push same) acc).Pairwise fun a b => same a b = false := by
  induction l generalizing acc with
  | nil => exact h
  | cons x l ih =>
    apply ih
    unfold push
    split
    · exact h
    · next hx =>
      refine List.pairwise_append.2 ⟨h, List.pairwise_singleton _ _, fun a ha b hb => ?_⟩
      rw [List.mem_singleton.1 hb, hsymm]
      exact Bool.eq_false_iff.2 fun hs => hx (List.any_eq_true.2 ⟨a, ha, hs⟩)

end

/-! ## Local updates

A fold over the places of a store that changes one place at a time and notes down some of them. -/

section Local

variable {σ β : Type} (get : σ → Nat → Option β) {f : σ → Nat → σ} {upd : β → β}

/-- A fold over places without duplicates updates each of them once. -/
theorem get_foldl_local
    (hget : ∀ m p q, get (f m p) q = if q = p then (get m p).map upd else get m q) :
    ∀ (l : List Nat) (m : σ), l.Nodup → ∀ q,
      get (l.foldl f m) q = if q ∈ l then (get m q).map upd else get m q := by
  intro l
  induction l with
  | nil => intro m _ q; simp
  | cons p l ih =>
    intro m hnodup q
    obtain ⟨hp, hnodup⟩ := List.nodup_cons.mp hnodup
    rw [List.foldl_cons, ih (f m p) hnodup q, hget]
    by_cases hqp : q = p
    · subst hqp
      simp [hp]
    · simp [hqp]

/-- What is noted down are the places that are selected at the start. -/
theorem out_foldl_local (out : σ → List Nat) {sel : Option β → Bool}
    (hget : ∀ m p q, get (f m p) q = if q = p then (get m p).map upd else get m q)
    (hout : ∀ m p, out (f m p) = out m ++ if sel (get m p) then [p] else []) :
    ∀ (l : List Nat) (m : σ), l.Nodup →
      out (l.foldl f m) = out m ++ l.filter fun q => sel (get m q) := by
  intro l
  induction l with
  | nil => intro m _; simp
  | cons p l ih =>
    intro m hnodup
    obtain ⟨hp, hnodup⟩ := List.nodup_cons.mp hnodup
    rw [List.foldl_cons, ih (f m p) hnodup, hout, List.append_assoc, List.filter_cons]
    congr 1
    have hsame : l.filter (fun q => sel (get (f m p) q)) = l.filter fun q => sel (get m q) := by
      refine List.filter_congr fun q hq => ?_
      rw [hget, if_neg fun h : q = p => hp (h ▸ hq)]
    rw [hsame]
    split <;> rfl

end Local

/-! ## Merging by key -/

section Merge

variable {α κ : Type} [DecidableEq κ] {key : α → κ}

/-- What was kept of a list with distinct keys, with the elements whose key is missing, is the
list. -/
theorem perm_merge {kept stored : List α} (hsub : ∀ a ∈ kept, a ∈ stored)
    (hkept : (kept.map key).Nodup) (hstored : (stored.map key).Nodup) :
    (kept ++ stored.filter fun a => key a ∉ kept.map key).Perm stored := by
  refine (List.perm_ext_iff_of_nodup ?_ (hstored.of_map key)).mpr fun a => ⟨?_, ?_⟩
  · refine List.nodup_append.mpr ⟨hkept.of_map key, (hstored.of_map key).filter _, ?_⟩
    rintro a ha b hb rfl
    have hnot := (List.mem_filter.mp hb).2
    exact of_decide_eq_true hnot (List.mem_map_of_mem ha)
  · intro ha
    rcases List.mem_append.mp ha with ha | ha
    · exact hsub a ha
    · exact (List.mem_filter.mp ha).1
  · intro ha
    by_cases hkey : key a ∈ kept.map key
    · obtain ⟨b, hb, heq⟩ := List.mem_map.mp hkey
      have hab : b = a := List.inj_on_of_nodup_map hstored (hsub b hb) ha heq
      exact List.mem_append_left _ (hab ▸ hb)
    · exact List.mem_append_right _ (List.mem_filter.mpr ⟨ha, decide_eq_true hkey⟩)

end Merge
section Place
variable {α : Type*} {l : List α} {i : Nat} {g : α → α} {a : α}

theorem mem_modify {x : α} (h : x ∈ l.modify i g) : x ∈ l ∨ ∃ a, l[i]? = some a ∧ x = g a := by
  obtain ⟨j, hj⟩ := List.mem_iff_getElem?.mp h
  rw [List.getElem?_modify, Option.map_eq_map, Option.map_eq_some_iff] at hj
  obtain ⟨a, ha, rfl⟩ := hj
  split
  · rename_i heq
    exact .inr ⟨a, heq ▸ ha, rfl⟩
  · exact .inl (List.mem_of_getElem? ha)

/-- What a change leaves alone, the whole leaves alone. -/
theorem map_modify {β : Type*} {f : α → β} (h : ∀ a, f (g a) = f a) :
    (l.modify i g).map f = l.map f := by
  apply List.ext_getElem?
  intro j
  rw [List.getElem?_map, List.getElem?_map, List.getElem?_modify]
  split
  · rw [Option.map_eq_map, Option.map_map]
    exact congrArg (l[j]?.map ·) (funext h)
  · rw [Option.map_eq_map, Option.map_id_fun']
    rfl

/-- What a place gives up, the whole gives up. -/
theorem sum_modify_add_le {f : α → Nat} {d : Nat} (ha : l[i]? = some a)
    (h : f (g a) + d ≤ f a) : ((l.modify i g).map f).sum + d ≤ (l.map f).sum := by
  induction l generalizing i with
  | nil => cases ha
  | cons b l ih =>
    cases i with
    | zero =>
      cases ha
      rw [List.modify_zero_cons, List.map_cons, List.map_cons, List.sum_cons, List.sum_cons]
      omega
    | succ i =>
      have := ih ha
      rw [List.modify_succ_cons, List.map_cons, List.map_cons, List.sum_cons, List.sum_cons]
      omega

theorem sum_modify_le {f : α → Nat} (h : ∀ a, l[i]? = some a → f (g a) ≤ f a) :
    ((l.modify i g).map f).sum ≤ (l.map f).sum := by
  cases ha : l[i]? with
  | none =>
    have hsame : l.modify i g = l := List.modify_eq_self (List.getElem?_eq_none_iff.mp ha)
    exact Nat.le_of_eq (congrArg (fun l => (l.map f).sum) hsame)
  | some a => exact sum_modify_add_le (d := 0) ha (h a ha)

end Place

end Collect
