import Mathlib.Data.List.Basic

/-!
# Loops that a callback can stop

A loop over a list that calls a function for each element until one call says that it will not
continue. The function may change a state; `logged` adds the list of its calls, with their answers.
-/

namespace Loop

variable {α σ : Type}

def forEach (f : α → σ → Bool × σ) : List α → σ → σ
  | [], s => s
  | a :: rest, s => if (f a s).1 then forEach f rest (f a s).2 else (f a s).2

/-- The function, with the calls so far beside its state. -/
def logged (f : α → σ → Bool × σ) (a : α) (s : σ × List (α × Bool)) :
    Bool × (σ × List (α × Bool)) :=
  ((f a s.1).1, ((f a s.1).2, s.2 ++ [(a, (f a s.1).1)]))

/-- No call comes after one that stops. -/
def Stops (calls : List (α × Bool)) : Prop :=
  ∀ before a after, calls = before ++ (a, false) :: after → after = []

variable {f : α → σ → Bool × σ}

/-- A loop that never stops is a fold. -/
theorem forEach_of_continues (l : List α) : ∀ s : σ, (∀ a ∈ l, ∀ s, (f a s).1 = true) →
    forEach f l s = l.foldl (fun s a => (f a s).2) s := by
  induction l with
  | nil => exact fun _ _ => rfl
  | cons a rest ih =>
    intro s hf
    rw [forEach, if_pos (hf a List.mem_cons_self s), List.foldl_cons]
    exact ih _ fun b hb => hf b (List.mem_cons_of_mem _ hb)

/-- A function that never stops is called for each element. -/
theorem calls_of_continues (hf : ∀ a s, (f a s).1 = true) (l : List α) :
    ∀ s : σ × List (α × Bool), (forEach (logged f) l s).2 = s.2 ++ l.map (·, true) := by
  induction l with
  | nil =>
    intro s
    exact (List.append_nil _).symm
  | cons a rest ih =>
    intro s
    have hcontinue : (logged f a s).1 = true := hf a s.1
    rw [forEach, if_pos hcontinue, ih]
    simp [logged, hf]

/-- A function that always stops is called for the first element. -/
theorem calls_of_stops (hf : ∀ a s, (f a s).1 = false) (l : List α) (s : σ × List (α × Bool)) :
    (forEach (logged f) l s).2 = s.2 ++ (l.take 1).map (·, false) := by
  cases l with
  | nil => exact (List.append_nil _).symm
  | cons a rest =>
    have hstop : ¬ (logged f a s).1 = true := by
      rw [logged, hf]
      decide
    rw [forEach, if_neg hstop]
    simp [logged, hf]

theorem Stops.append {log : List (α × Bool)} (hlog : ∀ c ∈ log, c.2 = true) (a : α) (b : Bool) :
    Stops (log ++ [(a, b)]) := by
  intro before x after h
  cases hafter : after.reverse with
  | nil => exact List.reverse_eq_nil_iff.mp hafter
  | cons y rest =>
    have hlast : after = rest.reverse ++ [y] := by
      rw [← List.reverse_reverse after, hafter, List.reverse_cons]
    rw [hlast, ← List.cons_append, ← List.append_assoc] at h
    obtain ⟨hinit, -⟩ := List.append_inj' h rfl
    have hmem : (x, false) ∈ log := by
      rw [hinit]
      simp
    exact absurd (hlog _ hmem) Bool.false_ne_true

theorem Stops.of_continues {log : List (α × Bool)} (hlog : ∀ c ∈ log, c.2 = true) : Stops log := by
  rintro before x after rfl
  exact absurd (hlog (x, false) (by simp)) Bool.false_ne_true

/-- One loop stops when it is told to. -/
theorem stops_forEach (l : List α) : ∀ s : σ × List (α × Bool), (∀ c ∈ s.2, c.2 = true) →
    Stops (forEach (logged f) l s).2 := by
  induction l with
  | nil => exact fun s hs => .of_continues hs
  | cons a rest ih =>
    intro s hs
    rw [forEach]
    split
    · rename_i hcontinue
      apply ih
      intro c hc
      change c ∈ s.2 ++ [(a, (f a s.1).1)] at hc
      rw [List.mem_append, List.mem_singleton] at hc
      obtain hold | rfl := hc
      · exact hs c hold
      · exact hcontinue
    · exact .append hs a _

end Loop
