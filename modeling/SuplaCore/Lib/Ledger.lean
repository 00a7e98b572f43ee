import Mathlib.Data.List.Perm.Basic

/-!
# What a run takes in and gives out, and what is still owed

The runs of a labelled system whose states hold elements. `Run.balanced`: if each step gives out
what it no longer holds and holds what it takes in, then so does every run.

A log has its newest event first. Some of its events make a debt and some settle all debts made
before them. `Owed makes settles log`: a debt was made that nothing behind it has settled.
-/

namespace Ledger

variable {σ τ α : Type}

/-- The runs from `s₀`, by the labels of their steps. -/
inductive Run (step : σ → τ → σ → Prop) (s₀ : σ) : List τ → σ → Prop
  | init : Run step s₀ [] s₀
  | step {ts : List τ} {s s' : σ} {t : τ} : Run step s₀ ts s → step s t s' →
      Run step s₀ (ts ++ [t]) s'

variable {step : σ → τ → σ → Prop} {s₀ s s' : σ} {ts : List τ} {t : τ}

/-- `t` accounts for what is held before and after it. -/
def Balanced (held : σ → List α) (added removed : τ → List α) (s : σ) (t : τ) (s' : σ) : Prop :=
  (held s' ++ removed t).Perm (held s ++ added t)

/-- **The ledger rule.** -/
theorem Run.balanced {held : σ → List α} {added removed : τ → List α} {ok : τ → Prop}
    (hstep : ∀ {s t s'}, ok t → step s t s' → Balanced held added removed s t s')
    (h : Run step s₀ ts s) (hok : ∀ t ∈ ts, ok t) :
    (held s ++ ts.flatMap removed).Perm (held s₀ ++ ts.flatMap added) := by
  induction h with
  | init => exact .refl _
  | @step ts s s' t _ hs ih =>
    have hbefore := ih fun u hu => hok u (List.mem_append_left _ hu)
    have hlast := hstep (hok t (by simp)) hs
    rw [List.flatMap_append, List.flatMap_append, List.flatMap_singleton, List.flatMap_singleton]
    calc
      List.Perm (held s' ++ (ts.flatMap removed ++ removed t))
          (held s' ++ removed t ++ ts.flatMap removed) := by
        rw [List.append_assoc]
        exact List.perm_append_comm.append_left _
      List.Perm _ (held s ++ added t ++ ts.flatMap removed) := hlast.append_right _
      List.Perm _ (held s ++ ts.flatMap removed ++ added t) := by
        rw [List.append_assoc, List.append_assoc]
        exact List.perm_append_comm.append_left _
      List.Perm _ (held s₀ ++ (ts.flatMap added ++ added t)) := by
        rw [← List.append_assoc]
        exact hbefore.append_right _

/-- What every allowed step shows, every step of a run shows. -/
theorem Run.steps {ok P : τ → Prop} (hstep : ∀ {s t s'}, ok t → step s t s' → P t)
    (h : Run step s₀ ts s) (hok : ∀ t ∈ ts, ok t) : ∀ t ∈ ts, P t := by
  induction h with
  | init => exact fun t ht => absurd ht List.not_mem_nil
  | @step ts s s' t _ hs ih =>
    intro u hu
    obtain hu | hu := List.mem_append.mp hu
    · exact ih (fun v hv => hok v (List.mem_append_left _ hv)) u hu
    · obtain rfl := List.mem_singleton.mp hu
      exact hstep (hok u (by simp)) hs

end Ledger

namespace Since

variable {ε : Type*} {makes settles : ε → Prop} {e : ε} {log : List ε}

def Owed (makes settles : ε → Prop) : List ε → Prop
  | [] => False
  | e :: log => ¬ settles e ∧ (makes e ∨ Owed makes settles log)

/-- An event that makes no debt leaves at most those that were there. -/
theorem Owed.of_cons (h : Owed makes settles (e :: log)) (he : ¬ makes e) :
    Owed makes settles log := h.2.resolve_left he

theorem Owed.of_append {es : List ε} (h : Owed makes settles (es ++ log))
    (hes : ∀ e ∈ es, ¬ makes e) : Owed makes settles log ∧ ∀ e ∈ es, ¬ settles e := by
  induction es with
  | nil => exact ⟨h, by intro _ he; cases he⟩
  | cons e es ih =>
    obtain ⟨hfirst, hrest⟩ := List.forall_mem_cons.1 hes
    obtain ⟨hlog, hsettles⟩ := ih (Owed.of_cons h hfirst) hrest
    exact ⟨hlog, List.forall_mem_cons.2 ⟨h.1, hsettles⟩⟩

/-- **A debt**: an event that makes one, with none behind it that settles it. -/
theorem owed_split {pre post : List ε} (he : makes e) (hsettles : ¬ settles e)
    (hpre : ∀ x ∈ pre, ¬ settles x) : Owed makes settles (pre ++ e :: post) := by
  induction pre with
  | nil => exact ⟨hsettles, .inl he⟩
  | cons x pre ih =>
    obtain ⟨hx, hrest⟩ := List.forall_mem_cons.1 hpre
    exact ⟨hx, .inr (ih hrest)⟩

end Since
