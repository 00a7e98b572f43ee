import Mathlib.Data.List.Basic

/-!
# Calls that are repeated until one returns false

A call returns a flag and puts out a list, which may be empty. `Calls f s out s'`: from `s` on, the
calls up to the first that returns false have put out `out` together and left `s'`.
-/

namespace Until

variable {σ β : Type}

inductive Calls (f : σ → Bool × List β × σ) : σ → List β → σ → Prop
  | last {s s' : σ} {out : List β} : f s = (false, out, s') → Calls f s out s'
  | again {s s₁ s' : σ} {out outs : List β} : f s = (true, out, s₁) → Calls f s₁ outs s' →
    Calls f s (out ++ outs) s'

variable {f : σ → Bool × List β × σ}

/-- The calls come to one end. -/
theorem Calls.unique {s s₁ s₂ : σ} {out₁ out₂ : List β} (h₁ : Calls f s out₁ s₁)
    (h₂ : Calls f s out₂ s₂) : out₁ = out₂ ∧ s₁ = s₂ := by
  induction h₁ generalizing out₂ s₂ with
  | last hf =>
    cases h₂ with
    | last hf' =>
      cases hf.symm.trans hf'
      exact ⟨rfl, rfl⟩
    | again hf' _ => cases hf.symm.trans hf'
  | again hf _ ih =>
    cases h₂ with
    | last hf' => cases hf.symm.trans hf'
    | again hf' h₂ =>
      cases hf.symm.trans hf'
      obtain ⟨rfl, rfl⟩ := ih h₂
      exact ⟨rfl, rfl⟩

/-- **The variant rule**: calls that return true only where a variant gets smaller come to an
end. -/
theorem calls_end {P : σ → Prop} (variant : σ → Nat)
    (hstep : ∀ s out s', P s → f s = (true, out, s') → P s' ∧ variant s' < variant s) :
    ∀ s, P s → ∃ out s', Calls f s out s' := by
  intro s
  induction hn : variant s using Nat.strongRecOn generalizing s with
  | _ n ih =>
  intro hP
  subst hn
  obtain ⟨b, out, s₁, hf⟩ : ∃ b out s₁, f s = (b, out, s₁) := ⟨_, _, _, rfl⟩
  cases b with
  | false => exact ⟨out, s₁, .last hf⟩
  | true =>
    obtain ⟨hP₁, hlt⟩ := hstep s out s₁ hP hf
    obtain ⟨outs, s', hcalls⟩ := ih _ hlt s₁ rfl hP₁
    exact ⟨_, s', .again hf hcalls⟩

end Until
