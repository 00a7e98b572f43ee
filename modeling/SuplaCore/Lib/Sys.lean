import Mathlib.Data.List.Basic

/-!
# Guarded machines

A machine with a guarded step function: `step s a` is `none` where the action `a` is not enabled.
Whatever the environment chooses (answers of the system, the thread that runs next) is part of the
action, so a run is a list of actions and a scenario can be evaluated (`run`).

`Reach M ok s`: some run leads to `s`, each step of which was taken where `ok` allows it. A
property of all runs is stated with `ok := Any`, a property of the runs that keep to a discipline
with that discipline.
-/

namespace Sys

structure Machine (σ α : Type) where
  init : σ → Prop
  step : σ → α → Option σ

variable {σ α : Type} {M : Machine σ α}

/-- No restriction on the steps of a run. -/
def Any : σ → α → Prop := fun _ _ => True

/-- The state after the given actions. -/
def Machine.run (M : Machine σ α) : σ → List α → Option σ
  | s, [] => some s
  | s, a :: as => (M.step s a).bind (M.run · as)

inductive Reach (M : Machine σ α) (ok : σ → α → Prop) : σ → Prop
  | init {s : σ} : M.init s → Reach M ok s
  | step {s s' : σ} {a : α} : Reach M ok s → ok s a → M.step s a = some s' → Reach M ok s'

/-- **The invariant rule**: what holds at the start and is kept by every allowed step holds in
every state reached. -/
theorem Reach.invariant {ok : σ → α → Prop} {P : σ → Prop} (hinit : ∀ s, M.init s → P s)
    (hstep : ∀ {s s' : σ} {a : α}, ok s a → P s → M.step s a = some s' → P s') {s : σ}
    (h : Reach M ok s) : P s := by
  induction h with
  | init h0 => exact hinit _ h0
  | step _ hok hs ih => exact hstep hok ih hs

/-- One more step, with the action named. -/
theorem Reach.act {ok : σ → α → Prop} {s s' : σ} (h : Reach M ok s) (a : α) (hok : ok s a)
    (hs : M.step s a = some s') : Reach M ok s' := .step h hok hs

/-- The runs of a machine from a given state on. -/
def Machine.startingAt (M : Machine σ α) (s₀ : σ) : Machine σ α := ⟨fun s => s = s₀, M.step⟩

/-- A run goes on from a state it has reached, with steps that keep to a narrower discipline. -/
theorem Reach.trans {ok ok' : σ → α → Prop} (hok : ∀ s a, ok' s a → ok s a) {s₁ s₂ : σ}
    (h : Reach M ok s₁) (h' : Reach (M.startingAt s₁) ok' s₂) : Reach M ok s₂ := by
  induction h' with
  | init heq => exact heq ▸ h
  | step _ ha hs ih => exact .step ih (hok _ _ ha) hs

/-- A run from a reached state stays within the reached states. -/
theorem Reach.run {s : σ} (h : Reach M Any s) :
    ∀ {as : List α} {s' : σ}, M.run s as = some s' → Reach M Any s' := by
  intro as
  induction as generalizing s with
  | nil =>
    intro s' hr
    cases hr
    exact h
  | cons a as ih =>
    intro s' hr
    obtain ⟨s₁, hs, hr⟩ := Option.bind_eq_some_iff.1 hr
    exact ih (.step h trivial hs) hr

/-- The state after the given actions, each of which passes the test `allow`. -/
def Machine.runWhere (M : Machine σ α) (allow : σ → α → Bool) : σ → List α → Option σ
  | s, [] => some s
  | s, a :: as => if allow s a then (M.step s a).bind (M.runWhere allow · as) else none

/-- A run whose actions pass a test that implies the discipline keeps to the discipline. -/
theorem Reach.runWhere {ok : σ → α → Prop} {allow : σ → α → Bool}
    (hallow : ∀ s a, allow s a = true → ok s a) : ∀ {as : List α} {s s' : σ},
    Reach M ok s → M.runWhere allow s as = some s' → Reach M ok s' := by
  intro as
  induction as with
  | nil =>
    intro s s' h hr
    cases hr
    exact h
  | cons a as ih =>
    intro s s' h hr
    rw [Machine.runWhere] at hr
    split at hr
    · rename_i ha
      obtain ⟨s₁, hs, hr⟩ := Option.bind_eq_some_iff.1 hr
      exact ih (.step h (hallow s a ha) hs) hr
    · cases hr

end Sys
