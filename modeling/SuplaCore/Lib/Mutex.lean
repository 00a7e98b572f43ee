import SuplaCore.Lib.Sys

/-!
# Threads under a recursive lock

A recursive lock with its owner and its depth, and threads that call operations. An operation is a
program of three instructions: take the lock, give it back, access something. A thread waits while
another one has the lock; a thread that gives back what it does not have makes an error, which the
lock survives.

`OneSection` is what a program has to be like: its accesses lie in one section under the lock, and
it gives back what it takes. If all programs are, no run has an error, one thread at a time is
within its section (`Inv.alone`), and the lock is free when all threads are idle (`Inv.free`).
-/

namespace Mutex

/-! ## The lock -/

structure RecLock (τ : Type) where
  owner : Option τ
  depth : Nat
  free_iff : owner = none ↔ depth = 0

variable {τ ρ Ω : Type} [DecidableEq τ]

namespace RecLock

def free : RecLock τ := ⟨none, 0, Iff.intro (fun _ => rfl) fun _ => rfl⟩

def held (t : τ) (d : Nat) : RecLock τ :=
  ⟨some t, d + 1, Iff.intro (fun h => nomatch h) fun h => nomatch h⟩

/-- How often a thread has the lock. -/
def depthOf (l : RecLock τ) (t : τ) : Nat := if l.owner = some t then l.depth else 0

/-- `none` while another thread has it. -/
def lock (l : RecLock τ) (t : τ) : Option (RecLock τ) :=
  match l.owner with
  | none => some (held t 0)
  | some u => if u = t then some (held t l.depth) else none

/-- `none` for a thread that does not have it. -/
def unlock (l : RecLock τ) (t : τ) : Option (RecLock τ) :=
  if l.owner = some t then
    match l.depth with
    | d + 2 => some (held t d)
    | _ => some free
  else none

@[simp] theorem depthOf_free (t : τ) : (free : RecLock τ).depthOf t = 0 := rfl

@[simp] theorem depthOf_held (t u : τ) (d : Nat) :
    (held t d).depthOf u = if t = u then d + 1 else 0 := by
  rw [depthOf]
  by_cases h : t = u
  · exact (if_pos (congrArg some h)).trans (if_pos h).symm
  · exact (if_neg fun hs => h (Option.some.inj hs)).trans (if_neg h).symm

theorem depthOf_eq_zero {l : RecLock τ} {t : τ} (h : l.owner ≠ some t) : l.depthOf t = 0 :=
  if_neg h

theorem owner_of_depthOf {l : RecLock τ} {t : τ} (h : 0 < l.depthOf t) : l.owner = some t := by
  apply Decidable.byContradiction
  intro hne
  rw [depthOf_eq_zero hne] at h
  exact Nat.lt_irrefl 0 h

theorem depthOf_unique {l : RecLock τ} {t u : τ} (ht : 0 < l.depthOf t) (hu : 0 < l.depthOf u) :
    t = u :=
  Option.some.inj ((owner_of_depthOf ht).symm.trans (owner_of_depthOf hu))

/-- A lock that nobody has is free. -/
theorem owner_eq_none {l : RecLock τ} (h : ∀ t, l.depthOf t = 0) : l.owner = none := by
  cases howner : l.owner with
  | none => rfl
  | some t =>
    have hdepth := h t
    rw [depthOf, if_pos howner] at hdepth
    rw [← howner]
    exact l.free_iff.mpr hdepth

theorem depthOf_lock {l l' : RecLock τ} {t : τ} (h : l.lock t = some l') (u : τ) :
    l'.depthOf u = if t = u then l.depthOf t + 1 else l.depthOf u := by
  unfold lock at h
  cases howner : l.owner with
  | none =>
    rw [howner, Option.some.injEq] at h
    have hzero : ∀ v, l.depthOf v = 0 := fun v => depthOf_eq_zero (howner ▸ nofun)
    rw [← h, depthOf_held, hzero, hzero]
  | some v =>
    simp only [howner] at h
    by_cases hv : v = t
    · subst hv
      rw [if_pos rfl, Option.some.injEq] at h
      rw [← h, depthOf_held]
      by_cases hu : v = u
      · rw [if_pos hu, if_pos hu, depthOf, if_pos howner]
      · rw [if_neg hu, if_neg hu, depthOf_eq_zero fun hs => hu (Option.some.inj (howner ▸ hs))]
    · rw [if_neg hv] at h
      cases h

theorem depthOf_unlock {l l' : RecLock τ} {t : τ} (h : l.unlock t = some l') (u : τ) :
    l'.depthOf u = if t = u then l.depthOf t - 1 else l.depthOf u := by
  unfold unlock at h
  by_cases howner : l.owner = some t
  · rw [if_pos howner] at h
    have hother : ¬ t = u → l.depthOf u = 0 := fun hu =>
      depthOf_eq_zero fun hs => hu (Option.some.inj (howner.symm.trans hs))
    have hself : l.depthOf t = l.depth := if_pos howner
    rw [hself]
    match hdepth : l.depth with
    | 0 | 1 =>
      rw [hdepth, Option.some.injEq] at h
      rw [← h, depthOf_free]
      split
      · rfl
      · rename_i hu
        rw [hother hu]
    | d + 2 =>
      rw [hdepth, Option.some.injEq] at h
      rw [← h, depthOf_held]
      split
      · rfl
      · rename_i hu
        rw [hother hu]
  · rw [if_neg howner] at h
    cases h

theorem unlock_of_depthOf {l : RecLock τ} {t : τ} (h : 0 < l.depthOf t) :
    ∃ l', l.unlock t = some l' := by
  rw [unlock, if_pos (owner_of_depthOf h)]
  split <;> exact ⟨_, rfl⟩

theorem unlock_eq_none {l : RecLock τ} {t : τ} (h : l.depthOf t = 0) : l.unlock t = none := by
  rw [unlock, if_neg]
  intro howner
  rw [depthOf, if_pos howner] at h
  rw [l.free_iff.mpr h] at howner
  cases howner

end RecLock

/-! ## Programs and threads -/

/-- An instruction; `ρ` names what is accessed. -/
inductive Instr (ρ : Type)
  | lock
  | unlock
  | access (r : ρ)
  deriving DecidableEq

/-- What a thread has done of its operation, and what is left of it. -/
structure Thread (ρ : Type) where
  past : List (Instr ρ)
  rest : List (Instr ρ)

/-- Between the first access and the last one, both included. -/
def Thread.Accessing (r : ρ) (th : Thread ρ) : Prop :=
  .access r ∈ th.rest ∧ (.access r ∈ th.past ∨ th.rest.head? = some (.access r))

structure State (τ ρ : Type) where
  lock : RecLock τ
  threads : τ → Thread ρ
  /-- The threads that gave back a lock they did not have. -/
  errors : List τ

/-- A call of the operation `op`, or the next instruction of a thread. -/
inductive Act (τ Ω : Type)
  | call (t : τ) (op : Ω)
  | next (t : τ)

def State.setThread (s : State τ ρ) (t : τ) (th : Thread ρ) : State τ ρ :=
  { s with threads := fun u => if t = u then th else s.threads u }

/-- The next instruction of thread `t`, whose program goes on with `rest` after it. -/
def State.exec (s : State τ ρ) (t : τ) (i : Instr ρ) (rest : List (Instr ρ)) :
    Option (State τ ρ) :=
  let s' := s.setThread t ⟨(s.threads t).past ++ [i], rest⟩
  match i with
  | .lock => (s.lock.lock t).map fun l => { s' with lock := l }
  | .unlock =>
    match s.lock.unlock t with
    | some l => some { s' with lock := l }
    | none => some { s' with errors := t :: s.errors }
  | .access _ => some s'

/-- Threads that call operations, each one when it is idle. -/
def machine (program : Ω → List (Instr ρ)) : Sys.Machine (State τ ρ) (Act τ Ω) where
  init s := s.lock.owner = none ∧ (∀ t, (s.threads t).rest = []) ∧ s.errors = []
  step s
    | .call t op =>
      match (s.threads t).rest with
      | [] => some (s.setThread t ⟨[], program op⟩)
      | _ :: _ => none
    | .next t =>
      match (s.threads t).rest with
      | [] => none
      | i :: rest => s.exec t i rest

/-! ## One section -/

/-- What is left of a program whose accesses lie in one section, at a depth of the lock. -/
def OneSection : Nat → List (Instr ρ) → Prop
  | d, [] => d = 0
  | d, .lock :: p => OneSection (d + 1) p
  | 0, .unlock :: _ => False
  | d + 1, .unlock :: p => OneSection d p ∧ (d = 0 → ∀ r, .access r ∉ p)
  | 0, .access _ :: _ => False
  | d + 1, .access _ :: p => OneSection (d + 1) p

/-- Accesses between one lock and one unlock. -/
theorem oneSection_accesses (rs : List ρ) :
    OneSection 0 (.lock :: (rs.map Instr.access ++ [.unlock])) := by
  rw [OneSection]
  induction rs with
  | nil => exact ⟨rfl, fun _ _ => List.not_mem_nil⟩
  | cons r rs ih => exact ih

/-- What holds in every run of programs of one section. -/
structure Inv (s : State τ ρ) : Prop where
  sections : ∀ t, OneSection (s.lock.depthOf t) (s.threads t).rest
  ended : ∀ t, s.lock.depthOf t = 0 → ∀ r r', .access r ∈ (s.threads t).past →
    .access r' ∉ (s.threads t).rest
  errors : s.errors = []

variable {s s' : State τ ρ} {program : Ω → List (Instr ρ)}

theorem Inv.depth_of_accessing (h : Inv s) {t : τ} {r : ρ} (ha : (s.threads t).Accessing r) :
    0 < s.lock.depthOf t := by
  apply Nat.pos_of_ne_zero
  intro hzero
  rcases ha with ⟨hrest, hpast | hhead⟩
  · exact h.ended t hzero r r hpast hrest
  · have hsection := h.sections t
    rw [hzero] at hsection
    match hthread : (s.threads t).rest with
    | [] =>
      rw [hthread] at hhead
      cases hhead
    | i :: p =>
      rw [hthread, List.head?_cons, Option.some.injEq] at hhead
      rw [hthread, hhead] at hsection
      exact hsection

/-- **Mutual exclusion** -/
theorem Inv.alone (h : Inv s) {t u : τ} {r r' : ρ} (ht : (s.threads t).Accessing r)
    (hu : (s.threads u).Accessing r') : t = u :=
  RecLock.depthOf_unique (h.depth_of_accessing ht) (h.depth_of_accessing hu)

theorem Inv.idle (h : Inv s) {t : τ} (hidle : (s.threads t).rest = []) : s.lock.depthOf t = 0 := by
  have hsection := h.sections t
  rwa [hidle] at hsection

/-- The lock is free when all threads are idle. -/
theorem Inv.free (h : Inv s) (hidle : ∀ t, (s.threads t).rest = []) : s.lock.owner = none :=
  RecLock.owner_eq_none fun t => h.idle (hidle t)

theorem Inv.init (h : (machine program).init s) : Inv s := by
  obtain ⟨howner, hidle, herrors⟩ := h
  have hzero : ∀ t, s.lock.depthOf t = 0 := fun t => RecLock.depthOf_eq_zero (howner ▸ nofun)
  refine ⟨fun t => ?_, fun t _ r r' _ hr => ?_, herrors⟩
  · rw [hzero, hidle]
    rfl
  · rw [hidle] at hr
    cases hr

/-- A step of one thread, with what it makes of the thread and the lock. -/
theorem Inv.update (h : Inv s) {t : τ} {th : Thread ρ} {l : RecLock τ}
    (hother : ∀ u, t ≠ u → l.depthOf u = s.lock.depthOf u)
    (hsection : OneSection (l.depthOf t) th.rest)
    (hended : l.depthOf t = 0 → ∀ r r', .access r ∈ th.past → .access r' ∉ th.rest) :
    Inv { s.setThread t th with lock := l } where
  sections u := by
    by_cases hu : t = u
    · subst hu
      simpa only [State.setThread, if_true] using hsection
    · simpa only [State.setThread, if_neg hu, hother u hu] using h.sections u
  ended u := by
    by_cases hu : t = u
    · subst hu
      simpa only [State.setThread, if_true] using hended
    · simpa only [State.setThread, if_neg hu, hother u hu] using h.ended u
  errors := h.errors

theorem Inv.exec (h : Inv s) {t : τ} {i : Instr ρ} {rest : List (Instr ρ)}
    (hrest : (s.threads t).rest = i :: rest) (hs : s.exec t i rest = some s') : Inv s' := by
  have hsection := h.sections t
  rw [hrest] at hsection
  cases i with
  | lock =>
    obtain ⟨l, hl, rfl⟩ := Option.map_eq_some_iff.mp hs
    have hdepth := RecLock.depthOf_lock hl
    refine h.update (fun u hu => (hdepth u).trans (if_neg hu)) ?_ fun hzero => ?_
    · rw [hdepth, if_pos rfl]
      exact hsection
    · rw [hdepth, if_pos rfl] at hzero
      cases hzero
  | unlock =>
    match hd : s.lock.depthOf t with
    | 0 =>
      rw [hd] at hsection
      exact hsection.elim
    | d + 1 =>
      rw [hd] at hsection
      obtain ⟨l, hl⟩ := RecLock.unlock_of_depthOf (hd ▸ Nat.succ_pos d)
      have hdepth := RecLock.depthOf_unlock hl
      simp only [State.exec, hl, Option.some.injEq] at hs
      subst hs
      have hself : l.depthOf t = d := by
        rw [hdepth, if_pos rfl, hd]
        rfl
      refine h.update (fun u hu => (hdepth u).trans (if_neg hu)) ?_ fun hzero => ?_
      · rw [hself]
        exact hsection.1
      · exact fun r r' _ => hsection.2 (hself ▸ hzero) r'
  | access r =>
    cases hs
    match hd : s.lock.depthOf t with
    | 0 =>
      rw [hd] at hsection
      exact hsection.elim
    | d + 1 =>
      rw [hd] at hsection
      refine h.update (fun _ _ => rfl) (hd ▸ hsection) fun hzero => ?_
      rw [hd] at hzero
      cases hzero

theorem Inv.step (h : Inv s) {a : Act τ Ω} (hprogram : ∀ t op, a = .call t op →
    OneSection 0 (program op)) (hs : (machine program).step s a = some s') : Inv s' := by
  cases a with
  | call t op =>
    simp only [machine] at hs
    split at hs
    · rename_i hidle
      cases hs
      refine h.update (fun _ _ => rfl) ?_ fun _ r _ hpast => nomatch hpast
      rw [h.idle hidle]
      exact hprogram t op rfl
    · cases hs
  | next t =>
    simp only [machine] at hs
    split at hs
    · cases hs
    · rename_i i rest hrest
      exact h.exec hrest hs

end Mutex
