import SuplaCore.Async.Life

/-!
# The life cycle of a task

`TaskInv s i` says everything about one task: what the threads that refer to it may find, that at
most one of them is inside `execute`, and what the observers have been told. A step is about one
task, the others keep their invariant (`TaskInv.other`). It holds in the runs that keep to
`Orderly`: no `cancel` of a task that has succeeded, failed or timed out, none between the section
of `execute` that sets EXECUTING and `_execute`, and no pick of a task that another thread has not
left `execute` for. `life_cycle` reads the life cycle off it; `cancel_after_success`
is a run outside of it.
-/

namespace Async

open Sys

namespace LifePc

/-- The task whose `execute` a thread is in. -/
def inside : LifePc → Option Nat
  | .picked i => some i
  | .begun i => some i
  | .running i => some i
  | .tail i => some i
  | .check i => some i
  | .note i => some i
  | _ => none

theorem holds_of_inside {p : LifePc} {i : Nat} (h : p.inside = some i) : p.holds = some i := by
  cases p <;> first | exact h | cases h

end LifePc

/-- **The discipline** of callers of `cancel` and of pool threads. -/
def Orderly (s : Life) : LifeAct → Prop
  | .cancel i => (s.tasks i).state ≠ .success ∧ (s.tasks i).state ≠ .failure ∧
      (s.tasks i).state ≠ .timeout ∧ ∀ th, s.threads th ≠ .begun i
  | .pick _ i _ _ _ => ∀ th, (s.threads th).inside ≠ some i
  | _ => True

/-- What the observers have been told about a task. -/
def Life.notes (s : Life) (i : Nat) : List Note := s.log.filter fun n => n.task = i

/-- What a thread that refers to the task `t` may find; `A`: the start has been announced. -/
def Fits (A : Prop) (t : Task) : LifePc → Prop
  | .idle => True
  | .started _ => t.state ≠ .init ∧ ¬ A
  | .add _ => t.state ≠ .init ∧ A
  | .picked _ => (t.state = .picked ∨ t.state = .canceled) ∧ A
  | .begun _ => t.state = .executing ∧ A
  | .running _ => (t.state = .executing ∨ t.state = .canceled) ∧ A
  | .tail _ => A
  | .check _ => A
  | .note _ => t.observable = true ∧ t.observerNotified = false ∧ A
  | .putAway _ => A

/-- A thread that refers to a task whose start has not been announced has just started it. -/
theorem Fits.eq_started {A : Prop} {t : Task} {p : LifePc} {i : Nat} (h : Fits A t p) (hA : ¬ A)
    (hp : p.holds = some i) : p = .started i := by
  cases p with
  | idle => cases hp
  | started j =>
    cases hp
    rfl
  | add j => exact absurd h.2 hA
  | picked j => exact absurd h.2 hA
  | begun j => exact absurd h.2 hA
  | running j => exact absurd h.2 hA
  | tail j => exact absurd h hA
  | check j => exact absurd h hA
  | note j => exact absurd h.2.2 hA
  | putAway j => exact absurd h hA

/-- The notes about a task with the flag `observer_notified`. -/
def told (i : Nat) (notified : Bool) : List Note :=
  .started i :: if notified then [.finished i] else []

structure TaskInv (s : Life) (i : Nat) : Prop where
  refers : ∀ th, (s.threads th).holds = some i →
    th < s.threadCount ∧ s.alive i = true ∧ Fits (.started i ∈ s.notes i) (s.tasks i) (s.threads th)
  queued : i ∈ s.queue → s.alive i = true ∧ (s.tasks i).state ≠ .init ∧ .started i ∈ s.notes i
  inside : ∀ th th', (s.threads th).inside = some i → (s.threads th').inside = some i → th = th'
  starter : ∀ th th', s.threads th = .started i → s.threads th' = .started i → th = th'
  unborn : s.created ≤ i → s.notes i = [] ∧ s.destroyed i = false
  silent : s.alive i = true → .started i ∉ s.notes i →
    s.notes i = [] ∧ (s.tasks i).observerNotified = false
  init : s.alive i = true → (s.tasks i).state = .init → .started i ∉ s.notes i
  told : s.alive i = true → .started i ∈ s.notes i →
    s.notes i = Async.told i (s.tasks i).observerNotified
  ended : s.destroyed i = true → .started i ∈ s.notes i → (s.tasks i).observable = true →
    s.notes i = [.started i, .finished i]

section
variable {s s' : Life} {i k : Nat}

/-- A step that is about another task. -/
theorem TaskInv.other (h : TaskInv s i)
    (hth : ∀ th, s'.threads th = s.threads th ∨
      ((s.threads th).holds ≠ some i ∧ (s'.threads th).holds ≠ some i))
    (hcount : s'.threadCount = s.threadCount) (htask : s'.tasks i = s.tasks i)
    (hdes : s'.destroyed i = s.destroyed i) (hcre : s'.created ≤ i ↔ s.created ≤ i)
    (hq : i ∈ s'.queue → i ∈ s.queue) (hlog : s'.notes i = s.notes i) : TaskInv s' i := by
  have hlt : (i < s'.created) = (i < s.created) := propext (by omega)
  have halive : s'.alive i = s.alive i := by simp only [Life.alive, hdes, hlt]
  have hsame : ∀ {th}, (s'.threads th).holds = some i → s'.threads th = s.threads th :=
    fun hh => (hth _).resolve_right fun hn => hn.2 hh
  refine ⟨fun th hh => ?_, fun hi => ?_, fun th th' hi hi' => ?_, fun th th' hi hi' => ?_,
    ?_, ?_, ?_, ?_, ?_⟩
  · rw [hcount, halive, hlog, htask, hsame hh]
    rw [hsame hh] at hh
    exact h.refers th hh
  · rw [halive, hlog, htask]
    exact h.queued (hq hi)
  · rw [hsame (LifePc.holds_of_inside hi)] at hi
    rw [hsame (LifePc.holds_of_inside hi')] at hi'
    exact h.inside th th' hi hi'
  · have e := @hsame th (by rw [hi]; rfl)
    have e' := @hsame th' (by rw [hi']; rfl)
    exact h.starter th th' (e ▸ hi) (e' ▸ hi')
  · rw [hlog, hdes]
    exact fun hc => h.unborn (hcre.1 hc)
  · rw [halive, hlog, htask]
    exact h.silent
  · rw [halive, hlog, htask]
    exact h.init
  · rw [halive, hlog, htask]
    exact h.told
  · rw [hdes, hlog, htask]
    exact h.ended

theorem notes_append (n : Note) (l : List Note) (i : Nat) :
    (l ++ [n]).filter (fun n => n.task = i) =
      l.filter (fun n => n.task = i) ++ if n.task = i then [n] else [] := by
  rw [List.filter_append]
  by_cases h : n.task = i <;> simp [h]

/-! ## What a change of the task does to the threads that refer to it -/

theorem Fits.keep {A : Prop} {t t' : Task} {p : LifePc} (h : Fits A t p)
    (hs : t'.state = t.state) (ho : t'.observable = t.observable)
    (hn : t'.observerNotified = t.observerNotified) : Fits A t' p := by
  cases p <;> simp only [Fits, hs, ho, hn] at h ⊢ <;> exact h

/-- Threads outside `execute` only ask that the task has been started. -/
theorem Fits.outside {A : Prop} {t t' : Task} {p : LifePc} (h : Fits A t p)
    (hp : p.inside = none) (hs : t.state ≠ .init → t'.state ≠ .init) : Fits A t' p := by
  cases p with
  | started j => exact ⟨hs h.1, h.2⟩
  | add j => exact ⟨hs h.1, h.2⟩
  | putAway j => exact h
  | idle => trivial
  | _ => cases hp

theorem Fits.cancel {A : Prop} {t : Task} {p : LifePc} (h : Fits A t p)
    (hp : ∀ j, p ≠ .begun j) : Fits A t.cancel p := by
  cases p with
  | started j => exact ⟨nofun, h.2⟩
  | add j => exact ⟨nofun, h.2⟩
  | picked j => exact ⟨.inr rfl, h.2⟩
  | begun j => exact absurd rfl (hp j)
  | running j => exact ⟨.inr rfl, h.2⟩
  | _ => exact h

/-! ## Threads -/

theorem inside_setThread {th : Nat} {p : LifePc}
    (h : ∀ a b, (s.threads a).inside = some i → (s.threads b).inside = some i → a = b)
    (hp : p.inside = some i → (s.threads th).inside = some i ∨
      ∀ a, (s.threads a).inside ≠ some i) :
    ∀ a b, ((s.setThread th p).threads a).inside = some i →
      ((s.setThread th p).threads b).inside = some i → a = b := by
  intro a b ha hb
  simp only [Life.setThread] at ha hb
  split at ha <;> split at hb
  · rename_i h₁ h₂
    exact h₁.trans h₂.symm
  · rename_i h₁ _
    rcases hp ha with hin | hnone
    · exact h₁.trans (h _ _ hin hb)
    · exact absurd hb (hnone b)
  · rename_i _ h₂
    rcases hp hb with hin | hnone
    · exact (h _ _ ha hin).trans h₂.symm
    · exact absurd ha (hnone a)
  · exact h _ _ ha hb

theorem starter_setThread {th : Nat} {p : LifePc}
    (h : ∀ a b, s.threads a = .started i → s.threads b = .started i → a = b)
    (hp : p = .started i → ∀ a, s.threads a ≠ .started i) :
    ∀ a b, (s.setThread th p).threads a = .started i →
      (s.setThread th p).threads b = .started i → a = b := by
  intro a b ha hb
  simp only [Life.setThread] at ha hb
  split at ha <;> split at hb
  · rename_i h₁ h₂
    exact h₁.trans h₂.symm
  · exact absurd hb (hp ha b)
  · exact absurd ha (hp hb a)
  · exact h _ _ ha hb

/-- A step about the task `i` itself that tells the observers nothing: the task becomes `t`, the
thread `th` goes to `p`. -/
theorem TaskInv.move {t : Task} {th : Nat} {p : LifePc} (h : TaskInv s i)
    (halive : s.alive i = true)
    (hobs : t.observable = (s.tasks i).observable)
    (hnot : t.observerNotified = (s.tasks i).observerNotified)
    (hinit : t.state = .init → (s.tasks i).state = .init)
    (hinit' : (s.tasks i).state ≠ .init → t.state ≠ .init)
    (hothers : ∀ a, a ≠ th → (s.threads a).holds = some i →
      Fits (.started i ∈ s.notes i) (s.tasks i) (s.threads a) →
      Fits (.started i ∈ s.notes i) t (s.threads a))
    (hfits : p.holds = some i → th < s.threadCount ∧ Fits (.started i ∈ s.notes i) t p)
    (hin : p.inside = some i → (s.threads th).inside = some i ∨
      ∀ a, (s.threads a).inside ≠ some i)
    (hstart : p = .started i → ∀ a, s.threads a ≠ .started i) :
    TaskInv ((s.setTask i t).setThread th p) i := by
  have htask : ((s.setTask i t).setThread th p).tasks i = t := by
    simp [Life.setTask, Life.setThread]
  refine ⟨fun a ha => ?_, fun hq => ?_, inside_setThread h.inside hin,
    starter_setThread h.starter hstart, h.unborn, fun _ hs => ?_, fun _ hs => ?_, fun _ hs => ?_,
    fun hd => ?_⟩
  · rw [htask]
    simp only [Life.setThread, Life.setTask] at ha ⊢
    split at ha
    · rename_i e
      rw [if_pos e, e]
      exact ⟨(hfits ha).1, halive, (hfits ha).2⟩
    · rename_i e
      rw [if_neg e]
      obtain ⟨hc, -, hf⟩ := h.refers a ha
      exact ⟨hc, halive, hothers a e ha hf⟩
  · rw [htask]
    obtain ⟨-, hs, hn⟩ := h.queued hq
    exact ⟨halive, hinit' hs, hn⟩
  · rw [htask, hnot]
    exact h.silent halive hs
  · rw [htask] at hs
    exact h.init halive (hinit hs)
  · rw [htask, hnot]
    exact h.told halive hs
  · rw [htask, hobs]
    exact h.ended hd

/-- No other thread is inside `execute` of a task that `th` is inside of. -/
theorem TaskInv.othersOutside {th a : Nat} (h : TaskInv s i)
    (hth : (s.threads th).inside = some i) (ha : a ≠ th) (hh : (s.threads a).holds = some i) :
    (s.threads a).inside = none := by
  have hne : (s.threads a).inside ≠ some i := fun hin => ha (h.inside a th hin hth)
  cases hp : s.threads a <;> rw [hp] at hne hh <;>
    first | rfl | (exact absurd hh hne)

theorem setTask_self : s.setTask i (s.tasks i) = s := by
  have : (fun j => if j = i then s.tasks i else s.tasks j) = s.tasks := by
    funext j
    split
    · rename_i e
      rw [e]
    · rfl
  simp only [Life.setTask, this]

/-- A thread goes on and the task stays as it is. -/
theorem TaskInv.goTo {th : Nat} {p : LifePc} (h : TaskInv s i) (halive : s.alive i = true)
    (hfits : p.holds = some i → th < s.threadCount ∧ Fits (.started i ∈ s.notes i) (s.tasks i) p)
    (hin : p.inside = some i → (s.threads th).inside = some i ∨
      ∀ a, (s.threads a).inside ≠ some i)
    (hstart : p ≠ .started i) : TaskInv (s.setThread th p) i := by
  have hmove := h.move halive rfl rfl id id (fun _ _ _ hf => hf) hfits hin
    fun hp => absurd hp hstart
  rw [setTask_self] at hmove
  exact hmove

/-- The task changes and no thread goes on. -/
theorem TaskInv.change {t : Task} (h : TaskInv s i) (halive : s.alive i = true)
    (hobs : t.observable = (s.tasks i).observable)
    (hnot : t.observerNotified = (s.tasks i).observerNotified)
    (hinit : t.state = .init → (s.tasks i).state = .init)
    (hinit' : (s.tasks i).state ≠ .init → t.state ≠ .init)
    (hfits : ∀ a, (s.threads a).holds = some i →
      Fits (.started i ∈ s.notes i) (s.tasks i) (s.threads a) →
      Fits (.started i ∈ s.notes i) t (s.threads a)) : TaskInv (s.setTask i t) i := by
  refine ⟨fun a ha => ?_, fun hq => ?_, h.inside, h.starter, h.unborn, fun _ hs => ?_,
    fun _ hs => ?_, fun _ hs => ?_, fun hd => ?_⟩ <;>
    simp only [Life.setTask, if_true] at *
  · obtain ⟨hc, -, hf⟩ := h.refers a ha
    exact ⟨hc, halive, hfits a ha hf⟩
  · obtain ⟨-, hs, hn⟩ := h.queued hq
    exact ⟨halive, hinit' hs, hn⟩
  · rw [hnot]
    exact h.silent halive hs
  · exact h.init halive (hinit hs)
  · rw [hnot]
    exact h.told halive hs
  · rw [hobs]
    exact h.ended hd

theorem TaskInv.requeue {q : List Nat} (h : TaskInv s i)
    (hq : i ∈ q → i ∈ s.queue ∨
      (s.alive i = true ∧ (s.tasks i).state ≠ .init ∧ .started i ∈ s.notes i)) :
    TaskInv { s with queue := q } i :=
  ⟨h.refers, fun hi => (hq hi).elim h.queued id, h.inside, h.starter, h.unborn, h.silent, h.init,
    h.told, h.ended⟩

/-- A task changes and a thread that refers to it goes on: the other tasks. -/
theorem TaskInv.moveOther {t : Task} {th : Nat} {p : LifePc} (h : TaskInv s i) (hik : i ≠ k)
    (hold : (s.threads th).holds ≠ some i) (hp : p.holds ≠ some i) :
    TaskInv ((s.setTask k t).setThread th p) i := by
  refine h.other (fun a => ?_) rfl ?_ rfl Iff.rfl id rfl
  · simp only [Life.setThread, Life.setTask]
    split
    · rename_i e
      exact .inr ⟨e ▸ hold, hp⟩
    · exact .inl rfl
  · simp only [Life.setThread, Life.setTask]
    exact if_neg hik

theorem TaskInv.goToOther {th : Nat} {p : LifePc} (h : TaskInv s i)
    (hold : (s.threads th).holds ≠ some i) (hp : p.holds ≠ some i) :
    TaskInv (s.setThread th p) i := by
  refine h.other (fun a => ?_) rfl rfl rfl Iff.rfl id rfl
  simp only [Life.setThread]
  split
  · rename_i e
    exact .inr ⟨e ▸ hold, hp⟩
  · exact .inl rfl

theorem notes_other {n : Note} (h : n.task ≠ i) :
    ({ s with log := s.log ++ [n] } : Life).notes i = s.notes i := by
  simp only [Life.notes, notes_append, if_neg h, List.append_nil]

theorem notes_own {n : Note} (h : n.task = i) :
    ({ s with log := s.log ++ [n] } : Life).notes i = s.notes i ++ [n] := by
  simp only [Life.notes, notes_append, if_pos h]

/-- The observers are told about another task. -/
theorem TaskInv.tellOther {n : Note} (h : TaskInv s i) (hn : n.task ≠ i) :
    TaskInv { s with log := s.log ++ [n] } i :=
  h.other (fun _ => .inl rfl) rfl rfl rfl Iff.rfl id (notes_other hn)

/-! ## The steps of a thread -/

section
variable {th : Nat}

/-- `on_task_started`. -/
theorem TaskInv.announce (h : TaskInv s i) (hth : s.threads th = .started i) :
    TaskInv ({ s with log := s.log ++ [Note.started i] }.setThread th (.add i)) i := by
  obtain ⟨hc, halive, hs, hA⟩ : _ ∧ _ ∧ Fits _ _ (.started i) :=
    hth ▸ h.refers th (by rw [hth]; rfl)
  have hnotes : ({ s with log := s.log ++ [Note.started i] }.setThread th (.add i)).notes i =
      [Note.started i] := by
    refine (notes_own (n := .started i) rfl).trans ?_
    change s.notes i ++ [Note.started i] = _
    rw [(h.silent halive hA).1]
    rfl
  have hnone : ∀ a, a ≠ th → (s.threads a).holds ≠ some i := by
    intro a ha hh
    obtain ⟨-, -, hf⟩ := h.refers a hh
    exact ha (h.starter a th (hf.eq_started hA hh) hth)
  have hdes : s.destroyed i = false := by
    simp only [Life.alive, decide_eq_true_eq] at halive
    exact halive.2
  refine ⟨fun a ha => ?_, fun hq => absurd (h.queued hq).2.2 hA, ?_, ?_, fun hcre => ?_,
    fun _ hn => ?_, fun _ hi => absurd hi hs, fun _ _ => ?_, fun hd => ?_⟩
  · rw [hnotes]
    simp only [Life.setThread] at ha ⊢
    split at ha
    · rename_i e
      rw [if_pos e, e]
      exact ⟨hc, halive, hs, List.mem_cons_self⟩
    · rename_i e
      exact absurd ha (hnone a e)
  · exact inside_setThread (s := { s with log := s.log ++ [Note.started i] }) h.inside nofun
  · exact starter_setThread (s := { s with log := s.log ++ [Note.started i] }) h.starter nofun
  · simp only [Life.alive, decide_eq_true_eq] at halive
    simp only [Life.setThread] at hcre
    omega
  · rw [hnotes] at hn
    exact absurd List.mem_cons_self hn
  · rw [hnotes]
    simp only [Life.setThread]
    rw [(h.silent halive hA).2]
    rfl
  · simp only [Life.setThread] at hd
    rw [hdes] at hd
    cases hd

/-- `queue->on_task_finished`, with the flag. -/
theorem TaskInv.tell (h : TaskInv s i) (hth : s.threads th = .note i) :
    TaskInv (({ s with log := s.log ++ [Note.finished i] }.setTask i
      { s.tasks i with observerNotified := true }).setThread th (.putAway i)) i := by
  obtain ⟨hc, halive, ho, hn, hA⟩ : _ ∧ _ ∧ Fits _ _ (.note i) :=
    hth ▸ h.refers th (by rw [hth]; rfl)
  have hin : (s.threads th).inside = some i := by rw [hth]; rfl
  have hnotes : (({ s with log := s.log ++ [Note.finished i] }.setTask i
      { s.tasks i with observerNotified := true }).setThread th (.putAway i)).notes i =
      [.started i, .finished i] := by
    refine (notes_own (n := .finished i) rfl).trans ?_
    change s.notes i ++ [Note.finished i] = _
    rw [h.told halive hA, hn]
    rfl
  have hA' : Note.started i ∈ [Note.started i, Note.finished i] := List.mem_cons_self
  have hdes : s.destroyed i = false := by
    simp only [Life.alive, decide_eq_true_eq] at halive
    exact halive.2
  refine ⟨fun a ha => ?_, fun hq => ?_, ?_, ?_, fun hcre => ?_, fun _ hs => ?_, fun _ hi => ?_,
    fun _ _ => ?_, fun hd => ?_⟩
  · rw [hnotes]
    simp only [Life.setThread, Life.setTask, if_true] at ha ⊢
    split at ha
    · rename_i e
      rw [if_pos e, e]
      exact ⟨hc, halive, hA'⟩
    · rename_i e
      rw [if_neg e]
      obtain ⟨hca, -, hf⟩ := h.refers a ha
      have hout := h.othersOutside hin e ha
      rw [eq_true hA] at hf
      rw [eq_true hA']
      exact ⟨hca, halive, hf.outside hout id⟩
  · rw [hnotes]
    simp only [Life.setThread, Life.setTask, if_true]
    exact ⟨halive, (h.queued hq).2.1, hA'⟩
  · refine inside_setThread (s := { s with log := s.log ++ [Note.finished i] }.setTask i _)
      h.inside fun hp => ?_
    cases hp
  · refine starter_setThread (s := { s with log := s.log ++ [Note.finished i] }.setTask i _)
      h.starter fun hp => ?_
    cases hp
  · simp only [Life.alive, decide_eq_true_eq] at halive
    simp only [Life.setThread, Life.setTask] at hcre
    omega
  · rw [hnotes] at hs
    exact absurd hA' hs
  · simp only [Life.setThread, Life.setTask, if_true] at hi
    exact absurd hA (h.init halive hi)
  · rw [hnotes]
    simp [Life.setThread, Life.setTask, Async.told]
  · simp only [Life.setThread, Life.setTask] at hd
    rw [hdes] at hd
    cases hd

/-! ## What the sections of `execute` do to a task -/

theorem executeBegin_fields (now : Int) (t : Task) :
    (t.executeBegin now).2.observable = t.observable ∧
      (t.executeBegin now).2.observerNotified = t.observerNotified ∧
      ((t.executeBegin now).2.state = .init → t.state = .init) ∧
      (t.state ≠ .init → (t.executeBegin now).2.state ≠ .init) ∧
      ((t.executeBegin now).1 = true → (t.executeBegin now).2.state = .executing) := by
  unfold Task.executeBegin
  split
  · split
    · exact ⟨rfl, rfl, nofun, nofun, nofun⟩
    · exact ⟨rfl, rfl, nofun, nofun, fun _ => rfl⟩
  · exact ⟨rfl, rfl, id, id, nofun⟩

theorem executeEnd_fields (now : Int) (again result : Bool) (t : Task) :
    (t.executeEnd now again result).observable = t.observable ∧
      (t.executeEnd now again result).observerNotified = t.observerNotified ∧
      ((t.executeEnd now again result).state = .init → t.state = .init) ∧
      (t.state ≠ .init → (t.executeEnd now again result).state ≠ .init) := by
  unfold Task.executeEnd
  split
  · split
    · exact ⟨rfl, rfl, nofun, nofun⟩
    · split <;> exact ⟨rfl, rfl, nofun, nofun⟩
  · exact ⟨rfl, rfl, id, id⟩

theorem nextStep_inv {now : Int} {again result : Bool} (h : ∀ i, TaskInv s i)
    (hs : s.nextStep th now again result = some s') (i : Nat) : TaskInv s' i := by
  unfold Life.nextStep at hs
  split at hs
  · cases hs
  · rename_i k hth
    cases hs
    by_cases hik : i = k
    · rw [hik]
      exact (h k).announce hth
    · exact ((h i).tellOther (n := .started k) (Ne.symm hik)).goToOther
        (by simp [hth, LifePc.holds, Ne.symm hik])
        (by simp [LifePc.holds, Ne.symm hik])
  · rename_i k hth
    cases hs
    by_cases hik : i = k
    · rw [hik]
      obtain ⟨-, halive, hf⟩ := (h k).refers th (by rw [hth]; rfl)
      rw [hth] at hf
      exact TaskInv.goTo ((h k).requeue fun _ => .inr ⟨halive, hf.1, hf.2⟩) halive nofun nofun nofun
    · refine TaskInv.goToOther ((h i).requeue fun hi => .inl ?_)
        (by simp [hth, LifePc.holds, Ne.symm hik]) nofun
      exact (Life.mem_insert.mp hi).resolve_left hik
  · rename_i k hth
    cases hs
    by_cases hik : i = k
    · rw [hik]
      obtain ⟨hc, halive, hf⟩ := (h k).refers th (by rw [hth]; rfl)
      rw [hth] at hf
      obtain ⟨hobs, hnot, hinit, hinit', hexec⟩ := executeBegin_fields now (s.tasks k)
      have hin : (s.threads th).inside = some k := by rw [hth]; rfl
      refine (h k).move halive hobs hnot hinit hinit' (fun a ha hh hfa => ?_) (fun _ => ⟨hc, ?_⟩)
        (fun _ => .inl hin) ?_
      · exact hfa.outside ((h k).othersOutside hin ha hh) hinit'
      · split
        · rename_i hb
          exact ⟨hexec hb, hf.2⟩
        · exact hf.2
      · split <;> nofun
    · refine (h i).moveOther hik (by simp [hth, LifePc.holds, Ne.symm hik]) ?_
      split <;> simp [LifePc.holds, Ne.symm hik]
  · rename_i k hth
    cases hs
    by_cases hik : i = k
    · rw [hik]
      obtain ⟨hc, halive, hf⟩ := (h k).refers th (by rw [hth]; rfl)
      rw [hth] at hf
      exact (h k).goTo halive (fun _ => ⟨hc, .inl hf.1, hf.2⟩)
        (fun _ => .inl (by rw [hth]; rfl)) nofun
    · exact (h i).goToOther (by simp [hth, LifePc.holds, Ne.symm hik])
        (by simp [LifePc.holds, Ne.symm hik])
  · rename_i k hth
    cases hs
    by_cases hik : i = k
    · rw [hik]
      obtain ⟨hc, halive, hf⟩ := (h k).refers th (by rw [hth]; rfl)
      rw [hth] at hf
      obtain ⟨hobs, hnot, hinit, hinit'⟩ := executeEnd_fields now again result (s.tasks k)
      have hin : (s.threads th).inside = some k := by rw [hth]; rfl
      refine (h k).move halive hobs hnot hinit hinit' (fun a ha hh hfa => ?_) (fun _ => ⟨hc, hf.2⟩)
        (fun _ => .inl hin) nofun
      exact hfa.outside ((h k).othersOutside hin ha hh) hinit'
    · exact (h i).moveOther hik (by simp [hth, LifePc.holds, Ne.symm hik])
        (by simp [LifePc.holds, Ne.symm hik])
  · rename_i k hth
    cases hs
    by_cases hik : i = k
    · rw [hik]
      obtain ⟨hc, halive, hf⟩ := (h k).refers th (by rw [hth]; rfl)
      rw [hth] at hf
      refine (h k).goTo halive (fun _ => ⟨hc, ?_⟩) (fun _ => .inl (by rw [hth]; rfl)) ?_
      · split <;> exact hf
      · split <;> nofun
    · refine (h i).goToOther (by simp [hth, LifePc.holds, Ne.symm hik]) ?_
      split <;> simp [LifePc.holds, Ne.symm hik]
  · rename_i k hth
    cases hs
    by_cases hik : i = k
    · rw [hik]
      obtain ⟨hc, halive, hf⟩ := (h k).refers th (by rw [hth]; rfl)
      rw [hth] at hf
      refine (h k).goTo halive (fun _ => ⟨hc, ?_⟩) (fun _ => .inl (by rw [hth]; rfl)) ?_
      · split
        · rename_i hob
          simp only [Bool.and_eq_true, Bool.not_eq_true'] at hob
          exact ⟨hob.1, hob.2, hf⟩
        · exact hf
      · split <;> nofun
    · refine (h i).goToOther (by simp [hth, LifePc.holds, Ne.symm hik]) ?_
      split <;> simp [LifePc.holds, Ne.symm hik]
  · rename_i k hth
    cases hs
    by_cases hik : i = k
    · rw [hik]
      exact (h k).tell hth
    · exact ((h i).tellOther (n := .finished k) (Ne.symm hik)).moveOther hik
        (by simp [hth, LifePc.holds, Ne.symm hik]) (by simp [LifePc.holds, Ne.symm hik])
  · rename_i k hth
    split at hs
    · cases hs
      have hrem : TaskInv { s with queue := s.queue.erase k } i :=
        (h i).requeue fun hi => .inl (List.mem_of_mem_erase hi)
      by_cases hik : i = k
      · rw [hik] at hrem ⊢
        obtain ⟨-, halive, -⟩ := (h k).refers th (by rw [hth]; rfl)
        exact hrem.goTo halive nofun nofun nofun
      · exact hrem.goToOther (by simp [hth, LifePc.holds, Ne.symm hik]) nofun
    · cases hs
      by_cases hik : i = k
      · rw [hik]
        obtain ⟨-, halive, -⟩ := (h k).refers th (by rw [hth]; rfl)
        exact (h k).move halive rfl rfl id id (fun _ _ _ hf => hf.keep rfl rfl rfl) nofun nofun
          nofun
      · exact (h i).moveOther hik (by simp [hth, LifePc.holds, Ne.symm hik]) nofun

end

/-! ## All steps -/

/-- A task that is not created yet is not known to anyone. -/
theorem TaskInv.create {t : Task} (h : TaskInv s s.created) (hnot : t.observerNotified = false) :
    TaskInv ({ s with created := s.created + 1 }.setTask s.created t) s.created := by
  obtain ⟨hnil, hdes⟩ := h.unborn (Nat.le_refl _)
  have hdead : s.alive s.created ≠ true := by simp [Life.alive]
  have hold : ∀ a, (s.threads a).holds ≠ some s.created := fun a hh =>
    hdead (h.refers a hh).2.1
  have hnotes : ({ s with created := s.created + 1 }.setTask s.created t).notes s.created = [] :=
    hnil
  refine ⟨fun a ha => absurd ha (hold a), fun hq => absurd (h.queued hq).1 hdead,
    fun a b ha => absurd (LifePc.holds_of_inside ha) (hold a), h.starter,
    fun hc => ⟨hnil, hdes⟩, fun _ _ => ⟨hnotes, ?_⟩, fun _ _ => ?_, fun _ hA => ?_,
    fun _ hA => ?_⟩
  · simp only [Life.setTask, if_true]
    exact hnot
  · rw [hnotes]
    nofun
  · rw [hnotes] at hA
    cases hA
  · rw [hnotes] at hA
    cases hA

/-- `start`: nobody else refers to a task that has not been started. -/
theorem TaskInv.start {th : Nat} (h : TaskInv s i) (hc : th < s.threadCount)
    (halive : s.alive i = true) (hst : (s.tasks i).start.1 = true) :
    TaskInv ((s.setTask i (s.tasks i).start.2).setThread th (.started i)) i := by
  have hinit : (s.tasks i).state = .init := by
    unfold Task.start at hst
    split at hst
    · assumption
    · cases hst
  have hstart : (s.tasks i).start.2 = { s.tasks i with state := .waiting } := by
    rw [Task.start, if_pos hinit]
  have hA := h.init halive hinit
  have hnone : ∀ a, (s.threads a).holds ≠ some i := by
    intro a hh
    obtain ⟨-, -, hf⟩ := h.refers a hh
    have hp := hf.eq_started hA hh
    rw [hp] at hf
    exact hf.1 hinit
  rw [hstart]
  refine h.move halive rfl rfl nofun nofun (fun a _ hh => absurd hh (hnone a))
    (fun _ => ⟨hc, nofun, hA⟩) nofun fun _ a ha => ?_
  exact hnone a (by rw [ha]; rfl)

/-- The queue's `pick`. -/
theorem TaskInv.pick {th : Nat} {t : Task} (h : TaskInv s i) (hc : th < s.threadCount)
    (hq : i ∈ s.queue) (hout : ∀ a, (s.threads a).inside ≠ some i)
    (hobs : t.observable = (s.tasks i).observable)
    (hnot : t.observerNotified = (s.tasks i).observerNotified)
    (hst : t.state = .picked ∨ t.state = .canceled) :
    TaskInv ((s.setTask i t).setThread th (.picked i)) i := by
  obtain ⟨halive, hs, hA⟩ := h.queued hq
  have hne : t.state ≠ .init := by
    rcases hst with hst | hst <;> rw [hst] <;> nofun
  refine h.move halive hobs hnot (fun hi => absurd hi hne) (fun _ => hne) (fun a _ hh hf => ?_)
    (fun _ => ⟨hc, hst, hA⟩) (fun _ => .inr hout) nofun
  refine hf.outside ?_ fun _ => hne
  have hna := hout a
  cases hp : s.threads a <;> rw [hp] at hna hh <;> first | rfl | exact absurd hh hna

theorem TaskInv.destroy (h : TaskInv s i) (halive : s.alive i = true) (hq : i ∉ s.queue)
    (href : s.referenced i = false) :
    TaskInv { s with
      destroyed := fun j => if j = i then true else s.destroyed j
      log := if (s.tasks i).observable && !(s.tasks i).observerNotified then
          s.log ++ [.finished i]
        else s.log } i := by
  have hnone : ∀ a, (s.threads a).holds ≠ some i := by
    intro a hh
    have hc := (h.refers a hh).1
    simp only [Life.referenced, List.any_eq_false, List.mem_range, decide_eq_true_eq] at href
    exact href a hc hh
  have hdead : ∀ l : List Note, ({ s with
      destroyed := fun j => if j = i then true else s.destroyed j
      log := l } : Life).alive i = false := by
    intro l
    simp [Life.alive]
  have hlt : i < s.created := by
    simp only [Life.alive, decide_eq_true_eq] at halive
    exact halive.1
  have hno : ∀ a, (s.threads a).inside ≠ some i := fun a ha =>
    hnone a (LifePc.holds_of_inside ha)
  refine ⟨fun a ha => absurd ha (hnone a), fun hi => absurd hi hq,
    fun a b ha => absurd ha (hno a), h.starter, fun hc => ?_, fun ha => ?_, fun ha => ?_,
    fun ha => ?_, fun _ hA ho => ?_⟩
  · simp only at hc
    omega
  · rw [hdead] at ha
    cases ha
  · rw [hdead] at ha
    cases ha
  · rw [hdead] at ha
    cases ha
  · simp only at ho
    cases hn : (s.tasks i).observerNotified with
    | true =>
      rw [ho, hn] at hA
      simp only [ho]
      have := h.told halive hA
      rw [hn] at this
      exact this
    | false =>
      rw [ho, hn] at hA
      simp only [ho]
      have hA₀ : Note.started i ∈ s.notes i := by
        have hmem : Note.started i ∈ s.notes i ++ [Note.finished i] :=
          notes_own (s := s) (n := .finished i) rfl ▸ hA
        simpa using hmem
      have hold := h.told halive hA₀
      rw [hn] at hold
      refine (notes_own (n := .finished i) rfl).trans ?_
      change s.notes i ++ [Note.finished i] = _
      rw [hold]
      rfl

theorem lifeInv_step {a : LifeAct} (hok : Orderly s a) (h : ∀ i, TaskInv s i)
    (hs : life.step s a = some s') (i : Nat) : TaskInv s' i := by
  cases a with
  | create t =>
    simp only [life, Life.step] at hs
    split at hs
    · rename_i ht
      cases hs
      by_cases hik : i = s.created
      · rw [hik]
        exact (h s.created).create ht.2
      · refine (h i).other (fun _ => .inl rfl) rfl ?_ rfl ?_ id rfl
        · simp [Life.setTask, hik]
        · simp only [Life.setTask]
          omega
    · cases hs
  | start th k =>
    simp only [life, Life.step] at hs
    split at hs
    · rename_i hg
      cases hs
      by_cases hik : i = k
      · rw [hik]
        exact (h k).start hg.1 hg.2.2.1 hg.2.2.2
      · exact (h i).moveOther hik (by rw [hg.2.1]; nofun) (by simp [LifePc.holds, Ne.symm hik])
    · cases hs
  | pick th k pool now canceled =>
    simp only [life, Life.step] at hs
    split at hs
    · rename_i hg
      obtain ⟨hc, hidle, hq, hw, -⟩ := hg
      cases hs
      by_cases hik : i = k
      · rw [hik]
        refine (h k).pick hc hq hok ?_ ?_ ?_ <;> cases canceled <;>
          simp [Task.pick, Task.cancel, hw]
      · exact (h i).moveOther hik (by rw [hidle]; nofun) (by simp [LifePc.holds, Ne.symm hik])
    · cases hs
  | next th now again result => exact nextStep_inv h hs i
  | delay k now delay =>
    simp only [life, Life.step] at hs
    split at hs
    · rename_i halive
      cases hs
      by_cases hik : i = k
      · rw [hik]
        exact (h k).change halive rfl rfl id id fun _ _ hf => hf.keep rfl rfl rfl
      · exact (h i).other (fun _ => .inl rfl) rfl (if_neg hik) rfl Iff.rfl id rfl
    · cases hs
  | cancel k =>
    simp only [life, Life.step] at hs
    split at hs
    · rename_i halive
      cases hs
      by_cases hik : i = k
      · rw [hik]
        refine (h k).change halive rfl rfl nofun nofun fun a hh hf => hf.cancel fun j hj => ?_
        rw [hj] at hh
        cases hh
        exact hok.2.2.2 a hj
      · exact (h i).other (fun _ => .inl rfl) rfl (if_neg hik) rfl Iff.rfl id rfl
    · cases hs
  | remove k =>
    cases hs
    exact (h i).requeue fun hi => .inl (List.mem_of_mem_erase hi)
  | destroy k =>
    simp only [life, Life.step] at hs
    split at hs
    · rename_i hg
      obtain ⟨halive, hq, href⟩ := hg
      cases hs
      by_cases hik : i = k
      · rw [hik]
        exact (h k).destroy halive hq href
      · refine (h i).other (fun _ => .inl rfl) rfl rfl (if_neg hik) Iff.rfl id ?_
        split
        · exact notes_other (Ne.symm hik)
        · rfl
    · cases hs

/-! ## Finished tasks stay as they are -/

theorem setTask_state {t : Task} (hk : (s.tasks k).isFinished = true → t.state = (s.tasks k).state)
    (hf : (s.tasks i).isFinished = true) :
    ((s.setTask k t).tasks i).state = (s.tasks i).state := by
  simp only [Life.setTask]
  split
  · rename_i e
    subst e
    exact hk hf
  · rfl

theorem nextStep_state {th : Nat} {now : Int} {again result : Bool} (h : ∀ i, TaskInv s i)
    (hs : s.nextStep th now again result = some s') (hf : (s.tasks i).isFinished = true) :
    (s'.tasks i).state = (s.tasks i).state := by
  unfold Life.nextStep at hs
  split at hs
  · cases hs
  · cases hs
    rfl
  · cases hs
    rfl
  · rename_i k hth
    cases hs
    refine setTask_state (fun hk => ?_) hf
    unfold Task.executeBegin
    split
    · rename_i hp
      rw [Task.isFinished, hp] at hk
      cases hk
    · rfl
  · cases hs
    rfl
  · rename_i k hth
    cases hs
    refine setTask_state (fun hk => ?_) hf
    obtain ⟨-, -, hfits⟩ := (h k).refers th (by rw [hth]; rfl)
    rw [hth] at hfits
    rcases hfits.1 with he | he
    · rw [Task.isFinished, he] at hk
      cases hk
    · rw [Task.executeEnd, if_neg (by simp [he])]
  · cases hs
    rfl
  · cases hs
    rfl
  · cases hs
    exact setTask_state (s := { s with log := s.log ++ _ }) (fun _ => rfl) hf
  · split at hs
    · cases hs
      rfl
    · cases hs
      exact setTask_state (fun _ => rfl) hf

theorem step_state {a : LifeAct} (hok : Orderly s a) (h : ∀ i, TaskInv s i)
    (hs : life.step s a = some s') (hi : i < s.created) (hf : (s.tasks i).isFinished = true) :
    (s'.tasks i).state = (s.tasks i).state := by
  cases a with
  | create t =>
    simp only [life, Life.step] at hs
    split at hs
    · cases hs
      have hne : i ≠ s.created := by omega
      simp [Life.setTask, hne]
    · cases hs
  | start th k =>
    simp only [life, Life.step] at hs
    split at hs
    · cases hs
      refine setTask_state (fun hk => ?_) hf
      unfold Task.start
      split
      · rename_i hinit
        rw [Task.isFinished, hinit] at hk
        cases hk
      · rfl
    · cases hs
  | pick th k pool now canceled =>
    simp only [life, Life.step] at hs
    split at hs
    · rename_i hg
      cases hs
      refine setTask_state (fun hk => ?_) hf
      rw [Task.isFinished, hg.2.2.2.1] at hk
      cases hk
    · cases hs
  | next th now again result => exact nextStep_state h hs hf
  | delay k now delay =>
    simp only [life, Life.step] at hs
    split at hs
    · cases hs
      exact setTask_state (fun _ => rfl) hf
    · cases hs
  | cancel k =>
    simp only [life, Life.step] at hs
    split at hs
    · cases hs
      refine setTask_state (fun hk => ?_) hf
      obtain ⟨h₁, h₂, h₃, -⟩ := hok
      cases hst : (s.tasks k).state <;> first
        | rfl
        | exact absurd hst h₁
        | exact absurd hst h₂
        | exact absurd hst h₃
        | (rw [Task.isFinished, hst] at hk; cases hk)
    · cases hs
  | remove k =>
    cases hs
    rfl
  | destroy k =>
    simp only [life, Life.step] at hs
    split at hs
    · cases hs
      rfl
    · cases hs

theorem lifeInv_init (h : life.init s) (i : Nat) : TaskInv s i := by
  obtain ⟨hcre, hq, hlog, hth, hdes⟩ := h
  have hnil : s.notes i = [] := by
    rw [Life.notes, hlog]
    rfl
  have hdead : s.alive i = false := by simp [Life.alive, hcre]
  refine ⟨fun th hh => ?_, fun hi => ?_, fun th th' hh => ?_, fun th th' hh => ?_,
    fun _ => ⟨hnil, hdes i⟩, fun ha => ?_, fun ha => ?_, fun ha => ?_, fun hd => ?_⟩
  · rw [hth th] at hh
    cases hh
  · rw [hq] at hi
    cases hi
  · rw [hth th] at hh
    cases hh
  · rw [hth th] at hh
    cases hh
  · rw [hdead] at ha
    cases ha
  · rw [hdead] at ha
    cases ha
  · rw [hdead] at ha
    cases ha
  · rw [hdes i] at hd
    cases hd

end

/-- **The life cycle of tasks**, in the runs that keep to the discipline: `_execute` runs on one
thread at a time and does not begin on a finished task, a finished task keeps its state, and the
observers of a started task are told of its start and then of its end, once each, by the time it is
destroyed. -/
theorem life_cycle (s : Life) (h : Reach life Orderly s) :
    (∀ i th th', s.threads th = .running i → s.threads th' = .running i → th = th') ∧
    (∀ i th, s.threads th = .begun i → (s.tasks i).isFinished = false) ∧
    (∀ a s' i, Orderly s a → life.step s a = some s' → i < s.created →
      (s.tasks i).isFinished = true → (s'.tasks i).state = (s.tasks i).state) ∧
    ∀ i, .started i ∈ s.notes i → (s.tasks i).observable = true →
      s.notes i = [.started i, .finished i] ∨
        (s.destroyed i = false ∧ s.notes i = [.started i]) := by
  have hinv : ∀ i, TaskInv s i := h.invariant (P := fun s => ∀ i, TaskInv s i)
    (fun _ => lifeInv_init) fun hok hi hs => lifeInv_step hok hi hs
  refine ⟨fun i th th' hr hr' => ?_, fun i th hb => ?_,
    fun a s' i hok hs hi hf => step_state hok hinv hs hi hf, fun i hA ho => ?_⟩
  · exact (hinv i).inside th th' (by rw [hr]; rfl) (by rw [hr']; rfl)
  · obtain ⟨-, -, hf⟩ := (hinv i).refers th (by rw [hb]; rfl)
    rw [hb] at hf
    rw [Task.isFinished, hf.1]
    rfl
  · cases hd : s.destroyed i with
    | true => exact .inl ((hinv i).ended hd hA ho)
    | false =>
      have hborn : s.alive i = true := by
        have hlt : i < s.created := by
          by_contra hle
          rw [((hinv i).unborn (by omega)).1] at hA
          cases hA
        simp [Life.alive, hlt, hd]
      have htold := (hinv i).told hborn hA
      cases hn : (s.tasks i).observerNotified with
      | true =>
        rw [hn] at htold
        exact .inl htold
      | false =>
        rw [hn] at htold
        exact .inr ⟨rfl, htold⟩

/-! ## Scenarios -/

def noTasks : Life where
  created := 0
  tasks := fun _ => ⟨.init, 0, 0, none, false, 0, 0, true, false⟩
  destroyed := fun _ => false
  queue := []
  threadCount := 1
  threads := fun _ => .idle
  log := []

/-- A task that can be executed at once. -/
def plainTask : Task := ⟨.init, 0, 0, none, false, 0, 0, true, false⟩

/-- A task is started, executed with success, put away and destroyed. -/
theorem life_cycle_one : ∃ s, Reach life Orderly s ∧ s.destroyed 0 = true ∧
    (s.notes 0 = [.started 0, .finished 0] ∨
      (s.destroyed 0 = false ∧ s.notes 0 = [.started 0])) := by
  have h₀ : Reach life Orderly noTasks := .init ⟨rfl, rfl, rfl, fun _ => rfl, fun _ => rfl⟩
  have h₁ := h₀.act (.create plainTask) trivial rfl
  have h₂ := h₁.act (.start 0 0) trivial rfl
  have h₃ := h₂.act (.next 0 0 false true) trivial rfl
  have h₄ := h₃.act (.next 0 0 false true) trivial rfl
  have h₅ := h₄.act (.pick 0 0 0 0 false) (fun th => by
    simp only [Life.setThread, Life.setTask, noTasks]
    (repeat' split) <;> nofun) rfl
  have h₆ := h₅.act (.next 0 0 false true) trivial rfl
  have h₇ := h₆.act (.next 0 0 false true) trivial rfl
  have h₈ := h₇.act (.next 0 0 false true) trivial rfl
  have h₉ := h₈.act (.next 0 0 false true) trivial rfl
  have h₁₀ := h₉.act (.next 0 0 false true) trivial rfl
  have h₁₁ := h₁₀.act (.next 0 0 false true) trivial rfl
  have h₁₂ := h₁₁.act (.next 0 0 false true) trivial rfl
  have h₁₃ := h₁₂.act (.destroy 0) trivial rfl
  exact ⟨_, h₁₃, rfl, (life_cycle _ h₁₃).2.2.2 0 (by decide) rfl⟩

/-- **A finished task changes**: `cancel` of a task that has succeeded. -/
theorem cancel_after_success : ∃ s s' a, Reach life Any s ∧ life.step s a = some s' ∧
    0 < s.created ∧ (s.tasks 0).isFinished = true ∧ (s'.tasks 0).state ≠ (s.tasks 0).state := by
  have hrun : (life.run noTasks ([.create plainTask, .start 0 0, .next 0 0 false true,
      .next 0 0 false true, .pick 0 0 0 0 false] ++ List.replicate 3 (.next 0 0 false true))).map
      (fun s => (s.created, s.destroyed 0, (s.tasks 0).state)) = some (1, false, .success) := by rfl
  obtain ⟨s, hs, he⟩ := Option.map_eq_some_iff.1 hrun
  obtain ⟨hcre, hdes, hst⟩ :
      s.created = 1 ∧ s.destroyed 0 = false ∧ (s.tasks 0).state = .success := by
    simpa using he
  have hstep : life.step s (.cancel 0) = some (s.setTask 0 (s.tasks 0).cancel) := by
    simp [life, Life.step, Life.alive, hcre, hdes]
  have h₀ : Reach life Any noTasks := .init ⟨rfl, rfl, rfl, fun _ => rfl, fun _ => rfl⟩
  refine ⟨s, _, .cancel 0, h₀.run hs, hstep, by omega, by rw [Task.isFinished, hst]; rfl, ?_⟩
  rw [hst]
  simp [Life.setTask, Task.cancel]

end Async
