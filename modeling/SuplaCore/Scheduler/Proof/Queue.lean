import SuplaCore.Scheduler.Queue
import SuplaCore.Scheduler.Proof.Action

/-!
# One worker for one try of an execution

The worker ignores whether its `set_fetched` hit the row, and no statement tests
`result_timestamp`. In the runs that keep to `Disciplined` (every `set_fetched` finds the row as it
was read, and no zombie update hits a row that a worker is at) the rows are marked by exactly the
worker that executes them (`QInv`), so an execution is carried out once for each `retry_count` and
a result stays (`executes_once`). Without that discipline two workers execute one row
(`executes_twice`).
-/

namespace Scheduler

open Sys

/-! ## What the statements keep -/

/-- A row that has been executed with the count `k`. -/
def Past (e : Execution) (k : Nat) : Prop :=
  k < e.retries ∨ (e.retries = k ∧ (e.fetchedTimestamp.isSome ∨ e.resultTimestamp.isSome))

/-- Result and time of the result stand together. -/
def Execution.Consistent (e : Execution) : Prop := e.result = none ↔ e.resultTimestamp = none

/-- What every statement keeps. -/
structure Update.Keeps (u : Update) : Prop where
  past : ∀ e k, Past e k → Past (u.apply e) k
  consistent : ∀ e, e.Consistent → (u.apply e).Consistent

theorem Update.Keeps.of {u : Update} (hp : ∀ e k, u.cond e = true → Past e k → Past (u.set e) k)
    (hc : ∀ e, e.Consistent → (u.set e).Consistent) : u.Keeps := by
  constructor
  · intro e k h
    unfold Update.apply
    split
    · rename_i hcond
      exact hp e k hcond h
    · exact h
  · intro e h
    unfold Update.apply
    split
    · exact hc e h
    · exact h

theorem setExpiredResult_keeps (now : Nat) : (Update.setExpiredResult now).Keeps :=
  .of (fun _ _ _ h => h.imp id fun h => ⟨h.1, .inr rfl⟩) fun _ _ => ⟨nofun, nofun⟩

theorem setZombieResult_keeps (now : Nat) : (Update.setZombieResult now).Keeps :=
  .of (fun _ _ _ h => h.imp id fun h => ⟨h.1, .inr rfl⟩) fun _ _ => ⟨nofun, nofun⟩

theorem setFetched_keeps (now : Nat) : (Update.setFetched now).Keeps :=
  .of (fun _ _ _ h => h.imp id fun h => ⟨h.1, .inl rfl⟩) fun _ h => h

theorem setResult_keeps (now : Nat) (r : ActionResult) : (Update.setResult now r).Keeps :=
  .of (fun _ _ _ h => h.imp id fun h => ⟨h.1, .inr rfl⟩) fun _ _ => ⟨nofun, nofun⟩

theorem setRetry_keeps (now : Nat) (sec : Int) : (Update.setRetry now sec).Keeps := by
  refine .of (fun e k _ h => .inl ?_) fun _ h => h
  have hr : ((Update.setRetry now sec).set e).retries = e.retries + 1 := rfl
  rw [hr]
  rcases h with h | ⟨h, -⟩ <;> omega

/-! ## The invariant -/

namespace WorkerPc

/-- The job a worker is at once it has marked the row. -/
def active : WorkerPc → Option SExecParams
  | .mark j => some j
  | .run j => some j
  | .calls j (_ :: _) => some j
  | _ => none

/-- The job a worker has marked and not begun. -/
def pending : WorkerPc → Option SExecParams
  | .mark j => some j
  | .run j => some j
  | _ => none

/-- The statement of an action is its last call. -/
def Shaped : WorkerPc → Prop
  | .calls _ cs => cs = [] ∨ ∃ answers c, cs = answers ++ [c] ∧ ∀ c' ∈ answers, ¬ c'.IsWrite
  | _ => True

/-- A change of the program counter that starts nothing. -/
def Calm (p p' : WorkerPc) : Prop :=
  (p'.active = p.active ∧ (∀ j, p'.pending = some j → p.pending = some j) ∧
    (p.Shaped → p'.Shaped)) ∨ (p'.active = none ∧ p'.Shaped)

theorem Calm.refl (p : WorkerPc) : p.Calm p := .inl ⟨rfl, fun _ h => h, id⟩

theorem pending_active {p : WorkerPc} {j : SExecParams} (h : p.pending = some j) :
    p.active = some j := by
  cases p with
  | mark j' => exact h
  | run j' => exact h
  | _ => cases h

end WorkerPc

open WorkerPc

/-- A row that a worker executes with the count it has read. -/
structure Owned (e : Execution) (k : Nat) : Prop where
  fetched : e.fetchedTimestamp.isSome = true
  resultTimestamp : e.resultTimestamp = none
  retries : e.retries = k

structure QInv (s : Queue) : Prop where
  consistent : ∀ id e, s.rows id = some e → e.Consistent
  owned : ∀ w j, (s.workers w).active = some j → ∃ e, s.rows j.id = some e ∧ Owned e j.retryCount
  unique : ∀ w w' j j', (s.workers w).active = some j → (s.workers w').active = some j' →
    j.id = j'.id → w = w'
  past : ∀ id k, (id, k) ∈ s.executed → ∃ e, s.rows id = some e ∧ Past e k
  pending : ∀ w j, (s.workers w).pending = some j → (j.id, j.retryCount) ∉ s.executed
  shaped : ∀ w, (s.workers w).Shaped
  once : s.executed.Nodup

theorem qInv_start {s : Queue} (h : s.Start) : QInv s := by
  have hw : ∀ w, (s.workers w).active = none := fun w => by rw [h.workers w]; rfl
  have hp : ∀ w, (s.workers w).pending = none := fun w => by rw [h.workers w]; rfl
  refine ⟨h.rows, fun w j hj => ?_, fun w w' j j' hj => ?_, ?_, fun w j hj => ?_, ?_, ?_⟩
  · rw [hw] at hj
    cases hj
  · rw [hw] at hj
    cases hj
  · rw [h.executed]
    nofun
  · rw [hp] at hj
    cases hj
  · intro w
    rw [h.workers w]
    trivial
  · rw [h.executed]
    exact List.nodup_nil

/-- Steps that leave the table and the log alone. -/
theorem QInv.calm {s s' : Queue} (h : QInv s) (hr : s'.rows = s.rows)
    (he : s'.executed = s.executed) (hw : ∀ w, (s.workers w).Calm (s'.workers w)) : QInv s' := by
  have hact : ∀ {w j}, (s'.workers w).active = some j → (s.workers w).active = some j := by
    intro w j hj
    rcases hw w with ⟨ha, -, -⟩ | ⟨ha, -⟩
    · rw [← ha]
      exact hj
    · rw [ha] at hj
      cases hj
  refine ⟨?_, ?_, ?_, ?_, ?_, ?_, ?_⟩
  · rw [hr]
    exact h.consistent
  · intro w j hj
    rw [hr]
    exact h.owned w j (hact hj)
  · intro w w' j j' hj hj'
    exact h.unique w w' j j' (hact hj) (hact hj')
  · rw [hr, he]
    exact h.past
  · intro w j hj
    rw [he]
    rcases hw w with ⟨-, hp, -⟩ | ⟨ha, -⟩
    · exact h.pending w j (hp j hj)
    · rw [pending_active hj] at ha
      cases ha
  · intro w
    rcases hw w with ⟨-, -, hs⟩ | ⟨-, hs⟩
    · exact hs (h.shaped w)
    · exact hs
  · rw [he]
    exact h.once

/-- A worker moves on without starting anything. -/
theorem QInv.setPc_calm {s : Queue} {w : Nat} {p : WorkerPc} (h : QInv s)
    (hp : (s.workers w).Calm p) : QInv (s.setPc w p) := by
  refine h.calm rfl rfl fun i => ?_
  simp only [Queue.setPc]
  split
  · rename_i hi
    rw [hi]
    exact hp
  · exact .refl _

theorem QInv.newWorker {s : Queue} (h : QInv s) : QInv s.newWorker := by
  unfold Queue.newWorker
  split
  · exact h
  · refine h.calm rfl rfl fun i => ?_
    simp only
    split
    · exact .inr ⟨rfl, trivial⟩
    · exact .refl _

/-! ## Steps that write -/

/-- A statement without an id that leaves the rows of active workers as they are. -/
theorem QInv.updateAll {s : Queue} {u : Update} (h : QInv s) (hu : u.Keeps)
    (ho : ∀ w j e, (s.workers w).active = some j → s.rows j.id = some e →
      Owned e j.retryCount → u.cond e = false) : QInv (s.updateAll u) := by
  refine ⟨?_, ?_, h.unique, ?_, h.pending, h.shaped, h.once⟩
  · intro id e he
    obtain ⟨e₀, he₀, rfl⟩ := Option.map_eq_some_iff.1 he
    exact hu.consistent _ (h.consistent id e₀ he₀)
  · intro w j hj
    obtain ⟨e, he, hown⟩ := h.owned w j hj
    refine ⟨e, ?_, hown⟩
    simp [Queue.updateAll, he, Update.apply, ho w j e hj he hown]
  · intro id k hm
    obtain ⟨e, he, hpast⟩ := h.past id k hm
    exact ⟨u.apply e, by simp [Queue.updateAll, he], hu.past e k hpast⟩

section
variable {s : Queue} {w : Nat} {j : SExecParams} {u : Update} {p : WorkerPc}

theorem rows_updateRow (id : Nat) (hu : u.Keeps) (h : QInv s) :
    (∀ i e, (s.updateRow id u).rows i = some e → e.Consistent) ∧
      ∀ i k, (i, k) ∈ s.executed → ∃ e, (s.updateRow id u).rows i = some e ∧ Past e k := by
  constructor
  · intro i e he
    simp only [Queue.updateRow] at he
    split at he
    · obtain ⟨e₀, he₀, rfl⟩ := Option.map_eq_some_iff.1 he
      exact hu.consistent _ (h.consistent i e₀ he₀)
    · exact h.consistent i e he
  · intro i k hm
    obtain ⟨e, he, hpast⟩ := h.past i k hm
    simp only [Queue.updateRow, he]
    split
    · exact ⟨_, rfl, hu.past e k hpast⟩
    · exact ⟨e, rfl, hpast⟩

/-- An active worker writes its row and is done with it. -/
theorem QInv.leave (h : QInv s) (ha : (s.workers w).active = some j) (hu : u.Keeps)
    (hp : p.active = none) (hs : p.Shaped) : QInv ((s.updateRow j.id u).setPc w p) := by
  obtain ⟨hcons, hpast⟩ := rows_updateRow j.id hu h
  have hother : ∀ {i j'}, (((s.updateRow j.id u).setPc w p).workers i).active = some j' →
      i ≠ w ∧ (s.workers i).active = some j' := by
    intro i j' hj'
    simp only [Queue.setPc] at hj'
    split at hj'
    · rw [hp] at hj'
      cases hj'
    · exact ⟨by assumption, hj'⟩
  refine ⟨hcons, ?_, ?_, hpast, ?_, ?_, h.once⟩
  · intro i j' hj'
    obtain ⟨hne, hj'⟩ := hother hj'
    obtain ⟨e, he, hown⟩ := h.owned i j' hj'
    have hid : j'.id ≠ j.id := fun hid => hne (h.unique i w j' j hj' ha hid)
    refine ⟨e, ?_, hown⟩
    simp [Queue.setPc, Queue.updateRow, hid, he]
  · intro i i' j₁ j₂ h₁ h₂
    exact h.unique i i' j₁ j₂ (hother h₁).2 (hother h₂).2
  · intro i j' hj'
    simp only [Queue.setPc] at hj'
    split at hj'
    · rw [pending_active hj'] at hp
      cases hp
    · exact h.pending i j' hj'
  · intro i
    simp only [Queue.setPc]
    split
    · exact hs
    · exact h.shaped i

/-- A worker marks a row that is as it was read. -/
theorem QInv.fetch {now : Nat} {e : Execution} (h : QInv s)
    (he : s.rows j.id = some e) (ho : Open e j.retryCount) :
    QInv ((s.updateRow j.id (.setFetched now)).setPc w (.mark j)) := by
  obtain ⟨hcons, hpast⟩ := rows_updateRow j.id (setFetched_keeps now) h
  have hfree : ∀ {i j'}, (s.workers i).active = some j' → j'.id ≠ j.id := by
    intro i j' hj' hid
    obtain ⟨e', he', hown⟩ := h.owned i j' hj'
    rw [hid, he] at he'
    cases he'
    have hf := hown.fetched
    rw [ho.fetched] at hf
    cases hf
  have hnew : ∀ {i j'}, ((((s.updateRow j.id (.setFetched now)).setPc w (.mark j)).workers
      i).active = some j') → (i = w ∧ j' = j) ∨ (s.workers i).active = some j' := by
    intro i j' hj'
    simp only [Queue.setPc] at hj'
    split at hj'
    · cases hj'
      exact .inl ⟨by assumption, rfl⟩
    · exact .inr hj'
  refine ⟨hcons, ?_, ?_, hpast, ?_, ?_, h.once⟩
  · intro i j' hj'
    rcases hnew hj' with ⟨-, rfl⟩ | hj'
    · refine ⟨{ e with consumed := true, fetchedTimestamp := some now }, ?_, rfl,
        ho.resultTimestamp, ho.retries⟩
      simp [Queue.setPc, Queue.updateRow, he, Update.apply, Update.setFetched, ho.fetched]
    · obtain ⟨e', he', hown⟩ := h.owned i j' hj'
      exact ⟨e', by simp [Queue.setPc, Queue.updateRow, hfree hj', he'], hown⟩
  · intro i i' j₁ j₂ h₁ h₂ hid
    rcases hnew h₁ with ⟨hi, hj₁⟩ | h₁' <;> rcases hnew h₂ with ⟨hi', hj₂⟩ | h₂'
    · exact hi.trans hi'.symm
    · exact absurd (hj₁ ▸ hid.symm) (hfree h₂')
    · exact absurd (hj₂ ▸ hid) (hfree h₁')
    · exact h.unique i i' j₁ j₂ h₁' h₂' hid
  · intro i j' hj' hm
    rcases hnew (pending_active hj') with ⟨-, rfl⟩ | hact
    · -- the log says the row has been fetched or is past this count: it is neither
      obtain ⟨e', he', hp⟩ := h.past _ _ hm
      rw [he] at he'
      cases he'
      rcases hp with hp | ⟨-, hp | hp⟩
      · rw [ho.retries] at hp
        exact Nat.lt_irrefl _ hp
      · rw [ho.fetched] at hp
        cases hp
      · rw [ho.resultTimestamp] at hp
        cases hp
    · simp only [Queue.setPc] at hj'
      split at hj'
      · cases hj'
        exact hfree hact rfl
      · exact h.pending i j' hj' hm
  · intro i
    simp only [Queue.setPc]
    split
    · trivial
    · exact h.shaped i

/-- A worker starts the action of a row it has marked. -/
theorem QInv.run {cs : List Call} (h : QInv s) (hw : s.workers w = .run j)
    (hs : (WorkerPc.calls j cs).Shaped) (hcs : cs ≠ []) :
    QInv ({ s with executed := s.executed ++ [(j.id, j.retryCount)] }.setPc w (.calls j cs)) := by
  have hrun : (s.workers w).active = some j := by rw [hw]; rfl
  have hact : ∀ {i j'}, (({ s with executed := s.executed ++ [(j.id, j.retryCount)] }.setPc w
      (.calls j cs)).workers i).active = some j' → (s.workers i).active = some j' := by
    intro i j' hj'
    simp only [Queue.setPc] at hj'
    split at hj'
    · rename_i hi
      cases cs with
      | nil => exact absurd rfl hcs
      | cons c cs => rw [hi, hrun]; exact hj'
    · exact hj'
  have hfresh : (j.id, j.retryCount) ∉ s.executed := h.pending w j (by rw [hw]; rfl)
  refine ⟨h.consistent, fun i j' hj' => h.owned i j' (hact hj'), ?_, ?_, ?_, ?_, ?_⟩
  · exact fun i i' j₁ j₂ h₁ h₂ => h.unique i i' j₁ j₂ (hact h₁) (hact h₂)
  · intro id k hm
    rcases List.mem_append.1 hm with hm | hm
    · exact h.past id k hm
    · cases List.mem_singleton.1 hm
      obtain ⟨e, he, hown⟩ := h.owned w j hrun
      exact ⟨e, he, .inr ⟨hown.retries, .inl hown.fetched⟩⟩
  · intro i j' hj' hm
    simp only [Queue.setPc] at hj'
    split at hj'
    · cases hj'
    · rename_i hi
      rcases List.mem_append.1 hm with hm | hm
      · exact h.pending i j' hj' hm
      · have hid : j'.id = j.id := congrArg Prod.fst (List.mem_singleton.1 hm)
        exact hi (h.unique i w j' j (pending_active hj') hrun hid)
  · intro i
    simp only [Queue.setPc]
    split
    · exact hs
    · exact h.shaped i
  · refine List.nodup_append.2 ⟨h.once, List.pairwise_singleton _ _, ?_⟩
    rintro x hx y hy rfl
    exact hfresh (List.mem_singleton.1 hy ▸ hx)

end

theorem execute_shape (a : SWorkerAction) (k : Nat) (o : Outcomes) :
    ∃ answers c, a.execute k o = answers ++ [c] ∧ ∀ c' ∈ answers, ¬ c'.IsWrite := by
  have hphases : ∃ answers c, a.phases k o = answers ++ [c] ∧ ∀ c' ∈ answers, ¬ c'.IsWrite := by
    unfold SWorkerAction.phases
    split
    · exact ⟨[_], _, rfl, by simp [Call.IsWrite]⟩
    · exact ⟨[_], _, rfl, by simp [Call.IsWrite]⟩
  obtain ⟨answers, c, hp, hn⟩ := hphases
  unfold SWorkerAction.execute
  rw [hp]
  split
  · exact ⟨[_], _, rfl, by simp [Call.IsWrite]⟩
  · split
    · split
      · exact ⟨[_, _], _, rfl, by simp [Call.IsWrite]⟩
      · refine ⟨.isActionAllowed _ :: .resultSuccess _ :: answers, c, rfl, ?_⟩
        simpa [Call.IsWrite] using hn
    · refine ⟨.isActionAllowed _ :: answers, c, rfl, ?_⟩
      simpa [Call.IsWrite] using hn

/-- **The discipline.** Every `set_fetched` is carried out and finds its row as it was read, and
no zombie update hits a row that a worker is at. -/
def Disciplined (s : Queue) : QueueAct → Prop
  | .worker w env => ∀ j, s.workers w = .fetch j → env.dbOk = true ∧
      ∃ e, s.rows j.id = some e ∧ Open e j.retryCount
  | .queue env => ∀ limit, s.pc = .zombie limit → env.dbOk = true → ∀ w j e,
      (s.workers w).active = some j → s.rows j.id = some e →
        (Update.setZombieResult s.now).cond e = false
  | _ => True

section
variable {s s' : Queue}

theorem queueStep_inv {env : QueueEnv} (h : QInv s) (hd : Disciplined s (.queue env))
    (hs : s.queueStep env = some s') : QInv s' := by
  have hcalm : ∀ {s'' : Queue}, QInv s'' → ∀ {s₃ : Queue}, s₃.rows = s''.rows →
      s₃.executed = s''.executed → s₃.workers = s''.workers → QInv s₃ :=
    fun h'' _ hr he hw => h''.calm hr he fun w => by rw [hw]; exact .refl _
  unfold Queue.queueStep at hs
  split at hs
  · split at hs
    · cases hs
      exact hcalm h rfl rfl rfl
    · split at hs <;> (cases hs; exact hcalm h rfl rfl rfl)
  · cases hs
    exact hcalm h rfl rfl rfl
  · cases hs
    exact hcalm h rfl rfl rfl
  · cases hs
    exact hcalm h rfl rfl rfl
  · cases hs
    exact hcalm h rfl rfl rfl
  · simp only at hs
    split at hs
    · cases hs
      exact hcalm h rfl rfl rfl
    · split at hs <;> (cases hs; exact hcalm h rfl rfl rfl)
  · rename_i limit hpc
    cases hs
    split
    · rename_i hdb
      have h' := h.updateAll (setZombieResult_keeps s.now) fun w j e hj he _ =>
        hd limit hpc hdb w j e hj he
      exact hcalm h' rfl rfl rfl
    · exact hcalm h rfl rfl rfl
  · cases hs
    split
    · have h' := h.updateAll (setExpiredResult_keeps s.now) fun w j e hj he hown => by
        obtain ⟨t, ht⟩ := Option.isSome_iff_exists.1 hown.fetched
        simp [Update.setExpiredResult, ht]
      exact hcalm h' rfl rfl rfl
    · exact hcalm h rfl rfl rfl
  · split at hs
    · cases hs
    · split at hs
      · cases hs
        exact hcalm h rfl rfl rfl
      · cases hs
  · cases hs
    split
    · exact hcalm h.newWorker rfl rfl rfl
    · exact hcalm h rfl rfl rfl
  · cases hs

/-- A call of the action: answers leave the table alone, the statement ends the worker's hold. -/
theorem callStep_inv {env : WorkerEnv} {w : Nat} {j : SExecParams} {c : Call} {cs : List Call}
    (h : QInv s) (hw : s.workers w = .calls j (c :: cs)) :
    QInv ((if env.dbOk then s.call j.id c else s).setPc w (.calls j cs)) := by
  have ha : (s.workers w).active = some j := by rw [hw]; rfl
  have hshape := h.shaped w
  rw [hw] at hshape
  obtain ⟨answers, c₀, hcs, hn⟩ := hshape.resolve_left (by simp)
  cases answers with
  | nil =>
    cases hcs
    have hcalm : QInv (s.setPc w (.calls j [])) := h.setPc_calm (.inr ⟨rfl, .inl rfl⟩)
    split
    · cases c with
      | setResult r => exact h.leave ha (setResult_keeps s.now r) rfl (.inl rfl)
      | setRetry sec => exact h.leave ha (setRetry_keeps s.now sec) rfl (.inl rfl)
      | isActionAllowed b => exact hcalm
      | resultSuccess b => exact hcalm
      | doAction b => exact hcalm
    · exact hcalm
  | cons c₁ answers =>
    cases hcs
    have hstep : QInv (s.setPc w (.calls j (answers ++ [c₀]))) := by
      refine h.setPc_calm (.inl ⟨?_, nofun, fun _ => .inr ⟨answers, c₀, rfl, ?_⟩⟩)
      · rw [ha]
        cases answers <;> rfl
      · exact fun c' hc' => hn c' (List.mem_cons_of_mem _ hc')
    have hsame : (if env.dbOk then s.call j.id c else s) = s := by
      have hc := hn c List.mem_cons_self
      cases c with
      | setResult r => exact absurd trivial hc
      | setRetry sec => exact absurd trivial hc
      | _ => simp [Queue.call]
    rw [hsame]
    exact hstep

theorem workerStep_inv {env : WorkerEnv} {w : Nat} (h : QInv s)
    (hd : Disciplined s (.worker w env)) (hs : s.workerStep w env = some s') : QInv s' := by
  have hmove : ∀ {s'' : Queue} {p : WorkerPc}, QInv s'' → p.active = none → p.Shaped →
      QInv (s''.setPc w p) := fun h'' ha hp => h''.setPc_calm (.inr ⟨ha, hp⟩)
  have hsame : ∀ {s'' : Queue}, s''.rows = s.rows → s''.executed = s.executed →
      s''.workers = s.workers → QInv s'' :=
    fun hr he hw => h.calm hr he fun w => by rw [hw]; exact .refl _
  unfold Queue.workerStep at hs
  split at hs
  · cases hs
    split <;> exact hmove h rfl trivial
  · cases hs
    split <;> exact hmove h rfl trivial
  · split at hs
    · cases hs
      exact hmove h rfl trivial
    · cases hs
      exact hmove (hsame rfl rfl rfl) rfl trivial
  · cases hs
    exact hmove (hsame rfl rfl rfl) rfl trivial
  · have h' : QInv (if s.sExecArr.length > 0 then s.newWorker else s) := by
      split
      · exact h.newWorker
      · exact h
    simp only at hs
    split at hs
    · cases hs
      exact hmove h' rfl trivial
    · cases hs
      split <;> exact hmove h' rfl trivial
  · rename_i j hpc
    obtain ⟨hdb, e, he, ho⟩ := hd j hpc
    have haff : s.affects j.id (.setFetched s.now) = true := by
      simp [Queue.affects, he, Update.setFetched, ho.fetched]
    rw [if_pos ⟨hdb, haff⟩] at hs
    cases hs
    exact h.fetch he ho
  · rename_i j hpc
    cases hs
    have h' : QInv { s with
        totalFetchCount := s.totalFetchCount + 1
        waitForFetchCounter := s.waitForFetchCounter - 1 } := hsame rfl rfl rfl
    refine h'.setPc_calm (.inl ⟨?_, ?_, fun _ => trivial⟩)
    · simp only [hpc]
      rfl
    · simp only [hpc]
      exact fun _ hj => hj
  · rename_i j hpc
    split at hs
    · rename_i a _
      cases hs
      obtain ⟨answers, c, hshape, hn⟩ := execute_shape a j.retryCount env.outcomes
      exact h.run hpc (.inr ⟨answers, c, hshape, hn⟩) (by rw [hshape]; simp)
    · cases hs
      refine h.setPc_calm (.inl ⟨?_, ?_, fun _ => .inr ⟨[], _, rfl, ?_⟩⟩)
      · rw [hpc]
        rfl
      · intro j' hj
        cases hj
      · intro a ha
        cases ha
  · cases hs
    exact hmove h rfl trivial
  · rename_i j c cs hpc
    cases hs
    exact callStep_inv h hpc
  · cases hs

theorem qInv_step {a : QueueAct} (hd : Disciplined s a) (h : QInv s)
    (hs : queue.step s a = some s') : QInv s' := by
  cases a with
  | tick now =>
    simp only [queue, Queue.step] at hs
    split at hs
    · cases hs
      exact h.calm rfl rfl fun _ => .refl _
    · cases hs
  | plan id time =>
    simp only [queue, Queue.step] at hs
    split at hs
    · rename_i hnone
      cases hs
      have hold : ∀ {i e}, s.rows i = some e → i ≠ id := by
        rintro i e he rfl
        rw [hnone] at he
        cases he
      refine ⟨?_, ?_, h.unique, ?_, h.pending, h.shaped, h.once⟩
      · intro i e he
        simp only at he
        split at he
        · cases he
          exact ⟨fun _ => rfl, fun _ => rfl⟩
        · exact h.consistent i e he
      · intro w j hj
        obtain ⟨e, he, hown⟩ := h.owned w j hj
        exact ⟨e, (if_neg (hold he)).trans he, hown⟩
      · intro i k hm
        obtain ⟨e, he, hp⟩ := h.past i k hm
        exact ⟨e, (if_neg (hold he)).trans he, hp⟩
    · cases hs
  | terminate =>
    cases hs
    exact h.calm rfl rfl fun _ => .refl _
  | queue env => exact queueStep_inv h hd hs
  | worker w env => exact workerStep_inv h hd hs

/-! ## Results stay -/

/-- The results of `s` are those of `s'`. -/
def ResultsStay (s s' : Queue) : Prop :=
  ∀ id e r, s.rows id = some e → e.result = some r →
    ∃ e', s'.rows id = some e' ∧ e'.result = some r

theorem ResultsStay.of_rows (h : s'.rows = s.rows) : ResultsStay s s' :=
  fun _ e _ he hr => ⟨e, by rw [h]; exact he, hr⟩

theorem updateAll_stay {u : Update} (h : ∀ e, u.cond e = true → e.result = none) :
    ResultsStay s (s.updateAll u) := by
  intro id e r he hr
  have hc : u.cond e = false := by
    by_contra hc
    rw [h e (by simpa using hc)] at hr
    cases hr
  exact ⟨e, by simp [Queue.updateAll, he, Update.apply, hc], hr⟩

theorem updateRow_stay {id : Nat} {u : Update}
    (h : ∀ e r, s.rows id = some e → e.result = some r → (u.apply e).result = some r) :
    ResultsStay s (s.updateRow id u) := by
  intro i e r he hr
  simp only [Queue.updateRow, he]
  split
  · rename_i hi
    exact ⟨_, rfl, h e r (hi ▸ he) hr⟩
  · exact ⟨e, rfl, hr⟩

theorem queueStep_stay {env : QueueEnv} (hs : s.queueStep env = some s') : ResultsStay s s' := by
  unfold Queue.queueStep at hs
  split at hs
  · split at hs
    · cases hs
      exact .of_rows rfl
    · split at hs <;> (cases hs; exact .of_rows rfl)
  · cases hs
    exact .of_rows rfl
  · cases hs
    exact .of_rows rfl
  · cases hs
    exact .of_rows rfl
  · cases hs
    exact .of_rows rfl
  · simp only at hs
    split at hs
    · cases hs
      exact .of_rows rfl
    · split at hs <;> (cases hs; exact .of_rows rfl)
  · cases hs
    split
    · refine updateAll_stay fun e hc => ?_
      simp only [Update.setZombieResult, Bool.and_eq_true, Option.isNone_iff_eq_none] at hc
      exact hc.1
    · exact .of_rows rfl
  · cases hs
    split
    · refine updateAll_stay fun e hc => ?_
      simp only [Update.setExpiredResult, Bool.and_eq_true, Option.isNone_iff_eq_none] at hc
      exact hc.1.1
    · exact .of_rows rfl
  · split at hs
    · cases hs
    · split at hs
      · cases hs
        exact .of_rows rfl
      · cases hs
  · cases hs
    split
    · unfold Queue.newWorker
      split <;> exact .of_rows rfl
    · exact .of_rows rfl
  · cases hs

theorem workerStep_stay {env : WorkerEnv} {w : Nat} (h : QInv s)
    (hs : s.workerStep w env = some s') : ResultsStay s s' := by
  unfold Queue.workerStep at hs
  split at hs
  · cases hs
    exact .of_rows rfl
  · cases hs
    exact .of_rows rfl
  · split at hs <;> (cases hs; exact .of_rows rfl)
  · cases hs
    exact .of_rows rfl
  · have hrows : (if s.sExecArr.length > 0 then s.newWorker else s).rows = s.rows := by
      unfold Queue.newWorker
      (repeat' split) <;> rfl
    simp only at hs
    split at hs <;> (cases hs; exact .of_rows hrows)
  · split at hs
    · cases hs
      refine updateRow_stay fun e r _ hr => ?_
      unfold Update.apply
      split <;> exact hr
    · cases hs
      exact .of_rows rfl
  · cases hs
    exact .of_rows rfl
  · split at hs <;> (cases hs; exact .of_rows rfl)
  · cases hs
    exact .of_rows rfl
  · rename_i j c cs hpc
    cases hs
    obtain ⟨e₀, he₀, hown⟩ := h.owned w j (by rw [hpc]; rfl)
    have hnone : e₀.result = none := (h.consistent _ _ he₀).2 hown.resultTimestamp
    have hrow : ∀ {u : Update}, ResultsStay s (s.updateRow j.id u) := by
      intro u
      refine updateRow_stay fun e r he hr => ?_
      rw [he₀] at he
      cases he
      rw [hnone] at hr
      cases hr
    split
    · cases c with
      | setResult r => exact hrow
      | setRetry sec => exact hrow
      | isActionAllowed b => exact .of_rows rfl
      | resultSuccess b => exact .of_rows rfl
      | doAction b => exact .of_rows rfl
    · exact .of_rows rfl
  · cases hs

theorem step_stay {a : QueueAct} (h : QInv s) (hs : queue.step s a = some s') :
    ResultsStay s s' := by
  cases a with
  | tick now =>
    simp only [queue, Queue.step] at hs
    split at hs
    · cases hs
      exact .of_rows rfl
    · cases hs
  | plan id time =>
    simp only [queue, Queue.step] at hs
    split at hs
    · rename_i hnone
      cases hs
      intro i e r he hr
      have hi : i ≠ id := by
        rintro rfl
        rw [hnone] at he
        cases he
      exact ⟨e, (if_neg hi).trans he, hr⟩
    · cases hs
  | terminate =>
    cases hs
    exact .of_rows rfl
  | queue env => exact queueStep_stay hs
  | worker w env => exact workerStep_stay h hs

end

/-- **A scheduled execution is carried out once for each count and ends once**, in the runs that
keep to the discipline: no execution is begun twice with one `retry_count`, no `do_action` is made
on a row with a result, and no step overwrites a result. -/
theorem executes_once (s : Queue) (h : Reach queue Disciplined s) :
    s.executed.Nodup ∧
    (∀ w j b cs e, s.workers w = .calls j (.doAction b :: cs) → s.rows j.id = some e →
      e.resultTimestamp = none) ∧
    ∀ a s', Disciplined s a → queue.step s a = some s' → ResultsStay s s' := by
  have hinv : QInv s := h.invariant (fun _ => qInv_start) qInv_step
  refine ⟨hinv.once, ?_, fun a s' _ hs => step_stay hinv hs⟩
  intro w j b cs e hw he
  obtain ⟨e', he', hown⟩ := hinv.owned w j (by rw [hw]; rfl)
  rw [he] at he'
  cases he'
  exact hown.resultTimestamp

/-! ## Scenarios -/

/-- A test that implies the discipline. -/
def disciplined (s : Queue) : QueueAct → Bool
  | .worker w env =>
    match s.workers w with
    | .fetch j => env.dbOk && (s.rows j.id).any fun e =>
        e.fetchedTimestamp.isNone && e.resultTimestamp.isNone && e.retries == j.retryCount
    | _ => true
  | .queue _ =>
    match s.pc with
    | .zombie _ => false
    | _ => true
  | _ => true

theorem disciplined_sound (s : Queue) (a : QueueAct) (h : disciplined s a = true) :
    Disciplined s a := by
  cases a with
  | worker w env =>
    intro j hj
    simp only [disciplined, hj, Bool.and_eq_true, Option.any_eq_true, Option.isNone_iff_eq_none,
      beq_iff_eq] at h
    obtain ⟨hdb, e, he, ⟨hf, hr⟩, hk⟩ := h
    exact ⟨hdb, e, he, hf, hr, hk⟩
  | queue env =>
    intro limit hpc
    simp [disciplined, hpc] at h
  | tick now => trivial
  | plan id time => trivial
  | terminate => trivial

/-- An action with one try, on a row planned for time 0. -/
def oneTry : SWorkerAction := ⟨1, 30, 5, false, false, false⟩

def oneRow : Queue where
  maxWorkers := 2
  maxJobPerSecond := 10
  now := 10
  terminated := false
  rows := fun id => if id = 1 then some (.planned 0) else none
  sExecArr := []
  jobCounter := 0
  totalFetchCount := 0
  waitForFetchCounter := 0
  lastGet := 0
  timer := 0
  timerOneMin := 0
  workersThreadArr := []
  workers := fun _ => .done
  spawned := 0
  pc := .top
  executed := []

theorem oneRow_start : oneRow.Start := by
  refine ⟨?_, rfl, fun _ => rfl, rfl, rfl, ⟨rfl, rfl, rfl⟩, ⟨rfl, rfl⟩, rfl, rfl⟩
  intro id e he
  simp only [oneRow] at he
  split at he
  · cases he
    exact ⟨fun _ => rfl, fun _ => rfl⟩
  · cases he

/-- One pass of the queue thread that selects the row. -/
def loadPass : List QueueAct := List.replicate 8 (.queue ⟨true, [(1, some oneTry)]⟩)

/-- Steps of a worker whose action succeeds. -/
def workerSteps (w n : Nat) : List QueueAct :=
  List.replicate n (.worker w ⟨true, false, ⟨true, true, true, true, .none, .connected⟩⟩)

/-- The row is loaded, marked and executed. -/
theorem executes_once_one : ∃ s, Reach queue Disciplined s ∧ s.executed = [(1, 0)] ∧
    (s.rows 1).bind Execution.result = some .executedWithoutConfirmation ∧ s.executed.Nodup := by
  have hrun : (queue.runWhere disciplined oneRow (loadPass ++ workerSteps 0 11)).map
      (fun s => (s.executed, (s.rows 1).bind Execution.result)) =
      some ([(1, 0)], some .executedWithoutConfirmation) := by rfl
  obtain ⟨s, hs, he⟩ := Option.map_eq_some_iff.1 hrun
  have hreach := Reach.runWhere disciplined_sound (.init oneRow_start) hs
  obtain ⟨h₁, h₂⟩ := Prod.mk.inj he
  exact ⟨s, hreach, h₁, h₂, (executes_once s hreach).1⟩

/-- **Two workers execute one row**: the row is loaded again after it was popped and before the
wait counter says so. -/
theorem executes_twice : ∃ s, Reach queue Any s ∧ ¬ s.executed.Nodup := by
  have hrun : (queue.run oneRow (loadPass ++ workerSteps 0 3 ++ loadPass ++ workerSteps 0 5 ++
      workerSteps 1 7)).map (·.executed) = some [(1, 0), (1, 0)] := by rfl
  obtain ⟨s, hs, he⟩ := Option.map_eq_some_iff.1 hrun
  exact ⟨s, Reach.run (.init oneRow_start) hs, by rw [he]; decide⟩

end Scheduler
