import SuplaCore.Http.StateReport
import SuplaCore.Lib.Ledger

/-!
# No change goes unreported

A call of `new_request` may rely on a request that was there before only while that request waits,
and a request that waits has not read the value yet. So what a change owes is covered at any time:
by the call itself, by a request that is still to read the value, or by a pool thread that has read
it (`Covered`). The invariant carries this over every step, and `no_change_lost` reads it off.
-/

namespace Http

open Async Channel Since Sys

variable {N V : Type} {svc : Service N} {timeoutUsec : Nat} {s s' : Reports N V} {k : Key}

/-! ## The property -/

def Event.Changes (k : Key) : Event N V → Prop
  | .changed key => key = k
  | _ => False

/-- What answers a change that left `content`. -/
def Event.Settles (k : Key) (content : Int × V) : Event N V → Prop
  | .refused key => key = k
  | .dropped key => key = k
  | .sent key c _ => key = k ∧ c = content
  | _ => False

/-- A request about the value of a channel. -/
structure Request.About (svc : Service N) (k : Key) (r : Request N) : Prop where
  key : r.key = k
  value : svc.isAnyActionSet r.note = false

/-- A call that is to make or to find a request about the value. -/
def CallPc.Carries (svc : Service N) (k : Key) : CallPc N → Prop
  | .idle => False
  | .entered key note => key = k ∧ svc.isAnyActionSet note = false
  | .allowed key note _ => key = k ∧ svc.isAnyActionSet note = false
  | .delayed key note _ => key = k ∧ svc.isAnyActionSet note = false
  | .found _ _ _ => False
  | .missing key note _ => key = k ∧ svc.isAnyActionSet note = false
  | .started r => r.About svc k

/-- What a pool thread has read for its task. -/
def WorkPc.reads : WorkPc N V → Option (Nat × (Int × V))
  | .read i content => some (i, content)
  | .noted i content _ => some (i, content)
  | .taken i content _ => some (i, content)
  | _ => none

namespace Reports

/-- A request that is still to read the value. -/
def Awaits (svc : Service N) (s : Reports N V) (k : Key) (i : Nat) : Prop :=
  (s.requests i).About svc k ∧
    ((s.requests i).task.state = .waiting ∧ i ∈ s.queue ∨
      ∃ w, s.workers w = .picked i ∨ s.workers w = .running i)

/-- Somebody will report the value that the channel has now. -/
def Covered (svc : Service N) (s : Reports N V) (k : Key) : Prop :=
  (∃ th, (s.callers th).Carries svc k) ∨ (∃ i, s.Awaits svc k i) ∨
    ∃ w i, (s.workers w).reads = some (i, s.content k) ∧ (s.requests i).key = k

def Owed (s : Reports N V) (k : Key) : Prop :=
  Since.Owed (Event.Changes k) (Event.Settles k (s.content k)) s.log

end Reports

/-! ## The invariant -/

/-- The state of the task where a pool thread stands. -/
def WorkPc.Fits (state : TaskState) : WorkPc N V → Prop
  | .idle => True
  | .picked _ => state = .picked
  | .running _ => state = .executing
  | .read _ _ => state = .executing
  | .noted _ _ _ => state = .executing
  | .taken _ _ _ => state = .executing
  | .ending _ _ => state = .executing
  | .finished _ => state.finished = true

structure Inv (svc : Service N) (s : Reports N V) : Prop where
  queued : ∀ i ∈ s.queue, i < s.created
  held : ∀ w i, (s.workers w).holds = some i → i < s.created
  single : ∀ w v i, (s.workers w).holds = some i → (s.workers v).holds = some i → w = v
  fits : ∀ w i, (s.workers w).holds = some i → (s.workers w).Fits (s.requests i).task.state
  found : ∀ th key note i, s.callers th = .found key note i →
    i < s.created ∧ svc.isAnyActionSet (s.requests i).note = svc.isAnyActionSet note
  started : ∀ th r, s.callers th = .started r → r.task.state = .waiting
  covered : ∀ k, s.Owed k → s.Covered svc k

theorem WorkPc.Fits.not_waiting {pc : WorkPc N V} {i : Nat} {state : TaskState}
    (h : pc.Fits state) (hi : pc.holds = some i) : state ≠ .waiting := by
  rintro rfl
  cases pc with
  | idle => cases hi
  | picked | running | read | noted | taken | ending | finished =>
    simp [WorkPc.Fits, TaskState.finished] at h

/-- A task that waits is in no hands. -/
theorem Inv.free (h : Inv svc s) {i : Nat} (hi : (s.requests i).task.state = .waiting) (w : Nat) :
    (s.workers w).holds ≠ some i := fun hw => (h.fits w i hw).not_waiting hw hi

theorem WorkPc.holds_of_reads {pc : WorkPc N V} {i : Nat} {content : Int × V}
    (h : pc.reads = some (i, content)) : pc.holds = some i := by
  cases pc <;> cases h <;> rfl

theorem holds_of_awaits {pc : WorkPc N V} {j : Nat} (h : pc = .picked j ∨ pc = .running j) :
    pc.holds = some j := by
  obtain rfl | rfl := h <;> rfl

/-! ## Steps of a call -/

/-- A thread moves on in `new_request`; nothing else changes but the log. -/
structure Calls (s s' : Reports N V) (th : Nat) (pc : CallPc N) (es : List (Event N V)) : Prop where
  callers : ∀ u, s'.callers u = if u = th then pc else s.callers u
  content : s'.content = s.content
  requests : s'.requests = s.requests
  created : s'.created = s.created
  queue : s'.queue = s.queue
  workers : s'.workers = s.workers
  log : s'.log = es ++ s.log

variable {th : Nat} {pc : CallPc N} {es : List (Event N V)}

theorem unchanged_nil : ∀ e ∈ ([] : List (Event N V)), ∀ k, ¬ e.Changes k := by
  intro e he
  cases he

theorem unchanged_single {e : Event N V} (he : ∀ k, ¬ e.Changes k) :
    ∀ x ∈ [e], ∀ k, ¬ x.Changes k := by
  intro x hx
  rw [List.mem_singleton.1 hx]
  exact he

theorem Reports.Owed.before (h : s'.Owed k) (hcontent : s'.content k = s.content k)
    (hlog : s'.log = es ++ s.log) (hes : ∀ e ∈ es, ¬ e.Changes k) :
    s.Owed k ∧ ∀ e ∈ es, ¬ e.Settles k (s.content k) := by
  unfold Reports.Owed at h
  rw [hlog, hcontent] at h
  exact h.of_append hes

theorem Reports.Awaits.congr {i : Nat} (h : s.Awaits svc k i) (hrequests : s'.requests = s.requests)
    (hqueue : s'.queue = s.queue) (hworkers : s'.workers = s.workers) : s'.Awaits svc k i := by
  unfold Reports.Awaits at *
  rwa [hrequests, hqueue, hworkers]

/-- The invariant over a step of a call: what the call carried is carried on, is answered, or is
left to a request that waits. -/
theorem Inv.calls (h : Inv svc s) (hs : Calls s s' th pc es)
    (hes : ∀ e ∈ es, ∀ k, ¬ e.Changes k)
    (hfound : ∀ key note i, pc = .found key note i →
      i < s.created ∧ svc.isAnyActionSet (s.requests i).note = svc.isAnyActionSet note)
    (hstarted : ∀ r, pc = .started r → r.task.state = .waiting)
    (hcarries : ∀ k, s'.Owed k → (s.callers th).Carries svc k → s'.Covered svc k) :
    Inv svc s' := by
  refine ⟨?_, ?_, ?_, ?_, ?_, ?_, ?_⟩
  · rw [hs.queue, hs.created]
    exact h.queued
  · rw [hs.workers, hs.created]
    exact h.held
  · rw [hs.workers]
    exact h.single
  · rw [hs.workers, hs.requests]
    exact h.fits
  · intro u key note i hu
    rw [hs.created, hs.requests]
    rw [hs.callers] at hu
    split at hu
    · exact hfound key note i hu
    · exact h.found u key note i hu
  · intro u r hu
    rw [hs.callers] at hu
    split at hu
    · exact hstarted r hu
    · exact h.started u r hu
  · intro k howed
    obtain ⟨hbefore, -⟩ := howed.before (congrFun hs.content k) hs.log fun e he => hes e he k
    obtain ⟨u, hu⟩ | ⟨i, hi⟩ | ⟨w, i, hw, hkey⟩ := h.covered k hbefore
    · by_cases hth : u = th
      · exact hcarries k howed (hth ▸ hu)
      · refine .inl ⟨u, ?_⟩
        rwa [hs.callers, if_neg hth]
    · exact .inr (.inl ⟨i, hi.congr hs.requests hs.queue hs.workers⟩)
    · refine .inr (.inr ⟨w, i, ?_, ?_⟩)
      · rwa [hs.workers, hs.content]
      · rwa [hs.requests]

/-- A step that keeps what the call carries. -/
theorem Inv.calls_on (h : Inv svc s) (hs : Calls s s' th pc [])
    (hfound : ∀ key note i, pc ≠ .found key note i)
    (hstarted : ∀ r, pc = .started r → r.task.state = .waiting)
    (hcarries : ∀ k, (s.callers th).Carries svc k → pc.Carries svc k) : Inv svc s' := by
  refine h.calls hs unchanged_nil (fun key note i hpc => absurd hpc (hfound key note i))
    hstarted fun k _ hk => .inl ⟨th, ?_⟩
  rw [hs.callers, if_pos rfl]
  exact hcarries k hk

theorem Reports.findTask_some {key : Key} {note : N} {i : Nat}
    (h : s.findTask svc key note = some i) :
    i ∈ s.queue ∧ (s.requests i).key = key ∧
      svc.isAnyActionSet (s.requests i).note = svc.isAnyActionSet note ∧
      (s.requests i).task.state = .waiting := by
  have hmet := List.find?_some h
  unfold Request.conditionMet at hmet
  rw [Bool.and_eq_true, Bool.and_eq_true, decide_eq_true_eq, decide_eq_true_eq, beq_iff_eq] at hmet
  exact ⟨List.mem_of_find?_eq_some h, hmet.1.1, hmet.1.2, hmet.2⟩

theorem state_new (timeoutUsec : Nat) (now : Int) (key : Key) (note : N) (delay : Int) :
    (Request.new svc timeoutUsec now key note delay).task.state = .waiting := rfl

/-! ## Notes -/

/-- A note is replaced by one that is as much about actions. -/
theorem Inv.setNote (h : Inv svc s) {i : Nat} {note : N}
    (hnote : svc.isAnyActionSet note = svc.isAnyActionSet (s.requests i).note) :
    Inv svc (s.setRequest i { s.requests i with note := note }) := by
  obtain ⟨s', hs'⟩ : ∃ s', s' = s.setRequest i { s.requests i with note := note } := ⟨_, rfl⟩
  have hsame : ∀ j, (s'.requests j).key = (s.requests j).key ∧
      svc.isAnyActionSet (s'.requests j).note = svc.isAnyActionSet (s.requests j).note ∧
      (s'.requests j).task = (s.requests j).task := by
    intro j
    rw [hs', Reports.setRequest]
    dsimp only
    split
    · rename_i hj
      rw [hj]
      exact ⟨rfl, hnote, rfl⟩
    · exact ⟨rfl, rfl, rfl⟩
  have habout : ∀ j k, (s.requests j).About svc k → (s'.requests j).About svc k := fun j k hj =>
    ⟨(hsame j).1.trans hj.key, (hsame j).2.1.trans hj.value⟩
  rw [← hs']
  refine ⟨?_, ?_, ?_, ?_, ?_, ?_, ?_⟩
  · rw [hs']
    exact h.queued
  · rw [hs']
    exact h.held
  · rw [hs']
    exact h.single
  · intro w j hw
    rw [(hsame j).2.2]
    rw [hs'] at hw ⊢
    exact h.fits w j hw
  · intro th key note j hth
    rw [(hsame j).2.1]
    rw [hs'] at hth ⊢
    exact h.found th key note j hth
  · rw [hs']
    exact h.started
  · intro k howed
    have hbefore : s.Owed k := by
      rw [hs'] at howed
      exact howed
    have hrest : s'.callers = s.callers ∧ s'.queue = s.queue ∧ s'.workers = s.workers ∧
        s'.content = s.content := by
      rw [hs']
      exact ⟨rfl, rfl, rfl, rfl⟩
    obtain ⟨hcallers, hqueue, hworkers, hcontent⟩ := hrest
    unfold Reports.Covered Reports.Awaits
    rw [hcallers, hqueue, hworkers, hcontent]
    obtain hth | ⟨j, hj, hwhere⟩ | ⟨w, j, hw, hkey⟩ := h.covered k hbefore
    · exact .inl hth
    · refine .inr (.inl ⟨j, habout j k hj, ?_⟩)
      rwa [(hsame j).2.2]
    · exact .inr (.inr ⟨w, j, hw, (hsame j).1.trans hkey⟩)

/-! ## A request is added -/

theorem Inv.addTask (h : Inv svc s) {r : Request N} (hpc : s.callers th = .started r) :
    Inv svc ((s.addTask r).setCaller th .idle) := by
  obtain ⟨s', hs'⟩ : ∃ s', s' = (s.addTask r).setCaller th .idle := ⟨_, rfl⟩
  have hself : s'.requests s.created = r := by
    rw [hs']
    exact if_pos rfl
  have hother : ∀ j, j < s.created → s'.requests j = s.requests j := by
    intro j hj
    rw [hs']
    exact if_neg (Nat.ne_of_lt hj)
  have hqueue : ∀ j, j ∈ s'.queue ↔ j = s.created ∨ j ∈ s.queue := by
    intro j
    rw [hs']
    exact Life.mem_insert
  have hcallers : ∀ u, s'.callers u = if u = th then .idle else s.callers u := by
    intro u
    rw [hs']
    rfl
  have hrest : s'.created = s.created + 1 ∧ s'.workers = s.workers ∧ s'.content = s.content ∧
      s'.log = s.log := by
    rw [hs']
    exact ⟨rfl, rfl, rfl, rfl⟩
  obtain ⟨hcreated, hworkers, hcontent, hlog⟩ := hrest
  rw [← hs']
  refine ⟨?_, ?_, ?_, ?_, ?_, ?_, ?_⟩
  · intro i hi
    rw [hcreated]
    obtain rfl | hi := (hqueue i).1 hi
    · exact Nat.lt_succ_self _
    · exact Nat.lt_succ_of_lt (h.queued i hi)
  · intro w i hw
    rw [hworkers] at hw
    rw [hcreated]
    exact Nat.lt_succ_of_lt (h.held w i hw)
  · rw [hworkers]
    exact h.single
  · intro w i hw
    rw [hworkers] at hw ⊢
    rw [hother i (h.held w i hw)]
    exact h.fits w i hw
  · intro u key note i hu
    rw [hcallers] at hu
    split at hu
    · cases hu
    · obtain ⟨hlt, hnote⟩ := h.found u key note i hu
      rw [hcreated, hother i hlt]
      exact ⟨Nat.lt_succ_of_lt hlt, hnote⟩
  · intro u r' hu
    rw [hcallers] at hu
    split at hu
    · cases hu
    · exact h.started u r' hu
  · intro k howed
    have hbefore : s.Owed k := by
      unfold Reports.Owed at howed ⊢
      rwa [hlog, hcontent] at howed
    obtain ⟨u, hu⟩ | ⟨i, hi, hwhere⟩ | ⟨w, i, hw, hkey⟩ := h.covered k hbefore
    · by_cases hth : u = th
      · rw [hth, hpc] at hu
        refine .inr (.inl ⟨s.created, ?_, .inl ⟨?_, (hqueue _).2 (.inl rfl)⟩⟩)
        · rwa [hself]
        · rw [hself]
          exact h.started th r hpc
      · refine .inl ⟨u, ?_⟩
        rwa [hcallers, if_neg hth]
    · have hlt : i < s.created := by
        obtain ⟨-, hi⟩ | ⟨w, hw⟩ := hwhere
        · exact h.queued i hi
        · exact h.held w i (holds_of_awaits hw)
      refine .inr (.inl ⟨i, ?_, ?_⟩)
      · rwa [hother i hlt]
      · rw [hother i hlt, hworkers]
        exact hwhere.imp (fun hi => ⟨hi.1, (hqueue i).2 (.inr hi.2)⟩) id
    · refine .inr (.inr ⟨w, i, ?_, ?_⟩)
      · rwa [hworkers, hcontent]
      · rwa [hother i (h.held w i (WorkPc.holds_of_reads hw))]

/-- **A step of `new_request`** keeps the invariant. -/
theorem Inv.callStep (h : Inv svc s) {g : Gate}
    (hs : s.callStep svc timeoutUsec th g = some s') : Inv svc s' := by
  unfold Reports.callStep at hs
  cases hpc : s.callers th with
  | idle =>
    rw [hpc] at hs
    cases hs
  | entered key note =>
    rw [hpc] at hs
    cases hs
    split
    · refine h.calls_on ⟨fun u => rfl, rfl, rfl, rfl, rfl, rfl, rfl⟩ (by intro _ _ _ hf; cases hf)
        (by intro _ hr; cases hr) fun k hk => ?_
      rwa [hpc] at hk
    · have hcalls : Calls s ((s.tell (.refused key)).setCaller th .idle) th .idle
          [.refused key] := ⟨fun u => rfl, rfl, rfl, rfl, rfl, rfl, rfl⟩
      refine h.calls hcalls (unchanged_single fun _ => id)
        (by intro _ _ _ hf; cases hf) (by intro _ hr; cases hr) fun k howed hk => ?_
      · rw [hpc] at hk
        exact absurd hk.1 howed.1
  | allowed key note func =>
    rw [hpc] at hs
    cases hs
    refine h.calls_on ⟨fun u => rfl, rfl, rfl, rfl, rfl, rfl, rfl⟩ (by intro _ _ _ hf; cases hf)
      (by intro _ hr; cases hr) fun k hk => ?_
    rwa [hpc] at hk
  | delayed key note delay =>
    rw [hpc] at hs
    cases hs
    cases hfind : s.findTask svc key note with
    | none =>
      refine h.calls_on ⟨fun u => rfl, rfl, rfl, rfl, rfl, rfl, rfl⟩ (by intro _ _ _ hf; cases hf)
        (by intro _ hr; cases hr) fun k hk => ?_
      rwa [hpc] at hk
    | some i =>
      obtain ⟨hqueue, hkey, hnote, hwaiting⟩ := Reports.findTask_some hfind
      have hcalls : Calls s (s.setCaller th (.found key note i)) th (.found key note i) [] :=
        ⟨fun u => rfl, rfl, rfl, rfl, rfl, rfl, rfl⟩
      refine h.calls hcalls unchanged_nil ?_ (by intro _ hr; cases hr) fun k _ hk => ?_
      · intro key' note' j hf
        cases hf
        exact ⟨h.queued i hqueue, hnote⟩
      · rw [hpc] at hk
        exact .inr (.inl ⟨i, ⟨hkey.trans hk.1, hnote.trans hk.2⟩, .inl ⟨hwaiting, hqueue⟩⟩)
  | found key note i =>
    rw [hpc] at hs
    cases hs
    have hkeep := svc.onTask_actions note (s.requests i).note (h.found th key note i hpc).2
    refine (h.setNote hkeep).calls_on ⟨fun u => rfl, rfl, rfl, rfl, rfl, rfl, rfl⟩
      (by intro _ _ _ hf; cases hf) (by intro _ hr; cases hr) fun k hk => ?_
    have hnone : (s.callers th).Carries svc k := hk
    rw [hpc] at hnone
    exact hnone.elim
  | missing key note delay =>
    rw [hpc] at hs
    cases hs
    refine h.calls_on ⟨fun u => rfl, rfl, rfl, rfl, rfl, rfl, rfl⟩ (by intro _ _ _ hf; cases hf) ?_
      fun k hk => ?_
    · intro r hr
      cases hr
      exact state_new timeoutUsec s.now key note delay
    · rw [hpc] at hk
      exact ⟨hk.1, hk.2⟩
  | started r =>
    rw [hpc] at hs
    cases hs
    exact h.addTask hpc

/-! ## Steps of a pool thread -/

/-- A pool thread moves on with its task. -/
structure Works (s s' : Reports N V) (w i : Nat) (t : Task) (pc : WorkPc N V)
    (es : List (Event N V)) : Prop where
  workers : ∀ v, s'.workers v = if v = w then pc else s.workers v
  requests : ∀ j, s'.requests j = if j = i then { s.requests i with task := t } else s.requests j
  content : s'.content = s.content
  callers : s'.callers = s.callers
  created : s'.created = s.created
  queue : ∀ j ∈ s'.queue, j ∈ s.queue
  queued : ∀ j, j ≠ i → j ∈ s.queue → j ∈ s'.queue
  log : s'.log = es ++ s.log

section
variable {w i : Nat} {t : Task} {pc' : WorkPc N V}

theorem Works.about (hs : Works s s' w i t pc' es) {j : Nat} (h : (s.requests j).About svc k) :
    (s'.requests j).About svc k := by
  rw [hs.requests]
  split
  · rename_i hj
    exact ⟨hj ▸ h.key, hj ▸ h.value⟩
  · exact h

/-- What is told while something is owed does not settle it. -/
theorem Works.unsettled (hs : Works s s' w i t pc' es) (hes : ∀ e ∈ es, ∀ k, ¬ e.Changes k)
    (howed : s'.Owed k) : ∀ e ∈ es, ¬ e.Settles k (s.content k) :=
  (howed.before (congrFun hs.content k) hs.log fun e he => hes e he k).2

/-- The invariant over a step of a pool thread: what the task or the thread covered is covered
further on or is answered. -/
theorem Inv.works (h : Inv svc s) (hs : Works s s' w i t pc' es) (hlt : i < s.created)
    (hfree : ∀ v, (s.workers v).holds = some i → v = w)
    (hown : ∀ j, (s.workers w).holds = some j → j = i)
    (hholds : ∀ j, pc'.holds = some j → j = i) (hfits : pc'.Fits t.state)
    (hes : ∀ e ∈ es, ∀ k, ¬ e.Changes k)
    (hawaits : ∀ k, s'.Owed k → s.Awaits svc k i → s'.Covered svc k)
    (hreads : ∀ k, s'.Owed k → (s.workers w).reads = some (i, s.content k) →
      (s.requests i).key = k → s'.Covered svc k) : Inv svc s' := by
  have hheld : ∀ v j, (s'.workers v).holds = some j →
      v = w ∧ j = i ∨ v ≠ w ∧ j ≠ i ∧ (s.workers v).holds = some j := by
    intro v j hv
    rw [hs.workers] at hv
    split at hv
    · rename_i hvw
      exact .inl ⟨hvw, hholds j hv⟩
    · rename_i hvw
      exact .inr ⟨hvw, fun hj => hvw (hfree v (hj ▸ hv)), hv⟩
  refine ⟨?_, ?_, ?_, ?_, ?_, ?_, ?_⟩
  · intro j hj
    rw [hs.created]
    exact h.queued j (hs.queue j hj)
  · intro v j hv
    rw [hs.created]
    obtain ⟨-, rfl⟩ | ⟨-, -, hv⟩ := hheld v j hv
    · exact hlt
    · exact h.held v j hv
  · intro v u j hv hu
    obtain ⟨hvw, hj⟩ | ⟨hvw, hj, hv⟩ := hheld v j hv
    · obtain ⟨huw, -⟩ | ⟨-, hj', -⟩ := hheld u j hu
      · rw [hvw, huw]
      · exact absurd hj hj'
    · obtain ⟨-, hj'⟩ | ⟨-, -, hu⟩ := hheld u j hu
      · exact absurd hj' hj
      · exact h.single v u j hv hu
  · intro v j hv
    obtain ⟨hvw, hj⟩ | ⟨hvw, hj, hold⟩ := hheld v j hv
    · rw [hs.workers, hs.requests, if_pos hvw, if_pos hj]
      exact hfits
    · rw [hs.workers, hs.requests, if_neg hvw, if_neg hj]
      exact h.fits v j hold
  · intro u key note j hu
    rw [hs.callers] at hu
    obtain ⟨hj, hnote⟩ := h.found u key note j hu
    refine ⟨hs.created ▸ hj, ?_⟩
    rw [hs.requests]
    split
    · rename_i heq
      rw [heq] at hnote
      exact hnote
    · exact hnote
  · rw [hs.callers]
    exact h.started
  · intro k howed
    obtain ⟨hbefore, -⟩ := howed.before (congrFun hs.content k) hs.log fun e he => hes e he k
    obtain ⟨u, hu⟩ | ⟨j, hj⟩ | ⟨v, j, hv, hkey⟩ := h.covered k hbefore
    · refine .inl ⟨u, ?_⟩
      rwa [hs.callers]
    · by_cases hji : j = i
      · exact hawaits k howed (hji ▸ hj)
      · obtain ⟨habout, hwhere⟩ := hj
        refine .inr (.inl ⟨j, hs.about habout, ?_⟩)
        rw [hs.requests, if_neg hji]
        obtain ⟨hwaiting, hq⟩ | ⟨v, hv⟩ := hwhere
        · exact .inl ⟨hwaiting, hs.queued j hji hq⟩
        · refine .inr ⟨v, ?_⟩
          have hvw : v ≠ w := by
            rintro rfl
            exact hji (hown j (holds_of_awaits hv))
          rwa [hs.workers, if_neg hvw]
    · have hvj := WorkPc.holds_of_reads hv
      by_cases hvw : v = w
      · have hji := hown j (hvw ▸ hvj)
        exact hreads k howed (hji ▸ hvw ▸ hv) (hji ▸ hkey)
      · refine .inr (.inr ⟨v, j, ?_, ?_⟩)
        · rwa [hs.workers, if_neg hvw, hs.content]
        · have hji : j ≠ i := by
            rintro rfl
            exact hvw (hfree v hvj)
          rwa [hs.requests, if_neg hji]

/-- Behind the reading a task awaits nothing any more. -/
theorem Inv.not_awaits (h : Inv svc s) (hw : (s.workers w).holds = some i)
    (hpc : s.workers w ≠ .picked i ∧ s.workers w ≠ .running i) : ¬ s.Awaits svc k i := by
  rintro ⟨-, ⟨hwaiting, -⟩ | ⟨v, hv⟩⟩
  · exact h.free hwaiting w hw
  · have hvw := h.single v w i (holds_of_awaits hv) hw
    rw [hvw] at hv
    exact hv.elim hpc.1 hpc.2

/-- The same for a thread that has its task already. -/
theorem Inv.works_on (h : Inv svc s) (hs : Works s s' w i t pc' es)
    (hw : (s.workers w).holds = some i)
    (hholds : ∀ j, pc'.holds = some j → j = i) (hfits : pc'.Fits t.state)
    (hes : ∀ e ∈ es, ∀ k, ¬ e.Changes k)
    (hawaits : ∀ k, s'.Owed k → s.Awaits svc k i → s'.Covered svc k)
    (hreads : ∀ k, s'.Owed k → (s.workers w).reads = some (i, s.content k) →
      (s.requests i).key = k → s'.Covered svc k) : Inv svc s' :=
  h.works hs (h.held w i hw) (fun v hv => h.single v w i hv hw)
    (fun _ hj => Option.some.inj (hj.symm.trans hw)) hholds hfits hes hawaits hreads

theorem Reports.findDue_some (h : s.findDue = some i) :
    i ∈ s.queue ∧ (s.requests i).task.state = .waiting ∧
      (s.requests i).task.timeLeftUsec s.now ≤ 0 := by
  have hdue := List.find?_some h
  rw [Bool.and_eq_true, decide_eq_true_eq, decide_eq_true_eq] at hdue
  exact ⟨List.mem_of_find?_eq_some h, hdue⟩

theorem Inv.workPick (h : Inv svc s) (hpc : s.workers w = .idle) (hi : s.findDue = some i)
    (hs : Works s s' w i (s.requests i).task.pick.2 (.picked i) es)
    (hes : ∀ e ∈ es, ∀ k, ¬ e.Changes k) : Inv svc s' := by
  obtain ⟨hqueue, hwaiting, -⟩ := Reports.findDue_some hi
  refine h.works hs (h.queued i hqueue) (fun v hv => absurd hv (h.free hwaiting v)) ?_ ?_ ?_ hes
    (fun k _ hk => ?_) fun k _ hk => ?_
  · intro j hj
    rw [hpc] at hj
    cases hj
  · intro j hj
    cases hj
    rfl
  · show (s.requests i).task.pick.2.state = .picked
    rw [Task.pick, if_pos hwaiting]
  · refine .inr (.inl ⟨i, hs.about hk.1, .inr ⟨w, .inl ?_⟩⟩)
    rw [hs.workers, if_pos rfl]
  · rw [hpc] at hk
    cases hk

/-- A step that leaves the requests alone. -/
theorem requests_same (j : Nat) : s.requests j =
    if j = i then { s.requests i with task := (s.requests i).task } else s.requests j := by
  split
  · rename_i hj
    rw [hj]
  · rfl

theorem Inv.workBegin (h : Inv svc s) (hpc : s.workers w = .picked i) {tokenExists result : Bool}
    (hs : s.workStep svc w tokenExists result = some s') : Inv svc s' := by
  have hw : (s.workers w).holds = some i := congrArg WorkPc.holds hpc
  have hstate : (s.requests i).task.state = .picked := by
    have hfits := h.fits w i hw
    rwa [hpc] at hfits
  have hreads : ∀ k, (s.workers w).reads ≠ some (i, s.content k) := by
    intro k hk
    rw [hpc] at hk
    cases hk
  unfold Reports.workStep at hs
  rw [hpc] at hs
  unfold Task.executeBegin at hs
  dsimp only at hs
  rw [if_pos hstate] at hs
  have hs := Option.some.inj hs
  by_cases hlate : (s.requests i).task.timedOut s.now = true
  · rw [if_pos hlate] at hs
    have hworks : Works s s' w i { (s.requests i).task with state := .timeout } (.finished i)
        [.dropped (s.requests i).key] := by
      rw [← hs]
      exact ⟨fun v => rfl, fun j => rfl, rfl, rfl, rfl, fun j hj => hj, fun j _ hj => hj, rfl⟩
    refine h.works_on hworks hw (by intro _ hj; cases hj; rfl) rfl (unchanged_single fun _ => id)
      (fun k howed hk => ?_) fun k _ hk => absurd hk (hreads k)
    · exact absurd hk.1.key (hworks.unsettled (unchanged_single fun _ => id) howed _ (.head _))
  · rw [if_neg hlate] at hs
    have hworks : Works s s' w i { (s.requests i).task with state := .executing }
        (.running i) [] := by
      rw [← hs]
      exact ⟨fun v => rfl, fun j => rfl, rfl, rfl, rfl, fun j hj => hj, fun j _ hj => hj, rfl⟩
    refine h.works_on hworks hw (by intro _ hj; cases hj; rfl) rfl unchanged_nil
      (fun k _ hk => ?_) fun k _ hk => absurd hk (hreads k)
    refine .inr (.inl ⟨i, hworks.about hk.1, .inr ⟨w, .inr ?_⟩⟩)
    rw [hworks.workers, if_pos rfl]

theorem Inv.workRun (h : Inv svc s) (hpc : s.workers w = .running i) {tokenExists result : Bool}
    (hs : s.workStep svc w tokenExists result = some s') : Inv svc s' := by
  have hw : (s.workers w).holds = some i := congrArg WorkPc.holds hpc
  have hstate : (s.requests i).task.state = .executing := by
    have hfits := h.fits w i hw
    rwa [hpc] at hfits
  have hreads : ∀ k, (s.workers w).reads ≠ some (i, s.content k) := by
    intro k hk
    rw [hpc] at hk
    cases hk
  unfold Reports.workStep at hs
  rw [hpc] at hs
  have hs := Option.some.inj hs
  split at hs
  · have hworks : Works s s' w i (s.requests i).task (.ending i false)
        [.dropped (s.requests i).key] := by
      rw [← hs]
      exact ⟨fun v => rfl, requests_same, rfl, rfl, rfl, fun j hj => hj, fun j _ hj => hj, rfl⟩
    refine h.works_on hworks hw (by intro _ hj; cases hj; rfl) hstate (unchanged_single fun _ => id)
      (fun k howed hk => ?_) fun k _ hk => absurd hk (hreads k)
    · exact absurd hk.1.key (hworks.unsettled (unchanged_single fun _ => id) howed _ (.head _))
  · split at hs
    · rename_i hactions
      have hworks : Works s s' w i (s.requests i).task (.ending i result)
          [.actionsSent (s.requests i).key (s.requests i).note] := by
        rw [← hs]
        exact ⟨fun v => rfl, requests_same, rfl, rfl, rfl, fun j hj => hj, fun j _ hj => hj, rfl⟩
      refine h.works_on hworks hw (by intro _ hj; cases hj; rfl) hstate
        (unchanged_single fun _ => id)
        (fun k _ hk => ?_) fun k _ hk => absurd hk (hreads k)
      · cases hactions.symm.trans hk.1.value
    · have hworks : Works s s' w i (s.requests i).task
          (.read i (s.content (s.requests i).key)) [] := by
        rw [← hs]
        exact ⟨fun v => rfl, requests_same, rfl, rfl, rfl, fun j hj => hj, fun j _ hj => hj, rfl⟩
      refine h.works_on hworks hw (by intro _ hj; cases hj; rfl) hstate
        unchanged_nil (fun k _ hk => ?_) fun k _ hk => absurd hk (hreads k)
      refine .inr (.inr ⟨w, i, ?_, (hworks.about hk.1).key⟩)
      rw [hworks.workers, if_pos rfl, hworks.content, hk.1.key]
      rfl

/-- A thread that has read the value goes on, and nothing is told. -/
theorem Inv.workOn (h : Inv svc s) {content : Int × V}
    (hread : (s.workers w).reads = some (i, content))
    (hs : Works s s' w i (s.requests i).task pc' []) (hpc' : pc'.reads = some (i, content))
    (hfits : pc'.Fits (s.requests i).task.state)
    (hpc : s.workers w ≠ .picked i ∧ s.workers w ≠ .running i) : Inv svc s' := by
  have hw := WorkPc.holds_of_reads hread
  refine h.works_on hs hw (fun j hj => ?_) hfits unchanged_nil
    (fun k _ hk => absurd hk (h.not_awaits hw hpc)) fun k _ hk hkey => ?_
  · exact Option.some.inj (hj.symm.trans (WorkPc.holds_of_reads hpc'))
  · refine .inr (.inr ⟨w, i, ?_, ?_⟩)
    · rw [hs.workers, if_pos rfl, hs.content, ← hk, hread, hpc']
    · rw [hs.requests, if_pos rfl]
      exact hkey

/-- **A step of a pool thread** keeps the invariant. -/
theorem Inv.workStep (h : Inv svc s) {tokenExists result : Bool}
    (hs : s.workStep svc w tokenExists result = some s') : Inv svc s' := by
  cases hpc : s.workers w with
  | idle =>
    unfold Reports.workStep at hs
    rw [hpc] at hs
    obtain ⟨i, hi, hs⟩ := Option.map_eq_some_iff.1 hs
    dsimp only at hs
    split at hs
    · have hworks : Works s s' w i (s.requests i).task.pick.2 (.picked i) [] := by
        rw [← hs]
        exact ⟨fun v => rfl, fun j => rfl, rfl, rfl, rfl, fun j hj => hj, fun j _ hj => hj, rfl⟩
      exact h.workPick hpc hi hworks unchanged_nil
    · have hworks : Works s s' w i (s.requests i).task.pick.2 (.picked i)
          [.picked (s.requests i).key s.now] := by
        rw [← hs]
        exact ⟨fun v => rfl, fun j => rfl, rfl, rfl, rfl, fun j hj => hj, fun j _ hj => hj, rfl⟩
      exact h.workPick hpc hi hworks (unchanged_single fun _ => id)
  | picked i => exact h.workBegin hpc hs
  | running i => exact h.workRun hpc hs
  | read i content =>
    have hfits := h.fits w i (congrArg WorkPc.holds hpc)
    rw [hpc] at hfits
    unfold Reports.workStep at hs
    rw [hpc] at hs
    have hs := Option.some.inj hs
    have hworks : Works s s' w i (s.requests i).task (.noted i content (s.requests i).note) [] := by
      rw [← hs]
      exact ⟨fun v => rfl, requests_same, rfl, rfl, rfl, fun j hj => hj, fun j _ hj => hj, rfl⟩
    have hread : (s.workers w).reads = some (i, content) := congrArg WorkPc.reads hpc
    exact h.workOn hread hworks rfl hfits (by rw [hpc]; exact ⟨by simp, by simp⟩)
  | noted i content note =>
    have hkept := h.setNote (svc.taken_actions (s.requests i).note)
    have hfits := hkept.fits w i (congrArg WorkPc.holds hpc)
    rw [show (s.setRequest i _).workers w = .noted i content note from hpc] at hfits
    unfold Reports.workStep at hs
    rw [hpc] at hs
    have hs := Option.some.inj hs
    have hread : ((s.setRequest i { s.requests i with
        note := svc.taken (s.requests i).note }).workers w).reads = some (i, content) :=
      congrArg WorkPc.reads hpc
    refine hkept.workOn hread ?_ (rfl : WorkPc.reads (.taken i content note) = _) hfits ?_
    · rw [← hs]
      exact ⟨fun v => rfl, requests_same, rfl, rfl, rfl, fun j hj => hj, fun j _ hj => hj, rfl⟩
    · rw [show (s.setRequest i _).workers w = .noted i content note from hpc]
      exact ⟨by simp, by simp⟩
  | taken i content note =>
    have hw : (s.workers w).holds = some i := congrArg WorkPc.holds hpc
    have hstate : (s.requests i).task.state = .executing := by
      have hfits := h.fits w i hw
      rwa [hpc] at hfits
    have hpast : s.workers w ≠ .picked i ∧ s.workers w ≠ .running i := by
      rw [hpc]
      exact ⟨by simp, by simp⟩
    unfold Reports.workStep at hs
    rw [hpc] at hs
    have hs := Option.some.inj hs
    split at hs
    · have hworks : Works s s' w i (s.requests i).task (.ending i result)
          [.sent (s.requests i).key content note] := by
        rw [← hs]
        exact ⟨fun v => rfl, requests_same, rfl, rfl, rfl, fun j hj => hj, fun j _ hj => hj, rfl⟩
      refine h.works_on hworks hw (by intro _ hj; cases hj; rfl) hstate
        (unchanged_single fun _ => id)
        (fun k _ hk => absurd hk (h.not_awaits hw hpast)) fun k howed hk hkey => ?_
      · rw [hpc] at hk
        have hcontent : content = s.content k := (Prod.mk.inj (Option.some.inj hk)).2
        have hunsettled := hworks.unsettled (unchanged_single fun _ => id) howed
        exact absurd ⟨hkey, hcontent⟩ (hunsettled _ (.head _))
    · have hworks : Works s s' w i (s.requests i).task (.ending i false)
          [.dropped (s.requests i).key] := by
        rw [← hs]
        exact ⟨fun v => rfl, requests_same, rfl, rfl, rfl, fun j hj => hj, fun j _ hj => hj, rfl⟩
      refine h.works_on hworks hw (by intro _ hj; cases hj; rfl) hstate
        (unchanged_single fun _ => id)
        (fun k _ hk => absurd hk (h.not_awaits hw hpast)) fun k howed _ hkey => ?_
      · exact absurd hkey (hworks.unsettled (unchanged_single fun _ => id) howed _ (.head _))
  | ending i done =>
    have hw : (s.workers w).holds = some i := congrArg WorkPc.holds hpc
    have hstate : (s.requests i).task.state = .executing := by
      have hfits := h.fits w i hw
      rwa [hpc] at hfits
    unfold Reports.workStep at hs
    rw [hpc] at hs
    have hs := Option.some.inj hs
    have hworks : Works s s' w i ((s.requests i).task.executeEnd s.now false done)
        (.finished i) [] := by
      rw [← hs]
      exact ⟨fun v => rfl, fun j => rfl, rfl, rfl, rfl, fun j hj => hj, fun j _ hj => hj, rfl⟩
    refine h.works_on hworks hw (by intro _ hj; cases hj; rfl) ?_ unchanged_nil
      (fun k _ hk => absurd hk (h.not_awaits hw ?_)) fun k _ hk => ?_
    · show ((s.requests i).task.executeEnd s.now false done).state.finished = true
      unfold Task.executeEnd
      rw [if_pos (by rw [hstate]; decide), if_neg (by decide)]
      cases done <;> rfl
    · rw [hpc]
      exact ⟨by simp, by simp⟩
    · rw [hpc] at hk
      cases hk
  | finished i =>
    have hw : (s.workers w).holds = some i := congrArg WorkPc.holds hpc
    unfold Reports.workStep at hs
    rw [hpc] at hs
    have hs := Option.some.inj hs
    have hworks : Works s s' w i (s.requests i).task .idle [] := by
      rw [← hs]
      exact ⟨fun v => rfl, requests_same, rfl, rfl, rfl, fun j hj => List.mem_of_mem_erase hj,
        fun j hne hj => (List.mem_erase_of_ne hne).2 hj, rfl⟩
    refine h.works_on hworks hw (by intro _ hj; cases hj) trivial unchanged_nil
      (fun k _ hk => absurd hk (h.not_awaits hw ?_)) fun k _ hk => ?_
    · rw [hpc]
      exact ⟨by simp, by simp⟩
    · rw [hpc] at hk
      cases hk

end

/-! ## Runs -/

/-- A channel changes: the call that is about to be made carries it. -/
theorem Inv.change (h : Inv svc s) {key : Key} {note : N} {content : Int × V}
    (hpc : s.callers th = .idle) (hnote : svc.isAnyActionSet note = false) :
    Inv svc (({ s with content := fun k => if k = key then content else s.content k }.tell
      (.changed key)).setCaller th (.entered key note)) := by
  obtain ⟨s', hs'⟩ : ∃ s', s' = (({ s with
      content := fun k => if k = key then content else s.content k }.tell
        (.changed key)).setCaller th (.entered key note)) := ⟨_, rfl⟩
  have hcallers : ∀ u, s'.callers u = if u = th then .entered key note else s.callers u := by
    intro u
    rw [hs']
    rfl
  rw [← hs']
  refine ⟨?_, ?_, ?_, ?_, ?_, ?_, ?_⟩
  · rw [hs']
    exact h.queued
  · rw [hs']
    exact h.held
  · rw [hs']
    exact h.single
  · rw [hs']
    exact h.fits
  · intro u key' note' i hu
    rw [hcallers] at hu
    split at hu
    · cases hu
    · rw [hs']
      exact h.found u key' note' i hu
  · intro u r hu
    rw [hcallers] at hu
    split at hu
    · cases hu
    · exact h.started u r hu
  · intro k howed
    by_cases hk : key = k
    · refine .inl ⟨th, ?_⟩
      rw [hcallers, if_pos rfl]
      exact ⟨hk, hnote⟩
    · have hcontent : s'.content k = s.content k := by
        rw [hs']
        exact if_neg fun heq => hk heq.symm
      have hlog : s'.log = [.changed key] ++ s.log := by rw [hs']; rfl
      obtain ⟨hbefore, -⟩ := howed.before hcontent hlog (by
        intro e he
        rw [List.mem_singleton.1 he]
        exact hk)
      obtain ⟨u, hu⟩ | ⟨i, hi⟩ | ⟨w, i, hw, hkey⟩ := h.covered k hbefore
      · have hth : u ≠ th := by
          rintro rfl
          rw [hpc] at hu
          exact hu
        refine .inl ⟨u, ?_⟩
        rwa [hcallers, if_neg hth]
      · exact .inr (.inl ⟨i, hi.congr (by rw [hs']; rfl) (by rw [hs']; rfl) (by rw [hs']; rfl)⟩)
      · refine .inr (.inr ⟨w, i, ?_, ?_⟩)
        · rw [hcontent, hs']
          exact hw
        · rw [hs']
          exact hkey

theorem Inv.step (h : Inv svc s) {a : Act N V} (hs : s.step svc timeoutUsec a = some s') :
    Inv svc s' := by
  cases a with
  | tick us =>
    cases hs
    exact ⟨h.queued, h.held, h.single, h.fits, h.found, h.started, h.covered⟩
  | change th key note content =>
    rw [Reports.step] at hs
    cases hpc : s.callers th with
    | idle =>
      rw [hpc] at hs
      dsimp only at hs
      split at hs
      · cases hs
      · rename_i hnote
        cases hs
        exact h.change hpc (Bool.eq_false_iff.2 hnote)
    | entered | allowed | delayed | found | missing | started =>
      rw [hpc] at hs
      cases hs
  | trigger th key note =>
    rw [Reports.step] at hs
    cases hpc : s.callers th with
    | idle =>
      rw [hpc] at hs
      dsimp only at hs
      split at hs
      · cases hs
        refine h.calls_on ⟨fun u => rfl, rfl, rfl, rfl, rfl, rfl, rfl⟩
          (by intro _ _ _ hf; cases hf) (by intro _ hr; cases hr) fun k hk => ?_
        rw [hpc] at hk
        exact hk.elim
      · cases hs
    | entered | allowed | delayed | found | missing | started =>
      rw [hpc] at hs
      cases hs
  | call th g => exact h.callStep hs
  | work w tokenExists result => exact h.workStep hs

theorem Inv.init (hs : (reports svc timeoutUsec V).init s) : Inv svc s := by
  obtain ⟨-, -, hqueue, hcallers, hworkers, hlog⟩ := hs
  refine ⟨?_, ?_, ?_, ?_, ?_, ?_, ?_⟩
  · rw [hqueue]
    simp
  · intro w i hw
    rw [hworkers] at hw
    cases hw
  · intro w v i hw
    rw [hworkers] at hw
    cases hw
  · intro w i hw
    rw [hworkers] at hw
    cases hw
  · intro th key note i hth
    rw [hcallers] at hth
    cases hth
  · intro th r hth
    rw [hcallers] at hth
    cases hth
  · intro k howed
    unfold Reports.Owed at howed
    rw [hlog] at howed
    exact howed.elim

theorem Inv.reach (h : Reach (reports svc timeoutUsec V) Any s) : Inv svc s :=
  h.invariant (fun _ => Inv.init) fun _ hinv hs => hinv.step hs

/-- **No change goes unreported**: when a channel has changed, then since that change a call was
refused, a request was given up, or what the channel has now was sent; or else a call is on its way
to make or to find a request, a request is still to read the value, or a thread has read the value
that the channel has now and is about to send it. -/
theorem no_change_lost (svc : Service N) (timeoutUsec : Nat) (s : Reports N V)
    (h : Reach (reports svc timeoutUsec V) Any s) (k : Key) (pre post : List (Event N V))
    (hlog : s.log = pre ++ .changed k :: post) :
    (∃ e ∈ pre, e.Settles k (s.content k)) ∨ s.Covered svc k := by
  by_cases hsettled : ∃ e ∈ pre, e.Settles k (s.content k)
  · exact .inl hsettled
  · refine .inr ((Inv.reach h).covered k ?_)
    unfold Reports.Owed
    rw [hlog]
    exact owed_split rfl id fun e he hsettles => hsettled ⟨e, he, hsettles⟩

def lampKey : Key := ⟨1, 2, 3⟩

/-- A light switch, and no reports so far. -/
def lampOff : Reports Unit Nat where
  now := 0
  content _ := (channelfncLightSwitch, 0)
  items := []
  requests _ := ⟨lampKey, (), ⟨.init, 0, 0, none, false, 0, 0, false, false⟩⟩
  created := 0
  queue := []
  callers _ := .idle
  workers _ := .idle
  log := []

theorem lampOff_init (timeoutUsec : Nat) :
    (reports Alexa.changeReport timeoutUsec Nat).init lampOff :=
  ⟨rfl, rfl, rfl, fun _ => rfl, fun _ => rfl, rfl⟩

def openGate : Gate := ⟨.device, true, false, false, 0, []⟩

/-- It is turned on; a request is made, waits for half a second and is sent. -/
def lampTurnedOn : List (Act Unit Nat) :=
  [.change 0 lampKey () (channelfncLightSwitch, 1), .call 0 openGate, .call 0 openGate,
    .call 0 openGate, .call 0 openGate, .call 0 openGate, .tick 500000, .work 0 true true,
    .work 0 true true, .work 0 true true, .work 0 true true, .work 0 true true,
    .work 0 true true]

theorem no_change_lost_lamp : ∃ s, (reports Alexa.changeReport 0 Nat).run lampOff lampTurnedOn =
    some s ∧ ((∃ e ∈ [Event.sent lampKey (channelfncLightSwitch, 1) (), .picked lampKey 500000],
      e.Settles lampKey (s.content lampKey)) ∨ s.Covered Alexa.changeReport lampKey) := by
  have hlog : ((reports Alexa.changeReport 0 Nat).run lampOff lampTurnedOn).map Reports.log =
      some [.sent lampKey (channelfncLightSwitch, 1) (), .picked lampKey 500000,
        .changed lampKey] := rfl
  obtain ⟨s, hs, hlog⟩ := Option.map_eq_some_iff.1 hlog
  have hreach := Reach.run (Reach.init (lampOff_init 0)) hs
  exact ⟨s, hs, no_change_lost Alexa.changeReport 0 s hreach lampKey
    [.sent lampKey (channelfncLightSwitch, 1) (), .picked lampKey 500000] [] hlog⟩

end Http
