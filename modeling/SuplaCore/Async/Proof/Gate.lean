import SuplaCore.Async.Gate

/-!
# At most one gate command

While a call cancels the tasks of its channel only if no other call for the channel stands between
its own cancellation and its start, and tasks are canceled only while no pulse of theirs is on its
way (`InTurn`), the tasks in progress are the newest of their channels (`GateInv`), so there is one
for each (`one_command`) and only its pulses follow its request. Otherwise two calls start an
opening and a closing task, and both send their pulses (`two_commands`).
-/

namespace Async

open Sys

/-! ## What has to hold -/

/-- The tasks of a channel in the queue that are neither finished nor canceled. -/
def Gates.inProgress (s : Gates) (key : GateKey) : Nat :=
  s.queue.countP fun i => decide ((s.tasks i).key = key) && !(s.tasks i).task.isFinished

/-- What has happened since the request of a task. -/
def Gates.since (s : Gates) (i : Nat) : List GateEvent := s.log.takeWhile (· ≠ .requested i)

/-- **One command**: a channel has at most one task in progress, and an opening and a closing task
do not both send pulses after the later request. -/
structure Gates.OneCommand (s : Gates) : Prop where
  one : ∀ key, s.inProgress key ≤ 1
  direction : ∀ i j, i < s.created → j < s.created → (s.tasks i).key = (s.tasks j).key →
    (s.tasks i).actionOpen ≠ (s.tasks j).actionOpen →
      ¬ (.pulse i ∈ s.since (max i j) ∧ .pulse j ∈ s.since (max i j))

/-- No thread is in `_execute` before the pulse of a task that meets the condition. -/
def Gates.Unhindered (s : Gates) (cnd : GateSearchCondition) : Prop :=
  ∀ w i, (s.workers w).onItsWay = some i → s.meets cnd i = false

/-- **The discipline**: a call cancels only while no other call for its channel has canceled and
not started yet, and tasks are canceled only while they have no pulse on its way. -/
def InTurn (s : Gates) : GatesAct → Prop
  | .next c _ =>
    match s.calls c with
    | .cancel key _ =>
      (∀ d, (s.calls d).between ≠ some key) ∧ s.Unhindered ⟨key, false, false⟩
    | _ => True
  | .cancelTasks cnd => s.Unhindered cnd
  | _ => True

/-! ## The invariant -/

/-- The task is neither finished nor canceled. -/
def Gates.live (s : Gates) (i : Nat) : Prop :=
  i < s.created ∧ (s.tasks i).task.isFinished = false

/-- The states a task has while a thread holds it. -/
def TaskState.taken (state : TaskState) : Prop :=
  state = .picked ∨ state = .executing ∨ state = .canceled

structure GateInv (s : Gates) : Prop where
  nodup : s.queue.Nodup
  fresh : ∀ i ∈ s.queue, i < s.created
  queued : ∀ i, s.live i → i ∈ s.queue
  newest : ∀ i j, s.live i → j < s.created → (s.tasks j).key = (s.tasks i).key → j ≤ i
  cleared : ∀ c key, (s.calls c).between = some key → ∀ i, s.live i → (s.tasks i).key ≠ key
  alone : ∀ c d key, (s.calls c).between = some key → (s.calls d).between = some key → c = d
  held : ∀ w i, (s.workers w).holds = some i → i < s.created ∧ (s.tasks i).task.state.taken
  executing : ∀ w i, (s.workers w).onItsWay = some i → (s.tasks i).task.state = .executing
  sole : ∀ w v i, (s.workers w).holds = some i → (s.workers v).holds = some i → w = v
  late : ∀ i j, i < j → j < s.created → (s.tasks i).key = (s.tasks j).key → .pulse i ∉ s.since j

section
variable {s s' : Gates} {i : Nat} {t : GateTask}

theorem length_le_one {l : List Nat} (hnodup : l.Nodup) (h : ∀ i ∈ l, ∀ j ∈ l, i = j) :
    l.length ≤ 1 := by
  cases l with
  | nil => exact Nat.zero_le 1
  | cons i l =>
    cases l with
    | nil => exact Nat.le_refl 1
    | cons j l =>
      have hij : i = j := h i List.mem_cons_self j (List.mem_cons_of_mem _ List.mem_cons_self)
      exact absurd (hij ▸ List.mem_cons_self) (List.nodup_cons.mp hnodup).1

theorem GateInv.mem_inProgress (h : GateInv s) {key : GateKey}
    (hi : i ∈ s.queue.filter fun i => decide ((s.tasks i).key = key) &&
      !(s.tasks i).task.isFinished) : i ∈ s.queue ∧ s.live i ∧ (s.tasks i).key = key := by
  obtain ⟨hi, hprogress⟩ := List.mem_filter.mp hi
  rw [Bool.and_eq_true, decide_eq_true_eq, Bool.not_eq_true'] at hprogress
  exact ⟨hi, ⟨h.fresh i hi, hprogress.2⟩, hprogress.1⟩

theorem GateInv.oneCommand (h : GateInv s) : s.OneCommand := by
  refine ⟨fun key => ?_, fun i j hi hj hkey hdir hboth => ?_⟩
  · rw [Gates.inProgress, List.countP_eq_length_filter]
    refine length_le_one (h.nodup.filter _) fun i hi j hj => ?_
    obtain ⟨hi, hlive, hkey⟩ := h.mem_inProgress hi
    obtain ⟨hj, hlive', hkey'⟩ := h.mem_inProgress hj
    exact Nat.le_antisymm (h.newest j i hlive' (h.fresh i hi) (hkey.trans hkey'.symm))
      (h.newest i j hlive (h.fresh j hj) (hkey'.trans hkey.symm))
  · rcases Nat.lt_trichotomy i j with hlt | rfl | hlt
    · rw [Nat.max_eq_right (Nat.le_of_lt hlt)] at hboth
      exact h.late i j hlt hj hkey hboth.1
    · exact hdir rfl
    · rw [Nat.max_eq_left (Nat.le_of_lt hlt)] at hboth
      exact h.late j i hlt hi hkey.symm hboth.2

theorem GateInv.init (h : gates.init s) : GateInv s := by
  obtain ⟨hcreated, hqueue, hcalls, hworkers, -⟩ := h
  have hlive : ∀ {i}, ¬ s.live i := fun hl => by
    have hlt := hl.1
    omega
  refine ⟨by rw [hqueue]; exact List.nodup_nil, fun i hi => ?_, fun i hl => (hlive hl).elim,
    fun i j hl => (hlive hl).elim, fun c key hc => ?_, fun c d key hc => ?_, fun w i hw => ?_,
    fun w i hw => ?_, fun w v i hw => ?_, fun i j _ hj => by omega⟩
  · rw [hqueue] at hi
    cases hi
  all_goals first
    | (rw [hcalls c] at hc; cases hc)
    | (rw [hworkers w] at hw; cases hw)

/-! ## Calls -/

/-- A call goes to a place from which it adds nothing. -/
theorem GateInv.setCall {c : Nat} {call : GateCall} (h : GateInv s) (hcall : call.between = none) :
    GateInv (s.setCall c call) := by
  have hother : ∀ {d key}, ((s.setCall c call).calls d).between = some key →
      (s.calls d).between = some key := by
    intro d key hb
    simp only [Gates.setCall] at hb
    split at hb
    · rw [hcall] at hb
      cases hb
    · exact hb
  exact ⟨h.nodup, h.fresh, h.queued, h.newest, fun d key hb => h.cleared d key (hother hb),
    fun d d' key hb hb' => h.alone d d' key (hother hb) (hother hb'), h.held, h.executing, h.sole,
    h.late⟩

/-- A call stands between for a channel that has no task and no other such call. -/
theorem GateInv.stand {c : Nat} {call : GateCall} {key : GateKey} (h : GateInv s)
    (hcall : call.between = some key) (hcleared : ∀ i, s.live i → (s.tasks i).key ≠ key)
    (halone : ∀ d, (s.calls d).between = some key → d = c) : GateInv (s.setCall c call) := by
  have hcases : ∀ {d key'}, ((s.setCall c call).calls d).between = some key' →
      (d = c ∧ key' = key) ∨ (d ≠ c ∧ (s.calls d).between = some key') := by
    intro d key' hb
    simp only [Gates.setCall] at hb
    split at hb
    · rename_i hd
      exact .inl ⟨hd, (Option.some.inj (hcall.symm.trans hb)).symm⟩
    · exact .inr ⟨by assumption, hb⟩
  refine ⟨h.nodup, h.fresh, h.queued, h.newest, fun d key' hb => ?_, fun d d' key' hb hb' => ?_,
    h.held, h.executing, h.sole, h.late⟩
  · rcases hcases hb with ⟨-, rfl⟩ | ⟨-, hb⟩
    · exact hcleared
    · exact h.cleared d key' hb
  · rcases hcases hb with ⟨hd, hkey⟩ | ⟨hd, hb⟩ <;> rcases hcases hb' with ⟨hd', hkey'⟩ | ⟨hd', hb'⟩
    · exact hd.trans hd'.symm
    · exact absurd (halone d' (hkey ▸ hb')) hd'
    · exact absurd (halone d (hkey' ▸ hb)) hd
    · exact h.alone d d' key' hb hb'

/-! ## Tasks -/

theorem cancelTasks_key (cnd : GateSearchCondition) (j : Nat) :
    ((s.cancelTasks cnd).tasks j).key = (s.tasks j).key := by
  simp only [Gates.cancelTasks]
  split <;> rfl

theorem GateInv.of_live_cancelTasks {cnd : GateSearchCondition} (h : GateInv s)
    (hl : (s.cancelTasks cnd).live i) : s.live i ∧ s.meets cnd i = false := by
  have hfinished := hl.2
  simp only [Gates.cancelTasks] at hfinished
  split at hfinished
  · cases hfinished
  · rename_i hnot
    have hi : s.live i := ⟨hl.1, hfinished⟩
    exact ⟨hi, Bool.eq_false_iff.mpr fun hmeets => hnot ⟨h.queued i hi, hmeets⟩⟩

/-- The tasks of the queue that meet the condition are canceled and gone. -/
theorem GateInv.cancelTasks {cnd : GateSearchCondition} (h : GateInv s)
    (hway : s.Unhindered cnd) : GateInv (s.cancelTasks cnd) := by
  have hlive : ∀ {j}, (s.cancelTasks cnd).live j → s.live j ∧ s.meets cnd j = false :=
    h.of_live_cancelTasks
  refine ⟨h.nodup.filter _, fun j hj => h.fresh j (List.mem_of_mem_filter hj), fun j hl => ?_,
    fun i j hl hj hk => ?_, fun c key hb j hl => ?_, h.alone, fun w j hw => ⟨(h.held w j hw).1, ?_⟩,
    fun w j hw => ?_, h.sole, fun i j hij hj hk => ?_⟩
  · obtain ⟨hl, hmeets⟩ := hlive hl
    exact List.mem_filter.mpr ⟨h.queued j hl, by rw [hmeets]; rfl⟩
  · rw [cancelTasks_key, cancelTasks_key] at hk
    exact h.newest i j (hlive hl).1 hj hk
  · rw [cancelTasks_key]
    exact h.cleared c key hb j (hlive hl).1
  · simp only [Gates.cancelTasks]
    split
    · exact .inr (.inr rfl)
    · exact (h.held w j hw).2
  · simp only [Gates.cancelTasks]
    rw [if_neg]
    · exact h.executing w j hw
    · rintro ⟨-, hmeets⟩
      exact absurd ((hway w j hw).symm.trans hmeets) (by decide)
  · rw [cancelTasks_key, cancelTasks_key] at hk
    exact h.late i j hij hj hk

theorem since_cons {e : GateEvent} (hlog : s'.log = e :: s.log) (he : e ≠ .requested i) :
    s'.since i = e :: s.since i := by
  rw [Gates.since, hlog, List.takeWhile_cons, if_pos (decide_eq_true he)]
  rfl

theorem since_requested (hlog : s'.log = .requested i :: s.log) : s'.since i = [] := by
  rw [Gates.since, hlog, List.takeWhile_cons, if_neg (by simp)]

theorem GateWorker.holds_of_onItsWay {worker : GateWorker} (h : worker.onItsWay = some i) :
    worker.holds = some i := by
  cases worker <;> first | exact h | cases h

/-- A call adds its task. -/
theorem GateInv.start {c : Nat} (h : GateInv s) (hc : s.calls c = .start t) :
    GateInv ((s.addTask t).setCall c .idle) := by
  have hbetween : (s.calls c).between = some t.key := by rw [hc]; rfl
  have hnew : (s.addTask t).tasks s.created = { t with task := t.task.start.2 } := if_pos rfl
  have hold : ∀ {j}, j < s.created → (s.addTask t).tasks j = s.tasks j :=
    fun hj => if_neg (Nat.ne_of_lt hj)
  have hperm : (s.addTask t).queue.Perm (s.created :: s.queue) :=
    Life.insert_perm _ _ _
  have hcases : ∀ {j}, j < (s.addTask t).created → j = s.created ∨ j < s.created := fun hj =>
    Nat.lt_succ_iff_lt_or_eq.mp hj |>.symm
  have hlive : ∀ {j}, (s.addTask t).live j → j = s.created ∨ s.live j := by
    rintro j ⟨hj, hfinished⟩
    rcases hcases hj with rfl | hj
    · exact .inl rfl
    · rw [hold hj] at hfinished
      exact .inr ⟨hj, hfinished⟩
  have hother : ∀ {d key}, (((s.addTask t).setCall c .idle).calls d).between = some key →
      d ≠ c ∧ (s.calls d).between = some key := by
    intro d key hb
    simp only [Gates.setCall] at hb
    split at hb
    · cases hb
    · exact ⟨by assumption, hb⟩
  refine ⟨?_, fun j hj => ?_, fun j hl => ?_, fun i j hl hj hk => ?_, fun d key hb j hl => ?_,
    fun d d' key hb hb' => h.alone d d' key (hother hb).2 (hother hb').2, fun w j hw => ?_,
    fun w j hw => ?_, h.sole, fun i j hij hj hk => ?_⟩
  · refine hperm.nodup_iff.mpr (List.nodup_cons.mpr ⟨fun hmem => ?_, h.nodup⟩)
    exact Nat.lt_irrefl _ (h.fresh _ hmem)
  · rcases List.mem_cons.mp (hperm.mem_iff.mp hj) with rfl | hj
    · exact Nat.lt_succ_self _
    · exact Nat.lt_succ_of_lt (h.fresh j hj)
  · refine hperm.mem_iff.mpr (List.mem_cons.mpr ?_)
    exact (hlive hl).imp_right (h.queued j)
  · rcases hlive hl with rfl | hl
    · exact Nat.lt_succ_iff.mp hj
    · rcases hcases hj with rfl | hj
      · -- the live tasks of the channel were canceled by this call
        have hkey : t.key = (s.tasks i).key := by
          simp only [Gates.setCall, hnew, hold hl.1] at hk
          exact hk
        exact absurd hkey.symm (h.cleared c t.key hbetween i hl)
      · simp only [Gates.setCall, hold hj, hold hl.1] at hk
        exact h.newest i j hl hj hk
  · obtain ⟨hd, hb⟩ := hother hb
    rcases hlive hl with rfl | hl
    · simp only [Gates.setCall, hnew]
      rintro rfl
      exact hd (h.alone d c _ hb hbetween)
    · simp only [Gates.setCall, hold hl.1]
      exact h.cleared d key hb j hl
  · obtain ⟨hj, htaken⟩ := h.held w j hw
    refine ⟨Nat.lt_succ_of_lt hj, ?_⟩
    simp only [Gates.setCall, hold hj]
    exact htaken
  · simp only [Gates.setCall, hold (h.held w j (GateWorker.holds_of_onItsWay hw)).1]
    exact h.executing w j hw
  · rcases hcases hj with rfl | hj
    · rw [since_requested (s := s) (i := s.created) rfl]
      exact List.not_mem_nil
    · simp only [Gates.setCall, hold hj, hold (Nat.lt_trans hij hj)] at hk
      have hne : GateEvent.requested s.created ≠ .requested j := by
        rintro ⟨⟩
        exact Nat.lt_irrefl _ hj
      rw [since_cons (s := s) rfl hne]
      intro hmem
      rcases List.mem_cons.mp hmem with heq | hmem
      · cases heq
      · exact h.late i j hij hj hk hmem

theorem GateInv.callStep {c : Nat} {config : GateConfig} (hok : InTurn s (.next c config))
    (h : GateInv s) (hs : s.callStep c config = some s') : GateInv s' := by
  unfold Gates.callStep at hs
  split at hs
  · cases hs
  · cases hs
    exact h.setCall (by split <;> rfl)
  · rename_i key actionOpen hc
    cases hs
    simp only [InTurn, hc] at hok
    refine (h.cancelTasks hok.2).stand rfl (fun i hl hkey => ?_) fun d hd => absurd hd (hok.1 d)
    have hmeets := (h.of_live_cancelTasks hl).2
    rw [cancelTasks_key] at hkey
    simp only [Gates.meets, GateSearchCondition.conditionMet, hkey, decide_true, Bool.not_false,
      Bool.true_or, Bool.and_self] at hmeets
    cases hmeets
  · rename_i key actionOpen hc
    cases hs
    have hbetween : (s.calls c).between = some key := by rw [hc]; rfl
    exact h.stand rfl (h.cleared c key hbetween) fun d hd => h.alone d c key hd hbetween
  · rename_i t hc
    cases hs
    exact h.start hc

/-! ## Pool threads -/

/-- A thread has changed the task it works on. -/
theorem GateInv.work {w : Nat} {worker : GateWorker} (h : GateInv s)
    (hkey : t.key = (s.tasks i).key)
    (hlive : t.task.isFinished = false → (s.tasks i).task.isFinished = false)
    (hhold : ∀ j, worker.holds = some j → j = i ∧ i < s.created ∧ t.task.state.taken ∧
      ∀ v, v ≠ w → (s.workers v).holds ≠ some i)
    (hway : ∀ j, worker.onItsWay = some j → t.task.state = .executing)
    (hothers : (∀ v, v ≠ w → (s.workers v).holds ≠ some i) ∨
      t.task.state = (s.tasks i).task.state) :
    GateInv ((s.setGateTask i t).setWorker w worker) := by
  have hkeys : ∀ j, ((s.setGateTask i t).tasks j).key = (s.tasks j).key := by
    intro j
    simp only [Gates.setGateTask]
    split
    · rename_i hj
      rw [hj, hkey]
    · rfl
  have hlives : ∀ {j}, (s.setGateTask i t).live j → s.live j := by
    rintro j ⟨hj, hfinished⟩
    refine ⟨hj, ?_⟩
    simp only [Gates.setGateTask] at hfinished
    split at hfinished
    · rename_i heq
      exact heq ▸ hlive hfinished
    · exact hfinished
  -- what another thread holds has its state
  have hsame : ∀ {v j}, v ≠ w → (s.workers v).holds = some j →
      ((s.setGateTask i t).tasks j).task.state = (s.tasks j).task.state := by
    intro v j hv hj
    simp only [Gates.setGateTask]
    split
    · rename_i heq
      rcases hothers with hnone | hstate
      · exact absurd (heq ▸ hj) (hnone v hv)
      · rw [hstate, heq]
    · rfl
  have hself : ((s.setGateTask i t).tasks i) = t := if_pos rfl
  refine ⟨h.nodup, h.fresh, fun j hl => h.queued j (hlives hl), fun j k hl hk hkk => ?_,
    fun c key hb j hl => ?_, h.alone, fun v j hv => ?_, fun v j hv => ?_, fun u v j hu hv => ?_,
    fun j k hjk hk hkk => ?_⟩
  · exact h.newest j k (hlives hl) hk (by rw [← hkeys k, ← hkeys j]; exact hkk)
  · exact (hkeys j).symm ▸ h.cleared c key hb j (hlives hl)
  · simp only [Gates.setWorker] at hv
    split at hv
    · obtain ⟨rfl, hj, htaken, -⟩ := hhold j hv
      exact ⟨hj, (congrArg (·.task.state.taken) hself).mpr htaken⟩
    · rename_i hne
      exact ⟨(h.held v j hv).1, (congrArg TaskState.taken (hsame hne hv)).mpr (h.held v j hv).2⟩
  · simp only [Gates.setWorker] at hv
    split at hv
    · obtain ⟨rfl, -⟩ := hhold j (GateWorker.holds_of_onItsWay hv)
      exact (congrArg (·.task.state) hself).trans (hway j hv)
    · rename_i hne
      exact (hsame hne (GateWorker.holds_of_onItsWay hv)).trans (h.executing v j hv)
  · simp only [Gates.setWorker] at hu hv
    split at hu <;> split at hv
    · rename_i hu' hv'
      exact hu'.trans hv'.symm
    · rename_i hu' hv'
      obtain ⟨rfl, -, -, hnone⟩ := hhold j hu
      exact absurd hv (hnone v hv')
    · rename_i hu' hv'
      obtain ⟨rfl, -, -, hnone⟩ := hhold j hv
      exact absurd hu (hnone u hu')
    · exact h.sole u v j hu hv
  · exact h.late j k hjk hk (by rw [← hkeys k, ← hkeys j]; exact hkk)

/-- A pulse is sent for a task in progress. -/
theorem GateInv.pulse (h : GateInv s) (hl : s.live i) :
    GateInv { s with log := .pulse i :: s.log } := by
  refine ⟨h.nodup, h.fresh, h.queued, h.newest, h.cleared, h.alone, h.held, h.executing, h.sole,
    fun j k hjk hk hkey hmem => ?_⟩
  rw [since_cons (s := s) (i := k) rfl (fun heq => by cases heq)] at hmem
  rcases List.mem_cons.mp hmem with heq | hmem
  · cases heq
    exact absurd (h.newest i k hl hk hkey.symm) (Nat.not_le_of_lt hjk)
  · exact h.late j k hjk hk hkey hmem

/-- A finished task leaves the queue. -/
theorem GateInv.remove (h : GateInv s) (hfinished : (s.tasks i).task.isFinished = true) :
    GateInv { s with queue := s.queue.erase i } := by
  refine ⟨h.nodup.erase i, fun j hj => h.fresh j (List.mem_of_mem_erase hj), fun j hl => ?_,
    h.newest, h.cleared, h.alone, h.held, h.executing, h.sole, h.late⟩
  refine (List.mem_erase_of_ne ?_).mpr (h.queued j hl)
  rintro rfl
  exact absurd (hfinished.symm.trans hl.2) (by decide)

theorem GateInv.sole_holder {w : Nat} (h : GateInv s) (hw : (s.workers w).holds = some i) :
    ∀ v, v ≠ w → (s.workers v).holds ≠ some i := fun v hne hv => hne (h.sole v w i hv hw)

/-- A thread lets go of its task, whose state has not changed. -/
theorem GateInv.rest {w : Nat} (h : GateInv s) : GateInv (s.setWorker w .idle) := by
  refine ⟨h.nodup, h.fresh, h.queued, h.newest, h.cleared, h.alone, fun v j hv => ?_,
    fun v j hv => ?_, fun u v j hu hv => ?_, h.late⟩
  · simp only [Gates.setWorker] at hv
    split at hv
    · cases hv
    · exact h.held v j hv
  · simp only [Gates.setWorker] at hv
    split at hv
    · cases hv
    · exact h.executing v j hv
  · simp only [Gates.setWorker] at hu hv
    split at hu <;> split at hv
    · cases hu
    · cases hu
    · cases hv
    · exact h.sole u v j hu hv

theorem executeBegin_spec (now : Int) (t : Task) :
    ((t.executeBegin now).2.isFinished = false → t.isFinished = false) ∧
      ((t.executeBegin now).1 = true → (t.executeBegin now).2.state = .executing) := by
  unfold Task.executeBegin
  split
  · rename_i hpicked
    have hunfinished : t.isFinished = false := by
      unfold Task.isFinished
      rw [hpicked]
      rfl
    split
    · exact ⟨fun _ => hunfinished, fun hfalse => by cases hfalse⟩
    · exact ⟨fun _ => hunfinished, fun _ => rfl⟩
  · exact ⟨id, fun hfalse => by cases hfalse⟩

theorem executeEnd_spec {now : Int} {again result : Bool} {t : Task} (htaken : t.state.taken)
    (h : (t.executeEnd now again result).isFinished = false) : t.isFinished = false := by
  rcases htaken with hstate | hstate | hstate
  · unfold Task.isFinished
    rw [hstate]
    rfl
  · unfold Task.isFinished
    rw [hstate]
    rfl
  · unfold Task.executeEnd at h
    rw [if_neg (fun hne => hne hstate)] at h
    exact h

theorem verify_holds (i : Nat) (t : GateTask) (closed : Option Bool) :
    (Gates.verify i t closed).holds = some i := by
  unfold Gates.verify
  split
  · rfl
  · split <;> rfl

theorem GateInv.workStep (h : GateInv s) (w : Nat) (now : Int) (closed : Option Bool) :
    GateInv (s.workStep w now closed) := by
  cases hw : s.workers w with
  | idle =>
    simp only [Gates.workStep, hw]
    split
    · exact h
    · rename_i i hfind
      have hmem : i ∈ s.queue := List.mem_of_find?_eq_some hfind
      have hwaiting : (s.tasks i).task.state = .waiting := by
        have hdue := List.find?_some hfind
        rw [Bool.and_eq_true, decide_eq_true_eq] at hdue
        exact hdue.1
      have hpicked : (s.tasks i).task.pick.2.state = .picked := by
        unfold Task.pick
        rw [if_pos hwaiting]
      have hnone : ∀ v, (s.workers v).holds ≠ some i := by
        intro v hv
        have htaken := (h.held v i hv).2
        rw [hwaiting] at htaken
        rcases htaken with heq | heq | heq <;> cases heq
      refine h.work rfl (fun _ => ?_) (fun j hj => ?_) (fun j hj => ?_) (.inl fun v _ => hnone v)
      · unfold Task.isFinished
        rw [hwaiting]
        rfl
      · cases hj
        exact ⟨rfl, h.fresh i hmem, .inl hpicked, fun v _ => hnone v⟩
      · cases hj
  | picked i =>
    have hholds : (s.workers w).holds = some i := by rw [hw]; rfl
    obtain ⟨hlive, hbegun⟩ := executeBegin_spec now (s.tasks i).task
    simp only [Gates.workStep, hw]
    refine h.work rfl hlive (fun j hj => ?_) (fun j hj => ?_) (.inl (h.sole_holder hholds))
    · split at hj
      · rename_i hexecuting
        cases hj
        exact ⟨rfl, (h.held w i hholds).1, .inr (.inl (hbegun hexecuting)), h.sole_holder hholds⟩
      · cases hj
    · split at hj
      · rename_i hexecuting
        exact hbegun hexecuting
      · cases hj
  | begun i =>
    have hholds : (s.workers w).holds = some i := by rw [hw]; rfl
    simp only [Gates.workStep, hw]
    refine h.work rfl id (fun j hj => ?_) (fun j _ => h.executing w i (by rw [hw]; rfl))
      (.inr rfl)
    obtain rfl : i = j := Option.some.inj ((verify_holds _ _ _).symm.trans hj)
    exact ⟨rfl, (h.held w i hholds).1, (h.held w i hholds).2, h.sole_holder hholds⟩
  | pulse i =>
    have hholds : (s.workers w).holds = some i := by rw [hw]; rfl
    have hexecuting := h.executing w i (by rw [hw]; rfl)
    have hl : s.live i := by
      refine ⟨(h.held w i hholds).1, ?_⟩
      unfold Task.isFinished
      rw [hexecuting]
      rfl
    simp only [Gates.workStep, hw]
    refine (h.pulse hl).work rfl id (fun j hj => ?_) (fun j hj => by cases hj) (.inr rfl)
    cases hj
    exact ⟨rfl, (h.held w i hholds).1, (h.held w i hholds).2, h.sole_holder hholds⟩
  | tail i again result =>
    have hholds : (s.workers w).holds = some i := by rw [hw]; rfl
    simp only [Gates.workStep, hw]
    exact h.work rfl (executeEnd_spec (h.held w i hholds).2) (fun j hj => by cases hj)
      (fun j hj => by cases hj) (.inl (h.sole_holder hholds))
  | done i =>
    simp only [Gates.workStep, hw]
    split
    · rename_i hfinished
      exact (h.remove hfinished).rest
    · exact h.work rfl id (fun j hj => by cases hj) (fun j hj => by cases hj) (.inr rfl)

/-! ## Runs -/

theorem GateInv.step {a : GatesAct} (hok : InTurn s a) (h : GateInv s)
    (hs : gates.step s a = some s') : GateInv s' := by
  cases a with
  | openClose c key actionOpen =>
    simp only [gates, Gates.step] at hs
    split at hs
    · cases hs
      exact h.setCall rfl
    · cases hs
  | next c config => exact h.callStep hok hs
  | cancelTasks cnd =>
    cases hs
    exact h.cancelTasks hok
  | work w now closed =>
    cases hs
    exact h.workStep w now closed

end

/-- **At most one gate command per channel**, in the runs that keep to the discipline. -/
theorem one_command (s : Gates) (h : Reach gates InTurn s) : s.OneCommand :=
  (h.invariant (P := GateInv) (fun _ => GateInv.init) GateInv.step).oneCommand

/-! ## Scenarios -/

def noGates : Gates := ⟨0, fun _ => .new ⟨5, 5⟩ ⟨0, 0, 0⟩ false, [], fun _ => .idle,
  fun _ => .idle, []⟩

theorem noGates_init : gates.init noGates := ⟨rfl, rfl, fun _ => rfl, fun _ => rfl, rfl⟩

theorem InTurn.cancel {s : Gates} {c : Nat} {config : GateConfig} {key : GateKey}
    {actionOpen : Bool} (hc : s.calls c = .cancel key actionOpen)
    (halone : ∀ d, (s.calls d).between ≠ some key) (hway : ∀ w, (s.workers w).onItsWay = none) :
    InTurn s (.next c config) := by
  simp only [InTurn, hc]
  refine ⟨halone, fun w i hw => ?_⟩
  rw [hway w] at hw
  cases hw

/-- A call opens a gate; the next one cancels that and closes it. -/
theorem one_command_turns : ∃ s, Reach gates InTurn s ∧ s.inProgress ⟨1, 2, 3⟩ = 1 ∧
    s.OneCommand := by
  have hopened := (((((Reach.init noGates_init).act (.openClose 0 ⟨1, 2, 3⟩ true) trivial rfl).act
    (.next 0 ⟨5, 5⟩) trivial rfl).act (.next 0 ⟨5, 5⟩) (InTurn.cancel rfl
      (fun d hd => by cases d <;> cases hd) fun _ => rfl) rfl).act (.next 0 ⟨5, 5⟩) trivial rfl).act
        (.next 0 ⟨5, 5⟩) trivial rfl
  have hclosed := ((((hopened.act (.openClose 1 ⟨1, 2, 3⟩ false) trivial rfl).act
    (.next 1 ⟨5, 5⟩) trivial rfl).act (.next 1 ⟨5, 5⟩) (InTurn.cancel rfl
      (fun d hd => by rcases d with _ | _ | d <;> cases hd) fun _ => rfl) rfl).act
        (.next 1 ⟨5, 5⟩) trivial rfl).act (.next 1 ⟨5, 5⟩) trivial rfl
  exact ⟨_, hclosed, by decide, one_command _ hclosed⟩

/-- An opening and a closing call for one gate that take their steps together, and two threads. -/
def togetherRun : List GatesAct :=
  [.openClose 0 ⟨1, 2, 3⟩ true, .openClose 1 ⟨1, 2, 3⟩ false] ++
    ((List.replicate 4 [GatesAct.next 0 ⟨5, 5⟩, .next 1 ⟨5, 5⟩]).flatten ++
      [.work 0 0 none, .work 1 0 none, .work 0 0 none, .work 1 0 none, .work 0 0 (some true),
        .work 0 0 none, .work 1 0 (some false), .work 1 0 none])

/-- **Two commands**: both calls cancel before either starts its task; the opening and the closing
task are in progress together, and both send a pulse. -/
theorem two_commands : ∃ s, Reach gates Any s ∧ 1 < s.inProgress ⟨1, 2, 3⟩ ∧ ¬ s.OneCommand := by
  have hrun : gates.run noGates togetherRun = some _ := rfl
  refine ⟨_, Reach.run (.init noGates_init) hrun, by decide, fun hone => ?_⟩
  exact hone.direction 0 1 (by decide) (by decide) (by decide) (by decide) ⟨by decide, by decide⟩

end Async
