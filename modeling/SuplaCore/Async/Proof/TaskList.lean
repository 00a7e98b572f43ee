import SuplaCore.Async.TaskList

/-!
# The list of tasks is a stable priority queue

The priority of a task is frozen when it is started (`Frozen`), which is before it is added, and it
is started once. So the order in which `add_task` leaves the list (`insert_ordered`) is the order of
the list as long as tasks are only removed (`ListInv.step`).
-/

namespace Async

open Sys

namespace TaskList

/-! ## The order -/

/-- `add_task` was called for `i` before `j`. -/
def AddedBefore (s : TaskList) (i j : Nat) : Prop := [i, j].Sublist s.added

/-- A higher priority, or the same one and an earlier `add_task`. -/
def Before (s : TaskList) (i j : Nat) : Prop :=
  (s.tasks j).priority < (s.tasks i).priority ∨
    (s.tasks j).priority = (s.tasks i).priority ∧ s.AddedBefore i j

/-- The task has been started, and no step will change its priority. -/
structure Frozen (t t' : Task) : Prop where
  started : t.state ≠ .init → t'.state ≠ .init
  priority : t.state ≠ .init → t'.priority = t.priority

theorem frozen_setPriority (t : Task) (priority : Int) : Frozen t (t.setPriority priority) := by
  unfold Task.setPriority
  split
  · rename_i hinit
    exact ⟨fun h => absurd hinit h, fun h => absurd hinit h⟩
  · exact ⟨id, fun _ => rfl⟩

theorem frozen_start (t : Task) : Frozen t t.start.2 := by
  unfold Task.start
  split
  · rename_i hinit
    exact ⟨fun h => absurd hinit h, fun h => absurd hinit h⟩
  · exact ⟨id, fun _ => rfl⟩

theorem frozen_setDelayUsec (t : Task) (now delay : Int) : Frozen t (t.setDelayUsec now delay) :=
  ⟨id, fun _ => rfl⟩

theorem frozen_cancel (t : Task) : Frozen t t.cancel :=
  ⟨(fun _ h => by cases h), fun _ => rfl⟩

theorem frozen_pick (t : Task) : Frozen t t.pick.2 := by
  unfold Task.pick
  split
  · exact ⟨(fun _ h => by cases h), fun _ => rfl⟩
  · exact ⟨id, fun _ => rfl⟩

theorem frozen_executeBegin (t : Task) (now : Int) : Frozen t (t.executeBegin now).2 := by
  unfold Task.executeBegin
  split
  · split
    · exact ⟨(fun _ h => by cases h), fun _ => rfl⟩
    · exact ⟨(fun _ h => by cases h), fun _ => rfl⟩
  · exact ⟨id, fun _ => rfl⟩

theorem frozen_executeEnd (t : Task) (now : Int) (again result : Bool) :
    Frozen t (t.executeEnd now again result) := by
  unfold Task.executeEnd
  split
  · split
    · exact ⟨(fun _ h => by cases h), fun _ => rfl⟩
    · split
      · exact ⟨(fun _ h => by cases h), fun _ => rfl⟩
      · exact ⟨(fun _ h => by cases h), fun _ => rfl⟩
  · exact ⟨id, fun _ => rfl⟩

/-! ## `add_task` -/

theorem insert_nodup {tasks : Nat → Task} {i : Nat} {q : List Nat} (hq : q.Nodup) (hi : i ∉ q) :
    (Life.insert tasks i q).Nodup :=
  (Life.insert_perm tasks i q).nodup_iff.mpr (List.nodup_cons.mpr ⟨hi, hq⟩)

/-- **The place of a new task**: behind all tasks of its priority or a higher one, before all
others. -/
theorem insert_ordered {tasks : Nat → Task} {R : Nat → Nat → Prop} {i : Nat} {q : List Nat}
    (hq : q.Pairwise R) (hprio : q.Pairwise fun j k => (tasks k).priority ≤ (tasks j).priority)
    (hbehind : ∀ j ∈ q, (tasks i).priority ≤ (tasks j).priority → R j i)
    (hbefore : ∀ j ∈ q, (tasks j).priority < (tasks i).priority → R i j) :
    (Life.insert tasks i q).Pairwise R := by
  induction q with
  | nil => exact List.pairwise_singleton R i
  | cons k q ih =>
    obtain ⟨hk, hrest⟩ := List.pairwise_cons.mp hq
    obtain ⟨hkprio, hrestprio⟩ := List.pairwise_cons.mp hprio
    rw [Life.insert]
    split
    · rename_i hlt
      refine List.pairwise_cons.mpr ⟨fun j hj => ?_, hq⟩
      rcases List.mem_cons.mp hj with rfl | hmem
      · exact hbefore j hj hlt
      · exact hbefore j hj (Int.lt_of_le_of_lt (hkprio j hmem) hlt)
    · rename_i hle
      refine List.pairwise_cons.mpr ⟨fun j hj => ?_, ?_⟩
      · rcases Life.mem_insert.mp hj with rfl | hmem
        · exact hbehind k List.mem_cons_self (Int.not_lt.mp hle)
        · exact hk j hmem
      · exact ih hrest hrestprio (fun j hj => hbehind j (List.mem_cons_of_mem _ hj))
          fun j hj => hbefore j (List.mem_cons_of_mem _ hj)

/-! ## The invariant -/

structure ListInv (s : TaskList) : Prop where
  nodup : s.queue.Nodup
  ordered : s.queue.Pairwise s.Before
  added : ∀ i ∈ s.queue, i ∈ s.added
  /-- A task is added once. -/
  once : (s.started ++ s.added).Nodup
  started : ∀ i ∈ s.started ++ s.added, (s.tasks i).state ≠ .init

variable {s : TaskList}

/-- What is done to a task that keeps to the order. -/
theorem ListInv.setTask (h : ListInv s) {i : Nat} {t : Task} (ht : Frozen (s.tasks i) t) :
    ListInv (s.setTask i t) := by
  have htask : ∀ j ∈ s.started ++ s.added, ((s.setTask i t).tasks j).state ≠ .init ∧
      ((s.setTask i t).tasks j).priority = (s.tasks j).priority := by
    intro j hj
    by_cases hji : j = i
    · subst hji
      simp only [TaskList.setTask, if_true]
      exact ⟨ht.started (h.started j hj), ht.priority (h.started j hj)⟩
    · simp only [TaskList.setTask, if_neg hji]
      exact ⟨h.started j hj, trivial⟩
  have hqueue : ∀ j ∈ s.queue, ((s.setTask i t).tasks j).priority = (s.tasks j).priority :=
    fun j hj => (htask j (List.mem_append_right _ (h.added j hj))).2
  refine ⟨h.nodup, ?_, h.added, h.once, fun j hj => (htask j hj).1⟩
  refine h.ordered.imp_of_mem fun {j k} hj hk hjk => ?_
  rw [Before, hqueue j hj, hqueue k hk]
  exact hjk

/-- Tasks that are removed leave the order of the others. -/
theorem ListInv.removeTask (h : ListInv s) (i : Nat) : ListInv (s.removeTask i) where
  nodup := h.nodup.sublist List.erase_sublist
  ordered := h.ordered.sublist List.erase_sublist
  added j hj := h.added j (List.mem_of_mem_erase hj)
  once := h.once
  started := h.started

theorem ListInv.start (h : ListInv s) {i : Nat} (hinit : (s.tasks i).start.1 = true) :
    ListInv { s.setTask i (s.tasks i).start.2 with started := i :: s.started } := by
  have hset := h.setTask (frozen_start (s.tasks i))
  have hnew : i ∉ s.started ++ s.added := by
    intro hmem
    have hstate := h.started i hmem
    rw [Task.start, if_neg hstate] at hinit
    cases hinit
  have hstate : ((s.setTask i (s.tasks i).start.2).tasks i).state ≠ .init := by
    simp only [TaskList.setTask, if_true]
    unfold Task.start
    split
    · intro hc
      cases hc
    · assumption
  refine ⟨hset.nodup, hset.ordered, hset.added, List.nodup_cons.mpr ⟨hnew, h.once⟩, ?_⟩
  intro j hj
  rcases List.mem_cons.mp hj with rfl | hmem
  · exact hstate
  · exact hset.started j hmem

theorem ListInv.addTask (h : ListInv s) {i : Nat} (hi : i ∈ s.started) : ListInv (s.addTask i) := by
  obtain ⟨hstarted, hadded, hdisjoint⟩ := List.nodup_append.mp h.once
  have hnew : i ∉ s.added := fun hmem => hdisjoint i hi i hmem rfl
  have hprio : s.queue.Pairwise fun j k => (s.tasks k).priority ≤ (s.tasks j).priority :=
    h.ordered.imp fun {j k} hjk => by
      rcases hjk with hlt | ⟨heq, -⟩
      · exact Int.le_of_lt hlt
      · exact Int.le_of_eq heq
  have hlast : ∀ j ∈ s.added, (s.addTask i).AddedBefore j i := fun j hj =>
    (List.singleton_sublist.mpr hj).append (List.Sublist.refl [i])
  have hkept : ∀ {j k : Nat}, s.Before j k → (s.addTask i).Before j k := by
    intro j k hjk
    rcases hjk with hlt | ⟨heq, hsub⟩
    · exact .inl hlt
    · exact .inr ⟨heq, hsub.trans (List.sublist_append_left _ _)⟩
  have hperm : (s.started.erase i ++ (s.added ++ [i])).Perm (s.started ++ s.added) :=
    calc
      (s.started.erase i ++ (s.added ++ [i])).Perm (i :: (s.started.erase i ++ s.added)) := by
        rw [← List.append_assoc]
        exact List.perm_append_singleton _ _
      List.Perm _ (s.started ++ s.added) := (List.perm_cons_erase hi).symm.append_right s.added
  refine ⟨insert_nodup h.nodup fun hmem => hnew (h.added i hmem), ?_, ?_, ?_, ?_⟩
  · refine insert_ordered (h.ordered.imp hkept) hprio (fun j hj hle => ?_) fun j hj hlt => .inl hlt
    rcases Int.lt_or_eq_of_le hle with hlt | heq
    · exact .inl hlt
    · exact .inr ⟨heq, hlast j (h.added j hj)⟩
  · intro j hj
    rcases Life.mem_insert.mp hj with rfl | hmem
    · exact List.mem_append_right _ (List.mem_singleton_self j)
    · exact List.mem_append_left _ (h.added j hmem)
  · exact hperm.nodup_iff.mpr h.once
  · intro j hj
    exact h.started j (hperm.mem_iff.mp hj)

theorem ListInv.cancelTasks (h : ListInv s) (cnd : Nat → Bool) : ListInv (s.cancelTasks cnd) := by
  have hall : ∀ (found : List Nat) {s : TaskList}, ListInv s →
      ListInv (found.foldl (fun s i => (s.setTask i (s.tasks i).cancel).removeTask i) s) := by
    intro found
    induction found with
    | nil => exact fun h => h
    | cons i found ih => exact fun h => ih ((h.setTask (frozen_cancel _)).removeTask i)
  exact hall _ h

theorem ListInv.pick (h : ListInv s) (pool : Nat) (clock : Nat → Int) :
    ListInv (s.pick pool clock).2 := by
  unfold TaskList.pick
  split
  · exact h.setTask (frozen_pick _)
  · exact h

/-- **No operation breaks the order.** -/
theorem ListInv.step {s s' : TaskList} {a : ListAct} (h : ListInv s)
    (hs : taskList.step s a = some s') : ListInv s' := by
  cases a with
  | setPriority i priority =>
    cases hs
    exact h.setTask (frozen_setPriority _ priority)
  | start i =>
    cases hs
    simp only
    split
    · rename_i hinit
      exact h.start hinit
    · exact h
  | addTask i =>
    change (if i ∈ s.started then some (s.addTask i) else none) = some s' at hs
    split at hs
    · rename_i hi
      cases hs
      exact h.addTask hi
    · cases hs
  | removeTask i =>
    cases hs
    exact h.removeTask i
  | cancelTasks cnd =>
    cases hs
    exact h.cancelTasks cnd
  | cancel i =>
    cases hs
    exact h.setTask (frozen_cancel _)
  | setDelay i now delay =>
    cases hs
    exact h.setTask (frozen_setDelayUsec _ now delay)
  | pick pool clock =>
    cases hs
    exact h.pick pool clock
  | executeBegin i now =>
    cases hs
    exact h.setTask (frozen_executeBegin _ now)
  | executeEnd i now again result =>
    cases hs
    exact h.setTask (frozen_executeEnd _ now again result)

theorem reach_inv (h : Reach taskList Any s) : ListInv s := by
  refine h.invariant (fun s hinit => ?_) fun _ hinv hs => hinv.step hs
  obtain ⟨-, hstarted, hqueue, hadded⟩ := hinit
  refine ⟨?_, ?_, ?_, ?_, ?_⟩
  · exact hqueue ▸ List.nodup_nil
  · exact hqueue ▸ List.Pairwise.nil
  · exact hqueue ▸ fun i hi => absurd hi List.not_mem_nil
  · rw [hstarted, hadded]
    exact List.nodup_nil
  · rw [hstarted, hadded]
    exact fun i hi => absurd hi List.not_mem_nil

/-! ## `pick` -/

theorem pickFrom_eq_none {pool : Nat} {clock : Nat → Int} {q : List Nat} :
    ∀ {n : Nat}, s.pickFrom pool clock n q = none ↔
      ∀ m i, q[m]? = some i → s.isDue pool (clock (n + m)) i = false := by
  induction q with
  | nil =>
    intro n
    refine ⟨fun _ m i hi => ?_, fun _ => rfl⟩
    cases hi
  | cons j q ih =>
    intro n
    rw [pickFrom]
    constructor
    · intro h m i hi
      split at h
      · cases h
      · rename_i hj
        cases m with
        | zero =>
          cases hi
          exact Bool.eq_false_iff.mpr hj
        | succ m =>
          have hrest := ih.mp h m i hi
          rwa [Nat.add_right_comm] at hrest
    · intro h
      have hj : s.isDue pool (clock n) j = false := h 0 j rfl
      rw [if_neg (Bool.eq_false_iff.mp hj)]
      refine ih.mpr fun m i hi => ?_
      have hrest := h (m + 1) i hi
      rwa [Nat.add_right_comm]

theorem pickFrom_eq_some {pool : Nat} {clock : Nat → Int} {i : Nat} {q : List Nat} :
    ∀ {n : Nat}, s.pickFrom pool clock n q = some i ↔
      ∃ before after, q = before ++ i :: after ∧
        s.isDue pool (clock (n + before.length)) i = true ∧
        s.pickFrom pool clock n before = none := by
  induction q with
  | nil =>
    intro n
    constructor
    · intro h
      cases h
    · rintro ⟨before, after, heq, -⟩
      exact absurd heq.symm (List.append_ne_nil_of_right_ne_nil _ (List.cons_ne_nil _ _))
  | cons j q ih =>
    intro n
    rw [pickFrom]
    constructor
    · intro h
      split at h
      · rename_i hj
        cases h
        exact ⟨[], q, rfl, hj, rfl⟩
      · rename_i hj
        obtain ⟨before, after, rfl, hdue, hnone⟩ := ih.mp h
        refine ⟨j :: before, after, rfl, ?_, ?_⟩
        · rwa [Nat.add_right_comm] at hdue
        · rw [pickFrom, if_neg hj]
          exact hnone
    · rintro ⟨before, after, heq, hdue, hnone⟩
      cases before with
      | nil =>
        obtain ⟨rfl, rfl⟩ := List.cons.inj heq
        exact if_pos hdue
      | cons k before =>
        obtain ⟨rfl, rfl⟩ := List.cons.inj heq
        rw [pickFrom] at hnone
        split at hnone
        · cases hnone
        · rename_i hj
          rw [if_neg hj]
          refine ih.mpr ⟨before, after, rfl, ?_, hnone⟩
          rwa [Nat.add_right_comm]

theorem pick_fst (s : TaskList) (pool : Nat) (clock : Nat → Int) :
    (s.pick pool clock).1 = s.pickFrom pool clock 0 s.queue := by
  unfold TaskList.pick
  split
  · rename_i heq
    exact heq.symm
  · rename_i heq
    exact heq.symm

/-- `i` is waiting, belongs to the pool and its time has come. -/
def Due (s : TaskList) (pool : Nat) (now : Int) (i : Nat) : Prop :=
  (s.tasks i).state = .waiting ∧ (s.tasks i).pool = pool ∧ (s.tasks i).timeLeftUsec now ≤ 0

theorem isDue_iff {pool : Nat} {now : Int} {i : Nat} :
    s.isDue pool now i = true ↔ s.Due pool now i := by
  rw [isDue, Due, Bool.and_eq_true, Bool.and_eq_true, decide_eq_true_iff, decide_eq_true_iff,
    decide_eq_true_iff, and_assoc]

/-- **The list of tasks is a stable priority queue**: no task is in it twice, tasks of a higher
priority come first and those of one priority in the order of their `add_task`; and `pick` returns
the first task of the list that is due when it is looked at, or nothing exactly if none is. -/
theorem stable_priority_queue (h : Reach taskList Any s) :
    (s.queue.Nodup ∧ s.added.Nodup ∧ (∀ i ∈ s.queue, i ∈ s.added) ∧ s.queue.Pairwise s.Before) ∧
      ∀ pool clock,
        (∀ i, (s.pick pool clock).1 = some i ↔
          ∃ before after, s.queue = before ++ i :: after ∧ s.Due pool (clock before.length) i ∧
            ∀ n j, before[n]? = some j → ¬ s.Due pool (clock n) j) ∧
        ((s.pick pool clock).1 = none ↔
          ∀ n i, s.queue[n]? = some i → ¬ s.Due pool (clock n) i) := by
  have hinv := reach_inv h
  have hnone : ∀ {pool : Nat} {clock : Nat → Int} {q : List Nat},
      s.pickFrom pool clock 0 q = none ↔ ∀ n i, q[n]? = some i → ¬ s.Due pool (clock n) i := by
    intro pool clock q
    rw [pickFrom_eq_none]
    refine forall_congr' fun n => forall_congr' fun i => imp_congr_right fun _ => ?_
    rw [← isDue_iff, Nat.zero_add]
    exact Bool.eq_false_iff
  refine ⟨⟨hinv.nodup, ?_, hinv.added, hinv.ordered⟩, fun pool clock => ⟨fun i => ?_, ?_⟩⟩
  · exact hinv.once.sublist (List.sublist_append_right _ _)
  · rw [pick_fst, pickFrom_eq_some]
    refine exists_congr fun before => exists_congr fun after => and_congr_right fun _ => ?_
    rw [isDue_iff, Nat.zero_add, hnone]
  · rw [pick_fst]
    exact hnone

/-! ## A scenario -/

def noTasks : TaskList := ⟨fun _ => ⟨.init, 0, 0, none, false, 0, 0, false, false⟩, [], [], []⟩

/-- Three tasks are started in turn, the third one with a higher priority. -/
def threeTasks : List ListAct :=
  [.start 0, .start 1, .setPriority 2 5, .start 2, .addTask 0, .addTask 1, .addTask 2,
    .setPriority 1 9]

theorem stable_priority_queue_three : ∃ s, Reach taskList Any s ∧ s.queue = [2, 0, 1] ∧
    (s.queue.Nodup ∧ s.added.Nodup ∧ (∀ i ∈ s.queue, i ∈ s.added) ∧ s.queue.Pairwise s.Before) ∧
      ∀ pool clock,
        (∀ i, (s.pick pool clock).1 = some i ↔
          ∃ before after, s.queue = before ++ i :: after ∧ s.Due pool (clock before.length) i ∧
            ∀ n j, before[n]? = some j → ¬ s.Due pool (clock n) j) ∧
        ((s.pick pool clock).1 = none ↔
          ∀ n i, s.queue[n]? = some i → ¬ s.Due pool (clock n) i) := by
  have hinit : taskList.init noTasks := ⟨fun _ => rfl, rfl, rfl, rfl⟩
  have hrun : taskList.run noTasks threeTasks = some _ := rfl
  have hreach := Reach.run (.init hinit) hrun
  exact ⟨_, hreach, rfl, stable_priority_queue hreach⟩

end TaskList

end Async
