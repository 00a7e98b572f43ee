import SuplaCore.Async.Pool

/-!
# No due task is stranded

A task that waits with its request time set is not requested again, so a thread of its pool has to
find it. `PoolInv` says why one does: the task is on the list of requests (`listed`), and some
thread of the pool has not decided to stop (`served`); the last such thread goes on as long as there
are requests. This holds in the runs in which (`Careful`)

* a task is not requested between the reset of its request time and its removal from the requests,
  unless it is still listed,
* the second section of a request finds a thread that has not decided to stop, or starts one,
* the last thread that has not decided to stop does not stop while there are requests, for other
  threads that stopped are still in the list,
* and the last thread does not clear the requests between the two sections of one.

Otherwise a task is left without a thread (`task_stranded`).
-/

namespace Async

open Sys

/-! ## What is claimed -/

namespace Pools

abbrev pc (s : Pools) (w : Nat) : WorkerPc := (s.workers w).pc

/-- A request for the task is between its two sections. -/
def Pending (s : Pools) (i : Nat) : Prop :=
  ∃ it n, s.iteration = some it ∧ it.request = some (.second i n)

/-- `iterate` has found the task due, and its request is before its first section. -/
def Asked (s : Pools) (i : Nat) : Prop :=
  ∃ it, s.iteration = some it ∧ (it.request = some (.gate i) ∨ it.request = some (.first i))

/-- The task waits, and its request time is set and stays so: no thread is about to reset it. -/
structure Waits (s : Pools) (i : Nat) : Prop where
  waiting : (s.tasks i).state = .waiting
  flagged : (s.tasks i).executionRequested = true
  kept : ∀ w, s.pc w ≠ .done i

/-- A due task of the pool `p` that `iterate` has requested and will not request again. -/
structure Requested (s : Pools) (p i : Nat) : Prop where
  pool : s.poolOf i = p
  due : (s.tasks i).timeLeftUsec s.now ≤ 0
  waits : s.Waits i
  returned : ¬ s.Pending i

/-- A live thread of the pool has not decided to stop. -/
def Served (s : Pools) (p : Nat) : Prop :=
  ∃ w ∈ (s.pools p).threads, (s.pc w).undecided = true

/-- The conditions on the steps of a run (module doc). -/
def Careful (l : Limits) (s : Pools) : PoolAct → Prop
  | .iterateStep spawn => ∀ it, s.iteration = some it →
    (∀ i, it.request = some (.first i) →
      i ∈ (s.pools (s.poolOf i)).requests ∨ ∀ w, s.pc w ≠ .unlist i) ∧
    ∀ i n, it.request = some (.second i n) → (s.pools (s.poolOf i)).terminated = false →
      s.Served (s.poolOf i) ∨
        wantsThread l (s.poolOf i) (s.pools (s.poolOf i)) n = true ∧ ∃ w, spawn = .runs w
  | .work w _ _ keepAlive =>
    let p := (s.workers w).pool
    (s.pools p).terminated = false →
      (s.pc w = .decide → goesOn (s.workers w) (s.pools p) keepAlive = true ∨
        (s.pools p).requests = [] ∨ ∃ v ∈ (s.pools p).threads, v ≠ w ∧ (s.pc v).undecided = true) ∧
      (s.pc w = .finish → (s.pools p).threads.erase w ≠ [] ∨
        ∀ i, s.Pending i → s.poolOf i ≠ p)
  | _ => True

/-- The step is no pick by a thread of the pool `p`, and does not terminate the pool. -/
def NoPick (p : Nat) (s : Pools) : PoolAct → Prop
  | .work w _ _ _ => (s.workers w).pool = p → s.pc w ≠ .pick
  | .terminate q => q ≠ p
  | _ => True

end Pools

/-! ## The invariant -/

/-- A task that a thread has picked is in its hands until `execute` returns. -/
structure HandsInv (s : Pools) : Prop where
  fresh : ∀ i, (s.tasks i).state = .init → (s.tasks i).executionRequested = false
  asked : ∀ i, s.Asked i → (s.tasks i).state ≠ .init
  picked : ∀ w i, s.pc w = .picked i →
    (s.tasks i).state = .picked ∨ (s.tasks i).state = .canceled
  running : ∀ w i, s.pc w = .running i →
    (s.tasks i).state = .executing ∨ (s.tasks i).state = .canceled
  alone : ∀ w v i, s.pc w = .picked i ∨ s.pc w = .running i →
    s.pc v = .picked i ∨ s.pc v = .running i → w = v
  unlist : ∀ w i, s.pc w = .unlist i →
    (s.tasks i).isFinished = true ∨ (s.tasks i).executionRequested = false

structure ThreadsInv (s : Pools) : Prop where
  nodup : ∀ p, (s.pools p).threads.Nodup
  member : ∀ p, ∀ w ∈ (s.pools p).threads, (s.workers w).pool = p ∧ s.pc w ≠ .gone
  terminated : ∀ w, (s.workers w).terminated = true → s.pc w ≠ .gone →
    (s.pools (s.workers w).pool).terminated = true

structure ListsInv (s : Pools) : Prop where
  listed : ∀ i, s.Waits i → (s.pools (s.poolOf i)).terminated = false →
    i ∈ (s.pools (s.poolOf i)).requests
  served : ∀ i, s.Waits i → ¬ s.Pending i → (s.pools (s.poolOf i)).terminated = false →
    s.Served (s.poolOf i)

structure PoolInv (s : Pools) : Prop where
  hands : HandsInv s
  threads : ThreadsInv s
  lists : ListsInv s

/-- Steps that leave the lists of the pools alone. -/
theorem ListsInv.keep {s s' : Pools} (h : ListsInv s) (hpools : s'.pools = s.pools)
    (hpool : ∀ i, s'.poolOf i = s.poolOf i) (hwaits : ∀ i, s'.Waits i → s.Waits i)
    (hpending : ∀ i, s.Pending i → s'.Pending i)
    (hundecided : ∀ w, (s.pc w).undecided = true → (s'.pc w).undecided = true) : ListsInv s' where
  listed i hi hterm := by
    rw [hpools, hpool] at hterm ⊢
    exact h.listed i (hwaits i hi) hterm
  served i hi hnot hterm := by
    rw [hpools, hpool] at hterm
    obtain ⟨w, hw, hu⟩ := h.served i (hwaits i hi) (fun hp => hnot (hpending i hp)) hterm
    rw [hpool]
    exact ⟨w, by rwa [hpools], hundecided w hu⟩

/-- Steps that leave the threads and the lists of the pools alone. -/
theorem ThreadsInv.keep {s s' : Pools} (h : ThreadsInv s)
    (hthreads : ∀ p, (s'.pools p).threads = (s.pools p).threads)
    (hterm : ∀ p, (s.pools p).terminated = true → (s'.pools p).terminated = true)
    (hworkers : ∀ w, (s'.workers w).pool = (s.workers w).pool ∧
      (s'.workers w).terminated = (s.workers w).terminated ∧ (s.pc w = .gone ↔ s'.pc w = .gone)) :
    ThreadsInv s' where
  nodup p := by
    rw [hthreads]
    exact h.nodup p
  member p w hw := by
    rw [hthreads] at hw
    obtain ⟨hpool, hgone⟩ := h.member p w hw
    obtain ⟨h₁, -, h₂⟩ := hworkers w
    exact ⟨h₁.trans hpool, fun hg => hgone (h₂.mpr hg)⟩
  terminated w hw hgone := by
    obtain ⟨h₁, h₂, h₃⟩ := hworkers w
    rw [h₂] at hw
    rw [h₁]
    exact hterm _ (h.terminated w hw fun hg => hgone (h₃.mp hg))

/-! ## What others do to a task -/

/-- What a task may become by others than the threads of its pool. -/
structure Calm (t t' : Task) : Prop where
  state : t'.state = t.state ∨ t'.state = .canceled ∨ t.state = .init ∧ t'.state = .waiting
  flagged : t'.executionRequested = true → t.executionRequested = true
  pool : t'.pool = t.pool

theorem Calm.refl (t : Task) : Calm t t := ⟨.inl rfl, fun h => h, rfl⟩

theorem Calm.cancel (t : Task) : Calm t t.cancel := ⟨.inr (.inl rfl), fun h => h, rfl⟩

theorem Calm.start (t : Task) : Calm t t.start.2 := by
  unfold Task.start
  split
  · rename_i hinit
    exact ⟨.inr (.inr ⟨hinit, rfl⟩), fun h => h, rfl⟩
  · exact .refl t

theorem Calm.of_set {s : Pools} {i : Nat} {t : Task} (h : Calm (s.tasks i) t) (j : Nat) :
    Calm (s.tasks j) ((s.setTask i t).tasks j) := by
  unfold Pools.setTask
  dsimp only
  split
  · rename_i hji
    exact hji ▸ h
  · exact .refl _

theorem Task.isFinished_iff {t : Task} : t.isFinished = true ↔
    t.state = .success ∨ t.state = .failure ∨ t.state = .timeout ∨ t.state = .canceled := by
  unfold Task.isFinished TaskState.finished
  cases t.state <;> simp

theorem Calm.finished {t t' : Task} (h : Calm t t') (hf : t.isFinished = true) :
    t'.isFinished = true := by
  rw [Task.isFinished_iff] at hf ⊢
  rcases h.state with hs | hs | ⟨hs, -⟩
  · rwa [hs]
  · exact .inr (.inr (.inr hs))
  · simp [hs] at hf

section CalmSteps

variable {s s' : Pools}

theorem Calm.not_init {t t' : Task} (h : Calm t t') (ht : t.state ≠ .init) : t'.state ≠ .init := by
  rcases h.state with hs | hs | ⟨hs, -⟩
  · rwa [hs]
  · rw [hs]
    intro h
    cases h
  · exact absurd hs ht

theorem HandsInv.calm (h : HandsInv s) (htasks : ∀ i, Calm (s.tasks i) (s'.tasks i))
    (hpc : ∀ w, s'.pc w = s.pc w)
    (hasked : ∀ i, s'.Asked i → s.Asked i ∨ (s.tasks i).state ≠ .init) : HandsInv s' where
  fresh i hi := by
    rcases (htasks i).state with hs | hs | ⟨-, hs⟩
    · exact Bool.eq_false_iff.mpr fun hf =>
        absurd ((htasks i).flagged hf) (by simp [h.fresh i (hs ▸ hi)])
    · rw [hs] at hi
      cases hi
    · rw [hs] at hi
      cases hi
  asked i hi := (htasks i).not_init ((hasked i hi).elim (h.asked i) id)
  picked w i hw := by
    rcases (htasks i).state with hs | hs | ⟨hs, -⟩
    · rw [hs]
      exact h.picked w i (hpc w ▸ hw)
    · exact .inr hs
    · have := h.picked w i (hpc w ▸ hw)
      simp [hs] at this
  running w i hw := by
    rcases (htasks i).state with hs | hs | ⟨hs, -⟩
    · rw [hs]
      exact h.running w i (hpc w ▸ hw)
    · exact .inr hs
    · have := h.running w i (hpc w ▸ hw)
      simp [hs] at this
  alone w v i := by
    rw [hpc, hpc]
    exact h.alone w v i
  unlist w i hw := by
    rcases h.unlist w i (hpc w ▸ hw) with hf | hf
    · exact .inl ((htasks i).finished hf)
    · exact .inr (Bool.eq_false_iff.mpr fun h' => by simp [(htasks i).flagged h'] at hf)

/-- What waits after a calm change waited before it. -/
theorem HandsInv.waits_calm (h : HandsInv s) (htasks : ∀ i, Calm (s.tasks i) (s'.tasks i))
    (hpc : ∀ w, s'.pc w = s.pc w) {i : Nat} (hi : s'.Waits i) : s.Waits i := by
  have hflag := (htasks i).flagged hi.flagged
  refine ⟨?_, hflag, fun w => hpc w ▸ hi.kept w⟩
  rcases (htasks i).state with hs | hs | ⟨hs, -⟩
  · exact hs ▸ hi.waiting
  · have hw := hi.waiting
    rw [hs] at hw
    cases hw
  · rw [h.fresh i hs] at hflag
    cases hflag

/-- **Steps of others** keep the invariant: they change tasks calmly and leave pools and threads
alone. -/
theorem PoolInv.calm (h : PoolInv s) (htasks : ∀ i, Calm (s.tasks i) (s'.tasks i))
    (hpools : s'.pools = s.pools) (hworkers : s'.workers = s.workers)
    (hpending : ∀ i, s.Pending i → s'.Pending i)
    (hasked : ∀ i, s'.Asked i → s.Asked i ∨ (s.tasks i).state ≠ .init) : PoolInv s' := by
  have hpc : ∀ w, s'.pc w = s.pc w := fun w => by rw [Pools.pc, hworkers]
  refine ⟨h.hands.calm htasks hpc hasked, h.threads.keep (fun p => by rw [hpools])
    (fun p hp => by rwa [hpools]) (fun w => by rw [hworkers, hpc w]; exact ⟨rfl, rfl, Iff.rfl⟩),
    h.lists.keep hpools (fun i => (htasks i).pool)
      (fun i hi => h.hands.waits_calm htasks hpc hi) hpending fun w hw => by rwa [hpc]⟩

end CalmSteps

/-! ## Threads with no task in their hands -/

section EmptyHanded

variable {s s' : Pools} {w : Nat}

/-- Of the threads only `w` moves, with no task in its hands. -/
structure EmptyHanded (w : Nat) (s s' : Pools) : Prop where
  tasks : s'.tasks = s.tasks
  iteration : s'.iteration = s.iteration
  others : ∀ v, v ≠ w → s'.workers v = s.workers v
  old : (s.pc w).holds = none
  new : (s'.pc w).holds = none

namespace EmptyHanded

variable (h : EmptyHanded w s s')
include h

theorem pc_others {v : Nat} (hv : v ≠ w) : s'.pc v = s.pc v := by
  rw [Pools.pc, h.others v hv]

/-- A thread that has a task in its hands is another one. -/
theorem pc_holding {v i : Nat} (hv : (s'.pc v).holds = some i) : s'.pc v = s.pc v := by
  refine h.pc_others ?_
  rintro rfl
  rw [h.new] at hv
  cases hv

theorem poolOf (i : Nat) : s'.poolOf i = s.poolOf i := by
  rw [Pools.poolOf, Pools.poolOf, h.tasks]

theorem waits {i : Nat} (hi : s'.Waits i) : s.Waits i := by
  refine ⟨h.tasks ▸ hi.waiting, h.tasks ▸ hi.flagged, fun v hv => ?_⟩
  by_cases hvw : v = w
  · have hnone := h.old
    rw [← hvw, hv] at hnone
    cases hnone
  · exact hi.kept v (by rwa [h.pc_others hvw])

theorem pending {i : Nat} (hi : s.Pending i) : s'.Pending i := by
  obtain ⟨it, n, hit, hreq⟩ := hi
  exact ⟨it, n, h.iteration ▸ hit, hreq⟩

theorem hands (hhands : HandsInv s) : HandsInv s' where
  fresh i := by
    rw [h.tasks]
    exact hhands.fresh i
  asked i := by
    rintro ⟨it, hit, hreq⟩
    rw [h.tasks]
    exact hhands.asked i ⟨it, h.iteration ▸ hit, hreq⟩
  picked v i hv := by
    rw [h.tasks]
    exact hhands.picked v i (h.pc_holding (by rw [hv]; rfl) ▸ hv)
  running v i hv := by
    rw [h.tasks]
    exact hhands.running v i (h.pc_holding (by rw [hv]; rfl) ▸ hv)
  alone u v i hu hv := by
    have hu' : s'.pc u = s.pc u :=
      h.pc_holding (i := i) (by rcases hu with hu | hu <;> rw [hu] <;> rfl)
    have hv' : s'.pc v = s.pc v :=
      h.pc_holding (i := i) (by rcases hv with hv | hv <;> rw [hv] <;> rfl)
    exact hhands.alone u v i (hu' ▸ hu) (hv' ▸ hv)
  unlist v i hv := by
    rw [h.tasks]
    exact hhands.unlist v i (h.pc_holding (by rw [hv]; rfl) ▸ hv)

end EmptyHanded

end EmptyHanded

/-! ## Requests -/

section Requests

variable {s s' : Pools} {l : Limits} {it : Iteration}

/-- Steps of `iterate` that only move its request on. -/
theorem PoolInv.moveOn (h : PoolInv s) (hit : s.iteration = some it)
    (hnot : ∀ i n, it.request ≠ some (.second i n)) {next : Option Iteration}
    (hasked : ∀ i it', next = some it' →
      it'.request = some (.gate i) ∨ it'.request = some (.first i) →
        it.request = some (.gate i) ∨ it.request = some (.first i) ∨
          (s.tasks i).state ≠ .init) : PoolInv { s with iteration := next } := by
  refine h.calm (fun _ => .refl _) rfl rfl ?_ ?_
  · rintro i ⟨it', n, hit', hreq⟩
    rw [hit] at hit'
    cases hit'
    exact absurd hreq (hnot i n)
  · rintro i ⟨it', hit', hreq⟩
    rcases hasked i it' hit' hreq with h₁ | h₁ | h₁
    · exact .inl ⟨it, hit, .inl h₁⟩
    · exact .inl ⟨it, hit, .inr h₁⟩
    · exact .inr h₁

/-- The request for the task `i` is in the list of its pool, and `iterate` is to add a thread. -/
structure Listed (i : Nat) (s s' : Pools) : Prop where
  state : ∀ j, (s'.tasks j).state = (s.tasks j).state
  pool : ∀ j, (s'.tasks j).pool = (s.tasks j).pool
  flagged : ∀ j, j ≠ i → (s'.tasks j).executionRequested = (s.tasks j).executionRequested
  workers : s'.workers = s.workers
  threads : ∀ q, (s'.pools q).threads = (s.pools q).threads
  terminated : ∀ q, (s'.pools q).terminated = (s.pools q).terminated
  requests : ∀ q, (s.pools q).requests ⊆ (s'.pools q).requests
  listed : i ∈ (s'.pools (s.poolOf i)).requests
  notPending : ∀ j, ¬ s.Pending j
  pending : s'.Pending i
  notAsked : ∀ j, ¬ s'.Asked j

theorem listed_firstSection {i : Nat} (hit : s.iteration = some it)
    (hreq : it.request = some (.first i)) (hnew : i ∉ (s.pools (s.poolOf i)).requests) :
    Listed i s (s.firstSection it i) := by
  have hs' : s.firstSection it i =
      ((s.setTask i { s.tasks i with executionRequested := true }).setPool (s.poolOf i)
        { s.pools (s.poolOf i) with requests := (s.pools (s.poolOf i)).requests ++ [i] }).setRequest
          it (some (.second i ((s.pools (s.poolOf i)).requests.length + 1))) := by
    unfold Pools.firstSection
    exact if_neg hnew
  rw [hs']
  constructor
  case workers => rfl
  case listed => simp [Pools.setRequest, Pools.setPool]
  case notPending =>
    rintro j ⟨it', n, hit', hreq'⟩
    rw [hit] at hit'
    cases hit'
    rw [hreq] at hreq'
    cases hreq'
  case pending => exact ⟨_, _, rfl, rfl⟩
  case notAsked =>
    rintro j ⟨it', hit', hreq' | hreq'⟩
    · cases hit'
      cases hreq'
    · cases hit'
      cases hreq'
  case flagged =>
    intro j hj
    simp [Pools.setRequest, Pools.setPool, Pools.setTask, hj]
  case state | pool =>
    intro j
    by_cases hji : j = i
    · simp [Pools.setRequest, Pools.setPool, Pools.setTask, hji]
    · simp [Pools.setRequest, Pools.setPool, Pools.setTask, hji]
  case threads | terminated | requests =>
    intro q
    by_cases hq : q = s.poolOf i
    · simp [Pools.setRequest, Pools.setPool, Pools.setTask, hq]
    · simp [Pools.setRequest, Pools.setPool, Pools.setTask, hq]

namespace Listed

variable {i : Nat} (h : Listed i s s')
include h

theorem pc (w : Nat) : s'.pc w = s.pc w := by rw [Pools.pc, Pools.pc, h.workers]

theorem poolOf (j : Nat) : s'.poolOf j = s.poolOf j := h.pool j

theorem waits {j : Nat} (hj : j ≠ i) (hw : s'.Waits j) : s.Waits j :=
  ⟨h.state j ▸ hw.waiting, h.flagged j hj ▸ hw.flagged, fun w => h.pc w ▸ hw.kept w⟩

theorem hands (hhands : HandsInv s) (hinit : (s.tasks i).state ≠ .init)
    (hunlist : ∀ w, s.pc w ≠ .unlist i) : HandsInv s' where
  fresh j hj := by
    rw [h.state] at hj
    have hji : j ≠ i := fun he => hinit (he ▸ hj)
    rw [h.flagged j hji]
    exact hhands.fresh j hj
  asked j hj := absurd hj (h.notAsked j)
  picked w j hw := by
    rw [h.state]
    exact hhands.picked w j (h.pc w ▸ hw)
  running w j hw := by
    rw [h.state]
    exact hhands.running w j (h.pc w ▸ hw)
  alone w v j := by
    rw [h.pc, h.pc]
    exact hhands.alone w v j
  unlist w j hw := by
    rw [h.pc] at hw
    have hji : j ≠ i := fun he => hunlist w (he ▸ hw)
    rw [Task.isFinished, h.state, h.flagged j hji]
    exact hhands.unlist w j hw

theorem lists (hlists : ListsInv s) : ListsInv s' where
  listed j hj hterm := by
    rw [h.poolOf, h.terminated] at hterm
    rw [h.poolOf]
    by_cases hji : j = i
    · rw [hji]
      exact h.listed
    · exact h.requests _ (hlists.listed j (h.waits hji hj) hterm)
  served j hj hnot hterm := by
    rw [h.poolOf, h.terminated] at hterm
    have hji : j ≠ i := fun he => hnot (he ▸ h.pending)
    obtain ⟨w, hw, hu⟩ := hlists.served j (h.waits hji hj) (h.notPending j) hterm
    rw [h.poolOf]
    exact ⟨w, h.threads _ ▸ hw, by rwa [h.pc]⟩

end Listed

theorem PoolInv.listRequest (h : PoolInv s) {i : Nat} (hit : s.iteration = some it)
    (hreq : it.request = some (.first i))
    (hnew : i ∉ (s.pools (s.poolOf i)).requests) (hunlist : ∀ w, s.pc w ≠ .unlist i) :
    PoolInv (s.firstSection it i) := by
  have hlisted := listed_firstSection hit hreq hnew
  have hinit : (s.tasks i).state ≠ .init := h.hands.asked i ⟨it, hit, .inr hreq⟩
  refine ⟨hlisted.hands h.hands hinit hunlist, ?_, hlisted.lists h.lists⟩
  refine h.threads.keep hlisted.threads (fun q hq => (hlisted.terminated q).trans hq) fun w => ?_
  rw [hlisted.pc, hlisted.workers]
  exact ⟨rfl, rfl, Iff.rfl⟩

/-- A pool with one more thread in its list. -/
def withThread (p w : Nat) (pc : WorkerPc) (s : Pools) : Pools :=
  { s with workers := fun v => if v = w then ⟨p, pc, false⟩ else s.workers v }.setPool p
    { s.pools p with threads := (s.pools p).threads ++ [w] }

/-- The thread `w`, which did not run, is in the list of the pool `p`. -/
structure ThreadAdded (p w : Nat) (s s' : Pools) : Prop extends EmptyHanded w s s' where
  gone : s.pc w = .gone
  alive : s'.pc w ≠ .gone
  pool : (s'.workers w).pool = p
  asked : (s'.workers w).terminated = false
  requests : ∀ q, (s'.pools q).requests = (s.pools q).requests
  terminated : ∀ q, (s'.pools q).terminated = (s.pools q).terminated
  threads : ∀ q, (s'.pools q).threads = (s.pools q).threads ++ if q = p then [w] else []

theorem threadAdded_withThread {p w : Nat} {pc : WorkerPc} (hgone : s.pc w = .gone)
    (hpc : pc = .pick ∨ pc = .dead) : ThreadAdded p w s (withThread p w pc s) := by
  have hworker : (withThread p w pc s).workers w = ⟨p, pc, false⟩ := if_pos rfl
  have hpools : ∀ q, (withThread p w pc s).pools q = if q = p
      then { s.pools p with threads := (s.pools p).threads ++ [w] } else s.pools q := fun _ => rfl
  constructor
  case toEmptyHanded =>
    refine ⟨rfl, rfl, fun v hv => if_neg hv, by rw [hgone]; rfl, ?_⟩
    rw [Pools.pc, hworker]
    rcases hpc with rfl | rfl <;> rfl
  case gone => exact hgone
  case alive =>
    rw [Pools.pc, hworker]
    rcases hpc with rfl | rfl <;> (intro hc; cases hc)
  case pool => rw [hworker]
  case asked => rw [hworker]
  all_goals
    intro q
    rw [hpools]
    split
    · rename_i hq
      rw [hq]
    · simp

namespace ThreadAdded

variable {p w : Nat} (h : ThreadAdded p w s s')
include h

theorem threadsInv (hthreads : ThreadsInv s) : ThreadsInv s' where
  nodup q := by
    have hnew : w ∉ (s.pools q).threads := fun hw => (hthreads.member q w hw).2 h.gone
    rw [h.threads]
    split
    · exact List.nodup_append.mpr ⟨hthreads.nodup q, List.pairwise_singleton _ w,
        fun v hv u hu he => hnew (List.mem_singleton.mp hu ▸ he ▸ hv)⟩
    · rw [List.append_nil]
      exact hthreads.nodup q
  member q v hv := by
    rw [h.threads, List.mem_append] at hv
    obtain hv | hv := hv
    · have hvw : v ≠ w := fun he => (hthreads.member q v hv).2 (he ▸ h.gone)
      rw [h.pc_others hvw, h.others v hvw]
      exact hthreads.member q v hv
    · split at hv
      · rename_i hq
        obtain rfl := List.mem_singleton.mp hv
        exact ⟨h.pool.trans hq.symm, h.alive⟩
      · cases hv
  terminated v hv hgone := by
    by_cases hvw : v = w
    · rw [hvw, h.asked] at hv
      cases hv
    · rw [h.pc_others hvw] at hgone
      rw [h.others v hvw] at hv ⊢
      exact (h.terminated _).trans (hthreads.terminated v hv hgone)

theorem lists (hlists : ListsInv s) : ListsInv s' where
  listed i hi hterm := by
    rw [h.poolOf, h.terminated] at hterm
    rw [h.poolOf, h.requests]
    exact hlists.listed i (h.waits hi) hterm
  served i hi hnot hterm := by
    rw [h.poolOf, h.terminated] at hterm
    obtain ⟨v, hv, hu⟩ := hlists.served i (h.waits hi) (fun hp => hnot (h.pending hp)) hterm
    have hvw : v ≠ w := by
      rintro rfl
      rw [h.gone] at hu
      cases hu
    rw [h.poolOf]
    refine ⟨v, ?_, by rwa [h.pc_others hvw]⟩
    rw [h.threads]
    exact List.mem_append_left _ hv

end ThreadAdded

theorem PoolInv.addThread (h : PoolInv s) {p w : Nat} {pc : WorkerPc} (hgone : s.pc w = .gone)
    (hpc : pc = .pick ∨ pc = .dead) : PoolInv (withThread p w pc s) :=
  have hadded := threadAdded_withThread hgone hpc
  ⟨hadded.hands h.hands, hadded.threadsInv h.threads, hadded.lists h.lists⟩

theorem served_withThread (s : Pools) (p w : Nat) : (withThread p w .pick s).Served p := by
  refine ⟨w, ?_, ?_⟩
  · simp [withThread, Pools.setPool]
  · have hnew : (withThread p w .pick s).workers w = ⟨p, .pick, false⟩ := if_pos rfl
    rw [Pools.pc, hnew]
    rfl

/-- The end of a request. -/
theorem PoolInv.closeRequest (h : PoolInv s) {i n : Nat} (hit : s.iteration = some it)
    (hreq : it.request = some (.second i n))
    (hserved : (s.pools (s.poolOf i)).terminated = false → s.Served (s.poolOf i)) :
    PoolInv (s.setRequest it none) := by
  refine ⟨?_, h.threads.keep (fun _ => rfl) (fun _ h => h) fun _ => ⟨rfl, rfl, Iff.rfl⟩, ⟨?_, ?_⟩⟩
  · refine h.hands.calm (fun _ => .refl _) (fun _ => rfl) ?_
    rintro j ⟨it', ⟨⟩, hreq'⟩
    rcases hreq' with hreq' | hreq' <;> cases hreq'
  · exact fun j hj => h.lists.listed j ⟨hj.waiting, hj.flagged, hj.kept⟩
  · intro j hj _ hterm
    by_cases hji : j = i
    · subst hji
      exact hserved hterm
    · refine h.lists.served j ⟨hj.waiting, hj.flagged, hj.kept⟩ ?_ hterm
      rintro ⟨it', m, hit', hreq'⟩
      rw [hit] at hit'
      cases hit'
      rw [hreq] at hreq'
      cases hreq'
      exact hji rfl

theorem startThread_cases {p : Nat} {spawn : Spawn} (hs : s.startThread p spawn = some s') :
    spawn = .fails ∧ s' = s ∨ ∃ w, s.pc w = .gone ∧
      (spawn = .dead w ∧ s' = withThread p w .dead s ∨
        spawn = .runs w ∧ s' = withThread p w .pick s) := by
  unfold Pools.startThread at hs
  cases spawn with
  | fails =>
    cases hs
    exact .inl ⟨rfl, rfl⟩
  | dead w =>
    dsimp only at hs
    split at hs
    · rename_i hgone
      cases hs
      exact .inr ⟨w, hgone, .inl ⟨rfl, rfl⟩⟩
    · cases hs
  | runs w =>
    dsimp only at hs
    split at hs
    · rename_i hgone
      cases hs
      exact .inr ⟨w, hgone, .inr ⟨rfl, rfl⟩⟩
    · cases hs

/-- The second section of a request. -/
theorem PoolInv.secondSection (h : PoolInv s) {i n : Nat} {spawn : Spawn}
    (hit : s.iteration = some it) (hreq : it.request = some (.second i n))
    (hok : s.Careful l (.iterateStep spawn)) (hs : s.secondSection l it i n spawn = some s') :
    PoolInv s' := by
  have hok' := (hok it hit).2 i n hreq
  unfold Pools.secondSection at hs
  dsimp only at hs
  split at hs
  · obtain ⟨s₁, hs₁, rfl⟩ := Option.map_eq_some_iff.mp hs
    rcases startThread_cases hs₁ with ⟨rfl, rfl⟩ | ⟨w, hgone, ⟨rfl, rfl⟩ | ⟨rfl, rfl⟩⟩
    · refine h.closeRequest hit hreq fun hterm => ?_
      rcases hok' hterm with hserved | ⟨-, w, hw⟩
      · exact hserved
      · cases hw
    · refine (h.addThread hgone (.inr rfl)).closeRequest (n := n) hit hreq fun hterm => ?_
      rw [show (withThread (s.poolOf i) w .dead s).poolOf i = s.poolOf i from rfl] at hterm ⊢
      have hterm' : (s.pools (s.poolOf i)).terminated = false := by
        simpa [withThread, Pools.setPool] using hterm
      rcases hok' hterm' with ⟨v, hv, hu⟩ | ⟨-, v, hv⟩
      · have hvw : v ≠ w := fun he => by
          rw [he, hgone] at hu
          cases hu
        refine ⟨v, ?_, ?_⟩
        · simp [withThread, Pools.setPool, hv]
        · have hother : (withThread (s.poolOf i) w .dead s).workers v = s.workers v := if_neg hvw
          rwa [Pools.pc, hother]
      · cases hv
    · exact (h.addThread hgone (.inl rfl)).closeRequest (n := n) hit hreq
        fun _ => served_withThread s (s.poolOf i) w
  · cases hs
    refine h.closeRequest hit hreq fun hterm => ?_
    rcases hok' hterm with hserved | ⟨hwants, -⟩
    · exact hserved
    · contradiction

/-- Every step of `iterate`. -/
theorem PoolInv.iterateStep (h : PoolInv s) {spawn : Spawn}
    (hok : s.Careful l (.iterateStep spawn)) (hs : s.iterateStep l spawn = some s') :
    PoolInv s' := by
  unfold Pools.iterateStep at hs
  split at hs
  · cases hs
  · rename_i it hit
    split at hs
    · rename_i hreq
      have hnot : ∀ i n, it.request ≠ some (.second i n) := by
        intro i n
        rw [hreq]
        intro hc
        cases hc
      split at hs
      · cases hs
        exact h.moveOn hit hnot fun i it' hc => by cases hc
      · rename_i i rest hrest
        cases hs
        refine h.moveOn hit hnot ?_
        rintro j it' ⟨⟩ hasked
        refine .inr (.inr ?_)
        dsimp only at hasked
        split at hasked
        · rename_i hdue
          simp only [Pools.toRequest, Bool.and_eq_true, decide_eq_true_eq] at hdue
          have hij : i = j := by
            rcases hasked with hasked | hasked
            · cases hasked
              rfl
            · cases hasked
          rw [← hij, hdue.1.2]
          intro hc
          cases hc
        · rcases hasked with hasked | hasked <;> cases hasked
    · rename_i i hreq
      cases hs
      refine h.moveOn hit (fun i n hc => by rw [hreq] at hc; cases hc) ?_
      rintro j it' ⟨⟩ hasked
      left
      dsimp only at hasked
      split at hasked
      · rcases hasked with hasked | hasked <;> cases hasked
      · rcases hasked with hasked | hasked
        · cases hasked
        · cases hasked
          exact hreq
    · rename_i i hreq
      cases hs
      by_cases hlisted : i ∈ (s.pools (s.poolOf i)).requests
      · rw [Pools.firstSection, if_pos hlisted]
        refine h.moveOn hit (fun i n hc => by rw [hreq] at hc; cases hc) ?_
        rintro j it' ⟨⟩ hasked
        rcases hasked with hasked | hasked <;> cases hasked
      · exact h.listRequest hit hreq hlisted (((hok it hit).1 i hreq).resolve_left hlisted)
    · rename_i i n hreq
      exact h.secondSection hit hreq hok hs

end Requests

/-! ## Pool threads -/

section Work

variable {s s' : Pools} {w : Nat}

/-- What the place of a thread says of the task it holds. -/
def WorkerPc.Fits (tasks : Nat → Task) : WorkerPc → Prop
  | .picked i => (tasks i).state = .picked ∨ (tasks i).state = .canceled
  | .running i => (tasks i).state = .executing ∨ (tasks i).state = .canceled
  | .unlist i => (tasks i).isFinished = true ∨ (tasks i).executionRequested = false
  | _ => True

/-- The task that a thread executes. -/
def WorkerPc.executes : WorkerPc → Option Nat
  | .picked i => some i
  | .running i => some i
  | _ => none

theorem HandsInv.fits (h : HandsInv s) (v : Nat) : (s.pc v).Fits s.tasks := by
  cases hv : s.pc v with
  | picked i => exact h.picked v i hv
  | running i => exact h.running v i hv
  | unlist i => exact h.unlist v i hv
  | _ => trivial

theorem WorkerPc.executes_eq_some {pc : WorkerPc} {i : Nat} :
    pc.executes = some i ↔ pc = .picked i ∨ pc = .running i := by
  constructor
  · intro h
    cases pc <;> cases h
    · exact .inl rfl
    · exact .inr rfl
  · rintro (rfl | rfl) <;> rfl

theorem HandsInv.executes_inj (h : HandsInv s) {u v i : Nat}
    (hu : (s.pc u).executes = some i) (hv : (s.pc v).executes = some i) : u = v :=
  h.alone u v i (WorkerPc.executes_eq_some.mp hu) (WorkerPc.executes_eq_some.mp hv)

/-- A thread that does not execute the one task that changes keeps its place. -/
theorem WorkerPc.Fits.change {pc : WorkerPc} {tasks tasks' : Nat → Task} (hfit : pc.Fits tasks)
    {i : Nat} (htasks : ∀ j, j ≠ i → tasks' j = tasks j)
    (hfree : (tasks' i).state = (tasks i).state ∨ pc.executes ≠ some i)
    (hfinished : (tasks i).isFinished = true → (tasks' i).isFinished = true)
    (hflagged : (tasks' i).executionRequested = true → (tasks i).executionRequested = true) :
    pc.Fits tasks' := by
  cases pc with
  | unlist j =>
    by_cases hji : j = i
    · subst hji
      rcases hfit with hf | hf
      · exact .inl (hfinished hf)
      · exact .inr (Bool.eq_false_iff.mpr fun hf' => by simp [hflagged hf'] at hf)
    · rw [WorkerPc.Fits, htasks j hji]
      exact hfit
  | picked j =>
    by_cases hji : j = i
    · subst hji
      rw [WorkerPc.Fits, hfree.resolve_right fun hf => hf rfl]
      exact hfit
    · rw [WorkerPc.Fits, htasks j hji]
      exact hfit
  | running j =>
    by_cases hji : j = i
    · subst hji
      rw [WorkerPc.Fits, hfree.resolve_right fun hf => hf rfl]
      exact hfit
    · rw [WorkerPc.Fits, htasks j hji]
      exact hfit
  | _ => trivial

/-- Only `w` moves, and only the task `i` changes, which no other thread executes. -/
theorem HandsInv.work (h : HandsInv s) {i : Nat}
    (hasked : ∀ j, s'.Asked j → s.Asked j) (htasks : ∀ j, j ≠ i → s'.tasks j = s.tasks j)
    (hother : ∀ v, v ≠ w → s'.pc v = s.pc v)
    (hfresh : (s'.tasks i).state = .init → s'.tasks i = s.tasks i)
    (hfree : (s'.tasks i).state = (s.tasks i).state ∨ ∀ v, v ≠ w → (s.pc v).executes ≠ some i)
    (hfinished : (s.tasks i).isFinished = true → (s'.tasks i).isFinished = true)
    (hflagged : (s'.tasks i).executionRequested = true → (s.tasks i).executionRequested = true)
    (hfits : (s'.pc w).Fits s'.tasks)
    (halone : ∀ j, (s'.pc w).executes = some j → ∀ v, v ≠ w → (s.pc v).executes ≠ some j) :
    HandsInv s' := by
  have hfits' : ∀ v, (s'.pc v).Fits s'.tasks := by
    intro v
    by_cases hvw : v = w
    · exact hvw ▸ hfits
    · rw [hother v hvw]
      exact (h.fits v).change htasks (hfree.imp id fun hf => hf v hvw) hfinished hflagged
  have halone' : ∀ u v j, (s'.pc u).executes = some j → (s'.pc v).executes = some j → u = v := by
    intro u v j hu hv
    by_contra huv
    by_cases huw : u = w
    · subst huw
      rw [hother v fun h => huv h.symm] at hv
      exact halone j hu v (fun h => huv h.symm) hv
    · rw [hother u huw] at hu
      by_cases hvw : v = w
      · subst hvw
        exact halone j hv u huw hu
      · rw [hother v hvw] at hv
        exact huv (h.executes_inj hu hv)
  have hsame : ∀ j, (s'.tasks j).state = .init → s'.tasks j = s.tasks j := by
    intro j hj
    by_cases hji : j = i
    · subst hji
      exact hfresh hj
    · exact htasks j hji
  constructor
  case fresh =>
    intro j hj
    have heq := hsame j hj
    rw [heq] at hj ⊢
    exact h.fresh j hj
  case asked =>
    intro j hj hinit
    rw [hsame j hinit] at hinit
    exact h.asked j (hasked j hj) hinit
  case alone =>
    exact fun u v j hu hv => halone' u v j (WorkerPc.executes_eq_some.mpr hu)
      (WorkerPc.executes_eq_some.mpr hv)
  all_goals
    intro v j hv
    have hfit := hfits' v
    rw [hv] at hfit
    exact hfit

/-- The step of a thread that leaves the lists of the pools alone. -/
theorem PoolInv.work (h : PoolInv s) {i : Nat} {t : Task} {queue : List Nat} {pc : WorkerPc}
    (hgone : s.pc w ≠ .gone ∧ pc ≠ .gone) (hpool : t.pool = (s.tasks i).pool)
    (hfresh : t.state = .init → t = s.tasks i)
    (hfree : t.state = (s.tasks i).state ∨ ∀ v, v ≠ w → (s.pc v).executes ≠ some i)
    (hfinished : (s.tasks i).isFinished = true → t.isFinished = true)
    (hflagged : t.executionRequested = true → (s.tasks i).executionRequested = true)
    (hfits : pc.Fits fun j => if j = i then t else s.tasks j)
    (halone : ∀ j, pc.executes = some j → ∀ v, v ≠ w → (s.pc v).executes ≠ some j)
    (hwaits : (t.state = .waiting → t.executionRequested = true → pc ≠ .done i →
      (s.tasks i).state = .waiting ∧ s.pc w ≠ .done i))
    (hdone : ∀ j, j ≠ i → s.pc w ≠ .done j)
    (hundecided : (s.pc w).undecided = true → pc.undecided = true) :
    PoolInv (({ s with queue := queue }.setTask i t).setPc w pc) := by
  have hworker : (({ s with queue := queue }.setTask i t).setPc w pc).workers w =
      { s.workers w with pc := pc } := if_pos rfl
  have hself : (({ s with queue := queue }.setTask i t).setPc w pc).pc w = pc := by
    rw [Pools.pc, hworker]
  have hworkers : ∀ v, v ≠ w →
      (({ s with queue := queue }.setTask i t).setPc w pc).workers v = s.workers v :=
    fun v hv => if_neg hv
  have hother : ∀ v, v ≠ w →
      (({ s with queue := queue }.setTask i t).setPc w pc).pc v = s.pc v := by
    intro v hv
    rw [Pools.pc, hworkers v hv]
  have htask : (({ s with queue := queue }.setTask i t).setPc w pc).tasks i = t := by
    simp [Pools.setPc, Pools.setTask]
  have htasks : ∀ j, j ≠ i →
      (({ s with queue := queue }.setTask i t).setPc w pc).tasks j = s.tasks j := by
    intro j hj
    simp [Pools.setPc, Pools.setTask, hj]
  refine ⟨?_, ?_, ?_⟩
  · refine h.hands.work (i := i) (w := w) (fun _ h => h) htasks hother ?_ ?_ ?_ ?_ ?_ ?_
    · rw [htask]
      exact hfresh
    · rw [htask]
      exact hfree
    · rw [htask]
      exact hfinished
    · rw [htask]
      exact hflagged
    · rw [hself]
      exact hfits
    · rw [hself]
      exact halone
  · refine h.threads.keep (fun _ => rfl) (fun _ h => h) fun v => ?_
    by_cases hvw : v = w
    · subst hvw
      refine ⟨by rw [hworker], by rw [hworker], ?_⟩
      rw [hself]
      exact ⟨fun hc => absurd hc hgone.1, fun hc => absurd hc hgone.2⟩
    · rw [hother v hvw, hworkers v hvw]
      exact ⟨rfl, rfl, Iff.rfl⟩
  · refine h.lists.keep rfl ?_ ?_ (fun _ h => h) ?_
    · intro j
      by_cases hji : j = i
      · subst hji
        rw [Pools.poolOf, htask, hpool, Pools.poolOf]
      · rw [Pools.poolOf, htasks j hji, Pools.poolOf]
    · intro j hj
      have hkept : ∀ v, v ≠ w → s.pc v ≠ .done j := fun v hv => hother v hv ▸ hj.kept v
      by_cases hji : j = i
      · subst hji
        have hw := hj.waiting
        have hf := hj.flagged
        rw [htask] at hw hf
        obtain ⟨hwaiting, hpc⟩ := hwaits hw hf (hself ▸ hj.kept w)
        refine ⟨hwaiting, hflagged hf, fun v => ?_⟩
        by_cases hvw : v = w
        · rwa [hvw]
        · exact hkept v hvw
      · have hw := hj.waiting
        have hf := hj.flagged
        rw [htasks j hji] at hw hf
        refine ⟨hw, hf, fun v => ?_⟩
        by_cases hvw : v = w
        · rw [hvw]
          exact hdone j hji
        · exact hkept v hvw
    · intro v hv
      by_cases hvw : v = w
      · subst hvw
        rw [hself]
        exact hundecided hv
      · rwa [hother v hvw]

theorem tasks_self (i : Nat) : (fun j => if j = i then s.tasks i else s.tasks j) = s.tasks := by
  funext j
  split
  · rename_i hj
    rw [hj]
  · rfl

/-- A thread moves on, and no task changes. -/
theorem PoolInv.move (h : PoolInv s) {pc : WorkerPc} (hgone : s.pc w ≠ .gone ∧ pc ≠ .gone)
    (hfits : pc.Fits s.tasks) (hexec : pc.executes = none) (hdone : ∀ j, s.pc w ≠ .done j)
    (hundecided : (s.pc w).undecided = true → pc.undecided = true) : PoolInv (s.setPc w pc) := by
  have hself : s.setTask 0 (s.tasks 0) = s := by rw [Pools.setTask, tasks_self]
  have hwork := @PoolInv.work s w h 0 (s.tasks 0) s.queue pc hgone rfl (fun _ => rfl) (.inl rfl)
    (fun h => h) (fun h => h) ?_ ?_ (fun hw _ _ => ⟨hw, hdone 0⟩) (fun j _ => hdone j) hundecided
  · rwa [hself] at hwork
  · rwa [tasks_self]
  · intro j hj
    rw [hexec] at hj
    cases hj

/-- A task that does not wait is taken off the requests of a pool. -/
theorem PoolInv.dropRequest (h : PoolInv s) {i : Nat} (hi : ¬ s.Waits i) (p : Nat) :
    PoolInv (s.setPool p { s.pools p with requests := (s.pools p).requests.erase i }) := by
  have hpools : ∀ q,
      let pool := (s.setPool p
        { s.pools p with requests := (s.pools p).requests.erase i }).pools q
      pool.threads = (s.pools q).threads ∧ pool.terminated = (s.pools q).terminated ∧
        ∀ j, j ≠ i → j ∈ (s.pools q).requests → j ∈ pool.requests := by
    intro q
    by_cases hq : q = p
    · subst hq
      simp only [Pools.setPool, if_true]
      exact ⟨trivial, trivial, fun j hj hmem => (List.mem_erase_of_ne hj).mpr hmem⟩
    · simp only [Pools.setPool, if_neg hq]
      exact ⟨trivial, trivial, fun j _ hmem => hmem⟩
  refine ⟨h.hands.calm (fun _ => .refl _) (fun _ => rfl) fun _ h => .inl h,
    h.threads.keep (fun q => (hpools q).1) (fun q hq => (hpools q).2.1.trans hq)
      fun _ => ⟨rfl, rfl, Iff.rfl⟩, ⟨?_, ?_⟩⟩
  · intro j hj hterm
    have hwaits : s.Waits j := ⟨hj.waiting, hj.flagged, hj.kept⟩
    refine (hpools _).2.2 j (fun hji => hi (hji ▸ hwaits)) ?_
    exact h.lists.listed j hwaits ((hpools _).2.1 ▸ hterm)
  · intro j hj hnot hterm
    obtain ⟨v, hv, hu⟩ := h.lists.served j ⟨hj.waiting, hj.flagged, hj.kept⟩ hnot
      ((hpools _).2.1 ▸ hterm)
    exact ⟨v, (hpools _).1 ▸ hv, hu⟩

/-- A thread decides to stop. -/
theorem PoolInv.stop (h : PoolInv s) (hpc : s.pc w = .decide)
    (hok : (s.pools (s.workers w).pool).terminated = false →
      (s.pools (s.workers w).pool).requests = [] ∨
        ∃ v ∈ (s.pools (s.workers w).pool).threads, v ≠ w ∧ (s.pc v).undecided = true) :
    PoolInv (s.setPc w .finish) := by
  have hworker : (s.setPc w .finish).workers w = { s.workers w with pc := .finish } := if_pos rfl
  have hmoves : EmptyHanded w s (s.setPc w .finish) :=
    ⟨rfl, rfl, fun v hv => if_neg hv, by rw [hpc]; rfl, by rw [Pools.pc, hworker]; rfl⟩
  refine ⟨hmoves.hands h.hands, ?_, ⟨fun i hi => h.lists.listed i (hmoves.waits hi), ?_⟩⟩
  · refine h.threads.keep (fun _ => rfl) (fun _ h => h) fun v => ?_
    by_cases hvw : v = w
    · subst hvw
      have hpc' : (s.setPc v .finish).pc v = .finish := by rw [Pools.pc, hworker]
      refine ⟨by rw [hworker], by rw [hworker], ?_⟩
      rw [hpc, hpc']
      exact ⟨fun hc => (by cases hc), fun hc => (by cases hc)⟩
    · rw [hmoves.pc_others hvw, hmoves.others v hvw]
      exact ⟨rfl, rfl, Iff.rfl⟩
  · intro i hi hnot hterm
    obtain ⟨v, hv, hu⟩ := h.lists.served i (hmoves.waits hi) hnot hterm
    by_cases hvw : v = w
    · -- the thread itself served the task: then another one does
      subst hvw
      have hpool : (s.workers v).pool = s.poolOf i := (h.threads.member _ v hv).1
      rw [hpool] at hok
      rcases hok hterm with hempty | ⟨u, hmem, huv, huu⟩
      · have hlisted := h.lists.listed i (hmoves.waits hi) hterm
        rw [hempty] at hlisted
        cases hlisted
      · exact ⟨u, hmem, by rwa [hmoves.pc_others huv]⟩
    · exact ⟨v, hv, by rwa [hmoves.pc_others hvw]⟩

/-- The thread `w` has left the list of its pool `p`. -/
structure ThreadLeft (p w : Nat) (s s' : Pools) : Prop extends EmptyHanded w s s' where
  finish : s.pc w = .finish
  gone : s'.pc w = .gone
  pool : (s.workers w).pool = p
  own : s'.pools p = Pools.leave w (s.pools p)
  otherPools : ∀ q, q ≠ p → s'.pools q = s.pools q

theorem threadLeft_leave {p : Nat} (hpc : s.pc w = .finish) (hp : (s.workers w).pool = p) :
    ThreadLeft p w s ((s.setPool p (Pools.leave w (s.pools p))).setPc w .gone) := by
  generalize hs' : (s.setPool p (Pools.leave w (s.pools p))).setPc w .gone = s'
  have hworker : s'.workers w = { s.workers w with pc := .gone } := by
    subst hs'
    exact if_pos rfl
  have hgone : s'.pc w = .gone := by rw [Pools.pc, hworker]
  subst hs'
  exact {
    tasks := rfl
    iteration := rfl
    others := fun v hv => if_neg hv
    old := by rw [hpc]; rfl
    new := by rw [hgone]; rfl
    finish := hpc
    gone := hgone
    pool := hp
    own := if_pos rfl
    otherPools := fun q hq => if_neg hq }

namespace ThreadLeft

variable {p : Nat} (h : ThreadLeft p w s s')
include h

theorem terminated (q : Nat) : (s'.pools q).terminated = (s.pools q).terminated := by
  by_cases hq : q = p
  · rw [hq, h.own]
    rfl
  · rw [h.otherPools q hq]

theorem mem_threads (hthreads : ThreadsInv s) {q v : Nat} :
    v ∈ (s'.pools q).threads ↔ v ∈ (s.pools q).threads ∧ v ≠ w := by
  by_cases hq : q = p
  · rw [hq, h.own]
    exact ((hthreads.nodup p).mem_erase_iff).trans and_comm
  · rw [h.otherPools q hq]
    refine ⟨fun hv => ⟨hv, fun hvw => hq ?_⟩, fun hv => hv.1⟩
    rw [← (hthreads.member q v hv).1, hvw, h.pool]

/-- The thread has decided to stop: another one serves. -/
theorem ne_of_undecided {v : Nat} (hu : (s.pc v).undecided = true) : v ≠ w := by
  rintro rfl
  rw [h.finish] at hu
  cases hu

theorem threadsInv (hthreads : ThreadsInv s) : ThreadsInv s' where
  nodup q := by
    by_cases hq : q = p
    · rw [hq, h.own]
      exact (hthreads.nodup p).erase w
    · rw [h.otherPools q hq]
      exact hthreads.nodup q
  member q v hv := by
    obtain ⟨hv, hvw⟩ := (h.mem_threads hthreads).mp hv
    rw [h.pc_others hvw, h.others v hvw]
    exact hthreads.member q v hv
  terminated v hv hgone := by
    have hvw : v ≠ w := fun he => hgone (he ▸ h.gone)
    rw [h.pc_others hvw] at hgone
    rw [h.others v hvw] at hv ⊢
    rw [h.terminated]
    exact hthreads.terminated v hv hgone

theorem lists (hthreads : ThreadsInv s) (hlists : ListsInv s)
    (hok : (s.pools p).terminated = false → (s.pools p).threads.erase w ≠ [] ∨
      ∀ i, s.Pending i → s.poolOf i ≠ p) : ListsInv s' where
  listed i hi hterm := by
    rw [h.poolOf, h.terminated] at hterm
    rw [h.poolOf]
    have hlisted := hlists.listed i (h.waits hi) hterm
    by_cases hq : s.poolOf i = p
    · rw [hq] at hlisted hterm ⊢
      rw [h.own, Pools.leave]
      dsimp only
      split
      · -- the last thread: nobody would have served the task
        rename_i hempty
        have hempty' := List.isEmpty_iff.mp hempty
        have hnot : ¬ s.Pending i := fun hpend =>
          (hok hterm).elim (fun hne => hne hempty') fun hne => hne i hpend hq
        obtain ⟨v, hv, hu⟩ := hlists.served i (h.waits hi) hnot (hq ▸ hterm)
        have hv' : v ∈ (s.pools p).threads.erase w :=
          (List.mem_erase_of_ne (h.ne_of_undecided hu)).mpr (hq ▸ hv)
        rw [hempty'] at hv'
        cases hv'
      · exact hlisted
    · rw [h.otherPools _ hq]
      exact hlisted
  served i hi hnot hterm := by
    rw [h.poolOf, h.terminated] at hterm
    obtain ⟨v, hv, hu⟩ := hlists.served i (h.waits hi) (fun hp => hnot (h.pending hp)) hterm
    have hvw := h.ne_of_undecided hu
    rw [h.poolOf]
    exact ⟨v, (h.mem_threads hthreads).mpr ⟨hv, hvw⟩, by rwa [h.pc_others hvw]⟩

end ThreadLeft

/-- A thread leaves the list of its pool. -/
theorem PoolInv.leave (h : PoolInv s) (hpc : s.pc w = .finish)
    (hok : (s.pools (s.workers w).pool).terminated = false →
      (s.pools (s.workers w).pool).threads.erase w ≠ [] ∨
        ∀ i, s.Pending i → s.poolOf i ≠ (s.workers w).pool) :
    PoolInv ((s.setPool (s.workers w).pool (Pools.leave w (s.pools (s.workers w).pool))).setPc w
      .gone) :=
  have hleft := threadLeft_leave hpc rfl
  ⟨hleft.hands h.hands, hleft.threadsInv h.threads, hleft.lists h.threads h.lists hok⟩

theorem HandsInv.free (h : HandsInv s) {i : Nat} (hpc : s.pc w = .picked i ∨ s.pc w = .running i)
    (v : Nat) (hv : v ≠ w) : (s.pc v).executes ≠ some i :=
  fun hexec => hv (h.executes_inj hexec (WorkerPc.executes_eq_some.mpr hpc))

/-- Nobody executes a task that waits. -/
theorem HandsInv.idle (h : HandsInv s) {i : Nat} (hi : (s.tasks i).state = .waiting) (v : Nat) :
    (s.pc v).executes ≠ some i := by
  intro hexec
  rcases WorkerPc.executes_eq_some.mp hexec with hpc | hpc
  · have := h.picked v i hpc
    simp [hi] at this
  · have := h.running v i hpc
    simp [hi] at this

theorem executeBegin_cases (t : Task) (now : Int) :
    let r := t.executeBegin now
    r.2.pool = t.pool ∧ r.2.executionRequested = t.executionRequested ∧
      (t.state = .picked ∧ (r.1 = false ∧ r.2.state = .timeout ∨
        r.1 = true ∧ r.2.state = .executing) ∨ r.1 = false ∧ r.2 = t) := by
  unfold Task.executeBegin
  dsimp only
  split
  · rename_i hp
    split
    · exact ⟨rfl, rfl, .inl ⟨hp, .inl ⟨rfl, rfl⟩⟩⟩
    · exact ⟨rfl, rfl, .inl ⟨hp, .inr ⟨rfl, rfl⟩⟩⟩
  · exact ⟨rfl, rfl, .inr ⟨rfl, rfl⟩⟩

theorem executeEnd_cases (t : Task) (now : Int) (again result : Bool) :
    let t' := t.executeEnd now again result
    t'.pool = t.pool ∧ t'.executionRequested = t.executionRequested ∧ t'.state ≠ .init ∧
      (t.state = .canceled → t'.state = .canceled) := by
  unfold Task.executeEnd
  dsimp only
  split
  · rename_i hc
    split
    · exact ⟨rfl, rfl, fun h => (by cases h), fun h => absurd h hc⟩
    · split
      · exact ⟨rfl, rfl, fun h => (by cases h), fun h => absurd h hc⟩
      · exact ⟨rfl, rfl, fun h => (by cases h), fun h => absurd h hc⟩
  · rename_i hc
    have hc' : t.state = .canceled := by simpa using hc
    exact ⟨rfl, rfl, fun h => (by rw [hc'] at h; cases h), fun h => h⟩

/-! The sections of a thread, in the order in which they come. -/

theorem PoolInv.workPick (h : PoolInv s) (hpc : s.pc w = .pick) {i : Nat}
    (hwaiting : (s.tasks i).state = .waiting) :
    PoolInv ((s.setTask i (s.tasks i).pick.2).setPc w (.picked i)) := by
  have hpick : (s.tasks i).pick.2 = { s.tasks i with state := .picked } := by
    rw [Task.pick, if_pos hwaiting]
  rw [hpick]
  refine @PoolInv.work s w h i _ s.queue _ ⟨by simp [hpc], by simp⟩ rfl
    (fun hc => by cases hc) (.inr fun v _ => h.hands.idle hwaiting v) ?_ (fun hf => hf) ?_ ?_
    (fun hc => by cases hc) (fun j _ => ?_) fun _ => rfl
  · intro hf
    rw [Task.isFinished_iff] at hf
    simp [hwaiting] at hf
  · simp [WorkerPc.Fits]
  · rintro j ⟨⟩ v -
    exact h.hands.idle hwaiting v
  · simp [hpc]

theorem PoolInv.workBegin (h : PoolInv s) {i : Nat} (hpc : s.pc w = .picked i) :
    PoolInv ((s.setTask i ((s.tasks i).executeBegin s.now).2).setPc w
      (if ((s.tasks i).executeBegin s.now).1 then .running i else .done i)) := by
  have hstate := h.hands.picked w i hpc
  obtain ⟨hpool, hflag, hcases⟩ := executeBegin_cases (s.tasks i) s.now
  refine @PoolInv.work s w h i _ s.queue _ ⟨by simp [hpc], ?_⟩ hpool ?_
    (.inr (h.hands.free (.inl hpc))) ?_ (fun hf => hflag ▸ hf) ?_ ?_ ?_ (fun j _ => ?_) ?_
  · split <;> simp
  · intro hinit
    rcases hcases with ⟨-, ⟨-, hs⟩ | ⟨-, hs⟩⟩ | ⟨-, heq⟩
    · rw [hs] at hinit
      cases hinit
    · rw [hs] at hinit
      cases hinit
    · exact heq
  · intro hf
    rw [Task.isFinished_iff] at hf ⊢
    rcases hcases with ⟨hp, -⟩ | ⟨-, heq⟩
    · simp [hp] at hf
    · rwa [heq]
  · rcases hcases with ⟨-, ⟨hr, hs⟩ | ⟨hr, hs⟩⟩ | ⟨hr, heq⟩
    · simp [hr, WorkerPc.Fits]
    · simp [hr, hs, WorkerPc.Fits]
    · simp [hr, WorkerPc.Fits]
  · intro j hj v hv
    split at hj
    · cases hj
      exact h.hands.free (.inl hpc) v hv
    · cases hj
  · intro hw _ _
    rcases hcases with ⟨-, ⟨-, hs⟩ | ⟨-, hs⟩⟩ | ⟨-, heq⟩
    · rw [hs] at hw
      cases hw
    · rw [hs] at hw
      cases hw
    · rw [heq] at hw
      simp [hw] at hstate
  · simp [hpc]
  · intro _
    split <;> rfl

theorem PoolInv.workEnd (h : PoolInv s) {i : Nat} (hpc : s.pc w = .running i)
    (again result : Bool) :
    PoolInv ((s.setTask i ((s.tasks i).executeEnd s.now again result)).setPc w (.done i)) := by
  have hstate := h.hands.running w i hpc
  obtain ⟨hpool, hflag, hinit, hcanceled⟩ := executeEnd_cases (s.tasks i) s.now again result
  refine @PoolInv.work s w h i _ s.queue _ ⟨by simp [hpc], by simp⟩ hpool
    (fun hc => absurd hc hinit) (.inr (h.hands.free (.inr hpc))) ?_ (fun hf => hflag ▸ hf) trivial
    (fun j hj => by cases hj) (fun _ _ hc => absurd rfl hc) (fun j _ => ?_) fun _ => rfl
  · intro hf
    rcases hstate with hs | hs
    · rw [Task.isFinished_iff] at hf
      simp [hs] at hf
    · rw [Task.isFinished_iff]
      exact .inr (.inr (.inr (hcanceled hs)))
  · simp [hpc]

/-- A task that has ended leaves the queue. -/
theorem PoolInv.workFinished (h : PoolInv s) {i : Nat} (hpc : s.pc w = .done i)
    (hfinished : (s.tasks i).isFinished = true) :
    PoolInv ({ s with queue := s.queue.erase i }.setPc w (.unlist i)) := by
  have hself : { s with queue := s.queue.erase i }.setTask i (s.tasks i) =
      { s with queue := s.queue.erase i } := by rw [Pools.setTask, tasks_self]
  have hwork := @PoolInv.work s w h i (s.tasks i) (s.queue.erase i) (.unlist i)
    ⟨by simp [hpc], by simp⟩ rfl (fun _ => rfl) (.inl rfl)
    (fun hf => hf) (fun hf => hf) ?_ (fun j hj => by cases hj) ?_ (fun j hj hc => ?_)
    fun _ => rfl
  · rwa [hself] at hwork
  · simp [WorkerPc.Fits, hfinished]
  · intro hw
    rw [Task.isFinished_iff] at hfinished
    simp [hw] at hfinished
  · rw [hpc] at hc
    cases hc
    exact hj rfl

/-- The request time of a task that goes on is reset. -/
theorem PoolInv.workAgain (h : PoolInv s) {i : Nat} (hpc : s.pc w = .done i) :
    PoolInv ((s.setTask i { s.tasks i with executionRequested := false }).setPc w
      (.unlist i)) := by
  refine @PoolInv.work s w h i _ s.queue _ ⟨by simp [hpc], by simp⟩ rfl ?_ (.inl rfl)
    (fun hf => hf) (fun hf => by cases hf) ?_ (fun j hj => by cases hj) (fun _ hf => by cases hf)
    (fun j hj hc => ?_) fun _ => rfl
  · intro hinit
    have hinit' : (s.tasks i).state = .init := hinit
    rw [← h.hands.fresh i hinit']
  · simp [WorkerPc.Fits]
  · rw [hpc] at hc
    cases hc
    exact hj rfl

theorem PoolInv.workUnlist (h : PoolInv s) {i : Nat} (hpc : s.pc w = .unlist i) (p : Nat) :
    PoolInv ((s.setPool p
      { s.pools p with requests := (s.pools p).requests.erase i }).setPc w .decide) := by
  have hnot : ¬ s.Waits i := by
    rintro ⟨hwaiting, hflagged, -⟩
    rcases h.hands.unlist w i hpc with hf | hf
    · rw [Task.isFinished_iff] at hf
      simp [hwaiting] at hf
    · rw [hf] at hflagged
      cases hflagged
  refine (h.dropRequest hnot p).move ⟨?_, by intro hc; cases hc⟩ trivial rfl (fun j hc => ?_)
    fun _ => rfl
  · show s.pc w ≠ .gone
    simp [hpc]
  · have hc' : s.pc w = .done j := hc
    rw [hpc] at hc'
    cases hc'

/-- Every step of a thread. -/
theorem PoolInv.workStep {l : Limits} {again result keepAlive : Bool} (h : PoolInv s)
    (hok : s.Careful l (.work w again result keepAlive))
    (hs : s.workStep w again result keepAlive = some s') : PoolInv s' := by
  unfold Pools.workStep at hs
  dsimp only at hs
  split at hs
  · rename_i hpc
    split at hs
    · split at hs
      · rename_i i hfind
        cases hs
        have hfound := List.find?_some hfind
        simp only [Bool.and_eq_true, decide_eq_true_eq] at hfound
        exact h.workPick hpc hfound.1.1
      · cases hs
        have hpc' : s.pc w = .pick := hpc
        exact h.move ⟨by simp [hpc'], by simp⟩ trivial rfl (by simp [hpc']) fun _ => rfl
    · cases hs
  · rename_i i hpc
    cases hs
    exact h.workBegin hpc
  · rename_i i hpc
    cases hs
    exact h.workEnd hpc again result
  · rename_i i hpc
    split at hs
    · rename_i hfinished
      split at hs
      · cases hs
        exact h.workFinished hpc hfinished
      · cases hs
    · cases hs
      exact h.workAgain hpc
  · rename_i i hpc
    cases hs
    exact h.workUnlist hpc _
  · rename_i hpc
    have hpc' : s.pc w = .decide := hpc
    cases hs
    split
    · exact h.move ⟨by simp [hpc'], by simp⟩ trivial rfl (by simp [hpc']) fun _ => rfl
    · rename_i hstops
      exact h.stop hpc' fun hterm => ((hok hterm).1 hpc').resolve_left hstops
  · rename_i hpc
    have hpc' : s.pc w = .finish := hpc
    cases hs
    exact h.leave hpc' fun hterm => (hok hterm).2 hpc'
  · cases hs
  · cases hs

end Work

/-! ## Runs -/

section Runs

variable {s s' : Pools} {l : Limits}

theorem PoolInv.init (hs : (pools l).init s) : PoolInv s := by
  obtain ⟨htasks, -, hit, hpools, hworkers⟩ := hs
  have hgone : ∀ w, s.pc w = .gone := hworkers
  refine ⟨⟨fun i _ => (htasks i).2, ?_, ?_, ?_, ?_, ?_⟩, ⟨?_, ?_, ?_⟩, ⟨?_, ?_⟩⟩
  · rintro i ⟨it, hit', -⟩
    rw [hit] at hit'
    cases hit'
  · intro w i hw
    rw [hgone] at hw
    cases hw
  · intro w i hw
    rw [hgone] at hw
    cases hw
  · intro w v i hw
    rw [hgone] at hw
    rcases hw with hw | hw <;> cases hw
  · intro w i hw
    rw [hgone] at hw
    cases hw
  · intro p
    rw [hpools]
    exact List.nodup_nil
  · intro p w hw
    rw [hpools] at hw
    cases hw
  · exact fun w _ hne => absurd (hgone w) hne
  · intro i hi
    have hflagged := hi.flagged
    rw [(htasks i).2] at hflagged
    cases hflagged
  · intro i hi
    have hflagged := hi.flagged
    rw [(htasks i).2] at hflagged
    cases hflagged

/-- `hold` and `unhold`. -/
theorem PoolInv.setHolded (h : PoolInv s) (p : Nat) (holded : Bool) :
    PoolInv (s.setPool p { s.pools p with holded := holded }) := by
  have hpools : ∀ q, let pool := (s.setPool p { s.pools p with holded := holded }).pools q
      pool.threads = (s.pools q).threads ∧ pool.terminated = (s.pools q).terminated ∧
        pool.requests = (s.pools q).requests := by
    intro q
    by_cases hq : q = p
    · subst hq
      simp [Pools.setPool]
    · simp [Pools.setPool, hq]
  refine ⟨h.hands.calm (fun _ => .refl _) (fun _ => rfl) fun _ h => .inl h,
    h.threads.keep (fun q => (hpools q).1) (fun q hq => (hpools q).2.1.trans hq)
      fun _ => ⟨rfl, rfl, Iff.rfl⟩, ⟨?_, ?_⟩⟩
  · intro i hi hterm
    exact (hpools _).2.2 ▸ h.lists.listed i ⟨hi.waiting, hi.flagged, hi.kept⟩
      ((hpools _).2.1 ▸ hterm)
  · intro i hi hnot hterm
    obtain ⟨v, hv, hu⟩ := h.lists.served i ⟨hi.waiting, hi.flagged, hi.kept⟩ hnot
      ((hpools _).2.1 ▸ hterm)
    exact ⟨v, (hpools _).1 ▸ hv, hu⟩

theorem PoolInv.terminate (h : PoolInv s) {p : Nat}
    (hs : s.step l (.terminate p) = some s') : PoolInv s' := by
  cases hs
  generalize hs' : ({ s with
      workers := fun w => if w ∈ (s.pools p).threads then { s.workers w with terminated := true }
        else s.workers w } : Pools).setPool p { s.pools p with terminated := true } = s'
  have hpools : ∀ q, (s'.pools q).threads = (s.pools q).threads ∧
      (s'.pools q).requests = (s.pools q).requests ∧
      (s'.pools q).terminated = (decide (q = p) || (s.pools q).terminated) := by
    intro q
    subst hs'
    by_cases hq : q = p
    · subst hq
      simp [Pools.setPool]
    · simp [Pools.setPool, hq]
  have hworkers : ∀ w, (s'.workers w).pool = (s.workers w).pool ∧ s'.pc w = s.pc w ∧
      ((s'.workers w).terminated = true → w ∈ (s.pools p).threads ∨
        (s.workers w).terminated = true) := by
    intro w
    by_cases hw : w ∈ (s.pools p).threads
    · have hworker : s'.workers w = { s.workers w with terminated := true } := by
        subst hs'
        exact if_pos hw
      rw [Pools.pc, hworker]
      exact ⟨rfl, rfl, fun _ => .inl hw⟩
    · have hworker : s'.workers w = s.workers w := by
        subst hs'
        exact if_neg hw
      rw [Pools.pc, hworker]
      exact ⟨rfl, rfl, .inr⟩
  have htasks : s'.tasks = s.tasks := by subst hs'; rfl
  have hiteration : s'.iteration = s.iteration := by subst hs'; rfl
  have hwaits : ∀ i, s'.Waits i → s.Waits i := fun i hi =>
    ⟨htasks ▸ hi.waiting, htasks ▸ hi.flagged, fun w => (hworkers w).2.1 ▸ hi.kept w⟩
  have halive : ∀ i, (s'.pools (s'.poolOf i)).terminated = false →
      (s.pools (s.poolOf i)).terminated = false := by
    intro i hi
    rw [Pools.poolOf, htasks, (hpools _).2.2] at hi
    exact (Bool.or_eq_false_iff.mp hi).2
  refine ⟨?_, ⟨?_, ?_, ?_⟩, ⟨?_, ?_⟩⟩
  · refine h.hands.calm (fun i => by rw [htasks]; exact .refl _) (fun w => (hworkers w).2.1) ?_
    rintro i ⟨it, hit, hreq⟩
    exact .inl ⟨it, hiteration ▸ hit, hreq⟩
  · intro q
    rw [(hpools q).1]
    exact h.threads.nodup q
  · intro q w hw
    rw [(hpools q).1] at hw
    rw [(hworkers w).1, (hworkers w).2.1]
    exact h.threads.member q w hw
  · intro w hw hgone
    rw [(hworkers w).2.1] at hgone
    rw [(hworkers w).1, (hpools _).2.2]
    rcases (hworkers w).2.2 hw with hmem | hterm
    · simp [(h.threads.member p w hmem).1]
    · simp [h.threads.terminated w hterm hgone]
  · intro i hi hterm
    rw [Pools.poolOf, htasks, (hpools _).2.1]
    exact h.lists.listed i (hwaits i hi) (halive i hterm)
  · intro i hi hnot hterm
    have hnot' : ¬ s.Pending i := fun ⟨it, n, hit, hreq⟩ => hnot ⟨it, n, hiteration ▸ hit, hreq⟩
    obtain ⟨v, hv, hu⟩ := h.lists.served i (hwaits i hi) hnot' (halive i hterm)
    rw [Pools.poolOf, htasks]
    exact ⟨v, (hpools _).1 ▸ hv, by rwa [(hworkers v).2.1]⟩

/-- Every step of a careful run. -/
theorem PoolInv.step (h : PoolInv s) {a : PoolAct} (hok : s.Careful l a)
    (hs : s.step l a = some s') : PoolInv s' := by
  cases a with
  | tick us =>
    cases hs
    exact h.calm (fun _ => .refl _) rfl rfl (fun _ h => h) fun _ h => .inl h
  | start i =>
    simp only [Pools.step] at hs
    split at hs
    · rename_i hstart
      rw [Bool.and_eq_true] at hstart
      cases hs
      exact h.calm (Calm.of_set (Calm.start _)) rfl rfl (fun _ h => h) fun _ h => .inl h
    · cases hs
  | delay i delay =>
    cases hs
    exact h.calm (Calm.of_set ⟨.inl rfl, fun h => h, rfl⟩) rfl rfl (fun _ h => h) fun _ h => .inl h
  | cancel i =>
    cases hs
    exact h.calm (Calm.of_set (Calm.cancel _)) rfl rfl (fun _ h => h) fun _ h => .inl h
  | cancelTasks found =>
    simp only [Pools.step] at hs
    split at hs
    · cases hs
      refine h.calm (fun i => ?_) rfl rfl (fun _ h => h) fun _ h => .inl h
      simp only [Pools.cancelAll]
      split
      · exact .cancel _
      · exact .refl _
    · cases hs
  | iterate =>
    simp only [Pools.step] at hs
    split at hs
    · rename_i hnone
      cases hs
      refine h.calm (fun _ => .refl _) rfl rfl ?_ ?_
      · rintro i ⟨it, n, hit, -⟩
        rw [hit] at hnone
        cases hnone
      · rintro i ⟨it, ⟨⟩, hreq⟩
        rcases hreq with hreq | hreq <;> cases hreq
    · cases hs
  | iterateStep spawn => exact h.iterateStep hok hs
  | work w again result keepAlive => exact h.workStep hok hs
  | terminate p => exact h.terminate hs
  | hold p =>
    cases hs
    exact h.setHolded p true
  | unhold p =>
    cases hs
    exact h.setHolded p false

theorem PoolInv.reach (h : Reach (pools l) (Pools.Careful l) s) : PoolInv s := by
  refine Reach.invariant (fun s hs => PoolInv.init hs) ?_ h
  intro s s' a hok hinv hs
  exact hinv.step hok hs

end Runs

/-! ## Until a pick -/

section Going

variable {s s' : Pools} {l : Limits} {p i w : Nat}

/-- The task is listed, no thread of the pool holds it, and some thread goes on. -/
structure Going (s : Pools) (p i : Nat) : Prop where
  alive : (s.pools p).terminated = false
  listed : i ∈ (s.pools p).requests
  free : ∀ w, (s.workers w).pool = p → (s.pc w).holds ≠ some i
  served : s.Served p

theorem PoolInv.going (h : PoolInv s) (hi : s.Requested p i)
    (halive : (s.pools p).terminated = false) : Going s p i := by
  obtain ⟨rfl, -, hwaits, hnot⟩ := hi
  refine ⟨halive, h.lists.listed i hwaits halive, fun w _ hholds => ?_,
    h.lists.served i hwaits hnot halive⟩
  have hexec := h.hands.idle hwaits.waiting w
  cases hpc : s.pc w <;> rw [hpc] at hholds hexec <;> cases hholds
  · exact hexec rfl
  · exact hexec rfl
  · exact hwaits.kept w hpc
  · rcases h.hands.unlist w i hpc with hf | hf
    · rw [Task.isFinished_iff] at hf
      simp [hwaits.waiting] at hf
    · rw [hwaits.flagged] at hf
      cases hf

theorem Going.congr (h : Going s p i) (hpools : s'.pools = s.pools)
    (hworkers : s'.workers = s.workers) : Going s' p i := by
  refine ⟨by rw [hpools]; exact h.alive, by rw [hpools]; exact h.listed, ?_, ?_⟩
  · intro w
    rw [Pools.pc, hworkers]
    exact h.free w
  · obtain ⟨w, hw, hu⟩ := h.served
    exact ⟨w, by rwa [hpools], by rwa [Pools.pc, hworkers]⟩

theorem Going.setHolded (h : Going s p i) (q : Nat) (holded : Bool) :
    Going (s.setPool q { s.pools q with holded := holded }) p i := by
  by_cases hq : p = q
  · subst hq
    exact ⟨by simpa [Pools.setPool] using h.alive, by simpa [Pools.setPool] using h.listed,
      h.free, by simpa [Pools.Served, Pools.setPool] using h.served⟩
  · exact ⟨by simpa [Pools.setPool, hq] using h.alive,
      by simpa [Pools.setPool, hq] using h.listed, h.free,
      by simpa [Pools.Served, Pools.setPool, hq] using h.served⟩

/-- What a section of a thread does to the pools and the threads. -/
theorem workStep_cases {again result keepAlive : Bool}
    (hs : s.workStep w again result keepAlive = some s') :
    ∃ pc, (∀ v, v ≠ w → s'.workers v = s.workers v) ∧ s'.workers w = { s.workers w with pc := pc } ∧
      (s.pc w = .pick ∨
        s'.pools = s.pools ∧ (s.pc w).undecided = true ∧ pc.undecided = true ∧
          pc.holds = (s.pc w).holds ∨
        s.pc w = .decide ∧ s'.pools = s.pools ∧ pc.holds = none ∧
          pc.undecided = Pools.goesOn (s.workers w) (s.pools (s.workers w).pool) keepAlive ∨
        (∃ j, s.pc w = .unlist j ∧ pc = .decide ∧
          (∀ q, q ≠ (s.workers w).pool → s'.pools q = s.pools q) ∧
          s'.pools (s.workers w).pool = { s.pools (s.workers w).pool with
            requests := (s.pools (s.workers w).pool).requests.erase j }) ∨
        s.pc w = .finish ∧ pc = .gone ∧
          (∀ q, q ≠ (s.workers w).pool → s'.pools q = s.pools q) ∧
          s'.pools (s.workers w).pool = Pools.leave w (s.pools (s.workers w).pool)) := by
  unfold Pools.workStep at hs
  dsimp only at hs
  have hother : ∀ (s₁ : Pools) (pc : WorkerPc) (v : Nat), v ≠ w →
      (s₁.setPc w pc).workers v = s₁.workers v := fun s₁ pc v hv => if_neg hv
  have hself : ∀ (s₁ : Pools) (pc : WorkerPc),
      (s₁.setPc w pc).workers w = { s₁.workers w with pc := pc } := fun s₁ pc => if_pos rfl
  split at hs
  · rename_i hpc
    split at hs
    · split at hs
      · cases hs
        exact ⟨_, hother _ _, hself _ _, .inl hpc⟩
      · cases hs
        exact ⟨_, hother _ _, hself _ _, .inl hpc⟩
    · cases hs
  · rename_i j hpc
    cases hs
    refine ⟨_, hother _ _, hself _ _, .inr (.inl ⟨rfl, ?_, ?_, ?_⟩)⟩
    · rw [Pools.pc, hpc]
      rfl
    · split <;> rfl
    · rw [Pools.pc, hpc]
      split <;> rfl
  · rename_i j hpc
    cases hs
    refine ⟨_, hother _ _, hself _ _, .inr (.inl ⟨rfl, ?_, rfl, ?_⟩)⟩
    · rw [Pools.pc, hpc]
      rfl
    · rw [Pools.pc, hpc]
      rfl
  · rename_i j hpc
    have hmoves : (s.pc w).undecided = true ∧ (WorkerPc.unlist j).holds = (s.pc w).holds := by
      rw [Pools.pc, hpc]
      exact ⟨rfl, rfl⟩
    split at hs
    · split at hs
      · cases hs
        exact ⟨_, hother _ _, hself _ _, .inr (.inl ⟨rfl, hmoves.1, rfl, hmoves.2⟩)⟩
      · cases hs
    · cases hs
      exact ⟨_, hother _ _, hself _ _, .inr (.inl ⟨rfl, hmoves.1, rfl, hmoves.2⟩)⟩
  · rename_i j hpc
    cases hs
    exact ⟨_, hother _ _, hself _ _, .inr (.inr (.inr (.inl
      ⟨j, hpc, rfl, fun q hq => if_neg hq, if_pos rfl⟩)))⟩
  · rename_i hpc
    cases hs
    refine ⟨_, hother _ _, hself _ _, .inr (.inr (.inl ⟨hpc, rfl, ?_, ?_⟩))⟩
    · split <;> rfl
    · split
      · rename_i hgoes
        exact hgoes.symm
      · rename_i hstops
        exact (Bool.eq_false_iff.mpr hstops).symm
  · rename_i hpc
    cases hs
    exact ⟨_, hother _ _, hself _ _, .inr (.inr (.inr (.inr
      ⟨hpc, rfl, fun q hq => if_neg hq, if_pos rfl⟩)))⟩
  · cases hs
  · cases hs

/-- A section of a thread of another pool. -/
theorem Going.other (h : Going s p i) (hinv : ThreadsInv s) {again result keepAlive : Bool}
    (hw : (s.workers w).pool ≠ p) (hs : s.workStep w again result keepAlive = some s') :
    Going s' p i := by
  obtain ⟨pc, hother, hself, hcases⟩ := workStep_cases hs
  have hpool : s'.pools p = s.pools p := by
    unfold Pools.workStep at hs
    dsimp only at hs
    repeat' split at hs
    all_goals cases hs
    all_goals first | rfl | exact if_neg fun hp => hw hp.symm
  refine ⟨by rw [hpool]; exact h.alive, by rw [hpool]; exact h.listed, ?_, ?_⟩
  · intro v hv
    have hvw : v ≠ w := by
      rintro rfl
      rw [hself] at hv
      exact hw hv
    rw [hother v hvw] at hv
    rw [Pools.pc, hother v hvw]
    exact h.free v hv
  · obtain ⟨v, hv, hu⟩ := h.served
    have hvw : v ≠ w := by
      rintro rfl
      exact hw (hinv.member p v hv).1
    exact ⟨v, by rwa [hpool], by rwa [Pools.pc, hother v hvw]⟩

/-- A section of a thread of the pool itself that is no pick. -/
theorem Going.own (h : Going s p i) {again result keepAlive : Bool}
    (hw : (s.workers w).pool = p) (hpick : s.pc w ≠ .pick)
    (hok : s.Careful l (.work w again result keepAlive))
    (hs : s.workStep w again result keepAlive = some s') : Going s' p i := by
  obtain ⟨pc, hother, hself, hcases⟩ := workStep_cases hs
  have hselfPc : s'.pc w = pc := by rw [Pools.pc, hself]
  have hfreeOf : pc.holds ≠ some i → ∀ v, (s'.workers v).pool = p → (s'.pc v).holds ≠ some i := by
    intro hnot v hv
    by_cases hvw : v = w
    · rw [hvw, hselfPc]
      exact hnot
    · rw [hother v hvw] at hv
      rw [Pools.pc, hother v hvw]
      exact h.free v hv
  have hwfree := h.free w hw
  obtain ⟨v, hv, hu⟩ := h.served
  rw [hw] at hcases
  rcases hcases with hp | ⟨hpools, -, hu', hholds⟩ | ⟨hpc, hpools, hholds, hgoes⟩ |
      ⟨j, hpc, rfl, -, hpool⟩ | ⟨hpc, rfl, -, hpool⟩
  · exact absurd hp hpick
  · refine ⟨by rw [hpools]; exact h.alive, by rw [hpools]; exact h.listed,
      hfreeOf (hholds ▸ hwfree), v, by rwa [hpools], ?_⟩
    by_cases hvw : v = w
    · rwa [hvw, hselfPc]
    · rwa [Pools.pc, hother v hvw]
  · refine ⟨by rw [hpools]; exact h.alive, by rw [hpools]; exact h.listed,
      hfreeOf (by rw [hholds]; intro hc; cases hc), ?_⟩
    -- the thread goes on, or another one of the pool has not decided to stop
    have hok' := hok (by rw [hw]; exact h.alive)
    rw [hw] at hok'
    rcases hok'.1 hpc with hgo | hempty | ⟨u, hmem, huw, huu⟩
    · by_cases hvw : v = w
      · refine ⟨v, by rwa [hpools], ?_⟩
        rw [hvw, hselfPc, hgoes, hgo]
      · exact ⟨v, by rwa [hpools], by rwa [Pools.pc, hother v hvw]⟩
    · have hlisted := h.listed
      rw [hempty] at hlisted
      cases hlisted
    · exact ⟨u, by rwa [hpools], by rwa [Pools.pc, hother u huw]⟩
  · have hji : i ≠ j := by
      rintro rfl
      rw [hpc] at hwfree
      exact hwfree rfl
    refine ⟨by rw [hpool]; exact h.alive, ?_, hfreeOf (by intro hc; cases hc), v, by rwa [hpool],
      ?_⟩
    · rw [hpool]
      exact (List.mem_erase_of_ne hji).mpr h.listed
    · by_cases hvw : v = w
      · rw [hvw, hselfPc]
        rfl
      · rwa [Pools.pc, hother v hvw]
  · have hvw : v ≠ w := by
      rintro rfl
      rw [hpc] at hu
      cases hu
    have hleft : v ∈ (s.pools p).threads.erase w := (List.mem_erase_of_ne hvw).mpr hv
    refine ⟨by rw [hpool]; exact h.alive, ?_, hfreeOf (by intro hc; cases hc), v, ?_, ?_⟩
    · rw [hpool, Pools.leave]
      dsimp only
      rw [if_neg]
      · exact h.listed
      · intro hempty
        rw [List.isEmpty_iff.mp hempty] at hleft
        cases hleft
    · rw [hpool]
      exact hleft
    · rwa [Pools.pc, hother v hvw]

theorem Going.threadAdded (h : Going s p i) {q : Nat} (hadded : ThreadAdded q w s s') :
    Going s' p i where
  alive := (hadded.terminated p).trans h.alive
  listed := hadded.requests p ▸ h.listed
  free v hv := by
    by_cases hvw : v = w
    · rw [hvw, hadded.new]
      intro hc
      cases hc
    · rw [hadded.others v hvw] at hv
      rw [hadded.pc_others hvw]
      exact h.free v hv
  served := by
    obtain ⟨v, hv, hu⟩ := h.served
    have hvw : v ≠ w := by
      rintro rfl
      rw [hadded.gone] at hu
      cases hu
    refine ⟨v, ?_, by rwa [hadded.pc_others hvw]⟩
    rw [hadded.threads]
    exact List.mem_append_left _ hv

theorem Going.requestListed (h : Going s p i) {j : Nat} (hlisted : Listed j s s') :
    Going s' p i where
  alive := (hlisted.terminated p).trans h.alive
  listed := hlisted.requests p h.listed
  free v hv := by
    rw [hlisted.workers] at hv
    rw [hlisted.pc]
    exact h.free v hv
  served := by
    obtain ⟨v, hv, hu⟩ := h.served
    exact ⟨v, hlisted.threads p ▸ hv, by rwa [hlisted.pc]⟩

/-- A step of `iterate` adds to the lists of a pool. -/
theorem Going.iterateStep (h : Going s p i) {spawn : Spawn}
    (hs : s.iterateStep l spawn = some s') : Going s' p i := by
  unfold Pools.iterateStep at hs
  split at hs
  · cases hs
  · rename_i it hit
    split at hs
    · split at hs
      · cases hs
        exact h.congr rfl rfl
      · cases hs
        exact h.congr rfl rfl
    · cases hs
      exact h.congr rfl rfl
    · rename_i j hreq
      cases hs
      by_cases hnew : j ∈ (s.pools (s.poolOf j)).requests
      · unfold Pools.firstSection
        dsimp only
        rw [if_pos hnew]
        exact h.congr rfl rfl
      · exact h.requestListed (listed_firstSection hit hreq hnew)
    · rename_i j n hreq
      unfold Pools.secondSection at hs
      dsimp only at hs
      split at hs
      · obtain ⟨s₁, hs₁, rfl⟩ := Option.map_eq_some_iff.mp hs
        rcases startThread_cases hs₁ with ⟨-, rfl⟩ | ⟨w, hgone, ⟨-, rfl⟩ | ⟨-, rfl⟩⟩
        · exact h.congr rfl rfl
        · exact (h.threadAdded (threadAdded_withThread hgone (.inr rfl))).congr rfl rfl
        · exact (h.threadAdded (threadAdded_withThread hgone (.inl rfl))).congr rfl rfl
      · cases hs
        exact h.congr rfl rfl

/-- Every step that is no pick by the pool. -/
theorem Going.step (h : Going s p i) (hinv : ThreadsInv s) {a : PoolAct} (hok : s.Careful l a)
    (hno : s.NoPick p a) (hs : s.step l a = some s') : Going s' p i := by
  cases a with
  | tick us =>
    cases hs
    exact h.congr rfl rfl
  | start j =>
    simp only [Pools.step] at hs
    split at hs
    · cases hs
      exact h.congr rfl rfl
    · cases hs
  | delay j delay =>
    cases hs
    exact h.congr rfl rfl
  | cancel j =>
    cases hs
    exact h.congr rfl rfl
  | cancelTasks found =>
    simp only [Pools.step] at hs
    split at hs
    · cases hs
      exact h.congr rfl rfl
    · cases hs
  | iterate =>
    simp only [Pools.step] at hs
    split at hs
    · cases hs
      exact h.congr rfl rfl
    · cases hs
  | iterateStep spawn => exact h.iterateStep hs
  | work w again result keepAlive =>
    by_cases hw : (s.workers w).pool = p
    · exact h.own hw (hno hw) hok hs
    · exact h.other hinv hw hs
  | terminate q =>
    have hq : q ≠ p := hno
    cases hs
    generalize hs' : ({ s with
        workers := fun w => if w ∈ (s.pools q).threads then
            { s.workers w with terminated := true }
          else s.workers w } : Pools).setPool q { s.pools q with terminated := true } = s'
    have hpool : s'.pools p = s.pools p := by
      subst hs'
      exact if_neg fun hc => hq hc.symm
    have hworkers : ∀ v, (s'.workers v).pool = (s.workers v).pool ∧ s'.pc v = s.pc v := by
      intro v
      by_cases hv : v ∈ (s.pools q).threads
      · have hworker : s'.workers v = { s.workers v with terminated := true } := by
          subst hs'
          exact if_pos hv
        rw [Pools.pc, hworker]
        exact ⟨rfl, rfl⟩
      · have hworker : s'.workers v = s.workers v := by
          subst hs'
          exact if_neg hv
        rw [Pools.pc, hworker]
        exact ⟨rfl, rfl⟩
    refine ⟨by rw [hpool]; exact h.alive, by rw [hpool]; exact h.listed, ?_, ?_⟩
    · intro v hv
      rw [(hworkers v).1] at hv
      rw [(hworkers v).2]
      exact h.free v hv
    · obtain ⟨v, hv, hu⟩ := h.served
      exact ⟨v, by rwa [hpool], by rwa [(hworkers v).2]⟩
  | hold q =>
    cases hs
    exact h.setHolded q true
  | unhold q =>
    cases hs
    exact h.setHolded q false

end Going

/-- **No due task is stranded**: from a state in which a due task of a pool has been requested, the
threads of the pool do not all stop before one of them has picked: until then, and whatever else
happens, some live thread has not decided to. -/
theorem no_task_stranded (l : Limits) (s s' : Pools) (p i : Nat)
    (hrun : Reach (pools l) (Pools.Careful l) s) (hreq : s.Requested p i)
    (halive : (s.pools p).terminated = false)
    (hlater : Reach ((pools l).startingAt s) (fun s a => s.Careful l a ∧ s.NoPick p a) s') :
    s'.Served p := by
  have hboth : PoolInv s' ∧ Going s' p i := by
    refine Reach.invariant (P := fun s => PoolInv s ∧ Going s p i) ?_ ?_ hlater
    · rintro s rfl
      exact ⟨PoolInv.reach hrun, (PoolInv.reach hrun).going hreq halive⟩
    · rintro s s' a ⟨hok, hno⟩ ⟨hinv, hgoing⟩ hs
      exact ⟨hinv.step hok hs, hgoing.step hinv.threads hok hno hs⟩
  exact hboth.2.served

/-! ## A stranded task -/

/-- Every pool has one thread, however many tasks it has. -/
def oneThread : Limits := ⟨fun _ => 1, fun _ => 0⟩

/-- A task of pool 0 without a delay. -/
def poolTask : Task where
  state := .init
  pool := 0
  delayUsec := 0
  executionStartTime := none
  executionRequested := false
  timeoutUsec := 0
  priority := 0
  observable := false
  observerNotified := false

def poolStart : Pools where
  now := 0
  tasks _ := poolTask
  queue := []
  iteration := none
  pools _ := ⟨[], [], false, false⟩
  workers _ := ⟨0, .gone, false⟩

theorem poolStart_init : (pools oneThread).init poolStart :=
  ⟨fun _ => ⟨rfl, rfl⟩, rfl, rfl, fun _ => rfl, fun _ => rfl⟩

/-- The first task is started and requested, and thread 0 is started for it. -/
def requestFirst : List PoolAct :=
  [.start 0, .iterate, .iterateStep .fails, .iterateStep .fails, .iterateStep .fails,
    .iterateStep (.runs 0)]

theorem no_task_stranded_first : ∃ s, Reach (pools oneThread) (Pools.Careful oneThread) s ∧
    s.Requested 0 0 ∧ s.Served 0 := by
  have hgate : ∀ {s : Pools} {it : Iteration} {spawn : Spawn}, s.iteration = some it →
      (∀ i, it.request ≠ some (.first i)) → (∀ i n, it.request ≠ some (.second i n)) →
      s.Careful oneThread (.iterateStep spawn) := by
    intro s it spawn hit hfirst hsecond it' hit'
    rw [hit] at hit'
    cases hit'
    exact ⟨fun i hi => absurd hi (hfirst i), fun i n hi => absurd hi (hsecond i n)⟩
  have hrun : Reach (pools oneThread) (Pools.Careful oneThread) _ :=
    ((((((Reach.init poolStart_init).act (.start 0) trivial rfl).act .iterate trivial rfl).act
      (.iterateStep .fails) (hgate rfl (fun i h => by cases h) fun i n h => by cases h) rfl).act
      (.iterateStep .fails) (hgate rfl (fun i h => by cases h) fun i n h => by cases h) rfl).act
      (.iterateStep .fails) (by
        rintro it ⟨⟩
        exact ⟨fun i _ => .inr fun w h => (by cases h), fun i n h => (by cases h)⟩) rfl).act
      (.iterateStep (.runs 0)) (by
        rintro it ⟨⟩
        refine ⟨fun i h => (by cases h), ?_⟩
        rintro i n ⟨⟩ -
        exact .inr ⟨rfl, 0, rfl⟩) rfl
  refine ⟨_, hrun, ?_, no_task_stranded oneThread _ _ 0 0 hrun ?_ rfl (.init rfl)⟩
  all_goals
    refine ⟨rfl, by decide, ⟨rfl, rfl, ?_⟩, ?_⟩
    · intro w hw
      rcases w with _ | w <;> cases hw
    · rintro ⟨it, n, ⟨⟩, h⟩
      cases h

/-- Thread 0 executes the first task and decides to stop. Before it leaves the list of threads, the
second task is requested: the limit is reached, so no thread is started, and the last thread to
leave clears the requests. -/
def strandSecond : List PoolAct :=
  requestFirst ++ [.iterateStep .fails, .work 0 false true false, .work 0 false true false,
    .work 0 false true false, .work 0 false true false, .work 0 false true false,
    .work 0 false true false, .start 1, .iterate, .iterateStep .fails, .iterateStep .fails,
    .iterateStep .fails, .iterateStep .fails, .iterateStep .fails, .work 0 false true false]

theorem task_stranded : ∃ s, Reach (pools oneThread) Any s ∧ s.Requested 0 1 ∧
    (s.pools 0).terminated = false ∧ (s.pools 0).holded = false ∧ (s.pools 0).threads = [] ∧
    ¬ s.Served 0 := by
  have hrun : (pools oneThread).run poolStart strandSecond = some _ := rfl
  refine ⟨_, Reach.run (.init poolStart_init) hrun, ?_, rfl, rfl, rfl, ?_⟩
  · refine ⟨rfl, by decide, ⟨rfl, rfl, ?_⟩, ?_⟩
    · intro w hw
      rcases w with _ | w <;> cases hw
    · rintro ⟨it, n, ⟨⟩, h⟩
  · rintro ⟨w, hw, -⟩
    cases hw

end Async
