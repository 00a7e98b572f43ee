import SuplaCore.Lib.Collect
import SuplaCore.Lib.Repeat
import SuplaCore.Scene.Nested

/-!
# Nested scenes end

A scene is started from a chain in which its id is not found, but the chain does not yet hold the
scene that runs: a scene may execute itself once, and then no more. So the ids in a chain repeat
only as neighbours (`Repeat.Apart`), a chain is at most twice as long as there are scenes, and every
start pays for the starts that can follow it (`potential`).
-/

namespace Nested

open Sys Repeat

variable {scenes : List Scene} {s s' : State} {t : SceneTask} {c external : Caller} {id : Int}
  {i : Nat}

/-! ## Chains of callers -/

def Caller.frames : Caller → List (CallerType × Int)
  | .root type id => [(type, id)]
  | .child parent type id => (type, id) :: parent.frames

@[simp] theorem Caller.clone_eq (c : Caller) : c.clone = c := by
  induction c with
  | root => rfl
  | child parent type id ih => rw [clone, ih]

@[simp] theorem Caller.frames_under (type : CallerType) :
    (c.under type id).frames = (type, id) :: c.frames := by
  rw [under, clone_eq, frames]

theorem Caller.stackSize_eq (c : Caller) : c.stackSize = c.frames.length := by
  induction c with
  | root => rfl
  | child parent type id ih => rw [stackSize, frames, List.length_cons, ih]

theorem Caller.findFrom_eq_zero (type : CallerType) (c : Caller) (count n : Nat) :
    (c.findFrom type id count n).2 = 0 ↔ (type, id) ∉ c.frames ∧ n = 0 := by
  have hframe : ∀ (t : CallerType) (i : Int) (count n : Nat),
      (if t = type ∧ i = id then count + 1 else n) = 0 ↔ (type, id) ≠ (t, i) ∧ n = 0 := by
    intro t i count n
    rw [ne_eq, Prod.mk.injEq]
    split
    · rename_i h
      simp [h.1, h.2]
    · rename_i h
      exact ⟨fun hn => ⟨fun heq => h ⟨heq.1.symm, heq.2.symm⟩, hn⟩, fun hn => hn.2⟩
  induction c generalizing count n with
  | root t i => rw [findFrom, hframe, frames, List.mem_singleton]
  | child parent t i ih =>
    rw [findFrom, frames, List.mem_cons, not_or]
    refine (ih _ _).trans ?_
    rw [hframe]
    tauto

/-- What `find` looks for: the caller is in the chain. -/
theorem Caller.find_eq_zero {type : CallerType} :
    c.find type id = 0 ↔ (type, id) ∉ c.frames := by
  have h : (c.findFrom type id 0 0).2 = 0 ↔ (type, id) ∉ c.frames ∧ 0 = 0 :=
    c.findFrom_eq_zero type 0 0
  rw [find]
  split
  · rename_i hne
    exact ⟨fun h0 => absurd h0 (Nat.succ_ne_zero _), fun hnot => absurd (h.mpr ⟨hnot, rfl⟩) hne⟩
  · rename_i heq
    exact ⟨fun _ => (h.mp (not_not.mp heq)).1, fun _ => rfl⟩

/-- A caller from outside the scenes. -/
def Caller.External (c : Caller) : Prop := ∀ id, (.scene, id) ∉ c.frames

/-- A scene id occurs in the chain at most twice, and then in adjacent positions. -/
def Caller.RepeatsAdjacent (c : Caller) : Prop :=
  ∀ id, c.frames.count (.scene, id) ≤ 2 ∧ ∀ i j, i < j → c.frames[i]? = some (.scene, id) →
    c.frames[j]? = some (.scene, id) → j = i + 1

/-- The chain of scenes `ids` under an external caller. -/
structure Caller.Over (external : Caller) (ids : List Int) (c : Caller) : Prop where
  frames : c.frames = ids.map (.scene, ·) ++ external.frames
  apart : Apart ids

theorem Caller.Over.repeatsAdjacent (hext : external.External) {ids : List Int}
    (h : external.Over ids c) : c.RepeatsAdjacent := by
  intro id
  have hlt : ∀ {i : Nat}, c.frames[i]? = some (.scene, id) → ids[i]? = some id := by
    intro i hi
    rw [h.frames, List.getElem?_append] at hi
    split at hi
    · rw [List.getElem?_map, Option.map_eq_some_iff] at hi
      obtain ⟨a, ha, heq⟩ := hi
      rw [Prod.mk.injEq] at heq
      exact heq.2 ▸ ha
    · exact absurd (List.mem_of_getElem? hi) (hext id)
  refine ⟨?_, fun i j hij hi hj => h.apart.adjacent hij (hlt hi) (hlt hj)⟩
  rw [h.frames, List.count_append, List.count_eq_zero_of_not_mem (hext id), Nat.add_zero,
    List.count_map_of_injective _ _ fun a b hab => (Prod.mk.inj hab).2]
  exact h.apart.count_le id

/-! ## What a start can cause -/

/-- The ids of the scenes. -/
def sceneIds (scenes : List Scene) : Finset Int := (scenes.map (·.id)).toFinset

/-- The most operations that a scene has. -/
def operationsMax (scenes : List Scene) : Nat := (scenes.map (·.operations.length)).foldr max 0

theorem mem_sceneIds (h : getSceneOperations scenes id ≠ []) : id ∈ sceneIds scenes := by
  rw [getSceneOperations] at h
  cases hfind : scenes.find? fun sc => sc.id = id with
  | none =>
    rw [hfind] at h
    exact absurd rfl h
  | some sc =>
    have hsome := List.find?_some hfind
    have hid : sc.id = id := of_decide_eq_true hsome
    exact List.mem_toFinset.mpr (hid ▸ List.mem_map_of_mem (List.mem_of_find?_eq_some hfind))

theorem le_foldr_max {l : List Nat} {n : Nat} (h : n ∈ l) : n ≤ l.foldr max 0 := by
  induction l with
  | nil => cases h
  | cons m l ih =>
    rw [List.foldr_cons]
    rcases List.mem_cons.mp h with rfl | h
    · exact Nat.le_max_left _ _
    · exact Nat.le_trans (ih h) (Nat.le_max_right _ _)

theorem operations_le (scenes : List Scene) (id : Int) :
    (getSceneOperations scenes id).length ≤ operationsMax scenes := by
  rw [getSceneOperations]
  cases hfind : scenes.find? fun sc => sc.id = id with
  | none => exact Nat.zero_le _
  | some sc =>
    exact le_foldr_max (List.mem_map_of_mem (f := (·.operations.length))
      (List.mem_of_find?_eq_some hfind))

/-- The most scenes that one operation can start, directly and through others, where the chain can
grow by `m` more. -/
def starts (b : Nat) : Nat → Nat
  | 0 => 0
  | m + 1 => 1 + b * starts b m

/-- The caller and the scene that a call may still start. -/
def Call.target : Call → Option (Caller × Int)
  | .idle => none
  | .check caller sceneId => some (caller, sceneId)
  | .read caller sceneId _ => some (caller, sceneId)
  | .interrupt sceneId next => next.map (·, sceneId)
  | .cancel sceneId next => next.map (·, sceneId)
  | .start caller sceneId => some (caller, sceneId)

/-- How much longer the chain of a task can get. -/
def SceneTask.room (scenes : List Scene) (external : Caller) (t : SceneTask) : Nat :=
  2 * (sceneIds scenes).card + external.stackSize - t.chain.stackSize

/-- What a task can still execute, the call that it makes included. -/
def SceneTask.left (t : SceneTask) : Nat :=
  t.operations.length + if t.call.target.isSome then 1 else 0

/-- The starts that a task can still cause. -/
def SceneTask.potential (scenes : List Scene) (external : Caller) (t : SceneTask) : Nat :=
  t.left * starts (operationsMax scenes) (t.room scenes external)

/-! ## The invariant -/

/-- A started task: its chain, and what it may start. -/
structure SceneTask.Ok (scenes : List Scene) (external : Caller) (t : SceneTask) : Prop where
  chain : ∃ ids, external.Over ids t.chain ∧ ∀ a ∈ ids, a ∈ sceneIds scenes
  operations : t.operations.length ≤ operationsMax scenes
  call : ∀ c id, t.call.target = some (c, id) → c = t.chain ∧ t.caller.find .scene id = 0

structure Inv (scenes : List Scene) (external : Caller) (s : State) : Prop where
  ok : ∀ t ∈ s.tasks, t.Ok scenes external
  paid : s.tasks.length + (s.tasks.map (·.potential scenes external)).sum ≤
    1 + operationsMax scenes *
      starts (operationsMax scenes) (2 * (sceneIds scenes).card - 1)

theorem SceneTask.chain_frames (t : SceneTask) :
    t.chain.frames = (.scene, t.sceneId) :: t.caller.frames := Caller.frames_under _

/-- The chain of a task is no longer than the scenes allow. -/
theorem SceneTask.Ok.depth (h : t.Ok scenes external) :
    t.chain.stackSize ≤ external.stackSize + 2 * (sceneIds scenes).card := by
  obtain ⟨ids, hover, hmem⟩ := h.chain
  have := hover.apart.length_le hmem
  rw [Caller.stackSize_eq, Caller.stackSize_eq, hover.frames, List.length_append, List.length_map]
  omega

/-- A scene that is not found in the chain of the caller may be started under the running one. -/
theorem SceneTask.Ok.child (hext : external.External) (h : t.Ok scenes external)
    (hfind : t.caller.find .scene id = 0) (hid : id ∈ sceneIds scenes)
    {operations : List Operation} (hlen : operations.length ≤ operationsMax scenes) :
    (SceneTask.new t.chain id operations).Ok scenes external := by
  obtain ⟨ids, hover, hmem⟩ := h.chain
  have hnot := Caller.find_eq_zero.mp hfind
  refine ⟨⟨id :: ids, ⟨?_, ?_, hover.apart⟩, ?_⟩, hlen, fun c id h => by cases h⟩
  · rw [chain_frames, List.map_cons, List.cons_append, ← hover.frames]
    rfl
  · -- the rest of the chain is that of the caller, where the scene was looked for
    intro hin
    have htail : t.chain.frames.tail = ids.tail.map (.scene, ·) ++ external.frames := by
      cases ids with
      | nil =>
        have hframes := hover.frames
        rw [chain_frames, List.map_nil, List.nil_append] at hframes
        refine absurd ?_ (hext t.sceneId)
        rw [← hframes]
        exact List.mem_cons_self
      | cons a ids => rw [hover.frames]; rfl
    rw [chain_frames, List.tail_cons] at htail
    rw [htail, List.mem_append, not_or] at hnot
    exact hnot.1 (List.mem_map_of_mem hin)
  · intro a ha
    rcases List.mem_cons.mp ha with rfl | ha
    · exact hid
    · exact hmem a ha

/-- The start of a scene is paid by the operation that causes it. -/
theorem SceneTask.Ok.pays (hext : external.External) (h : t.Ok scenes external)
    (hfind : t.caller.find .scene id = 0) (hid : id ∈ sceneIds scenes)
    {operations : List Operation} (hlen : operations.length ≤ operationsMax scenes) :
    1 + (SceneTask.new t.chain id operations).potential scenes external ≤
      starts (operationsMax scenes) (t.room scenes external) := by
  have hdepth := (h.child hext hfind hid hlen).depth
  have hsize : (SceneTask.new t.chain id operations).chain.stackSize = t.chain.stackSize + 1 := by
    rw [Caller.stackSize_eq, chain_frames, List.length_cons, ← Caller.stackSize_eq]
    rfl
  have hroom : t.room scenes external =
      (SceneTask.new t.chain id operations).room scenes external + 1 := by
    unfold room
    omega
  rw [hroom, starts]
  exact Nat.add_le_add_left (Nat.mul_le_mul_right _ hlen) 1

/-! ## The steps -/

theorem target_executeAction {user : Bool} {op : Operation} {caller : Caller}
    (h : (executeAction caller user op).target = some (c, id)) :
    op.subjectType = .scene ∧ c = caller ∧ id = op.subjectId := by
  rw [executeAction] at h
  split at h
  · cases h
  · split at h
    · rename_i hscene
      refine ⟨hscene.1, ?_⟩
      split at h <;> cases h <;> exact ⟨rfl, rfl⟩
    · cases h

theorem target_afterInterrupt {next : Option Caller} :
    (Call.afterInterrupt id next).target = next.map (·, id) := by
  cases next <;> rfl

/-- A step of a task that does not start a scene: the chain stays, and no more is left to do. -/
structure SceneTask.Goes (scenes : List Scene) (external : Caller) (t t' : SceneTask) : Prop where
  chain : t'.chain = t.chain
  left : t'.left ≤ t.left
  ok : t.Ok scenes external → t'.Ok scenes external

theorem SceneTask.Goes.potential {t t' : SceneTask} (h : t.Goes scenes external t') :
    t'.potential scenes external ≤ t.potential scenes external := by
  rw [SceneTask.potential, SceneTask.potential, room, room, h.chain]
  exact Nat.mul_le_mul_right _ h.left

/-- Only the flags of a task change. -/
theorem SceneTask.goes_flags (t : SceneTask) (finished inQueue : Bool) :
    t.Goes scenes external { t with finished := finished, inQueue := inQueue } :=
  ⟨rfl, Nat.le_refl _, fun h => ⟨h.chain, h.operations, h.call⟩⟩

/-- The call of a task goes on, or is given up. -/
theorem SceneTask.goes_call {t : SceneTask} {call : Call}
    (h : call.target = t.call.target ∨ call.target = none) :
    t.Goes scenes external { t with call := call } := by
  refine ⟨rfl, ?_, fun hok => ⟨hok.chain, hok.operations, fun c id hc => ?_⟩⟩
  · rcases h with h | h <;> simp only [left, h]
    · exact Nat.le_refl _
    · exact Nat.add_le_add_left (Nat.zero_le _) _
  · rcases h with h | h
    · exact hok.call c id (h ▸ hc)
    · cases h.symm.trans hc

/-- A turn takes an operation for the call that it makes. -/
theorem SceneTask.goes_turn {t : SceneTask} (hidle : t.call = .idle) (user : Bool) :
    t.Goes scenes external (t.turn user) := by
  rw [turn]
  split
  · exact ⟨rfl, Nat.le_refl _, fun h => h⟩
  · rename_i op operations hops
    refine ⟨rfl, ?_, fun hok => ⟨hok.chain, ?_, fun c id hc => ?_⟩⟩
    · have hone : ∀ call : Call, (if call.target.isSome then 1 else 0) ≤ 1 := by
        intro call
        split <;> omega
      have hleft : t.left = operations.length + 1 := by
        rw [left, hops, hidle]
        rfl
      rw [hleft]
      exact Nat.add_le_add_left (hone _) _
    · have := hok.operations
      rw [hops, List.length_cons] at this
      exact Nat.le_of_succ_le this
    · dsimp only at hc
      split at hc
      · rename_i hfind
        obtain ⟨hscene, rfl, rfl⟩ := target_executeAction hc
        exact ⟨rfl, hfind.resolve_left (not_not.mpr hscene)⟩
      · cases hc

/-- A step of one task. -/
theorem Inv.modify (hinv : Inv scenes external s) {g : SceneTask → SceneTask}
    (h : ∀ t, s.tasks[i]? = some t → t.Goes scenes external (g t)) :
    Inv scenes external ⟨s.tasks.modify i g⟩ := by
  constructor
  · intro t ht
    rcases Collect.mem_modify ht with ht | ⟨t, hi, rfl⟩
    · exact hinv.ok t ht
    · exact (h t hi).ok (hinv.ok t (List.mem_of_getElem? hi))
  · refine Nat.le_trans ?_ hinv.paid
    rw [List.length_modify]
    exact Nat.add_le_add_left (Collect.sum_modify_le fun t hi => (h t hi).potential) _

theorem Inv.cancelTasks (hinv : Inv scenes external s) (id : Int) :
    Inv scenes external (s.cancelTasks id) := by
  have hgoes : ∀ t : SceneTask, t.Goes scenes external
      (if t.inQueue && t.conditionMet id true then { t with finished := true, inQueue := false }
        else t) := by
    intro t
    split
    · exact t.goes_flags true false
    · exact ⟨rfl, Nat.le_refl _, fun h => h⟩
  constructor
  · intro t' ht'
    obtain ⟨t, ht, rfl⟩ := List.mem_map.mp ht'
    exact (hgoes t).ok (hinv.ok t ht)
  · refine Nat.le_trans ?_ hinv.paid
    rw [State.cancelTasks, List.length_map, List.map_map]
    exact Nat.add_le_add_left (List.sum_le_sum fun t _ => (hgoes t).potential) _

/-- A scene is started: its task costs what the operation that starts it had left. -/
theorem Inv.start (hext : external.External) (hinv : Inv scenes external s)
    (hi : s.tasks[i]? = some t) (hcall : t.call = .start c id) {operations : List Operation}
    (hops : getSceneOperations scenes id = operations) (hne : operations ≠ []) :
    Inv scenes external ⟨(s.setCall i .idle).tasks ++ [.new c id operations]⟩ := by
  have hok := hinv.ok t (List.mem_of_getElem? hi)
  obtain ⟨rfl, hfind⟩ := hok.call c id (by rw [hcall]; rfl)
  have hid : id ∈ sceneIds scenes := mem_sceneIds (hops ▸ hne)
  have hlen : operations.length ≤ operationsMax scenes := hops ▸ operations_le scenes id
  have hidle : ∀ t', s.tasks[i]? = some t' → t'.Goes scenes external { t' with call := .idle } :=
    fun t' _ => SceneTask.goes_call (.inr rfl)
  constructor
  · intro t' ht'
    rcases List.mem_append.mp ht' with ht' | ht'
    · exact (hinv.modify hidle).ok t' ht'
    · rw [List.mem_singleton.mp ht']
      exact hok.child hext hfind hid hlen
  · have hpays := hok.pays hext hfind hid hlen
    have hgives : ({ t with call := .idle } : SceneTask).potential scenes external +
        starts (operationsMax scenes) (t.room scenes external) ≤ t.potential scenes external := by
      have hleft : t.left = t.operations.length + 1 := by
        rw [SceneTask.left, hcall]
        rfl
      rw [SceneTask.potential, SceneTask.potential, hleft, Nat.succ_mul]
      exact Nat.le_refl _
    have hsum : ((s.setCall i .idle).tasks.map (·.potential scenes external)).sum +
        starts (operationsMax scenes) (t.room scenes external) ≤
          (s.tasks.map (·.potential scenes external)).sum :=
      Collect.sum_modify_add_le hi hgives
    have hlength : (s.setCall i .idle).tasks.length = s.tasks.length := List.length_modify _ _ _
    have hpaid := hinv.paid
    rw [List.length_append, hlength, List.map_append, List.sum_append]
    simp only [List.length_singleton, List.map_cons, List.map_nil, List.sum_cons, List.sum_nil]
    omega

theorem Inv.call (hext : external.External) (hinv : Inv scenes external s)
    (hi : s.tasks[i]? = some t) {active : Bool}
    (hs : callStep scenes s i active t.call = some s') : Inv scenes external s' := by
  have hmove : ∀ {s : State}, Inv scenes external s →
      (∀ t', s.tasks[i]? = some t' → t'.call.target = t.call.target) → ∀ {call : Call},
      call.target = t.call.target ∨ call.target = none → Inv scenes external (s.setCall i call) :=
    fun hinv hsame _ h => hinv.modify fun t' hi' =>
      SceneTask.goes_call (by rw [hsame t' hi']; exact h)
  have hself : ∀ t', s.tasks[i]? = some t' → t'.call.target = t.call.target := by
    intro t' hi'
    rw [hi] at hi'
    cases hi'
    rfl
  cases hcall : t.call with
  | idle =>
    rw [hcall] at hs
    cases hs
  | check caller sceneId =>
    rw [hcall] at hs hmove hself
    cases hs
    refine hmove hinv hself ?_
    split
    · exact .inr rfl
    · exact .inl rfl
  | read caller sceneId interruptBeforeExecute =>
    rw [hcall] at hs hmove hself
    cases hs
    refine hmove hinv hself ?_
    split
    · exact .inr rfl
    · split <;> exact .inl rfl
  | interrupt sceneId next =>
    rw [hcall] at hs hmove hself
    cases hs
    refine hmove hinv hself (.inl ?_)
    split
    · exact target_afterInterrupt
    · rfl
  | cancel sceneId next =>
    rw [hcall] at hs hmove hself
    cases hs
    refine hmove (hinv.cancelTasks sceneId) (fun t' hi' => ?_) (.inl target_afterInterrupt)
    rw [State.cancelTasks, List.getElem?_map, Option.map_eq_some_iff] at hi'
    obtain ⟨u, hu, rfl⟩ := hi'
    split <;> exact hself u hu
  | start caller sceneId =>
    rw [hcall, callStep] at hs
    split at hs
    · rw [hcall] at hmove hself
      cases hs
      exact hmove hinv hself (.inr rfl)
    · rename_i op operations hops
      cases hs
      exact hinv.start hext hi hcall hops (List.cons_ne_nil _ _)

theorem Inv.step (hext : external.External) (hinv : Inv scenes external s) {a : Act}
    (hs : step scenes s a = some s') : Inv scenes external s' := by
  cases a with
  | turn i user =>
    rw [Nested.step] at hs
    split at hs
    · rename_i t hi
      split at hs
      · rename_i hidle
        cases hs
        refine hinv.modify fun t' hi' => ?_
        rw [hi] at hi'
        cases hi'
        exact SceneTask.goes_turn hidle user
      · cases hs
    · cases hs
  | call i active =>
    rw [Nested.step] at hs
    split at hs
    · rename_i t hi
      exact hinv.call hext hi hs
    · cases hs
  | finish i =>
    cases hs
    exact hinv.modify fun t _ => t.goes_flags true t.inQueue
  | remove i =>
    cases hs
    exact hinv.modify fun t _ => t.goes_flags t.finished false

theorem Inv.init (hne : getSceneOperations scenes id ≠ []) :
    Inv scenes external ⟨[.new external id (getSceneOperations scenes id)]⟩ := by
  have hok : (SceneTask.new external id (getSceneOperations scenes id)).Ok scenes external := by
    refine ⟨⟨[id], ⟨SceneTask.chain_frames _, List.not_mem_nil, trivial⟩, fun a ha => ?_⟩,
      operations_le scenes id, fun c i h => by cases h⟩
    rw [List.mem_singleton.mp ha]
    exact mem_sceneIds hne
  have hsize : (SceneTask.new external id (getSceneOperations scenes id)).chain.stackSize =
      external.stackSize + 1 := by
    rw [Caller.stackSize_eq, SceneTask.chain_frames, List.length_cons, Caller.stackSize_eq]
    rfl
  have hroom : (SceneTask.new external id (getSceneOperations scenes id)).room scenes external =
      2 * (sceneIds scenes).card - 1 := by
    rw [SceneTask.room, hsize]
    omega
  constructor
  · intro t ht
    rw [List.mem_singleton.mp ht]
    exact hok
  · rw [List.map_singleton, List.sum_singleton, SceneTask.potential, hroom]
    exact Nat.add_le_add_left (Nat.mul_le_mul_right _ (operations_le scenes id)) 1

/-- The chain of the caller is that of the task without the task itself. -/
theorem SceneTask.Ok.caller_over (hext : external.External) (h : t.Ok scenes external) :
    ∃ ids, external.Over ids t.caller := by
  obtain ⟨ids, hover, -⟩ := h.chain
  have hframes := hover.frames
  rw [chain_frames] at hframes
  cases ids with
  | nil =>
    refine absurd ?_ (hext t.sceneId)
    rw [List.map_nil, List.nil_append] at hframes
    rw [← hframes]
    exact List.mem_cons_self
  | cons a ids =>
    rw [List.map_cons, List.cons_append] at hframes
    exact ⟨ids, (List.cons.inj hframes).2, hover.apart.2⟩

/-- **Nested scenes end**: whatever the scenes execute and in which order their tasks run, no scene
comes back in a chain of callers except right after itself, no chain grows by more than twice the
number of scenes, and the start from outside causes no more than a fixed number of starts. -/
theorem nested_scenes_end (hext : external.External)
    (h : Reach (machine scenes external id) Any s) :
    (∀ t ∈ s.tasks, t.caller.RepeatsAdjacent ∧ t.chain.RepeatsAdjacent ∧
      t.chain.stackSize ≤ external.stackSize + 2 * (sceneIds scenes).card) ∧
    s.tasks.length ≤ 1 + operationsMax scenes *
      starts (operationsMax scenes) (2 * (sceneIds scenes).card - 1) := by
  have hinv : Inv scenes external s := by
    refine h.invariant (P := Inv scenes external) ?_ fun _ hinv hs => hinv.step hext hs
    rintro _ ⟨rfl, hne⟩
    exact .init hne
  refine ⟨fun t ht => ?_, Nat.le_trans (Nat.le_add_right _ _) hinv.paid⟩
  have hok := hinv.ok t ht
  obtain ⟨ids, hover⟩ := hok.caller_over hext
  obtain ⟨ids', hover', -⟩ := hok.chain
  exact ⟨hover.repeatsAdjacent hext, hover'.repeatsAdjacent hext, hok.depth⟩

/-- A scene that interrupts and executes itself. -/
def selfExecuting : List Scene := [⟨1, [⟨.interruptAndExecute, .scene, 1⟩]⟩]

/-- The scene runs a second time, and the second task finds it in the chain. -/
theorem nested_scenes_end_self : ∃ s, (machine selfExecuting (.root .ipc 0) 1).run
      ⟨[.new (.root .ipc 0) 1 (getSceneOperations selfExecuting 1)]⟩
      [.turn 0 true, .call 0 true, .call 0 true, .call 0 true, .call 0 true, .turn 1 true] =
        some s ∧
    s.tasks.map (·.left) = [0, 0] ∧
    ∀ t ∈ s.tasks, t.chain.stackSize ≤ 1 + 2 * (sceneIds selfExecuting).card := by
  have hrun : (machine selfExecuting (.root .ipc 0) 1).run
      ⟨[.new (.root .ipc 0) 1 (getSceneOperations selfExecuting 1)]⟩
      [.turn 0 true, .call 0 true, .call 0 true, .call 0 true, .call 0 true, .turn 1 true] =
        some _ := rfl
  have hext : (Caller.root .ipc 0).External := by
    intro id hmem
    cases List.mem_singleton.mp hmem
  have hinit : (machine selfExecuting (.root .ipc 0) 1).init
      ⟨[.new (.root .ipc 0) 1 (getSceneOperations selfExecuting 1)]⟩ := ⟨rfl, by decide⟩
  have hreach := Reach.run (.init hinit) hrun
  exact ⟨_, hrun, by decide, fun t ht => ((nested_scenes_end hext hreach).1 t ht).2.2⟩

end Nested
