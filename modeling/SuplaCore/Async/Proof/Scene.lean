import SuplaCore.Async.Scene

/-!
# At most one running instance of a scene

The existence check and the addition of the task are separate steps. While no call looks for the
scene between another call's look and its addition (`OneLook`), calls on their way and tasks of a
scene are at most one together (`SceneInv`), so one instance runs (`one_instance`). Two calls that
look before either adds start the scene twice (`two_instances`).
-/

namespace Async

open Sys

/-- The database reads find an active scene with operations. -/
def Readable : Scenes → ScenesAct → Prop
  | _, .read _ active operations => active = true ∧ operations ≠ 0
  | _, _ => True

/-- **The discipline**: a call does not look for its scene while another call for it has found no
task and has not added its own. -/
def OneLook (s : Scenes) (a : ScenesAct) : Prop :=
  Readable s a ∧ match a with
    | .check c => ∀ key, s.calls c = .check key → ∀ c', (s.calls c').between ≠ some key
    | _ => True

/-- The tasks of a scene in the queue that have not finished. -/
def Scenes.unfinished (s : Scenes) (key : SceneKey) : Nat :=
  s.tasks.countP fun t => t.key = key && !t.task.isFinished

structure SceneInv (s : Scenes) : Prop where
  one : ∀ key, s.tasks.countP (fun t => t.key = key) ≤ 1
  free : ∀ c key, (s.calls c).between = some key → s.tasks.countP (fun t => t.key = key) = 0
  alone : ∀ c c' key, (s.calls c).between = some key → (s.calls c').between = some key → c = c'
  answer : ∀ c r, s.calls c = .returned r false → r = .isDuringExecution

section
variable {s s' : Scenes}

/-- The tasks have changed within their places, or some are gone. -/
theorem SceneInv.tasks {ts : List SceneTask} (h : SceneInv s)
    (hle : ∀ key, ts.countP (fun t => t.key = key) ≤ s.tasks.countP fun t => t.key = key) :
    SceneInv { s with tasks := ts } :=
  ⟨fun key => Nat.le_trans (hle key) (h.one key),
    fun c key hb => Nat.le_zero.1 (Nat.le_trans (hle key) (Nat.le_of_eq (h.free c key hb))),
    h.alone, h.answer⟩

/-- A call goes to a place from which it adds nothing. -/
theorem SceneInv.setCall {c : Nat} {p : SceneCall} (h : SceneInv s) (hp : p.between = none)
    (hr : ∀ r, p = .returned r false → r = .isDuringExecution) : SceneInv (s.setCall c p) := by
  have hother : ∀ {i key}, ((s.setCall c p).calls i).between = some key →
      (s.calls i).between = some key := by
    intro i key hb
    simp only [Scenes.setCall] at hb
    split at hb
    · rw [hp] at hb
      cases hb
    · exact hb
  refine ⟨h.one, fun i key hb => h.free i key (hother hb),
    fun i i' key hb hb' => h.alone i i' key (hother hb) (hother hb'), fun i r hi => ?_⟩
  simp only [Scenes.setCall] at hi
  split at hi
  · exact hr r hi
  · exact h.answer i r hi

/-- A call goes on with the same scene. -/
theorem SceneInv.goOn {c : Nat} {p : SceneCall} {key : SceneKey} (h : SceneInv s)
    (hc : (s.calls c).between = some key) (hp : p.between = some key) :
    SceneInv (s.setCall c p) := by
  have hsame : ∀ {i key'}, ((s.setCall c p).calls i).between = some key' →
      (s.calls i).between = some key' := by
    intro i key' hb
    simp only [Scenes.setCall] at hb
    split at hb
    · rename_i hi
      rw [hi, hc, ← hp]
      exact hb
    · exact hb
  refine ⟨h.one, fun i key' hb => h.free i key' (hsame hb),
    fun i i' key' hb hb' => h.alone i i' key' (hsame hb) (hsame hb'), fun i r hi => ?_⟩
  simp only [Scenes.setCall] at hi
  split at hi
  · rw [hi] at hp
    cases hp
  · exact h.answer i r hi

/-- A call that is alone has found no task. -/
theorem SceneInv.look {c : Nat} {key : SceneKey} (h : SceneInv s)
    (hnone : s.tasks.countP (fun t => t.key = key) = 0)
    (halone : ∀ c', (s.calls c').between ≠ some key) : SceneInv (s.setCall c (.read key)) := by
  have hcases : ∀ {i key'}, ((s.setCall c (.read key)).calls i).between = some key' →
      (i = c ∧ key' = key) ∨ (s.calls i).between = some key' := by
    intro i key' hb
    simp only [Scenes.setCall] at hb
    split at hb
    · rename_i hi
      exact .inl ⟨hi, (Option.some.inj hb).symm⟩
    · exact .inr hb
  refine ⟨h.one, fun i key' hb => ?_, fun i i' key' hb hb' => ?_, fun i r hi => ?_⟩
  · rcases hcases hb with ⟨-, hkey⟩ | hb
    · rw [hkey]
      exact hnone
    · exact h.free i key' hb
  · rcases hcases hb with ⟨hi, hkey⟩ | hb₁ <;> rcases hcases hb' with ⟨hi', hkey'⟩ | hb₂
    · exact hi.trans hi'.symm
    · exact absurd (hkey ▸ hb₂) (halone i')
    · exact absurd (hkey' ▸ hb₁) (halone i)
    · exact h.alone i i' key' hb₁ hb₂
  · simp only [Scenes.setCall] at hi
    split at hi
    · cases hi
    · exact h.answer i r hi

/-- A call adds its task. -/
theorem SceneInv.add {c : Nat} {key : SceneKey} {t : Task} (h : SceneInv s)
    (hc : (s.calls c).between = some key) :
    SceneInv ({ s with
      tasks := s.tasks ++ [SceneTask.mk key t] }.setCall c (.returned .ok true)) := by
  have hother : ∀ {i key'},
      (({ s with
        tasks := s.tasks ++ [SceneTask.mk key t] }.setCall c (.returned .ok true)).calls
          i).between =
        some key' → i ≠ c ∧ (s.calls i).between = some key' := by
    intro i key' hb
    simp only [Scenes.setCall] at hb
    split at hb
    · cases hb
    · exact ⟨by assumption, hb⟩
  have hcount : ∀ key', (s.tasks ++ [SceneTask.mk key t]).countP (fun t => t.key = key') =
      s.tasks.countP (fun t => t.key = key') + if key = key' then 1 else 0 := by
    intro key'
    simp [List.countP_append, List.countP_cons]
  refine ⟨fun key' => ?_, fun i key' hb => ?_, fun i i' key' hb hb' => ?_, fun i r hi => ?_⟩
  · simp only [Scenes.setCall]
    rw [hcount]
    split
    · rename_i hkey
      have hfree := h.free c key hc
      rw [hkey] at hfree
      omega
    · exact h.one key'
  · obtain ⟨hi, hb⟩ := hother hb
    simp only [Scenes.setCall]
    rw [hcount, if_neg, h.free i key' hb]
    rintro rfl
    exact hi (h.alone i c key hb hc)
  · exact h.alone i i' key' (hother hb).2 (hother hb').2
  · simp only [Scenes.setCall] at hi
    split at hi
    · cases hi
    · exact h.answer i r hi

theorem countP_modify {α : Type} {p : α → Bool} {f : α → α} (hf : ∀ a, p (f a) = p a)
    (l : List α) (i : Nat) : (l.modify i f).countP p = l.countP p := by
  induction l generalizing i with
  | nil => simp
  | cons a l ih =>
    cases i with
    | zero => simp [List.countP_cons, hf]
    | succ i => simp [List.countP_cons, ih]

theorem sceneInv_step {a : ScenesAct} (hok : OneLook s a) (h : SceneInv s)
    (hs : scenes.step s a = some s') : SceneInv s' := by
  cases a with
  | call c key =>
    simp only [scenes, Scenes.step] at hs
    split at hs
    · cases hs
      exact h.setCall rfl nofun
    · cases hs
      exact h.setCall rfl nofun
    · cases hs
  | check c =>
    simp only [scenes, Scenes.step] at hs
    split at hs
    · rename_i key hc
      split at hs
      · cases hs
        exact h.setCall rfl fun r hr => by cases hr; rfl
      · rename_i hnone
        cases hs
        refine h.look ?_ (hok.2 key hc)
        rw [List.countP_eq_zero]
        intro t ht hkey
        exact hnone (List.any_eq_true.2 ⟨t, ht, hkey⟩)
    · cases hs
  | read c active operations =>
    obtain ⟨hactive, hops⟩ := hok.1
    simp only [scenes, Scenes.step] at hs
    split at hs
    · rename_i key hc
      rw [hactive, if_neg (by simp), if_neg hops] at hs
      cases hs
      exact h.goOn (by rw [hc]; rfl) rfl
    · cases hs
  | start c now delay =>
    simp only [scenes, Scenes.step] at hs
    split at hs
    · rename_i key hc
      cases hs
      exact h.add (by rw [hc]; rfl)
    · cases hs
  | task i a =>
    cases hs
    refine h.tasks fun key => Nat.le_of_eq (countP_modify ?_ s.tasks i)
    exact fun _ => rfl
  | remove i =>
    cases hs
    exact h.tasks fun key => (List.eraseIdx_sublist _ _).countP_le

theorem sceneInv_init (h : scenes.init s) : SceneInv s := by
  obtain ⟨ht, hc⟩ := h
  refine ⟨fun key => ?_, fun c key _ => ?_, fun c c' key hb => ?_, fun c r hr => ?_⟩
  · rw [ht]
    exact Nat.zero_le _
  · rw [ht]
    rfl
  · rw [hc c] at hb
    cases hb
  · rw [hc c] at hr
    cases hr

end

/-- **At most one running instance of a scene**, in the runs that keep to the discipline; and a
call that started no task has returned `serIsDuringExecution`. -/
theorem one_instance (s : Scenes) (h : Reach scenes OneLook s) :
    (∀ key, s.unfinished key ≤ 1) ∧
      ∀ c r, s.calls c = .returned r false → r = .isDuringExecution := by
  have hinv : SceneInv s := h.invariant (fun _ => sceneInv_init) sceneInv_step
  refine ⟨fun key => Nat.le_trans ?_ (hinv.one key), hinv.answer⟩
  refine List.countP_mono_left fun t _ ht => ?_
  simp only [Bool.and_eq_true] at ht
  exact ht.1

/-! ## Scenarios -/

def noScenes : Scenes := ⟨[], fun _ => .idle⟩

/-- One call starts the scene, another finds it running. -/
theorem one_instance_second : ∃ s, Reach scenes OneLook s ∧ s.unfinished ⟨1, 2⟩ = 1 ∧
    s.calls 1 = .returned .isDuringExecution false ∧ s.unfinished ⟨1, 2⟩ ≤ 1 := by
  have h₀ : Reach scenes OneLook noScenes := .init ⟨rfl, fun _ => rfl⟩
  have h₁ : Reach scenes OneLook (noScenes.setCall 0 (.check ⟨1, 2⟩)) :=
    h₀.act (.call 0 ⟨1, 2⟩) ⟨trivial, trivial⟩ rfl
  have look₁ : OneLook (noScenes.setCall 0 (.check ⟨1, 2⟩)) (.check 0) := by
    refine ⟨trivial, fun key _ c' => ?_⟩
    simp only [Scenes.setCall, noScenes]
    split <;> nofun
  have h₂ := h₁.act (.check 0) look₁ rfl
  have h₃ := h₂.act (.read 0 true 1) ⟨⟨rfl, by decide⟩, trivial⟩ rfl
  have h₄ := h₃.act (.start 0 0 0) ⟨trivial, trivial⟩ rfl
  have h₅ := h₄.act (.call 1 ⟨1, 2⟩) ⟨trivial, trivial⟩ rfl
  have h₆ := h₅.act (.check 1) ⟨trivial, fun key _ c' => by
    simp only [Scenes.setCall, noScenes]
    (repeat' split) <;> nofun⟩ rfl
  exact ⟨_, h₆, by decide, rfl, (one_instance _ h₆).1 ⟨1, 2⟩⟩

def readable : Scenes → ScenesAct → Bool
  | _, .read _ active operations => active && operations ≠ 0
  | _, _ => true

theorem readable_sound (s : Scenes) (a : ScenesAct) (h : readable s a = true) : Readable s a := by
  cases a with
  | read c active operations =>
    simp only [readable, Bool.and_eq_true, decide_eq_true_eq] at h
    exact h
  | _ => trivial

/-- **Two instances**: both calls look before either adds. -/
theorem two_instances : ∃ s, Reach scenes Readable s ∧ ¬ s.unfinished ⟨1, 2⟩ ≤ 1 := by
  have hrun : (scenes.runWhere readable noScenes [.call 0 ⟨1, 2⟩, .call 1 ⟨1, 2⟩, .check 0,
      .check 1, .read 0 true 1, .read 1 true 1, .start 0 0 0, .start 1 0 0]).map
      (·.unfinished ⟨1, 2⟩) = some 2 := by rfl
  obtain ⟨s, hs, he⟩ := Option.map_eq_some_iff.1 hrun
  exact ⟨s, Reach.runWhere readable_sound (.init ⟨rfl, fun _ => rfl⟩) hs, by rw [he]; decide⟩

end Async
