import Mathlib.Data.List.Nodup
import SuplaCore.Conn.Objects

/-!
# Which replaced objects are closed

The loop of `add` leaves the live objects that differ from the new one in id and GUID, so the list
never holds two alike (`unique`). Of the objects that it takes out it remembers the last one, and
that one is closed only if the new object was not in the list before: an object that is added is
alone in being replaced, or it is not closed (`closed_iff`).
-/

namespace ConnectionObjects

open Sys

variable {G : Type} [DecidableEq G] {s s' : Objects G} {obj p q : Nat} {hasOnPrevious : Bool}

/-! ## The property -/

def Objects.live (s : Objects G) : List Nat := s.objects.filter fun p => !s.expired p

/-- Every object that the call took out was passed to `on_previous` once, where there is one, and
terminated. -/
def Entry.Closed (e : Entry) : Prop :=
  ∀ p ∈ e.removed, (e.hasOnPrevious = true → e.events.count (.onPrevious p) = 1) ∧
    .terminate p ∈ e.events

instance (e : Entry) : Decidable e.Closed := inferInstanceAs (Decidable (∀ p ∈ e.removed, _ ∧ _))

structure Kept (s : Objects G) : Prop where
  unique : s.live.Pairwise fun p q => s.id p ≠ s.id q ∧ s.guid p ≠ s.guid q
  last : ∀ e, s.log.head? = some e → s.expired e.obj = false → e.obj ∈ s.objects
  closed : ∀ e ∈ s.log, e.Closed

/-! ## The loop -/

/-- A live object that `add` takes out of the list for `obj`. -/
def Objects.displaces (s : Objects G) (obj p : Nat) : Bool :=
  !s.expired p && decide (p ≠ obj) && decide (s.id p = s.id obj ∨ s.guid p = s.guid obj)

/-- A live object that `add` leaves in the list. -/
def Objects.spares (s : Objects G) (obj p : Nat) : Bool :=
  !s.expired p && !s.displaces obj p

def Objects.displaced (s : Objects G) (obj : Nat) : List Nat := s.objects.filter (s.displaces obj)

/-- `obj` is in the list. -/
def Objects.has (s : Objects G) (obj : Nat) : Bool :=
  s.objects.any fun p => !s.expired p && decide (p = obj)

theorem displaces_iff : s.displaces obj p = true ↔
    s.expired p = false ∧ p ≠ obj ∧ (s.id p = s.id obj ∨ s.guid p = s.guid obj) := by
  simp only [Objects.displaces, Bool.and_eq_true, Bool.not_eq_true', decide_eq_true_eq, and_assoc]

theorem spares_iff : s.spares obj p = true ↔
    s.expired p = false ∧ (p = obj ∨ s.id p ≠ s.id obj ∧ s.guid p ≠ s.guid obj) := by
  rw [Objects.spares, Bool.and_eq_true, Bool.not_eq_true', Bool.not_eq_true',
    ← Bool.not_eq_true, ← Bool.not_eq_true, displaces_iff]
  by_cases hp : p = obj
  · simp [hp]
  · simp only [hp, ne_eq, not_false_eq_true, true_and, false_or, not_and, not_or,
      Bool.not_eq_true]
    exact ⟨fun h => ⟨h.1, h.2 h.1⟩, fun h => ⟨h.1, fun _ => h.2⟩⟩

/-- The loop, by what it does to each object. -/
theorem foldl_visit (l : List Nat) (w : Walk) : l.foldl (visit s obj hasOnPrevious) w =
    ⟨w.objects ++ l.filter (s.spares obj),
      w.ptrExists || l.any fun p => !s.expired p && decide (p = obj),
      (l.filter (s.displaces obj)).getLast?.or w.previous,
      w.events ++ if hasOnPrevious then (l.filter (s.displaces obj)).map .onPrevious else []⟩ := by
  induction l generalizing w with
  | nil => cases w; simp
  | cons p l ih =>
    rw [List.foldl_cons, ih]
    by_cases hexpired : s.expired p = true
    · have hd : s.displaces obj p = false := by simp [Objects.displaces, hexpired]
      have hs : s.spares obj p = false := by simp [Objects.spares, hexpired]
      simp [visit, hexpired, hd, hs]
    · rw [Bool.not_eq_true] at hexpired
      by_cases hp : p = obj
      · have hd : s.displaces obj p = false := by simp [Objects.displaces, hp]
        have hs : s.spares obj p = true := by simp [Objects.spares, hexpired, hd]
        simp [visit, hp, hp ▸ hd, hp ▸ hs, hp ▸ hexpired]
      · by_cases hsame : s.id p = s.id obj ∨ s.guid p = s.guid obj
        · have hd : s.displaces obj p = true := displaces_iff.mpr ⟨hexpired, hp, hsame⟩
          have hs : s.spares obj p = false := by simp [Objects.spares, hd]
          cases hasOnPrevious <;> simp [visit, hexpired, hp, hsame, hd, hs, List.getLast?_cons]
        · have hd : s.displaces obj p = false := by simp [Objects.displaces, hsame]
          have hs : s.spares obj p = true := by simp [Objects.spares, hexpired, hd]
          simp [visit, hexpired, hp, hsame, hd, hs]

/-- What the loop reports for `on_previous`. -/
def Objects.reported (s : Objects G) (obj : Nat) (hasOnPrevious : Bool) : List Event :=
  if hasOnPrevious then (s.displaced obj).map .onPrevious else []

theorem walk_eq (s : Objects G) (obj : Nat) (hasOnPrevious : Bool) : walk s obj hasOnPrevious =
    ⟨s.objects.filter (s.spares obj), s.has obj, (s.displaced obj).getLast?,
      s.reported obj hasOnPrevious⟩ := by
  rw [walk, foldl_visit, List.nil_append, List.nil_append, Bool.false_or, Option.or_none]
  rfl

theorem addTo_present (hhas : s.has obj = true) : addTo s obj hasOnPrevious =
    (s.objects.filter (s.spares obj), s.reported obj hasOnPrevious, false) := by
  unfold addTo
  rw [walk_eq]
  exact if_pos hhas

theorem addTo_absent (hhas : s.has obj = false) : addTo s obj hasOnPrevious =
    (s.objects.filter (s.spares obj) ++ [obj], s.reported obj hasOnPrevious ++
      ((s.displaced obj).getLast?.map .terminate).toList, true) := by
  unfold addTo
  rw [walk_eq]
  exact if_neg (by rw [hhas]; exact Bool.false_ne_true)

omit [DecidableEq G] in
theorem has_iff : s.has obj = true ↔ obj ∈ s.objects ∧ s.expired obj = false := by
  simp only [Objects.has, List.any_eq_true, Bool.and_eq_true, Bool.not_eq_true', decide_eq_true_eq]
  constructor
  · rintro ⟨p, hp, hexpired, rfl⟩
    exact ⟨hp, hexpired⟩
  · rintro ⟨hp, hexpired⟩
    exact ⟨obj, hp, hexpired, rfl⟩

theorem mem_addTo (hlive : s.expired obj = false) : p ∈ (addTo s obj hasOnPrevious).1 ↔
    p ∈ s.objects ∧ s.spares obj p = true ∨ p = obj := by
  cases hhas : s.has obj with
  | true =>
    rw [addTo_present hhas, List.mem_filter]
    refine ⟨.inl, ?_⟩
    rintro (h | rfl)
    · exact h
    · exact ⟨(has_iff.mp hhas).1, spares_iff.mpr ⟨hlive, .inl rfl⟩⟩
  | false => rw [addTo_absent hhas, List.mem_append, List.mem_filter, List.mem_singleton]

theorem nodup_addTo (hlive : s.expired obj = false) (h : s.objects.Nodup) :
    (addTo s obj hasOnPrevious).1.Nodup := by
  cases hhas : s.has obj with
  | true =>
    rw [addTo_present hhas]
    exact h.filter _
  | false =>
    rw [addTo_absent hhas]
    refine List.nodup_append.mpr ⟨h.filter _, List.nodup_singleton obj, fun p hp q hq heq => ?_⟩
    rw [List.mem_singleton] at hq
    subst hq
    subst heq
    have := has_iff.mpr ⟨(List.mem_filter.mp hp).1, hlive⟩
    rw [hhas] at this
    cases this

/-- The live objects that the list loses are those with the id or the GUID of the new one. -/
theorem removed_eq (hlive : s.expired obj = false) :
    (s.objects.filter fun p => !s.expired p && decide (p ∉ (addTo s obj hasOnPrevious).1)) =
      s.displaced obj := by
  refine List.filter_congr fun p hp => ?_
  rw [Bool.eq_iff_iff, Bool.and_eq_true, decide_eq_true_eq, mem_addTo hlive, Bool.not_eq_true']
  constructor
  · rintro ⟨hexpired, hnot⟩
    by_contra hd
    refine hnot (.inl ⟨hp, ?_⟩)
    rw [Bool.not_eq_true] at hd
    rw [Objects.spares, hexpired, hd]
    rfl
  · intro hd
    obtain ⟨hexpired, hne, -⟩ := displaces_iff.mp hd
    refine ⟨hexpired, ?_⟩
    rintro (⟨-, hs⟩ | heq)
    · rw [Objects.spares, hd, Bool.not_true, Bool.and_false] at hs
      cases hs
    · exact hne heq

/-! ## The condition -/

/-- **The condition**: an object replaces at most one other, and none if it is in the list. -/
def ReplacesOne (s : Objects G) : Act G → Prop
  | .add obj id guid _ =>
    ((identify s obj id guid).displaced obj).length ≤ 1 ∧
      ((identify s obj id guid).has obj = true → (identify s obj id guid).displaced obj = [])
  | .expire _ => True

theorem count_reported (h : s.objects.Nodup) (hp : p ∈ s.displaced obj) :
    (s.reported obj true).count (.onPrevious p) = 1 := by
  unfold Objects.reported
  rw [if_pos rfl]
  refine List.count_eq_one_of_mem ?_ (List.mem_map_of_mem hp)
  exact (h.filter _).map fun a b hab => by injection hab

theorem terminate_not_reported : .terminate p ∉ s.reported obj hasOnPrevious := by
  unfold Objects.reported
  split
  · rw [List.mem_map]
    rintro ⟨q, -, hq⟩
    cases hq
  · exact List.not_mem_nil

/-- A list whose last member is every member has no second one. -/
theorem length_le_one {l : List Nat} (hnodup : l.Nodup) (h : ∀ p ∈ l, l.getLast? = some p) :
    l.length ≤ 1 := by
  match l with
  | [] => exact Nat.zero_le _
  | [p] => exact Nat.le_refl _
  | p :: q :: l =>
    have hp := h p List.mem_cons_self
    have hq := h q (List.mem_cons_of_mem _ List.mem_cons_self)
    rw [hp, Option.some.injEq] at hq
    exact absurd (hq ▸ List.mem_cons_self) (List.nodup_cons.mp hnodup).1

/-- **A call closes what it replaces exactly if that is one object at most**, and none where the
new object was in the list. -/
theorem closed_iff (hlive : s.expired obj = false) (hnodup : s.objects.Nodup) :
    (∀ e, (add s obj hasOnPrevious).log.head? = some e → e.Closed) ↔
      (s.displaced obj).length ≤ 1 ∧ (s.has obj = true → s.displaced obj = []) := by
  have hhead : (∀ e, (add s obj hasOnPrevious).log.head? = some e → e.Closed) ↔
      ∀ p ∈ s.displaced obj, (hasOnPrevious = true →
        (addTo s obj hasOnPrevious).2.1.count (.onPrevious p) = 1) ∧
          .terminate p ∈ (addTo s obj hasOnPrevious).2.1 := by
    rw [← @removed_eq G _ s obj hasOnPrevious hlive]
    exact ⟨fun h => h _ rfl, fun h e he => by cases he; exact h⟩
  rw [hhead]
  cases hhas : s.has obj with
  | true =>
    rw [addTo_present hhas]
    constructor
    · intro h
      have hnil : s.displaced obj = [] := List.eq_nil_iff_forall_not_mem.mpr fun p hp =>
        terminate_not_reported (h p hp).2
      exact ⟨hnil ▸ Nat.zero_le _, fun _ => hnil⟩
    · rintro ⟨-, hnil⟩ p hp
      rw [hnil rfl] at hp
      cases hp
  | false =>
    rw [addTo_absent hhas]
    constructor
    · intro h
      refine ⟨length_le_one (hnodup.filter _) fun p hp => ?_, fun hfalse => by cases hfalse⟩
      rcases List.mem_append.mp (h p hp).2 with hr | hlast
      · exact absurd hr terminate_not_reported
      · obtain ⟨q, hq, hterm⟩ := Option.map_eq_some_iff.mp (Option.mem_toList.mp hlast)
        cases hterm
        exact hq
    · rintro ⟨hone, -⟩ p hp
      have hlast : (s.displaced obj).getLast? = some p := by
        obtain ⟨q, hq⟩ := List.length_eq_one_iff.mp
          (Nat.le_antisymm hone (List.length_pos_of_mem hp))
        rw [hq, List.mem_singleton] at hp
        rw [hq, hp]
        rfl
      rw [hlast]
      refine ⟨?_, List.mem_append_right _ (List.mem_singleton_self _)⟩
      rintro rfl
      rw [List.count_append, count_reported hnodup hp]
      rfl

/-! ## The runs -/

/-- What holds of the list in every run. -/
structure Inv (s : Objects G) : Prop where
  nodup : s.objects.Nodup
  apart : ∀ p ∈ s.objects, ∀ q ∈ s.objects, s.expired p = false → s.expired q = false → p ≠ q →
    s.id p ≠ s.id q ∧ s.guid p ≠ s.guid q
  last : ∀ e, s.log.head? = some e → s.expired e.obj = false → e.obj ∈ s.objects

theorem init_start (id : Nat → Int) (guid : Nat → G) : (machine G).init (.init id guid) :=
  ⟨id, guid, rfl⟩

theorem Inv.init {s : Objects G} (h : (machine G).init s) : Inv s := by
  obtain ⟨id, guid, rfl⟩ := h
  exact ⟨List.nodup_nil, fun p hp => absurd hp List.not_mem_nil, fun e he => by cases he⟩

theorem Inv.add (hinv : Inv s) (hlive : s.expired obj = false) (id : Int) (guid : G) :
    Inv (add (identify s obj id guid) obj hasOnPrevious) := by
  constructor
  case nodup => exact nodup_addTo hlive hinv.nodup
  case apart =>
    intro p hp q hq hpl hql hne
    have hspare : ∀ {p}, p ∈ (addTo (identify s obj id guid) obj hasOnPrevious).1 → p ≠ obj →
        p ∈ s.objects ∧ (identify s obj id guid).id p ≠ (identify s obj id guid).id obj ∧
          (identify s obj id guid).guid p ≠ (identify s obj id guid).guid obj := by
      intro p hp hpo
      obtain ⟨hmem, hs⟩ := ((mem_addTo (s := identify s obj id guid) hlive).mp hp).resolve_right hpo
      exact ⟨hmem, (spares_iff.mp hs).2.resolve_left hpo⟩
    by_cases hpo : p = obj
    · subst hpo
      obtain ⟨-, hid, hguid⟩ := hspare hq (Ne.symm hne)
      exact ⟨Ne.symm hid, Ne.symm hguid⟩
    · obtain ⟨hpm, hpid, hpguid⟩ := hspare hp hpo
      by_cases hqo : q = obj
      · rw [hqo]
        exact ⟨hpid, hpguid⟩
      · have hold := hinv.apart p hpm q (hspare hq hqo).1 hpl hql hne
        have hsame : ∀ {r}, r ≠ obj → (identify s obj id guid).id r = s.id r ∧
            (identify s obj id guid).guid r = s.guid r := fun hr => ⟨if_neg hr, if_neg hr⟩
        change (identify s obj id guid).id p ≠ (identify s obj id guid).id q ∧
          (identify s obj id guid).guid p ≠ (identify s obj id guid).guid q
        rw [(hsame hpo).1, (hsame hqo).1, (hsame hpo).2, (hsame hqo).2]
        exact hold
  case last =>
    intro e he _
    cases he
    exact (mem_addTo (s := identify s obj id guid) hlive).mpr (.inr rfl)

theorem step_add {id : Int} {guid : G} (hs : step s (.add obj id guid hasOnPrevious) = some s') :
    s.expired obj = false ∧ s' = add (identify s obj id guid) obj hasOnPrevious := by
  rw [step] at hs
  split at hs
  · cases hs
  · rename_i hlive
    cases hs
    exact ⟨Bool.not_eq_true _ ▸ hlive, rfl⟩

theorem Inv.step (hinv : Inv s) {a : Act G} (hs : step s a = some s') : Inv s' := by
  cases a with
  | add obj id guid hasOnPrevious =>
    obtain ⟨hlive, rfl⟩ := step_add hs
    exact hinv.add hlive id guid
  | expire obj =>
    cases hs
    have hlive : ∀ p, (decide (p = obj) || s.expired p) = false → s.expired p = false :=
      fun p hp => (Bool.or_eq_false_iff.mp hp).2
    exact ⟨hinv.nodup, fun p hp q hq hpl hql => hinv.apart p hp q hq (hlive p hpl) (hlive q hql),
      fun e he hl => hinv.last e he (hlive _ hl)⟩

omit [DecidableEq G] in
theorem Inv.unique (hinv : Inv s) :
    s.live.Pairwise fun p q => s.id p ≠ s.id q ∧ s.guid p ≠ s.guid q := by
  refine (hinv.nodup.filter _).pairwise_of_forall_ne fun p hp q hq hne => ?_
  obtain ⟨hp, hpl⟩ := List.mem_filter.mp hp
  obtain ⟨hq, hql⟩ := List.mem_filter.mp hq
  exact hinv.apart p hp q hq (Bool.not_eq_true' _ ▸ hpl) (Bool.not_eq_true' _ ▸ hql) hne

theorem closed_step (hinv : Inv s) (hclosed : ∀ e ∈ s.log, e.Closed) {a : Act G}
    (hok : ReplacesOne s a) (hs : step s a = some s') : ∀ e ∈ s'.log, e.Closed := by
  cases a with
  | add obj id guid hasOnPrevious =>
    obtain ⟨hlive, rfl⟩ := step_add hs
    intro e he
    rcases List.mem_cons.mp he with rfl | he
    · exact (closed_iff (s := identify s obj id guid) hlive hinv.nodup).mpr hok _ rfl
    · exact hclosed e he
  | expire obj =>
    cases hs
    exact hclosed

/-- **What `add` puts in is what `get` finds** by its id, as long as it lives. -/
theorem get_added (h : Reach (machine G) Any s) {e : Entry} (he : s.log.head? = some e)
    (hlive : s.expired e.obj = false) (hid : s.id e.obj ≠ 0) : get s (s.id e.obj) = some e.obj := by
  have hinv : Inv s := h.invariant (P := Inv) (fun _ hs => .init hs) fun _ hinv hs => hinv.step hs
  have hmem := hinv.last e he hlive
  rw [get, if_neg hid]
  cases hfind : s.objects.find? fun p => !s.expired p && decide (s.id p = s.id e.obj) with
  | none =>
    have := List.find?_eq_none.mp hfind _ hmem
    simp [hlive] at this
  | some p =>
    have hp := List.find?_some hfind
    rw [Bool.and_eq_true, Bool.not_eq_true', decide_eq_true_eq] at hp
    by_contra hne
    exact (hinv.apart p (List.mem_of_find?_eq_some hfind) _ hmem hp.1 hlive
      fun heq => hne (heq ▸ rfl)).1 hp.2

/-- **Live objects are unique and the replaced ones closed** in every run in which no object
replaces more than one. -/
theorem kept (h : Reach (machine G) ReplacesOne s) : Kept s := by
  obtain ⟨hinv, hclosed⟩ := h.invariant (P := fun s => Inv s ∧ ∀ e ∈ s.log, e.Closed)
    (fun s hs => ⟨.init hs, by obtain ⟨id, guid, rfl⟩ := hs; exact fun e he => by cases he⟩)
    fun hok ⟨hinv, hclosed⟩ hs => ⟨hinv.step hs, closed_step hinv hclosed hok hs⟩
  exact ⟨hinv.unique, hinv.last, hclosed⟩

/-- Objects 1 and 2, and an object 3 with the id of the first. -/
def replaceById : List (Act (List UInt8)) :=
  [.add 1 11 (List.replicate 16 1) true, .add 2 12 (List.replicate 16 2) true,
    .add 3 11 (List.replicate 16 3) true]

theorem kept_replaceById : ∃ s, (machine (List UInt8)).run
    (.init (fun _ => 0) fun _ => List.replicate 16 0) replaceById = some s ∧
      s.objects = [2, 3] ∧ Kept s := by
  have hinit : Reach (machine (List UInt8)) ReplacesOne
      (.init (fun _ => 0) fun _ => List.replicate 16 0) := .init (init_start _ _)
  have h₁ := hinit.act (.add 1 11 (List.replicate 16 1) true)
    ⟨by decide, fun h => absurd h (by decide)⟩ rfl
  have h₂ := h₁.act (.add 2 12 (List.replicate 16 2) true)
    ⟨by decide, fun h => absurd h (by decide)⟩ rfl
  have h₃ := h₂.act (.add 3 11 (List.replicate 16 3) true)
    ⟨by decide, fun h => absurd h (by decide)⟩ rfl
  exact ⟨_, rfl, by decide, kept h₃⟩

/-- **An object with the id of one and the GUID of another** replaces both, and the first of them
keeps its connection. -/
theorem one_left_open : ∃ s, Reach (machine (List UInt8)) Any s ∧ ¬ Kept s := by
  have hrun : (machine (List UInt8)).run (.init (fun _ => 0) fun _ => List.replicate 16 0)
      [.add 1 11 (List.replicate 16 1) true, .add 2 12 (List.replicate 16 2) true,
        .add 3 11 (List.replicate 16 2) true] = some _ := rfl
  exact ⟨_, Reach.run (.init (init_start _ _)) hrun,
    fun h => absurd (h.closed _ List.mem_cons_self) (by decide)⟩

end ConnectionObjects
