import SuplaCore.Client.ObjContainer

/-!
# Updates in rounds

A pass of `do_remote_update` is a round over what is marked (`loop_spec`), so the rounds of the data
types, one after another, are the calls of `remote_update` until it returns false (`updates_spec`).
-/

namespace Client.ObjContainer

open Batch

variable {T C M : Type} [DecidableEq T]

/-! ## One pass -/

/-- An object is offered, and whether it was taken is returned. -/
def Remote.offer (k : Remote C M) (c : C) (data : Option k.Data) : Bool × Option k.Data :=
  ((k.getData c data).result, (k.getData c data).data)

omit [DecidableEq T] in
theorem marked_cons (t : T) (o : Obj T C) (objs : List (Obj T C)) :
    marked t (o :: objs) = if o.mark t then o.content :: marked t objs else marked t objs := by
  rw [marked, List.filter_cons]
  split <;> rfl

theorem mark_unmark (t u : T) (o : Obj T C) :
    (o.unmarkForRemoteUpdate t).mark u = (o.mark u && decide (u ≠ t)) := rfl

/-- What stays marked is what the round keeps; the marks of the other data types are as before. -/
theorem loop_spec {k : Remote C M} {t : T} (hmore : ∀ c data, (k.getData c data).checkMore = true)
    (objs : List (Obj T C)) (data : Option k.Data) :
    offerAll k.offer (marked t objs) data =
        ⟨(loop k t objs data).result, marked t (loop k t objs data).objs,
          (loop k t objs data).data⟩ ∧
      ∀ u ≠ t, marked u (loop k t objs data).objs = marked u objs := by
  induction objs generalizing data with
  | nil => exact ⟨rfl, fun u _ => rfl⟩
  | cons o objs ih =>
    rw [marked_cons, loop]
    cases hmark : o.mark t with
    | false =>
      obtain ⟨hround, hother⟩ := ih data
      refine ⟨?_, fun u hu => ?_⟩
      · show offerAll k.offer (marked t objs) data =
          ⟨(loop k t objs data).result, marked t (o :: (loop k t objs data).objs), _⟩
        rw [marked_cons, hmark]
        exact hround
      · show marked u (o :: (loop k t objs data).objs) = _
        rw [marked_cons, marked_cons, hother u hu]
    | true =>
      obtain ⟨hround, hother⟩ := ih (k.getData o.content data).data
      rw [if_pos rfl, if_pos rfl, offerAll]
      simp only [hmore, if_true]
      refine ⟨?_, fun u hu => ?_⟩
      · rw [Remote.offer, hround, marked_cons]
        cases hresult : (k.getData o.content data).result with
        | true =>
          have hgone : (o.unmarkForRemoteUpdate t).mark t = false := by
            rw [mark_unmark, decide_eq_false (fun h => h rfl), Bool.and_false]
          rw [if_pos rfl, if_pos rfl, hgone, if_neg Bool.false_ne_true]
        | false => rw [if_neg Bool.false_ne_true, if_neg Bool.false_ne_true, hmark, if_pos rfl]
      · have hsame : (o.unmarkForRemoteUpdate t).mark u = o.mark u := by
          rw [mark_unmark, decide_eq_true hu, Bool.and_true]
        rw [marked_cons, marked_cons, hother u hu]
        cases (k.getData o.content data).result with
        | true =>
          rw [if_pos rfl, hsame]
          rfl
        | false => rfl

/-- A pass that takes nothing changes nothing. -/
theorem loop_of_not_result {k : Remote C M} {t : T} {objs : List (Obj T C)} {data : Option k.Data}
    (h : (loop k t objs data).result = false) : (loop k t objs data).objs = objs := by
  induction objs generalizing data with
  | nil => rfl
  | cons o objs ih =>
    rw [loop] at h ⊢
    split at h
    · rename_i hmark
      rw [if_pos hmark]
      simp only at h ⊢
      split at h
      · rename_i hmore
        obtain ⟨hresult, hrest⟩ := Bool.or_eq_false_iff.mp h
        rw [if_pos hmore, hresult, if_neg Bool.false_ne_true, ih hrest]
      · rename_i hmore
        rw [if_neg hmore]
        show (if _ then _ else _) :: objs = _
        rw [show (k.getData o.content data).result = false from h, if_neg Bool.false_ne_true]
    · rename_i hmark
      rw [if_neg hmark]
      show o :: (loop k t objs data).objs = _
      rw [ih h]

/-! ## Calls of `remote_update` -/

section
variable {remote : T → Remote C M}
  (hmore : ∀ t c data, ((remote t).getData c data).checkMore = true)

/-- No object is taken for the data type. -/
def Quiet (remote : T → Remote C M) (objs : List (Obj T C)) (t : T) : Prop :=
  offerAll (remote t).offer (marked t objs) none = ⟨false, marked t objs, none⟩

include hmore

theorem doRemoteUpdate_quiet {t : T} {objs : List (Obj T C)} (h : Quiet remote objs t) :
    doRemoteUpdate (remote t) t objs = ⟨false, objs, []⟩ := by
  have hround := (loop_spec (t := t) (hmore t) objs none).1
  rw [h, Round.mk.injEq] at hround
  rw [doRemoteUpdate, loop_of_not_result hround.1.symm, ← hround.1, ← hround.2.2]
  rfl

/-- A data type for which nothing is taken is passed over. -/
theorem remoteUpdate_quiet {pre types : List T} {objs : List (Obj T C)}
    (h : ∀ t ∈ pre, Quiet remote objs t) :
    remoteUpdate remote (pre ++ types) objs = remoteUpdate remote types objs := by
  induction pre with
  | nil => rfl
  | cons t pre ih =>
    rw [List.cons_append, remoteUpdate, doRemoteUpdate_quiet hmore (h t List.mem_cons_self)]
    simp only [Bool.false_eq_true, if_false, List.nil_append]
    exact ih fun u hu => h u (List.mem_cons_of_mem _ hu)

/-- A call that takes something for a data type. -/
theorem doRemoteUpdate_taken {t : T} {objs : List (Obj T C)} {kept : List C}
    {d : (remote t).Data}
    (h : offerAll (remote t).offer (marked t objs) none = ⟨true, kept, some d⟩) :
    ∃ objs', doRemoteUpdate (remote t) t objs = ⟨true, objs', [(remote t).send d]⟩ ∧
      marked t objs' = kept ∧ ∀ u ≠ t, marked u objs' = marked u objs := by
  obtain ⟨hround, hother⟩ := loop_spec (t := t) (hmore t) objs none
  rw [h, Round.mk.injEq] at hround
  refine ⟨_, ?_, hround.2.1.symm, hother⟩
  rw [doRemoteUpdate, ← hround.1, ← hround.2.2]
  rfl

/-- The rounds of one data type, when nothing is taken for those before it. -/
theorem updates_type {pre types : List T} {t : T} (hnodup : (pre ++ t :: types).Nodup)
    {l rest : List C} {ds : List (remote t).Data} (hrounds : Rounds (remote t).offer l ds rest) :
    ∀ objs : List (Obj T C), marked t objs = l → (∀ u ∈ pre, Quiet remote objs u) →
      ∃ objs', (∀ u ≠ t, marked u objs' = marked u objs) ∧ marked t objs' = rest ∧
        Quiet remote objs' t ∧
        ∀ fuel, updates remote (pre ++ t :: types) (ds.length + fuel) objs =
          (updates remote (pre ++ t :: types) fuel objs').map
            fun r => (ds.map (remote t).send ++ r.1, r.2) := by
  induction hrounds with
  | done hround =>
    intro objs hmarked _
    subst hmarked
    refine ⟨objs, fun u _ => rfl, rfl, hround, fun fuel => ?_⟩
    rw [List.length_nil, Nat.zero_add]
    exact Option.map_id'.symm
  | @again l kept rest d ds hround _ ih =>
    intro objs hmarked hpre
    subst hmarked
    obtain ⟨objs₁, hupdate, hkept, hother⟩ := doRemoteUpdate_taken hmore hround
    have hne : ∀ u ∈ pre, u ≠ t := by
      rintro u hu rfl
      exact (List.nodup_append.mp hnodup).2.2 u hu u List.mem_cons_self rfl
    have hpre₁ : ∀ u ∈ pre, Quiet remote objs₁ u := by
      intro u hu
      rw [Quiet, hother u (hne u hu)]
      exact hpre u hu
    obtain ⟨objs', hother', hrest, hquiet, hupdates⟩ := ih objs₁ hkept hpre₁
    refine ⟨objs', fun u hu => (hother' u hu).trans (hother u hu), hrest, hquiet, fun fuel => ?_⟩
    have hcall : remoteUpdate remote (pre ++ t :: types) objs =
        ⟨true, objs₁, [(remote t).send d]⟩ := by
      rw [remoteUpdate_quiet hmore hpre, remoteUpdate, hupdate]
      rfl
    rw [List.length_cons, Nat.add_right_comm, updates, hcall]
    simp only [if_true]
    rw [hupdates fuel, Option.map_map]
    rfl

/-- **The calls of `remote_update` end**, and what they send is what the rounds of the data types
deliver. -/
theorem updates_spec {types : List T} : ∀ {pre : List T}, (pre ++ types).Nodup →
    ∀ {objs : List (Obj T C)} {ds : (t : T) → List (remote t).Data} {rest : T → List C},
      (∀ t ∈ pre, Quiet remote objs t) →
      (∀ t ∈ types, Rounds (remote t).offer (marked t objs) (ds t) (rest t)) →
      ∃ n objs', (∀ t ∈ types, marked t objs' = rest t) ∧
        (∀ t ∉ types, marked t objs' = marked t objs) ∧
        ∀ fuel, updates remote (pre ++ types) (n + fuel) objs =
          some (types.flatMap fun t => (ds t).map (remote t).send, objs') := by
  induction types with
  | nil =>
    intro pre _ objs ds rest hpre _
    refine ⟨1, objs, fun t ht => absurd ht List.not_mem_nil, fun t _ => rfl, fun fuel => ?_⟩
    rw [Nat.add_comm, updates, remoteUpdate_quiet hmore hpre, remoteUpdate]
    rfl
  | cons t types ih =>
    intro pre hnodup objs ds rest hpre hrounds
    obtain ⟨objs₁, hother, hrest, hquiet, hupdates⟩ :=
      updates_type hmore hnodup (hrounds t List.mem_cons_self) objs rfl hpre
    have happend : pre ++ t :: types = pre ++ [t] ++ types := (List.append_cons pre t types)
    have hnodup' : (pre ++ [t] ++ types).Nodup := happend ▸ hnodup
    obtain ⟨hpret, -, hdisjoint⟩ := List.nodup_append.mp hnodup'
    have hne : ∀ u ∈ pre, u ≠ t := by
      rintro u hu rfl
      exact (List.nodup_append.mp hpret).2.2 u hu u List.mem_cons_self rfl
    have hne' : ∀ u ∈ types, u ≠ t := by
      rintro u hu rfl
      exact hdisjoint u (List.mem_append_right _ List.mem_cons_self) u hu rfl
    have hpre' : ∀ u ∈ pre ++ [t], Quiet remote objs₁ u := by
      intro u hu
      rcases List.mem_append.mp hu with hu | hu
      · rw [Quiet, hother u (hne u hu)]
        exact hpre u hu
      · rw [List.mem_singleton.mp hu]
        exact hquiet
    obtain ⟨n, objs', hmarked, hleft, hrun⟩ := ih hnodup' hpre' fun u hu => by
      rw [hother u (hne' u hu)]
      exact hrounds u (List.mem_cons_of_mem _ hu)
    refine ⟨(ds t).length + n, objs', ?_, ?_, fun fuel => ?_⟩
    · refine List.forall_mem_cons.mpr ⟨?_, hmarked⟩
      by_cases ht : t ∈ types
      · exact absurd rfl (hne' t ht)
      · exact (hleft t ht).trans hrest
    · intro u hu
      have hut : u ≠ t := List.ne_of_not_mem_cons hu
      exact (hleft u (List.not_mem_of_not_mem_cons hu)).trans (hother u hut)
    · rw [Nat.add_assoc, hupdates, happend, hrun]
      rfl

end

end Client.ObjContainer
