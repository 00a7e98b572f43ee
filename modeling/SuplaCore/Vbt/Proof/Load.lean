import SuplaCore.Vbt.Proof.Episode

/-!
# Reloading triggers

`load` keeps the live triggers that `equal` finds unchanged, tells the scheduler to erase the
others and adds what is missing. What is live afterwards is what is stored, unchanged triggers keep
their object, and the scheduler fires nothing that was removed (`reload`), in the runs in which

* no stored trigger differs from the live one only where `equal` does not look
  (`AgreesBeyondEqual`),
* a trigger that was erased is not handed to the scheduler afterwards, by a change that came before
  the load,
* and the scheduler is not about to fire one when the load returns.

Without this a change of the duration is never seen, and a removed trigger fires
(`stale_after_load`).
-/

namespace Vbt

variable {V : Values}

/-! ## Equality of definitions -/

/-- Two definitions agree on what `equal` does not compare. -/
def AgreesBeyondEqual (a b : TriggerDef V) : Prop :=
  a.condition.onChange = b.condition.onChange ∧
  a.condition.durationSec = b.condition.durationSec ∧
  ∀ x y, a.actionConfig.parameters = some (.rgbw x) → b.actionConfig.parameters = some (.rgbw y) →
    x.command = y.command ∧ x.whiteTemperature = y.whiteTemperature

theorem equalParameters_refl (a : Option ActionParameters) : equalParameters a a = true := by
  rcases a with _ | _ | _ | _ | _ | _ <;> simp [equalParameters, ActionParameters.equal]

theorem TriggerDef.equal_refl (a : TriggerDef V) : a.equal a = true := by
  simp [TriggerDef.equal, ConditionDef.equal, ActionConfig.equal, ActivePeriod.equal,
    equalParameters_refl]

theorem eq_of_equalParameters {a b : Option ActionParameters} (h : equalParameters a b = true)
    (hrgbw : ∀ x y, a = some (.rgbw x) → b = some (.rgbw y) →
      x.command = y.command ∧ x.whiteTemperature = y.whiteTemperature) : a = b := by
  unfold equalParameters at h
  split at h
  · rfl
  · rename_i x y
    unfold ActionParameters.equal at h
    split at h
    · simp_all
    · rename_i x y
      obtain ⟨hcommand, htemperature⟩ := hrgbw x y rfl rfl
      cases x
      cases y
      simp_all
    · simp_all
    · simp_all
    · simp_all
    · cases h
  · cases h

/-- Definitions that `equal` takes for the same and that agree on the rest are the same. -/
theorem TriggerDef.eq_of_equal {a b : TriggerDef V} (h : a.equal b = true)
    (hbeyond : AgreesBeyondEqual a b) : a = b := by
  obtain ⟨honChange, hduration, hrgbw⟩ := hbeyond
  simp only [TriggerDef.equal, ConditionDef.equal, ActionConfig.equal, ActivePeriod.equal,
    Bool.and_eq_true, beq_iff_eq, decide_eq_true_eq] at h
  obtain ⟨⟨⟨⟨hid, hchannel⟩, ⟨⟨⟨hvalue, hvar⟩, hop⟩, hrop⟩, hrvalue⟩,
    ⟨⟨⟨⟨haction, hsubject⟩, hsubjectId⟩, hdevice⟩, hsource⟩, hparams⟩,
    ⟨⟨hfrom, hto⟩, hhours⟩, hastro⟩ := h
  have hparams' := eq_of_equalParameters hparams hrgbw
  obtain ⟨_, _, ⟨⟩, ⟨⟩, ⟨⟩⟩ := a
  obtain ⟨_, _, ⟨⟩, ⟨⟩, ⟨⟩⟩ := b
  simp_all

/-! ## Definitions of live triggers -/

/-- The definition of the trigger `p`. -/
def defAt (objects : List (Trigger V)) (p : Nat) : Option (TriggerDef V) :=
  (objects[p]?).map Trigger.definition

/-- The definitions of a list of triggers. -/
def defsOf (objects : List (Trigger V)) (live : List Nat) : List (TriggerDef V) :=
  live.filterMap (defAt objects)

theorem defAt_lt {objects : List (Trigger V)} {p : Nat} (h : p < objects.length) :
    ∃ d, defAt objects p = some d :=
  ⟨_, congrArg (Option.map Trigger.definition) (List.getElem?_eq_getElem h)⟩

theorem defAt_append {objects : List (Trigger V)} {p : Nat} (h : p < objects.length)
    (more : List (Trigger V)) : defAt (objects ++ more) p = defAt objects p := by
  rw [defAt, List.getElem?_append_left h, defAt]

theorem defsOf_congr {objects objects' : List (Trigger V)} {live : List Nat}
    (h : ∀ p ∈ live, defAt objects' p = defAt objects p) :
    defsOf objects' live = defsOf objects live :=
  List.filterMap_congr h

theorem mem_defsOf {objects : List (Trigger V)} {live : List Nat} {d : TriggerDef V} :
    d ∈ defsOf objects live ↔ ∃ p ∈ live, defAt objects p = some d :=
  List.mem_filterMap

theorem any_live_iff {objects : List (Trigger V)} {live : List Nat} {i : Int} :
    (live.any fun p => (objects[p]?).any fun t => decide (t.id = i)) = true ↔
      i ∈ (defsOf objects live).map TriggerDef.id := by
  simp only [List.any_eq_true, Option.any_eq_true, decide_eq_true_eq, List.mem_map, mem_defsOf]
  constructor
  · rintro ⟨p, hp, t, ht, rfl⟩
    exact ⟨t.definition, ⟨p, hp, by rw [defAt, ht]; rfl⟩, rfl⟩
  · rintro ⟨d, ⟨p, hp, hd⟩, rfl⟩
    obtain ⟨t, ht, rfl⟩ := Option.map_eq_some_iff.mp hd
    exact ⟨p, hp, t, ht, rfl⟩

/-- **The second loop of `load`** appends the stored triggers whose identifier is missing, and
nothing else changes. -/
theorem addMissing_spec : ∀ {stored : List (TriggerDef V)} {objects : List (Trigger V)}
    {live : List Nat}, (stored.map TriggerDef.id).Nodup → live.Nodup →
    (∀ p ∈ live, p < objects.length) →
    let r := addMissing objects live stored
    r.2.Nodup ∧ (∀ p ∈ r.2, p < r.1.length) ∧ live ⊆ r.2 ∧ objects <+: r.1 ∧
      defsOf r.1 r.2 = defsOf objects live ++
        stored.filter fun n => n.id ∉ (defsOf objects live).map TriggerDef.id := by
  intro stored
  induction stored with
  | nil =>
    intro objects live _ hnodup hvalid
    exact ⟨hnodup, hvalid, fun _ h => h, List.prefix_rfl, (List.append_nil _).symm⟩
  | cons n stored ih =>
    intro objects live hids hnodup hvalid
    rw [List.map_cons, List.nodup_cons] at hids
    obtain ⟨hn, hids⟩ := hids
    rw [addMissing]
    split
    · rename_i hany
      rw [any_live_iff] at hany
      rw [List.filter_cons_of_neg (by simpa using hany)]
      exact ih hids hnodup hvalid
    · rename_i hany
      rw [any_live_iff] at hany
      have hfresh : objects.length ∉ live := fun h => Nat.lt_irrefl _ (hvalid _ h)
      have hnodup' : (live ++ [objects.length]).Nodup := by
        refine List.nodup_append.mpr ⟨hnodup, List.nodup_singleton _, fun a ha b hb hab => ?_⟩
        rw [List.mem_singleton.mp hb] at hab
        exact hfresh (hab ▸ ha)
      have hvalid' : ∀ p ∈ live ++ [objects.length], p < (objects ++ [Trigger.ofDef n]).length := by
        intro p hp
        rw [List.length_append, List.length_singleton]
        rcases List.mem_append.mp hp with hp | hp
        · exact Nat.lt_succ_of_lt (hvalid p hp)
        · rw [List.mem_singleton.mp hp]
          exact Nat.lt_succ_self _
      obtain ⟨h₁, h₂, h₃, h₄, h₅⟩ := ih hids hnodup' hvalid'
      have hdefs : defsOf (objects ++ [.ofDef n]) (live ++ [objects.length]) =
          defsOf objects live ++ [n] := by
        rw [defsOf, List.filterMap_append]
        refine congrArg₂ (· ++ ·) (defsOf_congr fun p hp => defAt_append (hvalid p hp) _) ?_
        simp [defAt, Trigger.ofDef, Trigger.definition, Condition.ofDef]
      refine ⟨h₁, h₂, fun p hp => h₃ (List.mem_append_left _ hp),
        (List.prefix_append _ _).trans h₄, ?_⟩
      rw [h₅, hdefs, List.filter_cons_of_pos (by simpa using hany), List.append_assoc,
        List.singleton_append]
      refine congrArg (fun l => defsOf objects live ++ n :: l) (List.filter_congr fun m hm => ?_)
      have hne : m.id ≠ n.id := fun h => hn (h ▸ List.mem_map_of_mem hm)
      simp [hne]

/-! ## The first loop -/

section Unchanged

variable {stored : List (TriggerDef V)} {t : Trigger V}

/-- A trigger that is still stored as it is counts as unchanged. -/
theorem unchanged_of_mem (hids : (stored.map TriggerDef.id).Nodup) (h : t.definition ∈ stored) :
    unchanged stored t = true := by
  unfold unchanged
  cases hfind : stored.find? fun n => decide (t.id = n.id) with
  | none => exact absurd (List.find?_eq_none.mp hfind _ h) (by simp [Trigger.definition])
  | some n =>
    have hid : t.id = n.id := by simpa using List.find?_some hfind
    have hn : n = t.definition :=
      List.inj_on_of_nodup_map hids (List.mem_of_find?_eq_some hfind) h hid.symm
    rw [hn]
    exact TriggerDef.equal_refl _

/-- Without look-alikes, what counts as unchanged is. -/
theorem mem_of_unchanged
    (hlike : ∀ n ∈ stored, n.equal t.definition = true → AgreesBeyondEqual n t.definition)
    (h : unchanged stored t = true) : t.definition ∈ stored := by
  unfold unchanged at h
  split at h
  · rename_i n hfind
    have hn := List.mem_of_find?_eq_some hfind
    rw [← TriggerDef.eq_of_equal h (hlike n hn h)]
    exact hn
  · cases h

end Unchanged

/-! ## The invariant -/

/-- A load under way: `done` are the triggers that it has compared. -/
structure Loads (s : State V) (l : Loading V) (done : List Nat) : Prop where
  live : s.live = done ++ l.todo
  ids : (l.stored.map TriggerDef.id).Nodup
  sub : l.kept.Sublist done
  dropped : ∀ p ∈ done, p ∉ l.kept → p ∈ s.erased
  stored : ∀ p ∈ l.kept, ∀ d, defAt s.objects p = some d → d ∈ l.stored
  keeps : ∀ p ∈ done, ∀ d, defAt s.objects p = some d → d ∈ l.stored → p ∈ l.kept

structure Sane (s : State V) : Prop where
  nodup : s.live.Nodup
  valid : ∀ p ∈ s.live, p < s.objects.length
  ids : ((defsOf s.objects s.live).map TriggerDef.id).Nodup
  loads : ∀ l, s.loading = some l → ∃ done, Loads s l done
  delayed : s.delayed.Nodup
  delayedErased : ∀ p ∈ s.delayed, p ∉ s.erased
  removedErased : ∀ p ∈ s.removed, p ∈ s.erased
  readyRemoved : ∀ p ∈ s.ready, p ∉ s.removed

/-- The conditions on the steps of a run (module doc). -/
def Careful (s : State V) : Op V → Prop
  | .loadNext => ∀ l p todo t, s.loading = some l → l.todo = p :: todo → s.objects[p]? = some t →
      ∀ n ∈ l.stored, n.equal t.definition = true → AgreesBeyondEqual n t.definition
  | .publish i => ∀ batch, s.batches[i]? = some batch → ∀ p ∈ batch, p ∉ s.erased
  | .loadFinish => ∀ p ∈ s.ready, p ∉ s.erased
  | _ => True

theorem Sane.start : Sane (start ([] : List (TriggerDef V))) where
  nodup := List.nodup_nil
  valid _ h := by cases h
  ids := List.nodup_nil
  loads _ h := by cases h
  delayed := List.nodup_nil
  delayedErased _ h := by cases h
  removedErased _ h := by cases h
  readyRemoved _ h := by cases h

/-- Steps that leave the definitions and a running load alone. -/
theorem Sane.keep {s s' : State V} (hs : Sane s) (hlive : s'.live = s.live)
    (hdefs : ∀ p, defAt s'.objects p = defAt s.objects p) (hloading : s'.loading = s.loading)
    (herased : s'.erased = s.erased) (hremoved : s'.removed = s.removed)
    (hdelayed : s'.delayed.Nodup) (hnot : ∀ p ∈ s'.delayed, p ∉ s.erased)
    (hready : ∀ p ∈ s'.ready, p ∉ s.removed) : Sane s' where
  nodup := hlive ▸ hs.nodup
  valid p hp := by
    obtain ⟨d, hd⟩ := defAt_lt (hs.valid p (hlive ▸ hp))
    rw [← hdefs p] at hd
    obtain ⟨t, ht, -⟩ := Option.map_eq_some_iff.mp hd
    exact (List.getElem?_eq_some_iff.mp ht).1
  ids := by
    rw [hlive, defsOf_congr fun p _ => hdefs p]
    exact hs.ids
  loads l hl := by
    obtain ⟨done, h⟩ := hs.loads l (hloading ▸ hl)
    refine ⟨done, hlive ▸ h.live, h.ids, h.sub, ?_, ?_, ?_⟩
    · rw [herased]
      exact h.dropped
    · intro p hp d hd
      exact h.stored p hp d (hdefs p ▸ hd)
    · intro p hp d hd
      exact h.keeps p hp d (hdefs p ▸ hd)
  delayed := hdelayed
  delayedErased p hp := herased ▸ hnot p hp
  removedErased p hp := herased ▸ hs.removedErased p (hremoved ▸ hp)
  readyRemoved p hp := hremoved ▸ hready p hp

/-! ## Steps -/

section Steps

variable {cal : Calendar} {s s' : State V}

theorem Sane.change (hs : Sane s) (channelId : Int) (old new : ChannelValue V) :
    Sane (onValueChanged cal s channelId old new) := by
  obtain ⟨hobjects, -, -⟩ := onValueChanged_spec cal channelId old new hs.nodup
  refine hs.keep rfl ?_ rfl rfl rfl hs.delayed hs.delayedErased hs.readyRemoved
  intro p
  rw [defAt, hobjects p, defAt]
  split
  · rw [Option.map_map]
    exact congrArg (fun f => (s.objects[p]?).map f)
      (funext fun t => Trigger.metByValues_definition t _ _ _ _)
  · rfl

theorem defAt_collect (hdelayed : s.delayed.Nodup) (p : Nat) :
    defAt (collect cal s).objects p = defAt s.objects p := by
  rw [defAt, (collect_spec cal hdelayed).1 p, defAt]
  split
  · rw [Option.map_map]
    exact congrArg (fun f => (s.objects[p]?).map f)
      (funext fun t => Trigger.metByTime_definition t _)
  · rfl

theorem Sane.collect (hs : Sane s) : Sane (collect cal s) := by
  obtain ⟨-, hdelayed, hready, -⟩ := collect_spec cal hs.delayed
  refine hs.keep rfl (defAt_collect hs.delayed) rfl rfl rfl ?_ ?_ ?_
  · rw [hdelayed]
    exact hs.delayed.filter _
  · intro p hp
    rw [hdelayed] at hp
    exact hs.delayedErased p (List.mem_filter.mp hp).1
  · -- what a pass finds ready was waiting, so no load has erased it
    intro p hp hremoved
    rw [hready] at hp
    exact hs.delayedErased p (List.mem_filter.mp hp).1 (hs.removedErased p hremoved)

theorem Sane.loadNext (hs : Sane s) {l : Loading V} {p : Nat} {todo : List Nat}
    (hl : s.loading = some l) (htodo : l.todo = p :: todo) (hok : Careful s .loadNext) :
    Sane (loadNext s l p todo) := by
  obtain ⟨done, h⟩ := hs.loads l hl
  have hlive : s.live = (done ++ [p]) ++ todo := by
    rw [h.live, htodo, List.append_assoc, List.singleton_append]
  have hp : p ∈ s.live := by
    rw [hlive]
    simp
  obtain ⟨t, ht⟩ : ∃ t, s.objects[p]? = some t := ⟨_, List.getElem?_eq_getElem (hs.valid p hp)⟩
  have hdef : defAt s.objects p = some t.definition := by rw [defAt, ht]; rfl
  unfold Vbt.loadNext
  rw [ht]
  dsimp only
  split
  · rename_i hsame
    have hmem := mem_of_unchanged (hok l p todo t hl htodo ht) hsame
    refine ⟨hs.nodup, hs.valid, hs.ids, ?_, hs.delayed, hs.delayedErased, hs.removedErased,
      hs.readyRemoved⟩
    rintro _ ⟨⟩
    refine ⟨done ++ [p], hlive, h.ids, h.sub.append (List.Sublist.refl _), ?_, ?_, ?_⟩
    · intro q hq hnot
      simp only [List.mem_append, List.mem_singleton, not_or] at hq hnot
      exact h.dropped q (hq.resolve_right hnot.2) hnot.1
    · intro q hq d hd
      rcases List.mem_append.mp hq with hq | hq
      · exact h.stored q hq d hd
      · rw [List.mem_singleton.mp hq, hdef] at hd
        cases hd
        exact hmem
    · intro q hq d hd hmemd
      rcases List.mem_append.mp hq with hq | hq
      · exact List.mem_append_left _ (h.keeps q hq d hd hmemd)
      · exact List.mem_append_right _ hq
  · rename_i hchanged
    refine ⟨hs.nodup, hs.valid, hs.ids, ?_, hs.delayed.filter _, ?_,
      fun q hq => List.mem_cons_of_mem _ (hs.removedErased q hq), hs.readyRemoved⟩
    · rintro _ ⟨⟩
      refine ⟨done ++ [p], hlive, h.ids, h.sub.trans (List.sublist_append_left _ _), ?_, h.stored,
        ?_⟩
      · intro q hq hnot
        rcases List.mem_append.mp hq with hq | hq
        · exact List.mem_cons_of_mem _ (h.dropped q hq hnot)
        · rw [List.mem_singleton.mp hq]
          exact List.mem_cons_self
      · intro q hq d hd hmem
        rcases List.mem_append.mp hq with hq | hq
        · exact h.keeps q hq d hd hmem
        · rw [List.mem_singleton.mp hq, hdef] at hd
          cases hd
          exact absurd (unchanged_of_mem h.ids hmem) hchanged
    · intro q hq
      obtain ⟨hq, hne⟩ := List.mem_filter.mp hq
      rw [List.mem_cons, not_or]
      exact ⟨of_decide_eq_true hne, hs.delayedErased q hq⟩

/-- What is live when a load returns. -/
structure Loaded (s : State V) (l : Loading V) (s' : State V) : Prop where
  nodup : s'.live.Nodup
  valid : ∀ p ∈ s'.live, p < s'.objects.length
  stored : (defsOf s'.objects s'.live).Perm l.stored
  keeps : ∀ p ∈ s.live, ∀ d ∈ l.stored, defAt s.objects p = some d → p ∈ s'.live
  objects : s.objects <+: s'.objects

theorem Sane.loaded (hs : Sane s) {l : Loading V} (hl : s.loading = some l)
    (htodo : l.todo = []) : Loaded s l (loadFinish s l) := by
  obtain ⟨done, h⟩ := hs.loads l hl
  have hlive : s.live = done := by rw [h.live, htodo, List.append_nil]
  subst hlive
  obtain ⟨h₁, h₂, h₃, h₄, h₅⟩ := addMissing_spec h.ids (h.sub.nodup hs.nodup)
    fun p hp => hs.valid p (h.sub.subset hp)
  refine ⟨h₁, h₂, ?_, fun p hp d hd hdef => h₃ (h.keeps p hp d hdef hd), h₄⟩
  have hkept : ((defsOf s.objects l.kept).map TriggerDef.id).Nodup :=
    (((h.sub.filterMap (defAt s.objects)).map TriggerDef.id)).nodup hs.ids
  have hsub : ∀ d ∈ defsOf s.objects l.kept, d ∈ l.stored := by
    intro d hd
    obtain ⟨p, hp, hdef⟩ := mem_defsOf.mp hd
    exact h.stored p hp d hdef
  exact (List.Perm.of_eq h₅).trans (Collect.perm_merge hsub hkept h.ids)

theorem Sane.loadFinish (hs : Sane s) {l : Loading V} (hl : s.loading = some l)
    (htodo : l.todo = []) (hok : Careful s .loadFinish) : Sane (loadFinish s l) := by
  have hloaded := hs.loaded hl htodo
  obtain ⟨done, h⟩ := hs.loads l hl
  refine ⟨hloaded.nodup, hloaded.valid, ?_, fun _ h => (by cases h), hs.delayed, hs.delayedErased,
    ?_, ?_⟩
  · exact (hloaded.stored.map TriggerDef.id).nodup_iff.mpr h.ids
  · intro p hp
    rcases List.mem_append.mp hp with hp | hp
    · obtain ⟨hp, hnot⟩ := List.mem_filter.mp hp
      rw [h.live, htodo, List.append_nil] at hp
      exact h.dropped p hp (of_decide_eq_true hnot)
    · exact hs.removedErased p hp
  · intro p hp hremoved
    rcases List.mem_append.mp hremoved with hmem | hmem
    · obtain ⟨hlive, hnot⟩ := List.mem_filter.mp hmem
      rw [h.live, htodo, List.append_nil] at hlive
      exact hok p hp (h.dropped p hlive (of_decide_eq_true hnot))
    · exact hs.readyRemoved p hp hmem

/-- Every step of a careful run keeps the triggers sane. -/
theorem Sane.step {op : Op V} (hs : Sane s) (hok : Careful s op) (hstep : step cal s op = some s') :
    Sane s' := by
  cases op with
  | tick us =>
    cases hstep
    exact hs.keep rfl (fun _ => rfl) rfl rfl rfl hs.delayed hs.delayedErased hs.readyRemoved
  | change channelId old new =>
    simp only [Vbt.step] at hstep
    split at hstep
    · cases hstep
      exact hs.change channelId old new
    · cases hstep
  | publish i =>
    simp only [Vbt.step] at hstep
    split at hstep
    · cases hstep
    · rename_i batch hbatch
      cases hstep
      refine hs.keep rfl (fun _ => rfl) rfl rfl rfl (nodup_addDelayed hs.delayed _) ?_
        hs.readyRemoved
      intro p hp
      rcases mem_addDelayed.mp hp with hp | hp
      · exact hs.delayedErased p hp
      · exact hok batch hbatch p hp
  | collect =>
    simp only [Vbt.step] at hstep
    split at hstep
    · cases hstep
      exact hs.collect
    · cases hstep
  | fire =>
    simp only [Vbt.step] at hstep
    split at hstep
    · cases hstep
    · rename_i p ready hready
      cases hstep
      refine hs.keep rfl (fun _ => rfl) rfl rfl rfl hs.delayed hs.delayedErased fun q hq => ?_
      exact hs.readyRemoved q (hready ▸ List.mem_cons_of_mem _ hq)
  | loadBegin stored =>
    simp only [Vbt.step] at hstep
    split at hstep
    · rename_i hids
      cases hstep
      refine ⟨hs.nodup, hs.valid, hs.ids, ?_, hs.delayed, hs.delayedErased, hs.removedErased,
        hs.readyRemoved⟩
      rintro _ ⟨⟩
      exact ⟨[], rfl, hids.2, List.Sublist.refl _, fun _ h => (by cases h), fun _ h => (by cases h),
        fun _ h => by cases h⟩
    · cases hstep
  | loadNext =>
    simp only [Vbt.step] at hstep
    split at hstep
    · cases hstep
    · rename_i l hl
      split at hstep
      · cases hstep
      · rename_i p todo htodo
        cases hstep
        exact hs.loadNext hl htodo hok
  | loadFinish =>
    simp only [Vbt.step] at hstep
    split at hstep
    · cases hstep
    · rename_i l hl
      split at hstep
      · rename_i htodo
        cases hstep
        exact hs.loadFinish hl (List.isEmpty_iff.mp htodo) hok
      · cases hstep

end Steps

/-! ## A whole load -/

section Whole

variable {cal : Calendar} {s s' : State V}

theorem Sane.reach {s : State V} (h : Sys.Reach (machine cal []) Careful s) : Sane s := by
  refine Sys.Reach.invariant ?_ ?_ h
  · rintro s rfl
    exact Sane.start
  · intro s s' op hok hs hstep
    exact hs.step hok hstep

/-- The load of `stored` is under way, and the triggers are still those of `s₀`. -/
def Underway (s₀ : State V) (stored : List (TriggerDef V)) (s : State V) : Prop :=
  (∃ l, s.loading = some l ∧ l.stored = stored) ∧ s.live = s₀.live ∧
    ∀ p, defAt s.objects p = defAt s₀.objects p

/-- Whatever happens during a load, the live triggers and their definitions stay. -/
theorem Underway.step {s₀ : State V} {stored : List (TriggerDef V)} {op : Op V}
    (h : Underway s₀ stored s) (hs : Sane s) (hop : op ≠ .loadFinish)
    (hstep : step cal s op = some s') : Underway s₀ stored s' := by
  obtain ⟨⟨l, hl, hstored⟩, hlive, hdefs⟩ := h
  cases op with
  | tick us =>
    cases hstep
    exact ⟨⟨l, hl, hstored⟩, hlive, hdefs⟩
  | change channelId old new => simp [Vbt.step, hl] at hstep
  | publish i =>
    simp only [Vbt.step] at hstep
    split at hstep
    · cases hstep
    · cases hstep
      exact ⟨⟨l, hl, hstored⟩, hlive, hdefs⟩
  | collect =>
    simp only [Vbt.step] at hstep
    split at hstep
    · cases hstep
      exact ⟨⟨l, hl, hstored⟩, hlive, fun p => (defAt_collect hs.delayed p).trans (hdefs p)⟩
    · cases hstep
  | fire =>
    simp only [Vbt.step] at hstep
    split at hstep
    · cases hstep
    · cases hstep
      exact ⟨⟨l, hl, hstored⟩, hlive, hdefs⟩
  | loadBegin stored => simp [Vbt.step, hl] at hstep
  | loadNext =>
    simp only [Vbt.step, hl] at hstep
    split at hstep
    · cases hstep
    · cases hstep
      unfold Vbt.loadNext
      split
      · exact ⟨⟨l, hl, hstored⟩, hlive, hdefs⟩
      · split
        · exact ⟨⟨_, rfl, hstored⟩, hlive, hdefs⟩
        · exact ⟨⟨_, rfl, hstored⟩, hlive, hdefs⟩
  | loadFinish => exact absurd rfl hop

theorem removed_mono {op : Op V} (hstep : step cal s op = some s') : s.removed ⊆ s'.removed := by
  cases op <;> simp only [Vbt.step] at hstep <;> repeat' split at hstep
  all_goals cases hstep
  all_goals first | exact List.Subset.refl _ | exact List.subset_append_right _ _ | skip
  unfold Vbt.loadNext
  repeat' split
  all_goals exact List.Subset.refl _

/-- The comparison of a trigger touches no object. -/
theorem loadNext_objects (hstep : step cal s .loadNext = some s') : s'.objects = s.objects := by
  simp only [Vbt.step] at hstep
  repeat' split at hstep
  all_goals cases hstep
  unfold Vbt.loadNext
  repeat' split
  all_goals rfl

/-- **Reloading makes the live triggers equal to the stored ones**: exactly one for each, with
every field as stored; what did not change keeps its object, which the load does not touch; and
nothing that the load dropped is fired by the scheduler after it has returned. -/
theorem reload (cal : Calendar) (stored : List (TriggerDef V)) (s₀ s₁ s₂ s₃ s₄ : State V)
    (hbefore : Sys.Reach (machine cal []) Careful s₀)
    (hbegin : step cal s₀ (.loadBegin stored) = some s₁)
    (hduring : Sys.Reach ((machine cal []).startingAt s₁)
      (fun s op => Careful s op ∧ op ≠ .loadFinish) s₂)
    (hcareful : Careful s₂ .loadFinish) (hfinish : step cal s₂ .loadFinish = some s₃)
    (hafter : Sys.Reach ((machine cal []).startingAt s₃) Careful s₄) :
    s₃.live.Nodup ∧ (defsOf s₃.objects s₃.live).Perm stored ∧
    (∀ p ∈ s₀.live, ∀ d ∈ stored, defAt s₀.objects p = some d → p ∈ s₃.live) ∧
    (s₁.objects = s₀.objects ∧
      (∀ s s' : State V, step cal s .loadNext = some s' → s'.objects = s.objects) ∧
      s₂.objects <+: s₃.objects) ∧
    ∀ p ∈ s₀.live, p ∉ s₃.live → ∀ s₅, step cal s₄ .fire = some s₅ →
      s₅.trace ≠ .fired p :: s₄.trace := by
  have hreach₁ := hbefore.act (.loadBegin stored) trivial hbegin
  have hreach₂ := hreach₁.trans (fun _ _ h => h.1) hduring
  have hsane₂ := Sane.reach hreach₂
  have hreach₃ := hreach₂.act .loadFinish hcareful hfinish
  have hsane₄ := Sane.reach (hreach₃.trans (fun _ _ h => h) hafter)
  obtain ⟨hobjects, hunderway₁⟩ : s₁.objects = s₀.objects ∧ Underway s₀ stored s₁ := by
    simp only [Vbt.step] at hbegin
    split at hbegin
    · cases hbegin
      exact ⟨rfl, ⟨_, rfl, rfl⟩, rfl, fun _ => rfl⟩
    · cases hbegin
  -- the load up to its last step
  have hunderway : Underway s₀ stored s₂ := by
    have hboth : Sane s₂ ∧ Underway s₀ stored s₂ := by
      refine Sys.Reach.invariant (P := fun s => Sane s ∧ Underway s₀ stored s) ?_ ?_ hduring
      · rintro s rfl
        exact ⟨Sane.reach hreach₁, hunderway₁⟩
      · rintro s s' op ⟨hok, hop⟩ ⟨hs, hu⟩ hstep
        exact ⟨hs.step hok hstep, hu.step hs hop hstep⟩
    exact hboth.2
  obtain ⟨⟨l, hl, rfl⟩, hlive, hdefs⟩ := hunderway
  simp only [Vbt.step, hl] at hfinish
  split at hfinish
  · rename_i htodo
    cases hfinish
    have hloaded := hsane₂.loaded hl (List.isEmpty_iff.mp htodo)
    refine ⟨hloaded.nodup, hloaded.stored, ?_, ⟨hobjects, fun _ _ => loadNext_objects,
      hloaded.objects⟩, ?_⟩
    · intro p hp d hd hdef
      exact hloaded.keeps p (hlive ▸ hp) d hd ((hdefs p).trans hdef)
    · -- what is not live any more was removed, and stays so
      intro p hp hnot s₅ hfire htrace
      have hkept : p ∉ l.kept := by
        intro hk
        obtain ⟨done, h⟩ := hsane₂.loads l hl
        obtain ⟨d, hd⟩ := defAt_lt (hsane₂.valid p (hlive ▸ hp))
        exact hnot (hloaded.keeps p (hlive ▸ hp) d (h.stored p hk d hd) hd)
      have hremoved : p ∈ s₄.removed := by
        refine Sys.Reach.invariant (P := fun s : State V => p ∈ s.removed) ?_ ?_ hafter
        · rintro s rfl
          exact List.mem_append_left _ (List.mem_filter.mpr ⟨hlive ▸ hp, decide_eq_true hkept⟩)
        · intro s s' op _ hmem hstep
          exact removed_mono hstep hmem
      simp only [Vbt.step] at hfire
      split at hfire
      · cases hfire
      · rename_i q ready hready
        cases hfire
        obtain ⟨hqp, -⟩ := List.cons.inj htrace
        cases hqp
        exact hsane₄.readyRemoved p (hready ▸ List.mem_cons_self) hremoved
  · cases hfinish

end Whole

/-! ## Loads that go wrong -/

/-- `aboveOne` with another identifier. -/
def aboveOneToo : TriggerDef wholeNumbers := { aboveOne with id := 2 }

/-- `aboveOne` with a duration of a minute. -/
def aboveOneLong : TriggerDef wholeNumbers :=
  { aboveOne with condition := { aboveOne.condition with durationSec := 60 } }

/-- The second trigger is removed while both wait; the first one keeps its deadline and is ready a
second later. -/
theorem reload_one_removed : ∃ s₃ s₄ : State wholeNumbers,
    (defsOf s₃.objects s₃.live).Perm [aboveOne] ∧ s₃.live = [0] ∧ s₄.ready = [0] ∧
    (s₃.objects[0]?).bind (fun t => t.condition.conditionMetAt) = some 1000000 ∧
    ∀ s₅, step always s₄ .fire = some s₅ → s₅.trace ≠ .fired 1 :: s₄.trace := by
  have hbefore : Sys.Reach (machine always []) Careful _ :=
    ((((Sys.Reach.init rfl).act (.loadBegin [aboveOne, aboveOneToo]) trivial rfl).act
      .loadFinish (fun _ h => by cases h) rfl).act (changeFive 0 2) trivial rfl).act
      (.publish 0) (fun batch h p hp hmem => by cases hmem) rfl
  have halike : ∀ d : TriggerDef wholeNumbers, d = aboveOne ∨ d = aboveOneToo →
      ∀ n ∈ [aboveOne], n.equal d = true → AgreesBeyondEqual n d := by
    rintro d (rfl | rfl) n hn -
    · cases List.mem_singleton.mp hn
      exact ⟨rfl, rfl, fun x y h => by cases h⟩
    · cases List.mem_singleton.mp hn
      exact ⟨rfl, rfl, fun x y h => by cases h⟩
  obtain ⟨-, hperm, -, -, hfires⟩ := reload always [aboveOne] _ _ _ _ _ hbefore rfl
    (((Sys.Reach.init rfl).act .loadNext
      ⟨by rintro l p todo t ⟨⟩ ⟨⟩ ⟨⟩; exact halike _ (.inl rfl), by intro h; cases h⟩ rfl).act
        .loadNext
      ⟨by rintro l p todo t ⟨⟩ ⟨⟩ ⟨⟩; exact halike _ (.inr rfl), by intro h; cases h⟩ rfl)
    (fun _ h => by cases h) rfl
    (((Sys.Reach.init rfl).act (.tick 1000000) trivial rfl).act .collect trivial rfl)
  exact ⟨_, _, hperm, rfl, by rfl, rfl, hfires 1 (by decide) (by decide)⟩

/-- A trigger whose stored duration became a minute keeps its old duration; and a trigger that was
removed while a change was on its way to the scheduler fires afterwards. -/
theorem stale_after_load :
    (∃ s₀ s₁ s₂ s₃ : State wholeNumbers, Sys.Reach (machine always []) Sys.Any s₀ ∧
      step always s₀ (.loadBegin [aboveOneLong]) = some s₁ ∧
      Sys.Reach ((machine always []).startingAt s₁) (fun _ op => op ≠ .loadFinish) s₂ ∧
      step always s₂ .loadFinish = some s₃ ∧
      ¬ (defsOf s₃.objects s₃.live).Perm [aboveOneLong]) ∧
    ∃ s₀ s₁ s₂ s₃ s₄ s₅ : State wholeNumbers, Sys.Reach (machine always []) Sys.Any s₀ ∧
      step always s₀ (.loadBegin []) = some s₁ ∧
      Sys.Reach ((machine always []).startingAt s₁) (fun _ op => op ≠ .loadFinish) s₂ ∧
      step always s₂ .loadFinish = some s₃ ∧
      Sys.Reach ((machine always []).startingAt s₃) Sys.Any s₄ ∧
      step always s₄ .fire = some s₅ ∧ 0 ∈ s₀.live ∧ 0 ∉ s₃.live ∧
      s₅.trace = .fired 0 :: s₄.trace := by
  constructor
  · have hrun : (machine always []).run (start []) [.loadBegin [aboveOne], .loadFinish] = some _ :=
      rfl
    refine ⟨_, _, _, _, Sys.Reach.run (.init rfl) hrun, rfl,
      (Sys.Reach.init rfl).act .loadNext (by intro h; cases h) rfl, rfl, ?_⟩
    intro hperm
    have hmem : aboveOneLong ∈ [aboveOne] := hperm.symm.subset List.mem_cons_self
    exact absurd (List.mem_singleton.mp hmem) (by decide)
  · have hrun : (machine always []).run (start [])
        [.loadBegin [aboveOne], .loadFinish, changeFive 0 2] = some _ := rfl
    exact ⟨_, _, _, _, _, _, Sys.Reach.run (.init rfl) hrun, rfl,
      (Sys.Reach.init rfl).act .loadNext (by intro h; cases h) rfl, rfl,
      (((Sys.Reach.init rfl).act (.publish 0) trivial rfl).act (.tick 1000000) trivial rfl).act
        .collect trivial rfl, rfl, by decide, by decide, rfl⟩

end Vbt
