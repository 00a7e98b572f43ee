import SuplaCore.Vbt.System

/-!
# What the loops over triggers do

The loop of `on_value_changed` and the one of a scheduler pass ask each trigger once; what they
collect are the triggers whose answer at the beginning asks for it (`onValueChanged_spec`,
`collect_spec`).
-/

namespace Vbt

variable {V : Values} {cal : Calendar}

/-! ## Definitions stay -/

@[simp]
theorem Condition.metByChange_definition (c : Condition V) (now : Nat) (old new : V.D) :
    (c.metByChange now old new).1.definition = c.definition := by
  unfold Condition.metByChange
  dsimp only
  repeat' split
  all_goals rfl

@[simp]
theorem Trigger.metByValues_definition (t : Trigger V) (now : Nat) (channelId : Int)
    (old new : ChannelValue V) :
    (t.metByValues now channelId old new).1.definition = t.definition := by
  have hcondition :
      (t.condition.metByValues now old new).1.definition = t.condition.definition := by
    unfold Condition.metByValues
    dsimp only
    repeat' split
    · rfl
    · exact Condition.metByChange_definition _ _ _ _
    · rfl
  unfold Trigger.metByValues
  split
  · simp only [Trigger.definition, hcondition]
  · rfl

@[simp]
theorem Trigger.metByTime_definition (t : Trigger V) (now : Nat) :
    (t.metByTime now).1.definition = t.definition := by
  have hcondition : (t.condition.metByTime now).1.definition = t.condition.definition := by
    unfold Condition.metByTime
    dsimp only
    repeat' split
    all_goals rfl
  simp only [Trigger.metByTime, Trigger.definition, hcondition]

/-! ## The loop of a change -/

section Change

variable {now : Nat} {channelId : Int} {old new : ChannelValue V}

/-- The answer of a trigger to a change. -/
def answer (now : Nat) (channelId : Int) (old new : ChannelValue V) (t : Option (Trigger V)) :
    Option Int :=
  t.bind fun t => (t.metByValues now channelId old new).2

/-- The condition is met, but there is time left. -/
def waits (now : Nat) (channelId : Int) (old new : ChannelValue V) (t : Option (Trigger V)) :
    Bool :=
  match answer now channelId old new t with
  | some left => decide (0 < left)
  | none => false

/-- The condition is met, no time is left and the active period allows it. -/
def matchesNow (cal : Calendar) (now : Nat) (channelId : Int) (old new : ChannelValue V)
    (t : Option (Trigger V)) : Bool :=
  match answer now channelId old new t with
  | some left => decide (left ≤ 0) && t.any fun t => cal t.activePeriod now
  | none => false

theorem matchOne_objects (m : Matches V) (p q : Nat) :
    (matchOne cal now channelId old new m p).objects[q]? =
      if q = p then (m.objects[p]?).map fun t => (t.metByValues now channelId old new).1
      else m.objects[q]? := by
  unfold matchOne
  cases ht : m.objects[p]? with
  | none =>
    simp only [Option.map_none]
    split
    · rename_i hqp
      rw [hqp, ht]
    · rfl
  | some t =>
    have hset : (m.objects.set p (t.metByValues now channelId old new).1)[q]? =
        if q = p then some (t.metByValues now channelId old new).1 else m.objects[q]? := by
      split
      · rename_i hqp
        rw [hqp, List.getElem?_set_self (List.getElem?_eq_some_iff.mp ht).1]
      · rename_i hqp
        rw [List.getElem?_set_ne fun h => hqp h.symm]
    simp only [Option.map_some]
    split
    · exact hset
    · split
      · exact hset
      · split <;> exact hset

theorem matchOne_delayed (m : Matches V) (p : Nat) :
    (matchOne cal now channelId old new m p).delayed =
      m.delayed ++ if waits now channelId old new m.objects[p]? then [p] else [] := by
  unfold matchOne waits answer
  cases m.objects[p]? with
  | none => simp
  | some t =>
    simp only [Option.bind_some]
    rcases Option.eq_none_or_eq_some (t.metByValues now channelId old new).2 with hr | ⟨left, hr⟩
    · simp [hr]
    · simp only [hr]
      by_cases hleft : 0 < left
      · simp [hleft]
      · simp only [hleft, if_false, decide_false, Bool.false_eq_true, List.append_nil]
        split <;> rfl

theorem matchOne_matched (m : Matches V) (p : Nat) :
    (matchOne cal now channelId old new m p).matched =
      m.matched ++ if matchesNow cal now channelId old new m.objects[p]? then [p] else [] := by
  unfold matchOne matchesNow answer
  cases m.objects[p]? with
  | none => simp
  | some t =>
    simp only [Option.bind_some, Option.any_some]
    rcases Option.eq_none_or_eq_some (t.metByValues now channelId old new).2 with hr | ⟨left, hr⟩
    · simp [hr]
    · simp only [hr]
      by_cases hleft : 0 < left
      · simp [hleft, Int.not_le.mpr hleft]
      · simp only [if_neg hleft, Int.not_lt.mp hleft, decide_true, Bool.true_and]
        split <;> simp_all

/-- **A change asks every live trigger once.** -/
theorem onValueChanged_spec (cal : Calendar) (channelId : Int) (old new : ChannelValue V)
    {s : State V} (hlive : s.live.Nodup) :
    (∀ q, (onValueChanged cal s channelId old new).objects[q]? =
      if q ∈ s.live then (s.objects[q]?).map fun t => (t.metByValues s.clock channelId old new).1
      else s.objects[q]?) ∧
    (onValueChanged cal s channelId old new).batches =
      (if (s.live.filter fun q => waits s.clock channelId old new s.objects[q]?).isEmpty
        then s.batches
        else s.batches ++ [s.live.filter fun q => waits s.clock channelId old new s.objects[q]?]) ∧
    (onValueChanged cal s channelId old new).trace =
      ((s.live.filter fun q => matchesNow cal s.clock channelId old new s.objects[q]?).map
        (.handed s.clock)).reverse ++ .changed s.clock channelId old new :: s.trace := by
  have hget : ∀ (m : Matches V) (p q : Nat),
      (matchOne cal s.clock channelId old new m p).objects[q]? =
        if q = p then
          (m.objects[p]?).map fun t => (t.metByValues s.clock channelId old new).1
        else m.objects[q]? := matchOne_objects
  have hdelayed := Collect.out_foldl_local (fun m q => m.objects[q]?) Matches.delayed hget
    matchOne_delayed s.live ⟨s.objects, [], []⟩ hlive
  have hmatched := Collect.out_foldl_local (fun m q => m.objects[q]?) Matches.matched hget
    matchOne_matched s.live ⟨s.objects, [], []⟩ hlive
  rw [List.nil_append] at hdelayed hmatched
  refine ⟨Collect.get_foldl_local (fun (m : Matches V) q => m.objects[q]?) hget s.live
    ⟨s.objects, [], []⟩ hlive, ?_, ?_⟩
  · simp only [onValueChanged, hdelayed]
  · simp only [onValueChanged, hmatched]

end Change

/-! ## The loop of a pass -/

section Pass

variable {now : Nat}

/-- There is time left, so the trigger stays with the scheduler. -/
def stays (now : Nat) (t : Option (Trigger V)) : Bool :=
  t.any fun t => decide (0 < (t.metByTime now).2.2)

/-- The deadline has passed and the active period allows it. -/
def readyNow (cal : Calendar) (now : Nat) (t : Option (Trigger V)) : Bool :=
  t.any fun t => !decide (0 < (t.metByTime now).2.2) && (t.metByTime now).2.1 &&
    cal t.activePeriod now

theorem pollOne_objects (m : Pass V) (p q : Nat) :
    (pollOne cal now m p).objects[q]? =
      if q = p then (m.objects[p]?).map fun t => (t.metByTime now).1 else m.objects[q]? := by
  unfold pollOne
  cases ht : m.objects[p]? with
  | none =>
    simp only [Option.map_none]
    split
    · rename_i hqp
      rw [hqp, ht]
    · rfl
  | some t =>
    have hset : (m.objects.set p (t.metByTime now).1)[q]? =
        if q = p then some (t.metByTime now).1 else m.objects[q]? := by
      split
      · rename_i hqp
        rw [hqp, List.getElem?_set_self (List.getElem?_eq_some_iff.mp ht).1]
      · rename_i hqp
        rw [List.getElem?_set_ne fun h => hqp h.symm]
    simp only [Option.map_some]
    split
    · split <;> exact hset
    · exact hset

theorem pollOne_delayed (m : Pass V) (p : Nat) :
    (pollOne cal now m p).delayed =
      m.delayed ++ if stays now m.objects[p]? then [p] else [] := by
  unfold pollOne stays
  cases m.objects[p]? with
  | none => simp
  | some t =>
    simp only [Option.any_some, decide_eq_true_eq]
    by_cases hleft : 0 < (t.metByTime now).2.2
    · rw [if_neg (by omega), if_pos hleft]
    · rw [if_pos (by omega), if_neg hleft, List.append_nil]
      split <;> rfl

theorem pollOne_ready (m : Pass V) (p : Nat) :
    (pollOne cal now m p).ready =
      m.ready ++ if readyNow cal now m.objects[p]? then [p] else [] := by
  unfold pollOne readyNow
  cases m.objects[p]? with
  | none => simp
  | some t =>
    simp only [Option.any_some]
    by_cases hleft : 0 < (t.metByTime now).2.2
    · rw [if_neg (by omega)]
      simp [hleft]
    · rw [if_pos (by omega)]
      simp only [hleft, decide_false, Bool.not_false, Bool.true_and]
      split <;> simp_all

/-- **A pass asks every trigger that waits once.** -/
theorem collect_spec (cal : Calendar) {s : State V} (hdelayed : s.delayed.Nodup) :
    (∀ q, (collect cal s).objects[q]? =
      if q ∈ s.delayed then (s.objects[q]?).map fun t => (t.metByTime s.clock).1
      else s.objects[q]?) ∧
    (collect cal s).delayed = s.delayed.filter (fun q => stays s.clock s.objects[q]?) ∧
    (collect cal s).ready = s.delayed.filter (fun q => readyNow cal s.clock s.objects[q]?) ∧
    (collect cal s).trace =
      ((s.delayed.filter fun q => readyNow cal s.clock s.objects[q]?).map
        (.handed s.clock)).reverse ++ s.trace := by
  have hget : ∀ (m : Pass V) (p q : Nat), (pollOne cal s.clock m p).objects[q]? =
      if q = p then (m.objects[p]?).map fun t => (t.metByTime s.clock).1
      else m.objects[q]? := pollOne_objects
  have hstays := Collect.out_foldl_local (fun m q => m.objects[q]?) Pass.delayed hget
    pollOne_delayed s.delayed ⟨s.objects, [], []⟩ hdelayed
  have hready := Collect.out_foldl_local (fun m q => m.objects[q]?) Pass.ready hget
    pollOne_ready s.delayed ⟨s.objects, [], []⟩ hdelayed
  rw [List.nil_append] at hstays hready
  refine ⟨Collect.get_foldl_local (fun (m : Pass V) q => m.objects[q]?) hget s.delayed
    ⟨s.objects, [], []⟩ hdelayed, hstays, hready, ?_⟩
  simp only [collect, hready]

end Pass

/-! ## Waiting triggers -/

theorem mem_addDelayed {delayed batch : List Nat} {p : Nat} :
    p ∈ addDelayed delayed batch ↔ p ∈ delayed ∨ p ∈ batch :=
  Collect.mem_foldl _ fun _ _ _ _ h => eq_of_beq h

/-- The list of delayed triggers has no duplicates. -/
theorem nodup_addDelayed {delayed : List Nat} (h : delayed.Nodup) (batch : List Nat) :
    (addDelayed delayed batch).Nodup := by
  have hpair : delayed.Pairwise fun a b => (a == b) = false :=
    h.imp fun hne => beq_eq_false_iff_ne.mpr hne
  exact (Collect.pairwise_foldl _ (fun a b => BEq.comm) hpair).imp
    fun hne => beq_eq_false_iff_ne.mp hne

end Vbt
