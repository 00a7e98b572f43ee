import SuplaCore.Vbt.Proof.System

/-!
# Held episodes of a delayed trigger

What a trigger with a duration sees is a history of changes of its channel and of hand-overs to
`fire`. `Tracks` ties the memory of its condition to that history: a pending deadline belongs to
the change that set it, no later change failed the operator against the value saved then, and
nothing was handed over since. One lemma for each question that the condition is asked
(`Tracks.change`, `Tracks.time`) keeps it.

A change that comes when the deadline has passed, but before the scheduler has looked, is handed to
`fire` at once, and the deadline stays: the episode is handed over again (`fired_twice`). Runs
without such a change hand over once per episode (`once_per_episode`).
-/

namespace Vbt

variable {V : Values}

/-! ## Histories -/

/-- What a trigger sees: a change of its variable on its channel, and being handed to `fire`. -/
inductive Happening (V : Values)
  | change (time : Nat) (old new : V.D)
  | handed (time : Nat)

/-- A change of the variable `var`, if both values have it. -/
def changeOf (var : V.Var) (time : Nat) (old new : ChannelValue V) : Option (Happening V) :=
  match old var, new var with
  | some oldv, some newv => some (.change time oldv newv)
  | _, _ => none

/-- What an event is to the trigger `p` with the definition `d`. -/
def happening (d : TriggerDef V) (p : Nat) : Event V → Option (Happening V)
  | .changed time channelId old new =>
    if channelId = d.channelId then changeOf d.condition.varName time old new else none
  | .handed time q => if q = p then some (.handed time) else none
  | .fired _ => none

/-- The history of a trigger, newest first. -/
def history (d : TriggerDef V) (p : Nat) (s : State V) : List (Happening V) :=
  s.trace.filterMap (happening d p)

/-- A hand-over at `t` after the history `past` belongs to an episode: some change met the operator
against the value before it, at least the duration ago, less than a millisecond apart; since then no
change failed the operator against that value and nothing was handed over. -/
def Held (d : ConditionDef V) (t : Nat) (past : List (Happening V)) : Prop :=
  ∃ since s old new before, past = since ++ .change s old new :: before ∧
    operatorMet d.op old new d.value = true ∧ s + d.duration < t + 1000 ∧
    (∀ t' old' new', .change t' old' new' ∈ since → operatorMet d.op old new' d.value = true) ∧
    ∀ t', .handed t' ∉ since

/-- With a resume clause, some change since the last hand-over met it. -/
def Resumed (d : ConditionDef V) (past : List (Happening V)) : Prop :=
  ∀ since t before, past = since ++ .handed t :: before →
    ∃ t' old new, .change t' old new ∈ since ∧ operatorMet d.resumeOp old new d.resumeValue = true

/-- **Once per held episode**: every hand-over belongs to an episode of its own, and a resume lies
between two of them. -/
def OncePerEpisode (d : ConditionDef V) (h : List (Happening V)) : Prop :=
  ∀ after t past, h = after ++ .handed t :: past →
    Held d t past ∧ (d.resumeOp ≠ .unknown → Resumed d past)

/-- A change that still meets the operator when the deadline has passed. -/
def Late (c : Condition V) (now : Nat) (new : V.D) : Prop :=
  ∃ deadline, c.conditionMetAt = some deadline ∧ msLeft deadline now ≤ 0 ∧
    operatorMet c.definition.op c.savedOldValue new c.definition.value = true

/-! ## Growing histories -/

theorem OncePerEpisode.change {d : ConditionDef V} {h : List (Happening V)}
    (hh : OncePerEpisode d h) (t : Nat) (old new : V.D) :
    OncePerEpisode d (.change t old new :: h) := by
  intro after t' past heq
  cases after with
  | nil => cases heq
  | cons e after =>
    obtain ⟨-, rfl⟩ := List.cons.inj heq
    exact hh after t' past rfl

theorem OncePerEpisode.handed {d : ConditionDef V} {h : List (Happening V)}
    (hh : OncePerEpisode d h) {t : Nat} (hheld : Held d t h)
    (hresumed : d.resumeOp ≠ .unknown → Resumed d h) : OncePerEpisode d (.handed t :: h) := by
  intro after t' past heq
  cases after with
  | nil =>
    cases heq
    exact ⟨hheld, hresumed⟩
  | cons e after =>
    obtain ⟨-, rfl⟩ := List.cons.inj heq
    exact hh after t' past rfl

theorem Resumed.change {d : ConditionDef V} {h : List (Happening V)} (hh : Resumed d h) (t : Nat)
    (old new : V.D) : Resumed d (.change t old new :: h) := by
  intro since t' before heq
  cases since with
  | nil => cases heq
  | cons e since =>
    obtain ⟨rfl, rfl⟩ := List.cons.inj heq
    obtain ⟨t'', o, n, hmem, hmet⟩ := hh since t' before rfl
    exact ⟨t'', o, n, List.mem_cons_of_mem _ hmem, hmet⟩

theorem Resumed.met {d : ConditionDef V} {t : Nat} {old new : V.D} (h : List (Happening V))
    (hmet : operatorMet d.resumeOp old new d.resumeValue = true) :
    Resumed d (.change t old new :: h) := by
  intro since t' before heq
  cases since with
  | nil => cases heq
  | cons e since =>
    obtain ⟨rfl, -⟩ := List.cons.inj heq
    exact ⟨t, old, new, List.mem_cons_self, hmet⟩

/-! ## The memory of a condition -/

/-- The deadline of a condition, told from its history. -/
def Pending (c : Condition V) (deadline : Nat) (h : List (Happening V)) : Prop :=
  ∃ since s new before, h = since ++ .change s c.savedOldValue new :: before ∧
    operatorMet c.definition.op c.savedOldValue new c.definition.value = true ∧
    deadline = s + c.definition.duration ∧
    (∀ t' old' new', .change t' old' new' ∈ since →
      operatorMet c.definition.op c.savedOldValue new' c.definition.value = true) ∧
    ∀ t', .handed t' ∉ since

theorem Pending.change {c : Condition V} {deadline : Nat} {h : List (Happening V)}
    (hp : Pending c deadline h) (t : Nat) (old : V.D) {new : V.D}
    (hmet : operatorMet c.definition.op c.savedOldValue new c.definition.value = true) :
    Pending c deadline (.change t old new :: h) := by
  obtain ⟨since, s, n, before, rfl, hstart, hd, hkept, hno⟩ := hp
  refine ⟨.change t old new :: since, s, n, before, rfl, hstart, hd, ?_, ?_⟩
  · intro t' old' new' hmem
    rcases List.mem_cons.mp hmem with heq | hmem
    · cases heq
      exact hmet
    · exact hkept t' old' new' hmem
  · intro t' hmem
    rcases List.mem_cons.mp hmem with heq | hmem
    · cases heq
    · exact hno t' hmem

/-- A deadline that has passed ends an episode. -/
theorem Pending.held {c : Condition V} {deadline now : Nat} {h : List (Happening V)}
    (hp : Pending c deadline h) (hleft : msLeft deadline now ≤ 0) : Held c.definition now h := by
  obtain ⟨since, s, n, before, rfl, hstart, hd, hkept, hno⟩ := hp
  refine ⟨since, s, c.savedOldValue, n, before, rfl, hstart, ?_, hkept, hno⟩
  unfold msLeft at hleft
  have : (deadline : Int) - now < 1000 := by
    by_contra hge
    have hdiv := Int.tdiv_eq_ediv_of_nonneg (a := (deadline : Int) - now) (b := 1000) (by omega)
    omega
  omega

/-- The memory of a condition agrees with the history of its trigger. -/
structure Tracks (c : Condition V) (h : List (Happening V)) : Prop where
  active : c.conditionMetAt.isSome = true → c.paused = false
  pending : ∀ deadline, c.conditionMetAt = some deadline → Pending c deadline h
  resumed : c.definition.resumeOp ≠ .unknown → c.paused = true ∨ Resumed c.definition h
  episodes : OncePerEpisode c.definition h

theorem Tracks.ofDef (d : ConditionDef V) : Tracks (.ofDef d) [] where
  active h := by cases h
  pending _ h := by cases h
  resumed _ := .inr fun since t before h => by cases since <;> cases h
  episodes after t past h := by cases after <;> cases h

theorem msLeft_duration {d : ConditionDef V} (now : Nat) (hd : 0 < d.durationSec) :
    0 < msLeft (now + d.duration) now := by
  unfold msLeft ConditionDef.duration
  have hpos : 0 < d.durationSec.toNat := by omega
  have hdiv := Int.tdiv_eq_ediv_of_nonneg
    (a := ((now + d.durationSec.toNat * 1000000 : Nat) : Int) - now) (b := 1000) (by omega)
  omega

/-- **A change of the value** keeps the agreement, and time is left if it met the condition and is
not late. -/
theorem Tracks.change {c : Condition V} {h : List (Happening V)} (hc : Tracks c h) {now : Nat}
    {old new : V.D} (hto : c.definition.onChange = false) (hd : 0 < c.definition.durationSec) :
    Tracks (c.metByChange now old new).1 (.change now old new :: h) ∧
      ∀ left, (c.metByChange now old new).2 = some left → left ≤ 0 → Late c now new := by
  have hepisodes := hc.episodes.change now old new
  have hresumed : c.definition.resumeOp ≠ .unknown →
      c.paused = true ∨ Resumed c.definition (.change now old new :: h) := by
    intro hop
    rcases hc.resumed hop with hp | hr
    · exact .inl hp
    · exact .inr (hr.change now old new)
  unfold Condition.metByChange
  simp only [hto, Bool.false_eq_true, if_false]
  split
  · -- paused: only a resume is looked for, and no deadline stays
    rename_i hpaused
    refine ⟨⟨fun h => (by cases h), fun _ h => (by cases h), ?_, hepisodes⟩, fun _ h => by cases h⟩
    intro _
    cases hmet : operatorMet c.definition.resumeOp old new c.definition.resumeValue with
    | false => exact .inl rfl
    | true => exact .inr (Resumed.met h hmet)
  · rename_i hpaused
    have hpaused' : c.paused = false := by simpa using hpaused
    split
    · rename_i hmet
      split
      · -- the deadline stands, and the operator still holds against the saved value
        rename_i deadline hdeadline
        have hmet' : operatorMet c.definition.op c.savedOldValue new c.definition.value = true := by
          simpa [Condition.reference, hdeadline] using hmet
        refine ⟨⟨hc.active, ?_, hresumed, hepisodes⟩, ?_⟩
        · intro dl hdl
          exact (hc.pending dl hdl).change now old hmet'
        · rintro left ⟨⟩ hle
          exact ⟨deadline, hdeadline, hle, hmet'⟩
      · -- a new episode begins
        rename_i hnone
        have hmet' : operatorMet c.definition.op old new c.definition.value = true := by
          simpa [Condition.reference, hnone] using hmet
        refine ⟨⟨fun _ => hpaused', ?_, hresumed, hepisodes⟩, ?_⟩
        · rintro dl ⟨⟩
          exact ⟨[], now, new, h, rfl, hmet', rfl, fun _ _ _ h => (by cases h),
            fun _ h => by cases h⟩
        · rintro left ⟨⟩ hle
          exact absurd (msLeft_duration now hd) (Int.not_lt.mpr hle)
    · -- the operator failed: the episode is over
      exact ⟨⟨fun h => (by cases h), fun _ h => (by cases h), hresumed, hepisodes⟩,
        fun _ h => by cases h⟩

/-- **The scheduler's question** keeps the agreement, whether the trigger is then handed to `fire`
or its active period forbids it. -/
theorem Tracks.time {c : Condition V} {h : List (Happening V)} (hc : Tracks c h) (now : Nat) :
    Tracks (c.metByTime now).1 h ∧
      ((c.metByTime now).2.1 = true → Tracks (c.metByTime now).1 (.handed now :: h)) := by
  unfold Condition.metByTime
  split
  · exact ⟨hc, fun h => by cases h⟩
  · rename_i deadline hdeadline
    dsimp only
    split
    · rename_i hleft
      have hpaused : c.paused = false := hc.active (by rw [hdeadline]; rfl)
      have hheld := (hc.pending deadline hdeadline).held hleft
      have hresume : c.definition.resumeOp ≠ .unknown → Resumed c.definition h := by
        intro hop
        rcases hc.resumed hop with hp | hr
        · rw [hpaused] at hp
          cases hp
        · exact hr
      constructor
      · refine ⟨fun h => (by cases h), fun _ h => (by cases h), ?_, hc.episodes⟩
        intro hop
        left
        simp [show c.definition.resumeOp ≠ .unknown from hop]
      · intro _
        refine ⟨fun h => (by cases h), fun _ h => (by cases h), ?_,
          hc.episodes.handed hheld hresume⟩
        intro hop
        left
        simp [show c.definition.resumeOp ≠ .unknown from hop]
    · exact ⟨hc, fun h => by cases h⟩

/-- A condition without an operator is never asked. -/
theorem Tracks.unknown {c : Condition V} {h : List (Happening V)} (hc : Tracks c h)
    (hop : c.definition.op = .unknown) (t : Nat) (old new : V.D) :
    Tracks c (.change t old new :: h) := by
  refine ⟨hc.active, ?_, ?_, hc.episodes.change t old new⟩
  · intro deadline hdeadline
    obtain ⟨_, _, n, _, _, hmet, _⟩ := hc.pending deadline hdeadline
    rw [hop] at hmet
    simp [operatorMet] at hmet
  · intro hres
    rcases hc.resumed hres with hp | hr
    · exact .inl hp
    · exact .inr (hr.change t old new)

/-- The values that a condition is asked about. -/
theorem Tracks.values {c : Condition V} {h : List (Happening V)} (hc : Tracks c h) {now : Nat}
    {old new : ChannelValue V} (hto : c.definition.onChange = false)
    (hd : 0 < c.definition.durationSec) :
    Tracks (c.metByValues now old new).1
      ((changeOf c.definition.varName now old new).toList ++ h) ∧
      ∀ left, (c.metByValues now old new).2 = some left → left ≤ 0 →
        ∃ newv, new c.definition.varName = some newv ∧ Late c now newv := by
  unfold Condition.metByValues changeOf
  by_cases hop : c.definition.op = .unknown
  · simp only [hto, hop, Bool.not_false, decide_true, Bool.and_self, if_true]
    refine ⟨?_, fun _ h => by cases h⟩
    split
    · exact hc.unknown hop _ _ _
    · exact hc
  · simp only [hto, hop, Bool.not_false, decide_false, Bool.and_false, Bool.false_eq_true, if_false]
    cases hold : old c.definition.varName with
    | none => exact ⟨hc, fun _ h => by cases h⟩
    | some oldv =>
      cases hnew : new c.definition.varName with
      | none => exact ⟨hc, fun _ h => by cases h⟩
      | some newv =>
        obtain ⟨htracks, hlate⟩ := @Tracks.change _ _ _ hc now oldv newv hto hd
        exact ⟨htracks, fun left hleft hle => ⟨newv, rfl, hlate left hleft hle⟩⟩

/-! ## Hand-overs of one trigger -/

theorem handed_none (d : TriggerDef V) {p t : Nat} {l : List Nat} (h : p ∉ l) :
    (l.map (Event.handed t)).reverse.filterMap (happening d p) = [] := by
  rw [List.filterMap_eq_nil_iff]
  intro e he
  obtain ⟨q, hq, rfl⟩ := List.mem_map.mp (List.mem_reverse.mp he)
  exact if_neg fun heq : q = p => h (heq ▸ hq)

theorem handed_one (d : TriggerDef V) {p t : Nat} {l : List Nat} (hl : l.Nodup) (h : p ∈ l) :
    (l.map (Event.handed t)).reverse.filterMap (happening d p) = [.handed t] := by
  obtain ⟨l₁, l₂, rfl⟩ := List.append_of_mem h
  obtain ⟨hl₁, hl₂, hdisj⟩ := List.nodup_append.mp hl
  have h₁ : p ∉ l₁ := fun hp => hdisj p hp p List.mem_cons_self rfl
  have h₂ : p ∉ l₂ := (List.nodup_cons.mp hl₂).1
  rw [List.map_append, List.map_cons, List.reverse_append, List.reverse_cons, List.filterMap_append,
    List.filterMap_append, handed_none d h₁, handed_none d h₂, List.append_nil, List.nil_append]
  simp [happening]

/-! ## Runs -/

/-- The trigger `p` is live, and its condition agrees with its history. -/
structure Watched (d : TriggerDef V) (p : Nat) (s : State V) : Prop where
  nodup : s.live.Nodup
  live : p ∈ s.live
  delayed : s.delayed.Nodup
  idle : s.loading = none
  tracks : ∃ t, s.objects[p]? = some t ∧ t.definition = d ∧ Tracks t.condition (history d p s)

/-- No `load` is running. -/
def NoLoad : Op V → Prop
  | .loadBegin _ | .loadNext | .loadFinish => False
  | _ => True

/-- A change comes in time for the trigger `p`: while its active period allows it to fire, not
after its deadline, unless the operator fails against the saved value. -/
def InTime (cal : Calendar) (p : Nat) (s : State V) : Op V → Prop
  | .change channelId _ new => ∀ t newv, s.objects[p]? = some t → channelId = t.channelId →
      new t.condition.definition.varName = some newv → cal t.activePeriod s.clock = true →
        ¬ Late t.condition s.clock newv
  | _ => True

theorem Watched.start {stored : List (TriggerDef V)} {p : Nat} {d : TriggerDef V}
    (hp : stored[p]? = some d) : Watched d p (start stored) where
  nodup := List.nodup_range
  live := List.mem_range.mpr (List.getElem?_eq_some_iff.mp hp).1
  delayed := List.nodup_nil
  idle := rfl
  tracks := ⟨.ofDef d, by simp [Vbt.start, hp], rfl, Tracks.ofDef _⟩

section Steps

variable {cal : Calendar} {d : TriggerDef V} {p : Nat} {s : State V}

theorem Watched.change (hw : Watched d p s) {channelId : Int} {old new : ChannelValue V}
    (hto : d.condition.onChange = false) (hd : 0 < d.condition.durationSec)
    (htime : InTime cal p s (.change channelId old new)) :
    Watched d p (onValueChanged cal s channelId old new) := by
  obtain ⟨t, ht, hdef, htracks⟩ := hw.tracks
  subst hdef
  obtain ⟨hobjects, -, htrace⟩ := onValueChanged_spec cal channelId old new hw.nodup
  have hobject := hobjects p
  rw [if_pos hw.live, ht] at hobject
  -- what the trigger answers and remembers
  obtain ⟨htracks', hanswer⟩ : Tracks (t.metByValues s.clock channelId old new).1.condition
      ((happening t.definition p (.changed s.clock channelId old new)).toList ++
        history t.definition p s) ∧
      ∀ left, (t.metByValues s.clock channelId old new).2 = some left →
        cal t.activePeriod s.clock = true → 0 < left := by
    have hhap : happening t.definition p (.changed s.clock channelId old new) =
        if channelId = t.channelId then
          changeOf t.condition.definition.varName s.clock old new else none := rfl
    rw [hhap, Trigger.metByValues]
    by_cases hch : channelId = t.channelId
    · rw [if_pos hch, if_pos hch]
      obtain ⟨hkeeps, hlate⟩ := @Tracks.values _ _ _ htracks s.clock old new hto hd
      refine ⟨hkeeps, fun left hleft hcal => ?_⟩
      by_contra hle
      obtain ⟨newv, hnew, hl⟩ := hlate left hleft (Int.not_lt.mp hle)
      exact htime t newv ht hch hnew hcal hl
    · rw [if_neg hch, if_neg hch]
      exact ⟨htracks, fun _ h => by cases h⟩
  -- so it is not handed over
  have hnot :
      p ∉ s.live.filter fun q => matchesNow cal s.clock channelId old new s.objects[q]? := by
    intro hmem
    have hmatch := (List.mem_filter.mp hmem).2
    simp only [ht, matchesNow, answer, Option.bind_some] at hmatch
    split at hmatch
    · rename_i left hleft
      simp only [Bool.and_eq_true, decide_eq_true_eq, Option.any_some] at hmatch
      exact absurd hmatch.1 (Int.not_le.mpr (hanswer left hleft hmatch.2))
    · cases hmatch
  refine ⟨hw.nodup, hw.live, hw.delayed, hw.idle, _, hobject, ?_, ?_⟩
  · exact Trigger.metByValues_definition _ _ _ _ _
  · rw [history, htrace, List.filterMap_append, handed_none _ hnot, List.nil_append,
      List.filterMap_cons]
    cases hhap : happening t.definition p (.changed s.clock channelId old new) with
    | none => simpa [hhap, history] using htracks'
    | some e => simpa [hhap, history] using htracks'

theorem Watched.collect (hw : Watched d p s) : Watched d p (collect cal s) := by
  obtain ⟨t, ht, hdef, htracks⟩ := hw.tracks
  subst hdef
  obtain ⟨hobjects, hdelayed, -, htrace⟩ := collect_spec cal hw.delayed
  have hobject := hobjects p
  obtain ⟨hquiet, hhanded⟩ := htracks.time s.clock
  have hnodup : (s.delayed.filter fun q => readyNow cal s.clock s.objects[q]?).Nodup :=
    hw.delayed.filter _
  refine ⟨hw.nodup, hw.live, by rw [hdelayed]; exact hw.delayed.filter _, hw.idle, ?_⟩
  by_cases hmem : p ∈ s.delayed
  · rw [if_pos hmem, ht] at hobject
    refine ⟨_, hobject, Trigger.metByTime_definition _ _, ?_⟩
    rw [history, htrace, List.filterMap_append]
    by_cases hready : p ∈ s.delayed.filter fun q => readyNow cal s.clock s.objects[q]?
    · rw [handed_one _ hnodup hready]
      have hmet := (List.mem_filter.mp hready).2
      simp only [ht, readyNow, Option.any_some, Bool.and_eq_true] at hmet
      exact hhanded hmet.1.2
    · rw [handed_none _ hready]
      exact hquiet
  · rw [if_neg hmem, ht] at hobject
    refine ⟨t, hobject, rfl, ?_⟩
    have hready : p ∉ s.delayed.filter fun q => readyNow cal s.clock s.objects[q]? :=
      fun h => hmem (List.mem_filter.mp h).1
    rw [history, htrace, List.filterMap_append, handed_none _ hready]
    exact htracks

/-- Every step of a run in time keeps watch. -/
theorem Watched.step {s' : State V} {op : Op V} (hw : Watched d p s)
    (hto : d.condition.onChange = false) (hd : 0 < d.condition.durationSec)
    (hok : NoLoad op ∧ InTime cal p s op) (hs : step cal s op = some s') : Watched d p s' := by
  obtain ⟨hnoload, htime⟩ := hok
  cases op with
  | tick us =>
    cases hs
    exact ⟨hw.nodup, hw.live, hw.delayed, hw.idle, hw.tracks⟩
  | change channelId old new =>
    simp only [Vbt.step, hw.idle, Option.isNone_none, if_true, Option.some.injEq] at hs
    subst hs
    exact hw.change hto hd htime
  | publish i =>
    simp only [Vbt.step] at hs
    split at hs
    · cases hs
    · cases hs
      exact ⟨hw.nodup, hw.live, nodup_addDelayed hw.delayed _, hw.idle, hw.tracks⟩
  | collect =>
    simp only [Vbt.step] at hs
    split at hs
    · cases hs
      exact hw.collect
    · cases hs
  | fire =>
    simp only [Vbt.step] at hs
    split at hs
    · cases hs
    · cases hs
      exact ⟨hw.nodup, hw.live, hw.delayed, hw.idle, hw.tracks⟩
  | loadBegin stored => exact hnoload.elim
  | loadNext => exact hnoload.elim
  | loadFinish => exact hnoload.elim

end Steps

/-- **A delayed trigger is handed over once per held episode**, in every run without a change that
comes after its deadline and still meets the operator. -/
theorem once_per_episode (cal : Calendar) (stored : List (TriggerDef V)) (p : Nat)
    (d : TriggerDef V) (hp : stored[p]? = some d) (hto : d.condition.onChange = false)
    (hd : 0 < d.condition.durationSec) (s : State V)
    (hrun : Sys.Reach (machine cal stored) (fun s op => NoLoad op ∧ InTime cal p s op) s) :
    OncePerEpisode d.condition (history d p s) := by
  have hw : Watched d p s := by
    refine Sys.Reach.invariant (P := Watched d p) ?_ ?_ hrun
    · rintro s rfl
      exact Watched.start hp
    · intro s s' op hok hw hs
      exact hw.step hto hd hok hs
  obtain ⟨t, -, rfl, htracks⟩ := hw.tracks
  exact htracks.episodes

/-! ## An episode that fires twice -/

/-- Channels with one variable, a whole number. -/
def wholeNumbers : Values where
  D := Int
  Var := Unit
  decEqD := inferInstance
  decEqVar := inferInstance
  near a b := decide (a = b)
  far a b := decide (a ≠ b)
  lt a b := decide (a < b)
  le a b := decide (a ≤ b)
  zero := 0

/-- No active period keeps a trigger from firing. -/
def always : Calendar := fun _ _ => true

/-- Fires when the value of channel 5 has been above 1 for a second. -/
def aboveOne : TriggerDef wholeNumbers where
  id := 1
  channelId := 5
  activePeriod := ⟨0, 0, [], []⟩
  actionConfig := ⟨10, .channel, 7, 0, 5, none⟩
  condition := ⟨(1 : Int), (), .gt, .unknown, (0 : Int), false, 1⟩

/-- A change of channel 5. -/
def changeFive (old new : Int) : Op wholeNumbers :=
  .change 5 (fun _ => some old) (fun _ => some new)

/-- The value rises above 1 and stays there until the scheduler hands the trigger over. -/
theorem once_per_episode_held : ∃ s,
    Sys.Reach (machine always [aboveOne]) (fun s op => NoLoad op ∧ InTime always 0 s op) s ∧
    history aboveOne 0 s = [.handed 1000000, .change 0 (0 : Int) (2 : Int)] ∧
    OncePerEpisode aboveOne.condition (history aboveOne 0 s) := by
  have hrun : Sys.Reach (machine always [aboveOne])
      (fun s op => NoLoad op ∧ InTime always 0 s op) _ :=
    ((((Sys.Reach.init rfl).act (changeFive 0 2)
      ⟨trivial, by rintro t newv ⟨⟩ - - - ⟨deadline, hd, -⟩; cases hd⟩ rfl).act
      (.publish 0) ⟨trivial, trivial⟩ rfl).act
      (.tick 1000000) ⟨trivial, trivial⟩ rfl).act .collect ⟨trivial, trivial⟩ rfl
  exact ⟨_, hrun, rfl, once_per_episode _ _ 0 aboveOne rfl rfl (by decide) _ hrun⟩

/-- The second change comes when the deadline has passed: it hands the trigger over, and so does
the scheduler after it. -/
theorem fired_twice : ∃ s, Sys.Reach (machine always [aboveOne]) Sys.Any s ∧
    aboveOne.condition.onChange = false ∧ 0 < aboveOne.condition.durationSec ∧
    history aboveOne 0 s = [.handed 1000000, .handed 1000000, .change 1000000 (2 : Int) (3 : Int),
      .change 0 (0 : Int) (2 : Int)] ∧
    ¬ OncePerEpisode aboveOne.condition (history aboveOne 0 s) := by
  have hrun : (machine always [aboveOne]).run (start [aboveOne])
      [changeFive 0 2, .publish 0, .tick 1000000, changeFive 2 3, .collect] = some _ := rfl
  refine ⟨_, Sys.Reach.run (.init rfl) hrun, rfl, by decide, rfl, ?_⟩
  intro h
  obtain ⟨⟨since, t, old, new, before, heq, -, -, -, hno⟩, -⟩ := h [] 1000000 _ rfl
  cases since with
  | nil => cases heq
  | cons e since =>
    obtain ⟨rfl, -⟩ := List.cons.inj heq
    exact hno 1000000 List.mem_cons_self

end Vbt
