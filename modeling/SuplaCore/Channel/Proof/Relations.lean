import SuplaCore.Channel.Relations
import Mathlib.Tactic.SplitIfs

/-!
# Relations from both ends

A parent and a child look for their relation in loops of their own. `SubSide` and `ParentSide` say
when each of them finds it; a query answers with all that its side finds
(`mem_getChannelRelations`).
-/

namespace Channel

section
variable {J : Type}

/-! ## The list of a query -/

theorem Relation.same_comm (a b : Relation) : a.same b = b.same a := by
  rw [Bool.eq_iff_iff]
  simp only [Relation.same, Bool.and_eq_true, Bool.or_eq_true, decide_eq_true_eq]
  constructor <;> rintro ⟨⟨h1, h2⟩ | ⟨h1, h2⟩, h3⟩ <;> simp_all

theorem foldl_addRelation (l acc : List Relation) :
    l.foldl addRelation acc = (l.filter Relation.whole).foldl (Collect.push Relation.same) acc := by
  induction l generalizing acc with
  | nil => rfl
  | cons r l ih =>
    rw [List.foldl_cons, ih]
    cases h : r.whole <;> simp [addRelation, h]

/-- Two relations of a list that count as the same are the same relation. -/
def Simple (l : List Relation) : Prop :=
  ∀ a ∈ l, ∀ b ∈ l, a.whole = true → b.whole = true → a.same b = true → a = b

/-- **A query with no two relations in each other's way answers with all it offers.** -/
theorem mem_getChannelRelations {js : JsonClasses J} {dev : Around J} {p : Props J}
    {kind : RelationKind} (hs : Simple (offered js dev p kind)) (r : Relation) :
    r ∈ getChannelRelations js dev p kind ↔ r ∈ offered js dev p kind ∧ r.whole = true := by
  unfold getChannelRelations getChannelRelationsInto
  rw [foldl_addRelation, Collect.mem_foldl]
  · simp
  · intro a ha b hb hab
    obtain ⟨ha, hwa⟩ := List.mem_filter.1 ha
    obtain ⟨hb, hwb⟩ := List.mem_filter.1 (by simpa using hb)
    exact hs a ha b hb hwa hwb hab

theorem getChannelRelations_pairwise (js : JsonClasses J) (dev : Around J) (p : Props J)
    (kind : RelationKind) :
    (getChannelRelations js dev p kind).Pairwise fun a b => a.same b = false := by
  unfold getChannelRelations getChannelRelationsInto
  rw [foldl_addRelation]
  exact Collect.pairwise_foldl _ Relation.same_comm List.Pairwise.nil

/-- **No query answers with a relation twice.** -/
theorem getChannelRelations_nodup (js : JsonClasses J) (dev : Around J) (p : Props J)
    (kind : RelationKind) : (getChannelRelations js dev p kind).Nodup := by
  refine (getChannelRelations_pairwise js dev p kind).imp fun {a b} h => ?_
  rintro rfl
  simp [Relation.same] at h

/-! ## Who is on which side -/

@[simp] theorem mem_offer {c : Bool} {r x : Relation} : x ∈ offer c r ↔ c = true ∧ x = r := by
  unfold offer
  cases c <;> simp

@[simp] theorem forEach_false (dev : Around J) : dev.forEach false = dev.channels := rfl

theorem offered_any {js : JsonClasses J} {dev : Around J} {p : Props J} {r : Relation} :
    r ∈ offered js dev p .any ↔
      r ∈ offered js dev p .withSubChannel ∨ r ∈ offered js dev p .withParentChannel := by
  have htpl : ∀ tpl : SensorTemplate J, r ∈ tpl.getSensorRelations dev p .any ↔
      r ∈ tpl.getSensorRelations dev p .withSubChannel ∨
        r ∈ tpl.getSensorRelations dev p .withParentChannel := by
    intro tpl
    unfold SensorTemplate.getSensorRelations
    split
    · simp
    · simp [RelationKind.sub, RelationKind.parent]
  simp only [offered, List.mem_append, htpl, RelationKind.sub, RelationKind.parent]
  simp
  tauto

/-- The two templates of the source. -/
def templates (js : JsonClasses J) : List (SensorTemplate J) :=
  [valveTemplate js, containerTemplate js]

/-- Parent `P` finds its relation of type `t` to `C`, a meter apart. -/
inductive SubSide (js : JsonClasses J) (dev : Around J) (C P : Props J) (t : Int) : Prop
  | sensor (tpl : SensorTemplate J) (htpl : tpl ∈ templates js) (ht : t = relationDefault)
      (hv : 27 ≤ dev.protocolVersion) (hl : tpl.lists P C.number = true)
      (hf : C.func = tpl.relatedFunc)
  | main (c : HvacConfig) (ht : t = relationMainThermometer) (hP : isHvac P.func = true)
      (hc : P.hvac js = some c) (hself : c.mainThermometerChannelNo ≠ P.number)
      (hno : c.mainThermometerChannelNo = C.number) (hf : isThermometer C.func = true)
  | aux (c : HvacConfig) (ht : t = c.auxThermometerType + 3) (hP : isHvac P.func = true)
      (hc : P.hvac js = some c) (hin : c.auxInUse = true)
      (hself : c.auxThermometerChannelNo ≠ P.number)
      (hno : c.auxThermometerChannelNo = C.number) (hf : isThermometer C.func = true)
  | binary (c : HvacConfig) (ht : t = relationDefault) (hP : isHvac P.func = true)
      (hc : P.hvac js = some c) (hself : c.binarySensorChannelNo ≠ P.number)
      (hno : c.binarySensorChannelNo = C.number) (hf : C.type = channeltypeBinarysensor)
  | heat (c : HvacConfig) (ht : t = relationHeatOrColdSourceSwitch) (hP : isHvac P.func = true)
      (hc : P.hvac js = some c) (hv : 25 ≤ dev.protocolVersion)
      (hset : c.heatOrColdSourceSwitchIsSet = true)
      (hno : c.heatOrColdSourceSwitchChannelNo = C.number)
      (hf : C.func = channelfncHeatOrColdSourceSwitch)
  | pump (c : HvacConfig) (ht : t = relationPumpSwitch) (hP : isHvac P.func = true)
      (hc : P.hvac js = some c) (hv : 25 ≤ dev.protocolVersion) (hset : c.pumpSwitchIsSet = true)
      (hno : c.pumpSwitchChannelNo = C.number) (hf : C.func = channelfncPumpSwitch)
  | master (ht : t = relationMasterThermostat) (hP : isHvac P.func = true)
      (hm : hasMaster js dev C P.number = true)

/-- Child `C` finds its relation of type `t` to `P`, a meter apart. -/
inductive ParentSide (js : JsonClasses J) (dev : Around J) (C P : Props J) (t : Int) : Prop
  | sensor (tpl : SensorTemplate J) (htpl : tpl ∈ templates js) (ht : t = relationDefault)
      (hv : 27 ≤ dev.protocolVersion) (hf : C.func = tpl.relatedFunc)
      (hl : dev.channels.find? (tpl.lists · C.number) = some P)
  | master (ht : t = relationMasterThermostat) (hm : hasMaster js dev C P.number = true)
  | binary (c : HvacConfig) (ht : t = relationDefault) (hP : isHvac P.func = true)
      (hc : P.hvac js = some c) (hf : C.type = channeltypeBinarysensor)
      (hno : c.binarySensorChannelNo = C.number)
  | main (c : HvacConfig) (ht : t = relationMainThermometer) (hP : isHvac P.func = true)
      (hc : P.hvac js = some c) (hb : C.type ≠ channeltypeBinarysensor)
      (hf : isThermometer C.func = true) (hno : c.mainThermometerChannelNo = C.number)
  | aux (c : HvacConfig) (ht : t = c.auxThermometerType + 3) (hP : isHvac P.func = true)
      (hc : P.hvac js = some c) (hb : C.type ≠ channeltypeBinarysensor)
      (hf : isThermometer C.func = true) (hin : c.auxInUse = true)
      (hno : c.auxThermometerChannelNo = C.number)
  | heat (c : HvacConfig) (ht : t = relationHeatOrColdSourceSwitch) (hP : isHvac P.func = true)
      (hc : P.hvac js = some c) (hb : C.type ≠ channeltypeBinarysensor)
      (hf : C.func = channelfncHeatOrColdSourceSwitch) (hv : 25 ≤ dev.protocolVersion)
      (hset : c.heatOrColdSourceSwitchIsSet = true)
      (hno : c.heatOrColdSourceSwitchChannelNo = C.number)
  | pump (c : HvacConfig) (ht : t = relationPumpSwitch) (hP : isHvac P.func = true)
      (hc : P.hvac js = some c) (hb : C.type ≠ channeltypeBinarysensor)
      (hf : C.func = channelfncPumpSwitch) (hv : 25 ≤ dev.protocolVersion)
      (hset : c.pumpSwitchIsSet = true) (hno : c.pumpSwitchChannelNo = C.number)

/-! ## Sensors -/

section
variable (dev : UserDevice J)

theorem find_number {p : Props J} (hp : p ∈ dev.channels) {f : Props J → Bool} (hf : f p = true) :
    dev.channels.find? (fun q => q.number = p.number && f q) = some p := by
  obtain ⟨q, hq⟩ : ∃ q, dev.channels.find? (fun q => q.number = p.number && f q) = some q := by
    rw [← Option.isSome_iff_exists, List.find?_isSome]
    exact ⟨p, hp, by simp [hf]⟩
  have hn := List.find?_some hq
  simp only [Bool.and_eq_true, decide_eq_true_eq] at hn
  rw [hq, dev.numbers q (List.mem_of_find?_eq_some hq) p hp hn.1]

theorem mem_offerSensor {tpl : SensorTemplate J} {p : Props J} {i : SensorInfo} {r : Relation} :
    r ∈ tpl.offerSensor dev.toAround p i ↔ ∃ q ∈ dev.channels, r = ⟨q.id, p.id, relationDefault⟩ ∧
      i.lists q.number = true ∧ q.func = tpl.relatedFunc := by
  match i with
  | .id _ => simp [SensorTemplate.offerSensor, SensorInfo.lists]
  | .number false _ => simp [SensorTemplate.offerSensor, SensorInfo.lists]
  | .number true no =>
    simp only [SensorTemplate.offerSensor, forEach_false]
    constructor
    · intro h
      split at h
      · next q hq =>
        have hn := List.find?_some hq
        simp only [Bool.and_eq_true, decide_eq_true_eq] at hn
        refine ⟨q, List.mem_of_find?_eq_some hq, List.mem_singleton.1 h, ?_, hn.2⟩
        simp [SensorInfo.lists, hn.1]
      · cases h
    · rintro ⟨q, hq, rfl, hl, hf⟩
      have hno : no = q.number := by simpa [SensorInfo.lists] using hl
      subst hno
      rw [find_number dev hq (f := fun q => q.func = tpl.relatedFunc) (by simpa using hf)]
      simp

theorem mem_sensor_sub {tpl : SensorTemplate J} {p : Props J} {r : Relation} :
    r ∈ tpl.getSensorRelations dev.toAround p .withSubChannel ↔
      ∃ q ∈ dev.channels, r = ⟨q.id, p.id, relationDefault⟩ ∧ 27 ≤ dev.protocolVersion ∧
        tpl.lists p q.number = true ∧ q.func = tpl.relatedFunc := by
  unfold SensorTemplate.getSensorRelations SensorTemplate.lists
  split
  · next h =>
    constructor
    · intro hr
      cases hr
    · rintro ⟨q, -, -, hv, -⟩
      omega
  · next h =>
    have hv : 27 ≤ dev.protocolVersion := by omega
    cases hp : tpl.isParent p with
    | false => simp [RelationKind.parent]
    | true =>
      simp only [RelationKind.sub, RelationKind.parent]
      simp only [reduceCtorEq, decide_false, decide_true, Bool.or_true, Bool.and_self, if_true,
        Bool.or_false, Bool.and_false, Bool.false_eq_true, if_false, List.append_nil,
        List.mem_flatMap, mem_offerSensor, Bool.true_and, List.any_eq_true]
      constructor
      · rintro ⟨i, hi, q, hq, rfl, hl, hf⟩
        exact ⟨q, hq, rfl, hv, ⟨i, hi, hl⟩, hf⟩
      · rintro ⟨q, hq, rfl, -, ⟨i, hi, hl⟩, hf⟩
        exact ⟨i, hi, q, hq, rfl, hl, hf⟩

theorem mem_sensor_parent {tpl : SensorTemplate J} {p : Props J} {r : Relation} :
    r ∈ tpl.getSensorRelations dev.toAround p .withParentChannel ↔
      ∃ q, dev.channels.find? (tpl.lists · p.number) = some q ∧
        r = ⟨p.id, q.id, relationDefault⟩ ∧ 27 ≤ dev.protocolVersion ∧
        p.func = tpl.relatedFunc := by
  unfold SensorTemplate.getSensorRelations
  split
  · next h =>
    constructor
    · intro hr
      cases hr
    · rintro ⟨q, -, -, hv, -⟩
      omega
  · next h =>
    have hv : 27 ≤ dev.protocolVersion := by omega
    by_cases hf : p.func = tpl.relatedFunc
    · cases hq : dev.channels.find? (tpl.lists · p.number) with
      | none => simp [RelationKind.sub, RelationKind.parent, hq]
      | some q => simp [RelationKind.sub, RelationKind.parent, hf, hq, hv]
    · simp [RelationKind.sub, hf]

/-! ## Thermostats and meters -/

theorem mem_offerSub {js : JsonClasses J} {p q : Props J} (hP : isHvac p.func = true)
    {r : Relation} (h : r ∈ offerSub js dev.toAround p q) :
    r.id = q.id ∧ r.parentId = p.id ∧ SubSide js dev.toAround q p r.type := by
  unfold offerSub at h
  obtain h | h := List.mem_append.1 h
  · split at h
    · next c hc =>
      simp only [offerHvac, List.mem_append, mem_offer, Bool.and_eq_true, decide_eq_true_eq] at h
      obtain ((((⟨⟨⟨h1, h2⟩, h3⟩, rfl⟩ | ⟨⟨⟨⟨h1, h2⟩, h3⟩, h4⟩, rfl⟩) | ⟨⟨⟨h1, h2⟩, h3⟩, rfl⟩) |
        ⟨⟨⟨⟨h1, h2⟩, h3⟩, h4⟩, rfl⟩) | ⟨⟨⟨⟨h1, h2⟩, h3⟩, h4⟩, rfl⟩) := h
      · exact ⟨rfl, rfl, .main c rfl hP hc h1 h2 h3⟩
      · exact ⟨rfl, rfl, .aux c rfl hP hc h1 h2 h3 h4⟩
      · exact ⟨rfl, rfl, .binary c rfl hP hc h1 h2 h3⟩
      · exact ⟨rfl, rfl, .heat c rfl hP hc h1 h2 h3 h4⟩
      · exact ⟨rfl, rfl, .pump c rfl hP hc h1 h2 h3 h4⟩
    · cases h
  · obtain ⟨hm, rfl⟩ := mem_offer.1 h
    exact ⟨rfl, rfl, .master rfl hP hm⟩

/-- What a parent offers: relations with the parameters' channels, its meter, and what it finds. -/
inductive SubOffer (js : JsonClasses J) (dev : Around J) (p : Props J) (r : Relation) : Prop
  | opening (hf : isControlling p.func = true ∨ isShutter p.func = true)
      (ht : r.type = relationOpeningSensor ∨ r.type = relationPartialOpeningSensor)
  | meter (hf : isSwitch p.func = true) (ht : r.type = relationMeter)
      (hm : p.relatedMeter js = some r.id)
  | side (q : Props J) (hq : q ∈ dev.channels) (hid : r.id = q.id)
      (hs : SubSide js dev q p r.type)

theorem subOffer_of_mem {js : JsonClasses J} {p : Props J} {r : Relation}
    (h : r ∈ offered js dev.toAround p .withSubChannel) :
    r.parentId = p.id ∧ SubOffer js dev.toAround p r := by
  simp only [offered, List.mem_append, mem_sensor_sub, RelationKind.sub, RelationKind.parent] at h
  obtain ((⟨q, hq, rfl, hv, hl, hf⟩ | ⟨q, hq, rfl, hv, hl, hf⟩) | h) | h := h
  · exact ⟨rfl, .side q hq rfl (.sensor _ (.head _) rfl hv hl hf)⟩
  · exact ⟨rfl, .side q hq rfl (.sensor _ (.tail _ (.head _)) rfl hv hl hf)⟩
  · simp only [reduceCtorEq, decide_false, decide_true, Bool.or_true, if_true] at h
    unfold subRelations at h
    split_ifs at h with h1 h2 h3 h4
    · simp only [List.mem_cons, List.not_mem_nil, or_false] at h
      obtain rfl | rfl := h
      · exact ⟨rfl, .opening (.inl h1) (.inl rfl)⟩
      · exact ⟨rfl, .opening (.inl h1) (.inr rfl)⟩
    · obtain rfl := List.mem_singleton.1 h
      exact ⟨rfl, .opening (.inr h2) (.inl rfl)⟩
    · split at h
      · next id hid =>
        obtain rfl := List.mem_singleton.1 h
        exact ⟨rfl, .meter h3 rfl hid⟩
      · cases h
    · obtain ⟨q, hq, hr⟩ := List.mem_flatMap.1 h
      obtain ⟨h5, h6, h7⟩ := mem_offerSub dev h4 hr
      exact ⟨h6, .side q hq h5 h7⟩
    · cases h
  · simp at h

/-- A thermostat is nothing else that has relations by its function. -/
theorem isHvac_only {func : Int} (h : isHvac func = true) :
    isControlling func = false ∧ isShutter func = false ∧ isSwitch func = false ∧
      isThermometer func = false ∧ func ≠ channelfncHeatOrColdSourceSwitch ∧
      func ≠ channelfncPumpSwitch ∧ func ≠ channelfncFloodSensor ∧
      func ≠ channelfncContainerLevelSensor := by
  simp only [isHvac, Bool.or_eq_true, decide_eq_true_eq] at h
  obtain ((rfl | rfl) | rfl) | rfl := h <;> decide

theorem isSwitch_only {func : Int} (h : isSwitch func = true) :
    isControlling func = false ∧ isShutter func = false ∧ isMeter func = false := by
  simp only [isSwitch, Bool.or_eq_true, decide_eq_true_eq] at h
  obtain (rfl | rfl) | rfl := h <;> decide

theorem mem_sub_of_sensor {js : JsonClasses J} {p : Props J} {r : Relation}
    {tpl : SensorTemplate J} (htpl : tpl ∈ templates js)
    (h : r ∈ tpl.getSensorRelations dev.toAround p .withSubChannel) :
    r ∈ offered js dev.toAround p .withSubChannel := by
  simp only [offered, List.mem_append]
  obtain rfl | rfl : tpl = valveTemplate js ∨ tpl = containerTemplate js := by
    simpa [templates] using htpl
  · exact .inl (.inl (.inl h))
  · exact .inl (.inl (.inr h))

theorem mem_sub_of_hvac {js : JsonClasses J} {p q : Props J} {r : Relation}
    (hP : isHvac p.func = true) (hq : q ∈ dev.channels)
    (h : r ∈ offerSub js dev.toAround p q) : r ∈ offered js dev.toAround p .withSubChannel := by
  obtain ⟨h1, h2, h3, -⟩ := isHvac_only hP
  have hr : r ∈ subRelations js dev.toAround p := by
    simp only [subRelations, h1, h2, h3, hP, Bool.false_eq_true, if_false, if_true, forEach_false]
    exact List.mem_flatMap.2 ⟨q, hq, h⟩
  simp only [offered, List.mem_append, RelationKind.sub]
  exact .inl (.inr (by simpa using hr))

theorem mem_offerSub_of_hvac {js : JsonClasses J} {p q : Props J} {c : HvacConfig}
    (hc : p.hvac js = some c) {r : Relation} (h : r ∈ offerHvac dev.toAround p q c) :
    r ∈ offerSub js dev.toAround p q := by
  unfold offerSub
  rw [hc]
  exact List.mem_append.2 (.inl h)

/-- **A parent offers the relations of its side.** -/
theorem mem_of_subSide {js : JsonClasses J} {C P : Props J} {t : Int} (hC : C ∈ dev.channels)
    (h : SubSide js dev.toAround C P t) :
    (⟨C.id, P.id, t⟩ : Relation) ∈ offered js dev.toAround P .withSubChannel := by
  cases h with
  | sensor tpl htpl ht hv hl hf =>
    subst ht
    exact mem_sub_of_sensor dev htpl ((mem_sensor_sub dev).2 ⟨C, hC, rfl, hv, hl, hf⟩)
  | main c ht hP hc hself hno hf =>
    refine mem_sub_of_hvac dev hP hC (mem_offerSub_of_hvac dev hc ?_)
    subst ht
    simp [offerHvac, hno, hf, hno ▸ hself]
  | aux c ht hP hc hin hself hno hf =>
    refine mem_sub_of_hvac dev hP hC (mem_offerSub_of_hvac dev hc ?_)
    subst ht
    simp [offerHvac, hin, hno, hf, hno ▸ hself]
  | binary c ht hP hc hself hno hf =>
    refine mem_sub_of_hvac dev hP hC (mem_offerSub_of_hvac dev hc ?_)
    subst ht
    simp [offerHvac, hno, hf, hno ▸ hself]
  | heat c ht hP hc hv hset hno hf =>
    refine mem_sub_of_hvac dev hP hC (mem_offerSub_of_hvac dev hc ?_)
    subst ht
    simp [offerHvac, hv, hset, hno, hf]
  | pump c ht hP hc hv hset hno hf =>
    refine mem_sub_of_hvac dev hP hC (mem_offerSub_of_hvac dev hc ?_)
    subst ht
    simp [offerHvac, hv, hset, hno, hf]
  | master ht hP hm =>
    refine mem_sub_of_hvac dev hP hC ?_
    subst ht
    exact List.mem_append.2 (.inr (mem_offer.2 ⟨hm, rfl⟩))

theorem mem_of_meter {js : JsonClasses J} {P : Props J} {id : Int} (hf : isSwitch P.func = true)
    (hm : P.relatedMeter js = some id) :
    (⟨id, P.id, relationMeter⟩ : Relation) ∈ offered js dev.toAround P .withSubChannel := by
  obtain ⟨h1, h2, -⟩ := isSwitch_only hf
  simp [offered, RelationKind.sub, subRelations, h1, h2, hf, hm]

/-! ## The child's side -/

/-- What a child offers: relations with the parameters' channels, the switches it measures, and
what it finds. -/
inductive ParentOffer (js : JsonClasses J) (dev : Around J) (p : Props J) (r : Relation) : Prop
  | opening (hf : isOpeningSensor p.func = true)
      (ht : r.type = relationOpeningSensor ∨ r.type = relationPartialOpeningSensor)
  | meter (hf : isMeter p.func = true) (ht : r.type = relationMeter) (q : Props J)
      (hq : q ∈ dev.channels ++ dev.others) (hid : r.parentId = q.id)
      (hs : isSwitch q.func = true) (hm : q.relatedMeter js = some p.id)
  | side (q : Props J) (hq : q ∈ dev.channels) (hid : r.parentId = q.id)
      (hs : ParentSide js dev p q r.type)

theorem mem_offerToHvac {js : JsonClasses J} {p q : Props J} {r : Relation}
    (h : r ∈ offerToHvac js dev.toAround p q) :
    r.id = p.id ∧ r.parentId = q.id ∧ ParentSide js dev.toAround p q r.type := by
  unfold offerToHvac at h
  split_ifs at h with hP
  · split at h
    · next c hc =>
      unfold offerParent at h
      split_ifs at h with h1 h2 h3 h4
      · obtain ⟨hno, rfl⟩ := mem_offer.1 h
        exact ⟨rfl, rfl, .binary c rfl hP hc h1 (by simpa using hno)⟩
      · simp only [List.mem_append, mem_offer, Bool.and_eq_true, decide_eq_true_eq] at h
        obtain ⟨hno, rfl⟩ | ⟨⟨hin, hno⟩, rfl⟩ := h
        · exact ⟨rfl, rfl, .main c rfl hP hc h1 h2 hno⟩
        · exact ⟨rfl, rfl, .aux c rfl hP hc h1 h2 hin hno⟩
      · simp only [mem_offer, Bool.and_eq_true, decide_eq_true_eq] at h
        obtain ⟨⟨⟨hv, hset⟩, hno⟩, rfl⟩ := h
        exact ⟨rfl, rfl, .heat c rfl hP hc h1 h3 hv hset hno⟩
      · simp only [mem_offer, Bool.and_eq_true, decide_eq_true_eq] at h
        obtain ⟨⟨⟨hv, hset⟩, hno⟩, rfl⟩ := h
        exact ⟨rfl, rfl, .pump c rfl hP hc h1 h4 hv hset hno⟩
      · cases h
    · cases h
  · cases h

theorem parentOffer_of_mem {js : JsonClasses J} {p : Props J} {r : Relation}
    (h : r ∈ offered js dev.toAround p .withParentChannel) :
    r.id = p.id ∧ ParentOffer js dev.toAround p r := by
  simp only [offered, List.mem_append, mem_sensor_parent, RelationKind.sub,
    RelationKind.parent] at h
  obtain ((⟨q, hq, rfl, hv, hf⟩ | ⟨q, hq, rfl, hv, hf⟩) | h) | h := h
  · exact ⟨rfl, .side q (List.mem_of_find?_eq_some hq) rfl (.sensor _ (.head _) rfl hv hf hq)⟩
  · exact ⟨rfl, .side q (List.mem_of_find?_eq_some hq) rfl
      (.sensor _ (.tail _ (.head _)) rfl hv hf hq)⟩
  · simp at h
  · simp only [reduceCtorEq, decide_false, decide_true, Bool.or_true, if_true] at h
    simp only [parentRelations, List.mem_append] at h
    obtain (h | h) | h := h
    · unfold parentSwitch at h
      split_ifs at h with h1 h2
      · simp only [List.mem_cons, List.not_mem_nil, or_false] at h
        obtain rfl | rfl := h
        · exact ⟨rfl, .opening h1 (.inl rfl)⟩
        · exact ⟨rfl, .opening h1 (.inr rfl)⟩
      · obtain ⟨q, hq, hr⟩ := List.mem_flatMap.1 h
        simp only [mem_offer, Bool.and_eq_true, decide_eq_true_eq] at hr
        obtain ⟨⟨hs, hm⟩, rfl⟩ := hr
        exact ⟨rfl, .meter h2 rfl q hq rfl hs hm⟩
      · cases h
    · unfold parentMaster at h
      split at h
      · next q hq =>
        obtain rfl := List.mem_singleton.1 h
        have hm : hasMaster js dev.toAround p q.number = true := by simpa using List.find?_some hq
        exact ⟨rfl, .side q (List.mem_of_find?_eq_some hq) rfl (.master rfl hm)⟩
      · cases h
    · unfold parentHvac at h
      split_ifs at h with h1
      · obtain ⟨q, hq, hr⟩ := List.mem_flatMap.1 h
        obtain ⟨h2, h3, h4⟩ := mem_offerToHvac dev hr
        exact ⟨h2, .side q hq h3 h4⟩
      · cases h

theorem mem_parent_of_sensor {js : JsonClasses J} {p : Props J} {r : Relation}
    {tpl : SensorTemplate J} (htpl : tpl ∈ templates js)
    (h : r ∈ tpl.getSensorRelations dev.toAround p .withParentChannel) :
    r ∈ offered js dev.toAround p .withParentChannel := by
  simp only [offered, List.mem_append]
  obtain rfl | rfl : tpl = valveTemplate js ∨ tpl = containerTemplate js := by
    simpa [templates] using htpl
  · exact .inl (.inl (.inl h))
  · exact .inl (.inl (.inr h))

theorem mem_parent_of {js : JsonClasses J} {p : Props J} {r : Relation}
    (h : r ∈ parentRelations js dev.toAround p) :
    r ∈ offered js dev.toAround p .withParentChannel := by
  simp only [offered, List.mem_append, RelationKind.parent]
  exact .inr (by simpa using h)

theorem mem_parent_of_hvac {js : JsonClasses J} {C P : Props J} {c : HvacConfig} {r : Relation}
    (hP : P ∈ dev.channels) (hf : isHvac P.func = true) (hc : P.hvac js = some c)
    (hC : C.type = channeltypeBinarysensor ∨ isThermometer C.func = true ∨
      C.func = channelfncPumpSwitch ∨ C.func = channelfncHeatOrColdSourceSwitch)
    (h : r ∈ offerParent dev.toAround C P c) :
    r ∈ offered js dev.toAround C .withParentChannel := by
  refine mem_parent_of dev (List.mem_append.2 (.inr ?_))
  unfold parentHvac
  rw [if_pos (by simpa [or_assoc] using hC)]
  refine List.mem_flatMap.2 ⟨P, hP, ?_⟩
  unfold offerToHvac
  rw [if_pos hf, hc]
  exact h

/-- A thermostat has at most one master. -/
theorem find_master {js : JsonClasses J} {C P : Props J} (hP : P ∈ dev.channels)
    (hm : hasMaster js dev.toAround C P.number = true) :
    dev.channels.find? (fun q => hasMaster js dev.toAround C q.number) = some P := by
  obtain ⟨q, hq⟩ :
      ∃ q, dev.channels.find? (fun q => hasMaster js dev.toAround C q.number) = some q := by
    rw [← Option.isSome_iff_exists, List.find?_isSome]
    exact ⟨P, hP, hm⟩
  have hn : hasMaster js dev.toAround C q.number = true := by simpa using List.find?_some hq
  have hno : q.number = P.number := by
    unfold hasMaster at hm hn
    cases hc : C.hvac js with
    | none => simp [hc] at hm
    | some c =>
      simp only [hc, Bool.and_eq_true, decide_eq_true_eq] at hm hn
      rw [← hm.2.2, ← hn.2.2]
  rw [hq, dev.numbers q (List.mem_of_find?_eq_some hq) P hP hno]

/-- **A child offers the relations of its side.** -/
theorem mem_of_parentSide {js : JsonClasses J} {C P : Props J} {t : Int} (hP : P ∈ dev.channels)
    (h : ParentSide js dev.toAround C P t) :
    (⟨C.id, P.id, t⟩ : Relation) ∈ offered js dev.toAround C .withParentChannel := by
  cases h with
  | sensor tpl htpl ht hv hf hl =>
    subst ht
    exact mem_parent_of_sensor dev htpl ((mem_sensor_parent dev).2 ⟨P, hl, rfl, hv, hf⟩)
  | master ht hm =>
    subst ht
    refine mem_parent_of dev (List.mem_append.2 (.inl (List.mem_append.2 (.inr ?_))))
    simp [parentMaster, find_master dev hP hm]
  | binary c ht hf hc hb hno =>
    refine mem_parent_of_hvac dev hP hf hc (.inl hb) ?_
    simp [offerParent, hb, hno, ht]
  | main c ht hf hc hb hth hno =>
    refine mem_parent_of_hvac dev hP hf hc (.inr (.inl hth)) ?_
    simp [offerParent, hb, hth, hno, ht]
  | aux c ht hf hc hb hth hin hno =>
    refine mem_parent_of_hvac dev hP hf hc (.inr (.inl hth)) ?_
    simp [offerParent, hb, hth, hin, hno, ht]
  | heat c ht hf hc hb hh hv hset hno =>
    refine mem_parent_of_hvac dev hP hf hc (.inr (.inr (.inr hh))) ?_
    have hth : isThermometer channelfncHeatOrColdSourceSwitch = false := by decide
    simp [offerParent, hb, hh, hth, hv, hset, hno, ht]
  | pump c ht hf hc hb hh hv hset hno =>
    refine mem_parent_of_hvac dev hP hf hc (.inr (.inr (.inl hh))) ?_
    have hth : isThermometer channelfncPumpSwitch = false := by decide
    have hne : channelfncPumpSwitch ≠ channelfncHeatOrColdSourceSwitch := by decide
    simp [offerParent, hb, hh, hth, hne, hv, hset, hno, ht]

theorem isMeter_only {func : Int} (h : isMeter func = true) : isOpeningSensor func = false := by
  simp only [isMeter, Bool.or_eq_true, decide_eq_true_eq] at h
  obtain (((rfl | rfl) | rfl) | rfl) | rfl := h <;> decide

theorem mem_parent_of_meter {js : JsonClasses J} {C P : Props J} (hP : P ∈ dev.channels)
    (hC : isMeter C.func = true) (hf : isSwitch P.func = true)
    (hm : P.relatedMeter js = some C.id) :
    (⟨C.id, P.id, relationMeter⟩ : Relation) ∈ offered js dev.toAround C .withParentChannel := by
  refine mem_parent_of dev (List.mem_append.2 (.inl (List.mem_append.2 (.inl ?_))))
  have hno := isMeter_only hC
  simp only [parentSwitch, hno, hC, Bool.false_eq_true, if_false, if_true]
  refine List.mem_flatMap.2 ⟨P, ?_, by simp [hf, hm]⟩
  exact List.mem_append.2 (.inl hP)

end

end

end Channel
