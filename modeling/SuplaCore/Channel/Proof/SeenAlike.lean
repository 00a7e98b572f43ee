import SuplaCore.Channel.Proof.Relations
import Mathlib.Data.List.Pairwise

/-!
# When both ends see a relation

`SeenAlike` lists the configurations on which the queries of a parent and of a child agree and no
relation keeps another out of `relation_any`: a sensor has one valve or container, a related meter
is a meter, a master thermostat a thermostat, and so on. `relations_seen_alike` shows that these are
exactly the devices whose channels answer alike from both ends.
-/

namespace Channel

attribute [simp] relationOpeningSensor relationPartialOpeningSensor relationMeter
  relationMainThermometer relationHeatOrColdSourceSwitch relationPumpSwitch

section
variable {J : Type}

/-! ## Where the two ends differ -/

/-- Thermostat `P` names `C`, a channel of the binary sensor type, as its binary sensor. -/
def takesBinary (js : JsonClasses J) (P C : Props J) : Prop :=
  isHvac P.func = true ∧ C.type = channeltypeBinarysensor ∧
    ∃ c, P.hvac js = some c ∧ c.binarySensorChannelNo = C.number

/-- Configuration `c` names `C` by its function: as a thermometer or as a switch. -/
def namesByFunc (dev : Around J) (c : HvacConfig) (C : Props J) : Prop :=
  isThermometer C.func = true ∧ (c.mainThermometerChannelNo = C.number ∨
      c.auxInUse = true ∧ c.auxThermometerChannelNo = C.number) ∨
  25 ≤ dev.protocolVersion ∧ (c.heatOrColdSourceSwitchIsSet = true ∧
      c.heatOrColdSourceSwitchChannelNo = C.number ∧ C.func = channelfncHeatOrColdSourceSwitch ∨
    c.pumpSwitchIsSet = true ∧ c.pumpSwitchChannelNo = C.number ∧ C.func = channelfncPumpSwitch)

/-- The channels that can have a relation: `add_relation` takes the identifier 0 for none. -/
def Around.identified (dev : Around J) (p : Props J) : Prop := p ∈ dev.channels ∧ p.id ≠ 0

/-- **The configurations whose relations both ends see alike.** -/
structure SeenAlike (js : JsonClasses J) (dev : Around J) : Prop where
  /-- A sensor is listed by one valve or container, unless it is the parent's binary sensor. -/
  sensor : 27 ≤ dev.protocolVersion → ∀ tpl ∈ templates js, ∀ C, dev.identified C →
    C.func = tpl.relatedFunc → ∀ P, dev.identified P → tpl.lists P C.number = true →
    dev.channels.find? (tpl.lists · C.number) = some P ∨ takesBinary js P C
  /-- The related meter of a switch has the function of a meter. -/
  meter : ∀ C, dev.identified C → ∀ P, dev.identified P → isSwitch P.func = true →
    P.relatedMeter js = some C.id → isMeter C.func = true
  /-- The master of a thermostat is a thermostat. -/
  master : ∀ C, dev.identified C → ∀ P, dev.identified P →
    hasMaster js dev C P.number = true → isHvac P.func = true
  /-- What a thermostat names by its function is not of the binary sensor type. -/
  typed : ∀ C, dev.identified C → ∀ P, dev.identified P → isHvac P.func = true →
    ∀ c, P.hvac js = some c → namesByFunc dev c C → C.type ≠ channeltypeBinarysensor
  /-- A thermostat is not its own binary sensor. -/
  self : ∀ P, dev.identified P → ¬ takesBinary js P P
  /-- No two thermostats are each other's master. -/
  masters : ∀ P, dev.identified P → ∀ Q, dev.identified Q → P ≠ Q →
    hasMaster js dev P Q.number = true → hasMaster js dev Q P.number = false
  /-- No two containers are each other's level sensor. -/
  containers : 27 ≤ dev.protocolVersion → ∀ P, dev.identified P → ∀ Q, dev.identified Q → P ≠ Q →
    P.func = channelfncContainerLevelSensor → Q.func = channelfncContainerLevelSensor →
    (containerTemplate js).lists P Q.number = true → (containerTemplate js).lists Q P.number = false
  /-- No two thermostats are each other's binary sensor. -/
  binaries : ∀ P, dev.identified P → ∀ Q, dev.identified Q → P ≠ Q →
    takesBinary js P Q → ¬ takesBinary js Q P

/-- A parent's side, its meter included. -/
def SubSees (js : JsonClasses J) (dev : Around J) (C P : Props J) (t : Int) : Prop :=
  t = relationMeter ∧ isSwitch P.func = true ∧ P.relatedMeter js = some C.id ∨
    SubSide js dev C P t

/-- A child's side, the switches it measures included. -/
def ParentSees (js : JsonClasses J) (dev : Around J) (C P : Props J) (t : Int) : Prop :=
  t = relationMeter ∧ isMeter C.func = true ∧ isSwitch P.func = true ∧
    P.relatedMeter js = some C.id ∨ ParentSide js dev C P t

theorem auxInUse_range {c : HvacConfig} (h : c.auxInUse = true) :
    2 ≤ c.auxThermometerType ∧ c.auxThermometerType ≤ 5 := by
  simpa [HvacConfig.auxInUse] using h

theorem aux_type_ne {c : HvacConfig} (h : c.auxInUse = true) :
    (c.auxThermometerType + 3 : Int) ≠ relationDefault ∧
      (c.auxThermometerType + 3 : Int) ≠ relationMasterThermostat := by
  have := auxInUse_range h
  simp only [relationDefault, relationMasterThermostat]
  omega

theorem simple_sub (js : JsonClasses J) (dev : UserDevice J) (p : Props J) :
    Simple (offered js dev.toAround p .withSubChannel) := by
  rintro ⟨a, a', t⟩ ha ⟨b, b', u⟩ hb - - hs
  have h1 : a' = p.id := (subOffer_of_mem dev ha).1
  have h2 : b' = p.id := (subOffer_of_mem dev hb).1
  simp only [Relation.same, Bool.and_eq_true, Bool.or_eq_true, decide_eq_true_eq] at hs
  obtain ⟨⟨h3, h4⟩ | ⟨h3, h4⟩, h5⟩ := hs <;> simp_all

theorem simple_parent (js : JsonClasses J) (dev : UserDevice J) (p : Props J) :
    Simple (offered js dev.toAround p .withParentChannel) := by
  rintro ⟨a, a', t⟩ ha ⟨b, b', u⟩ hb - - hs
  have h1 : a = p.id := (parentOffer_of_mem dev ha).1
  have h2 : b = p.id := (parentOffer_of_mem dev hb).1
  simp only [Relation.same, Bool.and_eq_true, Bool.or_eq_true, decide_eq_true_eq] at hs
  obtain ⟨⟨h3, h4⟩ | ⟨h3, h4⟩, h5⟩ := hs <;> simp_all

theorem whole_iff {a b t : Int} : (⟨a, b, t⟩ : Relation).whole = true ↔ a ≠ 0 ∧ b ≠ 0 := by
  simp [Relation.whole]

section
variable {js : JsonClasses J} (dev : UserDevice J)

theorem UserDevice.eq_of_id {a b : Props J} (ha : a ∈ dev.channels) (hb : b ∈ dev.channels)
    (h : a.id = b.id) : a = b :=
  dev.ids a (List.mem_append.2 (.inl ha)) b (List.mem_append.2 (.inl hb)) h

/-- The parent's query, for two channels of the device. -/
theorem mem_sub_iff {C P : Props J} (hC : C ∈ dev.channels) {t : Int}
    (h1 : t ≠ relationOpeningSensor) (h2 : t ≠ relationPartialOpeningSensor) :
    (⟨C.id, P.id, t⟩ : Relation) ∈ getChannelRelations js dev.toAround P .withSubChannel ↔
      (C.id ≠ 0 ∧ P.id ≠ 0) ∧ SubSees js dev.toAround C P t := by
  rw [mem_getChannelRelations (simple_sub js dev P), whole_iff, and_comm]
  refine and_congr_right fun _ => ⟨fun h => ?_, ?_⟩
  · cases (subOffer_of_mem dev h).2 with
    | opening hf ht => exact absurd ht (by simp [h1, h2])
    | meter hf ht hm => exact .inl ⟨ht, hf, hm⟩
    | side q hq hid hs => exact .inr (dev.eq_of_id hC hq hid ▸ hs)
  · rintro (⟨rfl, hf, hm⟩ | h)
    · exact mem_of_meter dev hf hm
    · exact mem_of_subSide dev hC h

/-- The child's query, for two channels of the device. -/
theorem mem_parent_iff {C P : Props J} (hP : P ∈ dev.channels) {t : Int}
    (h1 : t ≠ relationOpeningSensor) (h2 : t ≠ relationPartialOpeningSensor) :
    (⟨C.id, P.id, t⟩ : Relation) ∈ getChannelRelations js dev.toAround C .withParentChannel ↔
      (C.id ≠ 0 ∧ P.id ≠ 0) ∧ ParentSees js dev.toAround C P t := by
  rw [mem_getChannelRelations (simple_parent js dev C), whole_iff, and_comm]
  refine and_congr_right fun _ => ⟨fun h => ?_, ?_⟩
  · cases (parentOffer_of_mem dev h).2 with
    | opening hf ht => exact absurd ht (by simp [h1, h2])
    | meter hf ht q hq hid hs hm =>
      have he : P = q := dev.ids P (List.mem_append.2 (.inl hP)) q hq hid
      exact .inl ⟨ht, hf, he ▸ hs, he ▸ hm⟩
    | side q hq hid hs => exact .inr (dev.eq_of_id hP hq hid ▸ hs)
  · rintro (⟨rfl, hC, hf, hm⟩ | h)
    · exact mem_parent_of_meter dev hP hC hf hm
    · exact mem_of_parentSide dev hP h

/-! ## The two sides, type by type -/

theorem SubSide.default {C P : Props J} (h : SubSide js dev.toAround C P relationDefault) :
    (∃ tpl ∈ templates js, 27 ≤ dev.protocolVersion ∧ tpl.lists P C.number = true ∧
      C.func = tpl.relatedFunc) ∨
    takesBinary js P C ∧ ∀ c, P.hvac js = some c → c.binarySensorChannelNo ≠ P.number := by
  cases h with
  | sensor tpl htpl ht hv hl hf => exact .inl ⟨tpl, htpl, hv, hl, hf⟩
  | binary c ht hP hc hself hno hf =>
    refine .inr ⟨⟨hP, hf, c, hc, hno⟩, fun c' hc' => ?_⟩
    rw [hc] at hc'
    obtain rfl := Option.some.inj hc'
    exact hself
  | aux c ht hP hc hin hself hno hf =>
    exact absurd ht.symm (aux_type_ne hin).1
  | main c ht | heat c ht | pump c ht | master ht => cases ht

theorem ParentSide.default {C P : Props J} (h : ParentSide js dev.toAround C P relationDefault) :
    (∃ tpl ∈ templates js, 27 ≤ dev.protocolVersion ∧ C.func = tpl.relatedFunc ∧
      dev.channels.find? (tpl.lists · C.number) = some P) ∨ takesBinary js P C := by
  cases h with
  | sensor tpl htpl ht hv hf hl => exact .inl ⟨tpl, htpl, hv, hf, hl⟩
  | binary c ht hP hc hf hno => exact .inr ⟨hP, hf, c, hc, hno⟩
  | aux c ht hP hc hb hf hin hno =>
    exact absurd ht.symm (aux_type_ne hin).1
  | main c ht | heat c ht | pump c ht | master ht => cases ht

theorem SubSide.of_master {C P : Props J}
    (h : SubSide js dev.toAround C P relationMasterThermostat) :
    isHvac P.func = true ∧ hasMaster js dev.toAround C P.number = true := by
  cases h with
  | master ht hP hm => exact ⟨hP, hm⟩
  | aux c ht hP hc hin hself hno hf =>
    exact absurd ht.symm (aux_type_ne hin).2
  | sensor tpl htpl ht | main c ht | binary c ht | heat c ht | pump c ht => cases ht

theorem ParentSide.of_master {C P : Props J}
    (h : ParentSide js dev.toAround C P relationMasterThermostat) :
    hasMaster js dev.toAround C P.number = true := by
  cases h with
  | master ht hm => exact hm
  | aux c ht hP hc hb hf hin hno =>
    exact absurd ht.symm (aux_type_ne hin).2
  | sensor tpl htpl ht | main c ht | binary c ht | heat c ht | pump c ht => cases ht

/-- The types by which a thermostat names a channel by its function. -/
def byFunc (t : Int) : Prop := 4 ≤ t ∧ t ≤ 8 ∨ t = 21 ∨ t = 22

/-- No side has a relation of another type. -/
theorem SubSide.types {C P : Props J} {t : Int} (h : SubSide js dev.toAround C P t) :
    t = relationDefault ∨ t = relationMasterThermostat ∨ byFunc t ∧ isHvac P.func = true := by
  unfold byFunc
  cases h with
  | sensor _ _ ht | binary _ ht => exact .inl ht
  | master ht => exact .inr (.inl ht)
  | aux c ht hP hc hin =>
    have := auxInUse_range hin
    exact .inr (.inr ⟨by omega, hP⟩)
  | main c ht hP | heat c ht hP | pump c ht hP => exact .inr (.inr ⟨by simp [ht], hP⟩)

theorem ParentSide.types {C P : Props J} {t : Int} (h : ParentSide js dev.toAround C P t) :
    t = relationDefault ∨ t = relationMasterThermostat ∨
      byFunc t ∧ C.type ≠ channeltypeBinarysensor ∧ isHvac C.func = false := by
  have hfunc : isHvac C.func = true → isThermometer C.func = false ∧
      C.func ≠ channelfncHeatOrColdSourceSwitch ∧ C.func ≠ channelfncPumpSwitch := fun hh =>
    have h8 := isHvac_only hh
    ⟨h8.2.2.2.1, h8.2.2.2.2.1, h8.2.2.2.2.2.1⟩
  unfold byFunc
  cases h with
  | sensor _ _ ht | binary _ ht => exact .inl ht
  | master ht => exact .inr (.inl ht)
  | aux c ht hP hc hb hf hin =>
    have := auxInUse_range hin
    refine .inr (.inr ⟨by omega, hb, Bool.eq_false_iff.2 fun hh => ?_⟩)
    simp [(hfunc hh).1] at hf
  | main c ht hP hc hb hf =>
    refine .inr (.inr ⟨by simp [ht], hb, Bool.eq_false_iff.2 fun hh => ?_⟩)
    simp [(hfunc hh).1] at hf
  | heat c ht hP hc hb hf =>
    exact .inr (.inr ⟨by simp [ht], hb, Bool.eq_false_iff.2 fun hh => (hfunc hh).2.1 hf⟩)
  | pump c ht hP hc hb hf =>
    exact .inr (.inr ⟨by simp [ht], hb, Bool.eq_false_iff.2 fun hh => (hfunc hh).2.2 hf⟩)

/-- No side has a relation of the parameters' types or of a meter. -/
theorem type_ne {t : Int}
    (h : t = relationDefault ∨ t = relationMasterThermostat ∨ byFunc t) :
    t ≠ relationOpeningSensor ∧ t ≠ relationPartialOpeningSensor ∧ t ≠ relationMeter := by
  simp only [relationDefault, relationMasterThermostat, byFunc] at h
  simp only [relationOpeningSensor, relationPartialOpeningSensor, relationMeter]
  omega

theorem SubSide.type_ne {C P : Props J} {t : Int} (h : SubSide js dev.toAround C P t) :
    t ≠ relationOpeningSensor ∧ t ≠ relationPartialOpeningSensor ∧ t ≠ relationMeter :=
  Channel.type_ne (h.types.imp_right (Or.imp_right And.left))

theorem ParentSide.type_ne {C P : Props J} {t : Int} (h : ParentSide js dev.toAround C P t) :
    t ≠ relationOpeningSensor ∧ t ≠ relationPartialOpeningSensor ∧ t ≠ relationMeter :=
  Channel.type_ne (h.types.imp_right (Or.imp_right And.left))

/-- The sensors of the two templates have different functions. -/
theorem template_eq {tpl tpl' : SensorTemplate J} (h : tpl ∈ templates js)
    (h' : tpl' ∈ templates js) (hf : tpl.relatedFunc = tpl'.relatedFunc) : tpl = tpl' := by
  simp only [templates, List.mem_cons, List.not_mem_nil, or_false] at h h'
  have hne : channelfncFloodSensor ≠ channelfncContainerLevelSensor := by decide
  obtain rfl | rfl := h <;> obtain rfl | rfl := h'
  · rfl
  · exact absurd hf hne
  · exact absurd hf.symm hne
  · rfl

/-- A thermostat is no sensor of a valve or a container. -/
theorem isHvac_not_sensor {p : Props J} (hp : isHvac p.func = true) {tpl : SensorTemplate J}
    (htpl : tpl ∈ templates js) : p.func ≠ tpl.relatedFunc := by
  obtain ⟨-, -, -, -, -, -, h1, h2⟩ := isHvac_only hp
  simp only [templates, List.mem_cons, List.not_mem_nil, or_false] at htpl
  obtain rfl | rfl := htpl
  · exact h1
  · exact h2

/-! ## Both ends -/

/-- Both ends of every pair of identified channels see the same relations. -/
def Symmetric (js : JsonClasses J) (dev : Around J) : Prop :=
  ∀ C, dev.identified C → ∀ P, dev.identified P → ∀ t, t ≠ relationOpeningSensor →
    t ≠ relationPartialOpeningSensor → (SubSees js dev C P t ↔ ParentSees js dev C P t)

theorem ParentSees.side {C P : Props J} {t : Int} (ht : t ≠ relationMeter)
    (h : ParentSees js dev.toAround C P t) : ParentSide js dev.toAround C P t :=
  h.resolve_left fun hm => ht hm.1

theorem SubSees.side {C P : Props J} {t : Int} (ht : t ≠ relationMeter)
    (h : SubSees js dev.toAround C P t) : SubSide js dev.toAround C P t :=
  h.resolve_left fun hm => ht hm.1

/-- A relation that is named by the function of `C` shows that `C` is no binary sensor. -/
theorem typed_of_sub {C P : Props J} {t : Int} (hsym : Symmetric js dev.toAround)
    (hC : dev.identified C) (hP : dev.identified P) (ht : byFunc t)
    (hs : SubSide js dev.toAround C P t) : C.type ≠ channeltypeBinarysensor := by
  unfold byFunc at ht
  have hp := (hsym C hC P hP t (by simp; omega) (by simp; omega)).1 (.inr hs)
  obtain hd | hm | ⟨-, hb, -⟩ := (hp.side dev (by simp; omega)).types
  · simp only [relationDefault] at hd
    omega
  · simp only [relationMasterThermostat] at hm
    omega
  · exact hb

theorem Symmetric.typed (hsym : Symmetric js dev.toAround) {C P : Props J}
    (hC : dev.identified C) (hP : dev.identified P) (hf : isHvac P.func = true) {c : HvacConfig}
    (hc : P.hvac js = some c) (hn : namesByFunc dev.toAround c C) :
    C.type ≠ channeltypeBinarysensor := by
  have hself : isThermometer C.func = true → C.number ≠ P.number := by
    intro hth he
    rw [dev.numbers C hC.1 P hP.1 he, (isHvac_only hf).2.2.2.1] at hth
    cases hth
  obtain ⟨hth, hno | ⟨hin, hno⟩⟩ | ⟨hv, ⟨hset, hno, hfn⟩ | ⟨hset, hno, hfn⟩⟩ := hn
  · exact typed_of_sub dev hsym hC hP (t := relationMainThermometer) (by simp [byFunc])
      (.main c rfl hf hc (hno ▸ hself hth) hno hth)
  · have := auxInUse_range hin
    exact typed_of_sub dev hsym hC hP (t := c.auxThermometerType + 3) (by unfold byFunc; omega)
      (.aux c rfl hf hc hin (hno ▸ hself hth) hno hth)
  · exact typed_of_sub dev hsym hC hP (t := relationHeatOrColdSourceSwitch) (by simp [byFunc])
      (.heat c rfl hf hc hv hset hno hfn)
  · exact typed_of_sub dev hsym hC hP (t := relationPumpSwitch) (by simp [byFunc])
      (.pump c rfl hf hc hv hset hno hfn)

theorem Symmetric.sensor (hsym : Symmetric js dev.toAround) {C P : Props J}
    {tpl : SensorTemplate J} (htpl : tpl ∈ templates js) (hv : 27 ≤ dev.protocolVersion)
    (hC : dev.identified C) (hP : dev.identified P) (hf : C.func = tpl.relatedFunc)
    (hl : tpl.lists P C.number = true) :
    dev.channels.find? (tpl.lists · C.number) = some P ∨ takesBinary js P C := by
  have hp := (hsym C hC P hP relationDefault (by decide) (by decide)).1
    (.inr (.sensor tpl htpl rfl hv hl hf))
  obtain ⟨tpl', htpl', -, hf', hfind⟩ | hb := (hp.side dev (by decide)).default
  · rw [template_eq htpl htpl' (hf ▸ hf')]
    exact .inl hfind
  · exact .inr hb

theorem Symmetric.self (hsym : Symmetric js dev.toAround) {P : Props J}
    (hP : dev.identified P) : ¬ takesBinary js P P := by
  rintro ⟨hf, hb, c, hc, hno⟩
  have hs := (hsym P hP P hP relationDefault (by decide) (by decide)).2
    (.inr (.binary c rfl hf hc hb hno))
  obtain ⟨tpl, htpl, -, -, hfn⟩ | ⟨-, hne⟩ := (hs.side dev (by decide)).default
  · exact isHvac_not_sensor hf htpl hfn
  · exact hne c hc hno

/-- A child's side of a device with the first five properties is the parent's side. -/
theorem SeenAlike.symmetric (h : SeenAlike js dev.toAround) : Symmetric js dev.toAround := by
  intro C hC P hP t _ _
  -- a channel that a thermostat names by its function is not the thermostat
  have hself : isHvac P.func = true → isThermometer C.func = true → C.number ≠ P.number := by
    intro hf hth he
    rw [dev.numbers C hC.1 P hP.1 he, (isHvac_only hf).2.2.2.1] at hth
    cases hth
  constructor
  · rintro (⟨rfl, hf, hm⟩ | hs)
    · exact .inl ⟨rfl, h.meter C hC P hP hf hm, hf, hm⟩
    · refine .inr ?_
      cases hs with
      | sensor tpl htpl ht hv hl hf =>
        obtain hfind | ⟨hP', hb, c, hc, hno⟩ := h.sensor hv tpl htpl C hC hf P hP hl
        · exact .sensor tpl htpl ht hv hf hfind
        · exact .binary c ht hP' hc hb hno
      | main c ht hf hc hs hno hth =>
        exact .main c ht hf hc (h.typed C hC P hP hf c hc (.inl ⟨hth, .inl hno⟩)) hth hno
      | aux c ht hf hc hin hs hno hth =>
        exact .aux c ht hf hc (h.typed C hC P hP hf c hc (.inl ⟨hth, .inr ⟨hin, hno⟩⟩)) hth hin hno
      | binary c ht hf hc hs hno hb => exact .binary c ht hf hc hb hno
      | heat c ht hf hc hv hset hno hfn =>
        exact .heat c ht hf hc (h.typed C hC P hP hf c hc (.inr ⟨hv, .inl ⟨hset, hno, hfn⟩⟩)) hfn hv
          hset hno
      | pump c ht hf hc hv hset hno hfn =>
        exact .pump c ht hf hc (h.typed C hC P hP hf c hc (.inr ⟨hv, .inr ⟨hset, hno, hfn⟩⟩)) hfn hv
          hset hno
      | master ht hf hm => exact .master ht hm
  · rintro (⟨rfl, -, hf, hm⟩ | hs)
    · exact .inl ⟨rfl, hf, hm⟩
    · refine .inr ?_
      cases hs with
      | sensor tpl htpl ht hv hf hl =>
        exact .sensor tpl htpl ht hv (by simpa using List.find?_some hl) hf
      | master ht hm => exact .master ht (h.master C hC P hP hm) hm
      | binary c ht hf hc hb hno =>
        refine .binary c ht hf hc (fun he => ?_) hno hb
        obtain rfl := dev.numbers C hC.1 P hP.1 (hno ▸ he)
        exact h.self C hC ⟨hf, hb, c, hc, he⟩
      | main c ht hf hc hb hth hno => exact .main c ht hf hc (hno ▸ hself hf hth) hno hth
      | aux c ht hf hc hb hth hin hno => exact .aux c ht hf hc hin (hno ▸ hself hf hth) hno hth
      | heat c ht hf hc hb hfn hv hset hno => exact .heat c ht hf hc hv hset hno hfn
      | pump c ht hf hc hb hfn hv hset hno => exact .pump c ht hf hc hv hset hno hfn

/-! ## `relation_any` -/

/-- **`relation_any` has both kinds exactly if no relation of the one is in the way of one of the
other.** -/
theorem any_iff (p : Props J) :
    (∀ r, r ∈ getChannelRelations js dev.toAround p .any ↔
        r ∈ getChannelRelations js dev.toAround p .withSubChannel ∨
          r ∈ getChannelRelations js dev.toAround p .withParentChannel) ↔
      ∀ a ∈ offered js dev.toAround p .withSubChannel,
        ∀ b ∈ offered js dev.toAround p .withParentChannel,
        a.whole = true → b.whole = true → a.same b = true → a = b := by
  constructor
  · intro h a ha b hb hwa hwb hab
    have hma := (h a).2 (.inl ((mem_getChannelRelations (simple_sub js dev p) a).2 ⟨ha, hwa⟩))
    have hmb := (h b).2 (.inr ((mem_getChannelRelations (simple_parent js dev p) b).2 ⟨hb, hwb⟩))
    by_contra hne
    have : Std.Symm fun a b : Relation => a.same b = false :=
      ⟨fun x y hxy => (Relation.same_comm y x).trans hxy⟩
    have hdiff := (getChannelRelations_pairwise js dev.toAround p .any).forall hma hmb hne
    rw [hab] at hdiff
    cases hdiff
  · intro h r
    have hsimple : Simple (offered js dev.toAround p .any) := by
      intro a ha b hb hwa hwb hab
      obtain ha | ha := offered_any.1 ha <;> obtain hb | hb := offered_any.1 hb
      · exact simple_sub js dev p a ha b hb hwa hwb hab
      · exact h a ha b hb hwa hwb hab
      · exact (h b hb a ha hwb hwa ((Relation.same_comm b a).trans hab)).symm
      · exact simple_parent js dev p a ha b hb hwa hwb hab
    rw [mem_getChannelRelations hsimple, mem_getChannelRelations (simple_sub js dev p),
      mem_getChannelRelations (simple_parent js dev p), offered_any, or_and_right]

theorem lists_valve {P : Props J} {no : BitVec 8} (h : (valveTemplate js).lists P no = true) :
    P.func = channelfncValveOpenclose := by
  simp only [SensorTemplate.lists, SensorTemplate.isParent, valveTemplate, Bool.and_eq_true,
    Bool.or_eq_true] at h
  rcases h.1 with hfunc | htype
  · exact (of_decide_eq_true hfunc.2).symm
  · exact absurd rfl (of_decide_eq_true htype.1)

theorem lists_container {P : Props J} {no : BitVec 8}
    (h : (containerTemplate js).lists P no = true) : P.type = channeltypeContainer := by
  simp only [SensorTemplate.lists, SensorTemplate.isParent, containerTemplate, Bool.and_eq_true,
    Bool.or_eq_true] at h
  rcases h.1 with hfunc | htype
  · exact absurd rfl (of_decide_eq_true hfunc.1)
  · exact (of_decide_eq_true htype.2).symm

/-- The families of the parameters and of the meters do not overlap. -/
theorem isOpeningSensor_only {func : Int} (h : isOpeningSensor func = true) :
    isControlling func = false ∧ isShutter func = false := by
  simp only [isOpeningSensor, Bool.or_eq_true, decide_eq_true_eq] at h
  obtain ((((rfl | rfl) | rfl) | rfl) | rfl) | rfl := h <;> decide

/-- Two channels that list each other as sensors are containers. -/
theorem lists_each_other {P Q : Props J} {tpl tpl' : SensorTemplate J} (htpl : tpl ∈ templates js)
    (htpl' : tpl' ∈ templates js) (hl : tpl.lists P Q.number = true)
    (hl' : tpl'.lists Q P.number = true) (hQ : Q.func = tpl.relatedFunc)
    (hP : P.func = tpl'.relatedFunc) :
    tpl = containerTemplate js ∧ tpl' = containerTemplate js := by
  simp only [templates, List.mem_cons, List.not_mem_nil, or_false] at htpl htpl'
  have hne : channelfncValveOpenclose ≠ channelfncFloodSensor ∧
      channelfncValveOpenclose ≠ channelfncContainerLevelSensor := by decide
  obtain rfl | rfl := htpl <;> obtain rfl | rfl := htpl'
  · exact absurd ((lists_valve hl).symm.trans hP) hne.1
  · exact absurd ((lists_valve hl).symm.trans hP) hne.2
  · exact absurd ((lists_valve hl').symm.trans hQ) hne.2
  · exact ⟨rfl, rfl⟩

/-- Two channels that are each other's parent are so in one of the three ways. -/
theorem each_other {P Q : Props J} {t : Int} (hs : SubSide js dev.toAround Q P t)
    (hp : ParentSide js dev.toAround P Q t) :
    hasMaster js dev.toAround P Q.number = true ∧ hasMaster js dev.toAround Q P.number = true ∨
    27 ≤ dev.protocolVersion ∧ P.func = channelfncContainerLevelSensor ∧
      Q.func = channelfncContainerLevelSensor ∧ (containerTemplate js).lists P Q.number = true ∧
      (containerTemplate js).lists Q P.number = true ∨
    takesBinary js P Q ∧ takesBinary js Q P := by
  obtain rfl | rfl | ⟨ht, hf⟩ := hs.types
  · obtain ⟨tpl, htpl, hv, hl, hQ⟩ | ⟨hb, -⟩ := hs.default <;>
      obtain ⟨tpl', htpl', -, hP, hl'⟩ | hb' := hp.default
    · have hl' : tpl'.lists Q P.number = true := by simpa using List.find?_some hl'
      obtain ⟨rfl, rfl⟩ := lists_each_other htpl htpl' hl hl' hQ hP
      exact .inr (.inl ⟨hv, hP, hQ, hl, hl'⟩)
    · exact absurd hQ (isHvac_not_sensor hb'.1 htpl)
    · exact absurd hP (isHvac_not_sensor hb.1 htpl')
    · exact .inr (.inr ⟨hb, hb'⟩)
  · exact .inl ⟨hp.of_master, hs.of_master.2⟩
  · obtain rfl | rfl | ⟨-, -, hf'⟩ := hp.types
    · unfold byFunc at ht
      simp only [relationDefault] at ht
      omega
    · unfold byFunc at ht
      simp only [relationMasterThermostat] at ht
      omega
    · rw [hf] at hf'
      cases hf'

/-- A relation and its reverse that one channel offers are between it and another of its device. -/
theorem offers_reverse {P : Props J} {a t : Int}
    (hs : SubOffer js dev.toAround P ⟨a, P.id, t⟩)
    (hp : ParentOffer js dev.toAround P ⟨P.id, a, t⟩) :
    ∃ Q ∈ dev.channels, a = Q.id ∧ SubSide js dev.toAround Q P t ∧
      ParentSide js dev.toAround P Q t := by
  cases hs with
  | opening hf ht =>
    cases hp with
    | opening hf' =>
      obtain ⟨h1, h2⟩ := isOpeningSensor_only hf'
      simp [h1, h2] at hf
    | meter _ ht' =>
      rw [ht'] at ht
      exact absurd ht (by decide)
    | side _ _ _ hp => exact absurd ht (not_or.2 ⟨hp.type_ne.1, hp.type_ne.2.1⟩)
  | meter hf ht =>
    cases hp with
    | opening _ ht' =>
      rw [ht] at ht'
      exact absurd ht' (by decide)
    | meter hf' => simp [(isSwitch_only hf).2.2] at hf'
    | side _ _ _ hp => exact absurd ht hp.type_ne.2.2
  | side Q hQ hid hs =>
    cases hp with
    | opening _ ht => exact absurd ht (not_or.2 ⟨hs.type_ne.1, hs.type_ne.2.1⟩)
    | meter _ ht => exact absurd ht hs.type_ne.2.2
    | side Q' hQ' hid' hp =>
      obtain rfl := dev.eq_of_id hQ hQ' (hid.symm.trans hid')
      exact ⟨Q, hQ, hid, hs, hp⟩

theorem SeenAlike.any (h : SeenAlike js dev.toAround) {P : Props J} (hP : P ∈ dev.channels)
    (r : Relation) : r ∈ getChannelRelations js dev.toAround P .any ↔
      r ∈ getChannelRelations js dev.toAround P .withSubChannel ∨
        r ∈ getChannelRelations js dev.toAround P .withParentChannel := by
  refine (any_iff dev P).2 (fun a ha b hb hwa hwb hab => ?_) r
  obtain ⟨hap, hs⟩ := subOffer_of_mem dev ha
  obtain ⟨hbi, hp⟩ := parentOffer_of_mem dev hb
  obtain ⟨a, a', t⟩ := a
  obtain ⟨b, b', u⟩ := b
  obtain ⟨ha0, ha0'⟩ := whole_iff.1 hwa
  simp only [Relation.same, Bool.and_eq_true, Bool.or_eq_true, decide_eq_true_eq] at hap hbi hab
  subst hap hbi
  obtain ⟨⟨rfl, rfl⟩ | ⟨-, rfl⟩, rfl⟩ := hab
  · rfl
  · obtain ⟨Q, hQ, rfl, hs, hp⟩ := offers_reverse dev hs hp
    by_cases hne : P = Q
    · rw [hne]
    have hP' : dev.identified P := ⟨hP, ha0'⟩
    have hQ' : dev.identified Q := ⟨hQ, ha0⟩
    obtain ⟨h1, h2⟩ | ⟨hv, hP1, hQ1, h1, h2⟩ | ⟨h1, h2⟩ := each_other dev hs hp
    · rw [h.masters P hP' Q hQ' hne h1] at h2
      cases h2
    · rw [h.containers hv P hP' Q hQ' hne hP1 hQ1 h1] at h2
      cases h2
    · exact absurd h2 (h.binaries P hP' Q hQ' hne h1)

/-- A relation and its reverse cannot both be in `relation_any`. -/
theorem any_not_reverse {P Q : Props J} {t : Int} (hP : dev.identified P) (hQ : dev.identified Q)
    (hne : P ≠ Q) (hs : SubSide js dev.toAround Q P t) (hp : ParentSide js dev.toAround P Q t)
    (h : ∀ r, r ∈ getChannelRelations js dev.toAround P .any ↔
      r ∈ getChannelRelations js dev.toAround P .withSubChannel ∨
        r ∈ getChannelRelations js dev.toAround P .withParentChannel) : False := by
  have he := (any_iff dev P).1 h _ (mem_of_subSide dev hQ.1 hs) _ (mem_of_parentSide dev hQ.1 hp)
    (whole_iff.2 ⟨hQ.2, hP.2⟩) (whole_iff.2 ⟨hP.2, hQ.2⟩) (by simp [Relation.same])
  exact hne (dev.eq_of_id hP.1 hQ.1 (Relation.mk.inj he).2.1)

/-! ## The main result -/

/-- **Exactly the devices of `SeenAlike` show their relations alike from both ends**, and have both
kinds, each relation once, in `relation_any`. -/
theorem relations_seen_alike (js : JsonClasses J) (dev : UserDevice J) :
    ((∀ C ∈ dev.channels, ∀ P ∈ dev.channels, ∀ t : Int, t ≠ relationOpeningSensor →
        t ≠ relationPartialOpeningSensor →
        (⟨C.id, P.id, t⟩ ∈ getChannelRelations js dev.toAround P .withSubChannel ↔
          ⟨C.id, P.id, t⟩ ∈ getChannelRelations js dev.toAround C .withParentChannel)) ∧
      ∀ P ∈ dev.channels, (getChannelRelations js dev.toAround P .any).Nodup ∧
        ∀ r, r ∈ getChannelRelations js dev.toAround P .any ↔
          r ∈ getChannelRelations js dev.toAround P .withSubChannel ∨
            r ∈ getChannelRelations js dev.toAround P .withParentChannel) ↔
      SeenAlike js dev.toAround := by
  constructor
  · rintro ⟨hends, hany⟩
    have hsym : Symmetric js dev.toAround := by
      intro C hC P hP t h1 h2
      have h := hends C hC.1 P hP.1 t h1 h2
      rw [mem_sub_iff dev hC.1 h1 h2, mem_parent_iff dev hP.1 h1 h2] at h
      simpa [hC.2, hP.2] using h
    have hmaster : ∀ C, dev.identified C → ∀ P, dev.identified P →
        hasMaster js dev.toAround C P.number = true → isHvac P.func = true := by
      intro C hC P hP hm
      have hs := (hsym C hC P hP relationMasterThermostat (by decide) (by decide)).2
        (.inr (.master rfl hm))
      exact (hs.side dev (by decide)).of_master.1
    refine
      { sensor := fun hv tpl htpl C hC hf P hP hl => hsym.sensor dev htpl hv hC hP hf hl
        meter := fun C hC P hP hf hm => ?_
        master := hmaster
        typed := fun C hC P hP hf c hc hn => hsym.typed dev hC hP hf hc hn
        self := fun P hP => hsym.self dev hP
        masters := fun P hP Q hQ hne h1 => Bool.eq_false_iff.2 fun h2 => ?_
        containers := fun hv P hP Q hQ hne hfP hfQ h1 => Bool.eq_false_iff.2 fun h2 => ?_
        binaries := fun P hP Q hQ hne h1 h2 => ?_ }
    · have hp := (hsym C hC P hP relationMeter (by decide) (by decide)).1 (.inl ⟨rfl, hf, hm⟩)
      obtain ⟨-, hmeter, -⟩ | hp := hp
      · exact hmeter
      · exact absurd rfl hp.type_ne.2.2
    · exact any_not_reverse dev hP hQ hne (.master rfl (hmaster Q hQ P hP h2) h2) (.master rfl h1)
        (hany P hP.1).2
    · have htpl : containerTemplate js ∈ templates js := by simp [templates]
      refine any_not_reverse dev hP hQ hne (.sensor _ htpl rfl hv h1 hfQ) ?_ (hany P hP.1).2
      obtain hfind | hb := hsym.sensor dev htpl hv hP hQ hfP h2
      · exact .sensor _ htpl rfl hv hfP hfind
      · exact absurd (hb.2.1.symm.trans (lists_container h1)) (by decide)
    · obtain ⟨hfP, hbQ, c, hc, hno⟩ := h1
      obtain ⟨hfQ, hbP, c', hc', hno'⟩ := h2
      have hself : c.binarySensorChannelNo ≠ P.number := fun he =>
        hne (dev.numbers P hP.1 Q hQ.1 (he.symm.trans hno))
      exact any_not_reverse dev hP hQ hne (.binary c rfl hfP hc hself hno hbQ)
        (.binary c' rfl hfQ hc' hbP hno') (hany P hP.1).2
  · intro h
    refine ⟨fun C hC P hP t h1 h2 => ?_, fun P hP =>
      ⟨getChannelRelations_nodup js dev.toAround P .any, h.any dev hP⟩⟩
    rw [mem_sub_iff dev hC h1 h2, mem_parent_iff dev hP h1 h2]
    exact and_congr_right fun hid =>
      h.symmetric dev C ⟨hC, hid.1⟩ P ⟨hP, hid.2⟩ t h1 h2

end

end

/-! ## A shared sensor -/

/-- A document that lists flood sensors. -/
def floodSensors : JsonClasses (List (BitVec 8)) where
  hvac _ _ := none
  container _ := none
  valve j := j.map fun l => ⟨l.map (.number true), []⟩
  other _ _ _ := none
  activeActions _ := 0
  relatedMeterChannelId _ := 0
  setConfig _ _ _ _ := []

def valveChannel (id : Int) (number : BitVec 8) : Props (List (BitVec 8)) :=
  ⟨id, 1, number, channeltypeValveOpenclose, channelfncValveOpenclose, 0, 0, 0, 0, some [2]⟩

def floodChannel : Props (List (BitVec 8)) :=
  ⟨3, 1, 2, channeltypeBinarysensor, channelfncFloodSensor, 0, 0, 0, 0, none⟩

/-- Two valves, channels 1 and 2, that close on the same flood sensor, channel 3. -/
def sharedSensor : UserDevice (List (BitVec 8)) where
  channels := [valveChannel 1 0, valveChannel 2 1, floodChannel]
  others := []
  protocolVersion := 27
  ids := by decide
  numbers := by decide

/-- **The sensor does not name its second valve, which names it.** -/
theorem shared_sensor_missed :
    ¬ ∀ (js : JsonClasses (List (BitVec 8))) (dev : UserDevice (List (BitVec 8))),
      (∀ C ∈ dev.channels, ∀ P ∈ dev.channels, ∀ t : Int, t ≠ relationOpeningSensor →
        t ≠ relationPartialOpeningSensor →
        (⟨C.id, P.id, t⟩ ∈ getChannelRelations js dev.toAround P .withSubChannel ↔
          ⟨C.id, P.id, t⟩ ∈ getChannelRelations js dev.toAround C .withParentChannel)) ∧
      ∀ P ∈ dev.channels, (getChannelRelations js dev.toAround P .any).Nodup ∧
        ∀ r, r ∈ getChannelRelations js dev.toAround P .any ↔
          r ∈ getChannelRelations js dev.toAround P .withSubChannel ∨
            r ∈ getChannelRelations js dev.toAround P .withParentChannel := by
  intro h
  have hends := (h floodSensors sharedSensor).1 floodChannel (by decide) (valveChannel 2 1)
    (by decide) relationDefault (by decide) (by decide)
  exact absurd (hends.1 (by decide)) (by decide)

end Channel
