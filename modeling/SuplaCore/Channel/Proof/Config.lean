import SuplaCore.Channel.Config
import Mathlib.Tactic.SplitIfs

/-!
# When the two cascades agree

`set_user_config` may take the bytes of a message for a structure other than the one `get_config`
returns under the same `config_type`: most of its branches test neither the type nor the size of
the message, and the two cascades look at the channel's type and function in different orders.
`Fits` lists, branch by branch, the tests that are left out; `user_config_agrees` shows that they
are exactly what is missing.
-/

namespace Channel

attribute [simp] configTypeDefault configTypeWeeklySchedule configTypeAltWeeklySchedule
  configTypeOcr configTypeExtended

section
variable {J : Type}

/-- **`get_config` answers this `config_type` with structure `s`**: it does so whenever the
channel's document has the configuration asked for. -/
def Produces (p : Props J) (configType : UInt8) (s : Struct) : Prop :=
  ∀ (js : JsonClasses J) (dev : Around J) (r : Bool), (∀ t, (jsonToConfig js p t).isSome) →
    ∃ c, getConfig js dev p configType 0 r = some c ∧ c.struct = s

/-- What the two directions owe each other for one message. -/
structure Agrees (p : Props J) (configType : UInt8) (configSize : Nat) (o : UserConfig J) :
    Prop where
  written : ∀ row ∈ o.rows, Produces p configType row.target.struct ∧
    configSize = row.target.struct.sizeof
  otherwise : (¬ ∃ s, Produces p configType s ∧ configSize = s.sizeof) →
    o.result ≠ .true ∧ o.rows = []
  unwritten : o.rows = [] → o.result ≠ .true

/-- A message of the default type that has the size of `s`. -/
def isDefault (s : Struct) (configType : UInt8) (configSize : Nat) : Prop :=
  configType = configTypeDefault ∧ configSize = s.sizeof

/-- **The tests `set_user_config` leaves out**, by the branch that the message takes. -/
def Fits (p : Props J) (configType : UInt8) (configSize : Nat) : Prop :=
  if p.type = channeltypeHvac ∧ configType = configTypeDefault ∧
      configSize = Struct.hvac.sizeof then True
  else if (configType = configTypeWeeklySchedule ∨ configType = configTypeAltWeeklySchedule) ∧
      configSize = Struct.weeklySchedule.sizeof ∧ p.hasWeeklySchedule then True
  else if p.type = channeltypeBinarysensor then isDefault .binarySensor configType configSize
  else if isTempHum p.func then
    isDefault .temperatureAndHumidity configType configSize ∧ typeTarget p.type = none
  else if p.type = channeltypeGeneralPurposeMeasurement then
    isDefault .generalPurposeMeasurement configType configSize
  else if p.type = channeltypeGeneralPurposeMeter then
    isDefault .generalPurposeMeter configType configSize
  else if isRollerShutter p.func then
    isDefault .rollerShutter configType configSize ∧ typeTarget p.type = none
  else if isFacadeBlind p.func then
    isDefault .facadeBlind configType configSize ∧ typeTarget p.type = none
  else if p.type = channeltypeElectricityMeter then
    isDefault .electricityMeter configType configSize ∧ p.func = channelfncElectricityMeter
  else if p.type = channeltypeImpulseCounter ∧ configType = configTypeOcr then
    configSize = Struct.ocr.sizeof ∧ ¬ p.hasWeeklySchedule
  else if p.type = channeltypeImpulseCounter ∧ configType = configTypeDefault ∧
      configSize = Struct.impulseCounter.sizeof then True
  else if (isPowerSwitch p.func ∨ p.func = channelfncStaircaseTimer) ∧
      configType = configTypeDefault ∧ configSize = Struct.powerSwitch.sizeof then
    p.func ≠ channelfncStaircaseTimer ∧ typeTarget p.type = none
  else if p.func = channelfncStaircaseTimer ∧ configType = configTypeDefault ∧
      configSize = Struct.staircaseTimer.sizeof then typeTarget p.type = none
  else if p.func = channelfncStaircaseTimer ∧ configType = configTypeExtended ∧
      configSize = Struct.powerSwitch.sizeof then ¬ p.hasWeeklySchedule
  else if p.type = channeltypeContainer then isDefault .container configType configSize
  else if p.type = channeltypeValveOpenclose then isDefault .valve configType configSize
  else True

/-! ## `get_config` -/

/-- The structure of `get_config`. -/
def configStruct (p : Props J) (configType : UInt8) : Option Struct :=
  (configTarget p configType).map (·.struct)

theorem jsonToConfig_struct {js : JsonClasses J} {p : Props J} {t : Target} {c : Config}
    (h : jsonToConfig js p t = some c) : c.struct = t.struct := by
  obtain ⟨cls, s⟩ := t
  cases s <;> simp only [jsonToConfig, Option.map_eq_some_iff, Option.some.injEq] at h
  case actionTrigger => rw [← h]; rfl
  all_goals
    obtain ⟨x, -, rfl⟩ := h
    rfl

@[simp] theorem resolve_struct (dev : Around J) (p : Props J) (c : Config) :
    (resolve dev p c).struct = c.struct := by
  cases c <;> rfl

/-- **The size of an answer is that of the structure** `get_config` settled on. -/
theorem getConfig_struct {js : JsonClasses J} {dev : Around J} {p : Props J} {configType : UInt8}
    {flags : BitVec 32} {r : Bool} {c : Config}
    (h : getConfig js dev p configType flags r = some c) :
    configStruct p configType = some c.struct := by
  unfold getConfig at h
  split at h
  · cases h
  · split at h
    · cases h
    · next t ht =>
      obtain ⟨c', hc', rfl⟩ := Option.map_eq_some_iff.1 h
      have hs := jsonToConfig_struct hc'
      cases r <;> simp [configStruct, ht, hs]

/-- Classes that find every configuration asked for. -/
def full (js : JsonClasses J) : JsonClasses J :=
  { js with
    hvac := fun _ _ => some ⟨0, 0, 0, 0, false, 0, false, 0, false, 0, []⟩
    container := fun _ => some ⟨[], []⟩
    valve := fun _ => some ⟨[], []⟩
    other := fun _ _ _ => some [] }

theorem full_isSome (js : JsonClasses J) (p : Props J) (t : Target) :
    (jsonToConfig (full js) p t).isSome := by
  obtain ⟨cls, s⟩ := t
  cases s <;> rfl

theorem produces_iff (js : JsonClasses J) (dev : Around J) (p : Props J) (configType : UInt8)
    (s : Struct) : Produces p configType s ↔ configStruct p configType = some s := by
  constructor
  · intro h
    obtain ⟨c, hc, rfl⟩ := h (full js) dev false (full_isSome js p)
    exact getConfig_struct hc
  · intro h js' dev' r hjs
    obtain ⟨t, ht, rfl⟩ := Option.map_eq_some_iff.1 h
    obtain ⟨c, hc⟩ := Option.isSome_iff_exists.1 (hjs t)
    have hs := jsonToConfig_struct hc
    cases r
    · exact ⟨c, by simp [getConfig, ht, hc], hs⟩
    · exact ⟨resolve dev' p c, by simp [getConfig, ht, hc], by simp [hs]⟩

/-! ## The structure for each `config_type` -/

/-- The structure under the default type. -/
def ownStruct (p : Props J) : Option Struct :=
  ((typeTarget p.type).or (funcTarget p.func)).map (·.struct)

theorem defaultTarget_struct (p : Props J) (configType : UInt8) :
    (defaultTarget p configType).map (·.struct) =
      if configType = configTypeDefault then ownStruct p else none := by
  unfold defaultTarget ownStruct
  by_cases h : configType = configTypeDefault
  · rw [if_neg (not_not.2 h), if_pos h]
    cases typeTarget p.type <;> rfl
  · rw [if_pos h, if_neg h]
    rfl

theorem configStruct_eq (p : Props J) (configType : UInt8) :
    configStruct p configType =
      if p.hasWeeklySchedule ∧
          (configType = configTypeWeeklySchedule ∨ configType = configTypeAltWeeklySchedule) then
        some .weeklySchedule
      else if ¬ p.hasWeeklySchedule ∧ p.type = channeltypeImpulseCounter ∧
          configType = configTypeOcr then some .ocr
      else if ¬ p.hasWeeklySchedule ∧ configType = configTypeExtended ∧
          p.func = channelfncStaircaseTimer then some .powerSwitch
      else if configType = configTypeDefault then ownStruct p
      else none := by
  rw [← defaultTarget_struct]
  unfold configStruct configTarget
  split_ifs <;> simp_all

theorem configStruct_of_default (p : Props J) : configStruct p configTypeDefault = ownStruct p := by
  simp [configStruct_eq]

/-- A structure that neither a schedule, a photo nor an extended configuration has is returned
under the default type only. -/
theorem configStruct_default {p : Props J} {configType : UInt8} {s : Struct}
    (hw : s ≠ .weeklySchedule) (ho : s ≠ .ocr) (hp : s ≠ .powerSwitch) :
    configStruct p configType = some s ↔ configType = configTypeDefault ∧ ownStruct p = some s := by
  rw [configStruct_eq]
  split_ifs with h1 h2 h3 h4
  · obtain ⟨-, h | h⟩ := h1 <;> simp [h, hw.symm]
  · simp [h2.2.2, ho.symm]
  · simp [h3.2.1, hp.symm]
  · simp [h4]
  · simp [h4]

/-- The structures that a channel type has for itself. -/
theorem typeTarget_struct {type : Int} {t : Target} (h : typeTarget type = some t) :
    t.struct ∈ [Struct.hvac, .binarySensor, .generalPurposeMeasurement, .generalPurposeMeter,
      .impulseCounter, .container, .valve] := by
  unfold typeTarget at h
  split_ifs at h <;> cases h <;> decide

theorem ownStruct_type {p : Props J} {t : Target} (h : typeTarget p.type = some t) :
    ownStruct p = some t.struct := by
  simp [ownStruct, h]

/-- A structure that no channel type has for itself is returned by the function alone. -/
theorem ownStruct_func {p : Props J} {s : Struct}
    (hs : s ∉ [Struct.hvac, .binarySensor, .generalPurposeMeasurement, .generalPurposeMeter,
      .impulseCounter, .container, .valve]) :
    ownStruct p = some s ↔
      typeTarget p.type = none ∧ (funcTarget p.func).map (·.struct) = some s := by
  unfold ownStruct
  cases ht : typeTarget p.type with
  | none => simp
  | some t =>
    have hne : t.struct ≠ s := fun he => hs (he ▸ typeTarget_struct ht)
    simp [hne]

theorem funcTarget_tempHum {func : Int} (h : isTempHum func = true) :
    funcTarget func = some ⟨.tempHum, .temperatureAndHumidity⟩ := by
  simp only [isTempHum, Bool.or_eq_true, decide_eq_true_eq] at h
  obtain (rfl | rfl) | rfl := h <;> decide

theorem funcTarget_rollerShutter {func : Int} (h : isRollerShutter func = true) :
    funcTarget func = some ⟨.rollerShutter, .rollerShutter⟩ := by
  simp only [isRollerShutter, Bool.or_eq_true, decide_eq_true_eq] at h
  obtain ((((rfl | rfl) | rfl) | rfl) | rfl) | rfl := h <;> decide

theorem funcTarget_facadeBlind {func : Int} (h : isFacadeBlind func = true) :
    funcTarget func = some ⟨.facadeBlind, .facadeBlind⟩ := by
  simp only [isFacadeBlind, Bool.or_eq_true, decide_eq_true_eq] at h
  obtain rfl | rfl := h <;> decide

theorem funcTarget_powerSwitch {func : Int} (h : isPowerSwitch func = true) :
    funcTarget func = some ⟨.powerSwitch, .powerSwitch⟩ := by
  simp only [isPowerSwitch, Bool.or_eq_true, decide_eq_true_eq] at h
  obtain rfl | rfl := h <;> decide

/-- Only the function of an electricity meter has its structure. -/
theorem funcTarget_electricityMeter {func : Int} :
    (funcTarget func).map (·.struct) = some .electricityMeter ↔
      func = channelfncElectricityMeter := by
  constructor
  · intro h
    unfold funcTarget at h
    split_ifs at h with h1 h2 h3 h4 h5 h6 <;> first | exact h6 | cases h
  · rintro rfl
    decide

/-! ## The branches of `set_user_config` -/

/-- A message taken for structure `s` is taken for what `get_config` returns. -/
def Same (p : Props J) (configType : UInt8) (configSize : Nat) (s : Struct) : Prop :=
  configStruct p configType = some s ∧ configSize = s.sizeof

/-- A branch entered by the channel's type that tests nothing of the message. -/
theorem same_type {p : Props J} {configType : UInt8} {configSize : Nat} {t : Target}
    (h : typeTarget p.type = some t) :
    Same p configType configSize t.struct ↔ isDefault t.struct configType configSize := by
  have hm := typeTarget_struct h
  have hne : t.struct ≠ .weeklySchedule ∧ t.struct ≠ .ocr ∧ t.struct ≠ .powerSwitch := by
    refine ⟨?_, ?_, ?_⟩ <;> intro he <;> rw [he] at hm <;> revert hm <;> decide
  unfold Same isDefault
  rw [configStruct_default hne.1 hne.2.1 hne.2.2, ownStruct_type h]
  simp

/-- A branch entered by the channel's function that tests nothing of the message. -/
theorem same_func {p : Props J} {configType : UInt8} {configSize : Nat} {s : Struct}
    (hs : s ∈ [Struct.temperatureAndHumidity, .rollerShutter, .facadeBlind, .electricityMeter,
      .staircaseTimer]) :
    Same p configType configSize s ↔ isDefault s configType configSize ∧
      typeTarget p.type = none ∧ (funcTarget p.func).map (·.struct) = some s := by
  have hne : s ≠ .weeklySchedule ∧ s ≠ .ocr ∧ s ≠ .powerSwitch := by
    refine ⟨?_, ?_, ?_⟩ <;> rintro rfl <;> revert hs <;> decide
  have hown : s ∉ [Struct.hvac, .binarySensor, .generalPurposeMeasurement, .generalPurposeMeter,
      .impulseCounter, .container, .valve] := by
    revert hs
    cases s <;> decide
  unfold Same isDefault
  rw [configStruct_default hne.1 hne.2.1 hne.2.2, ownStruct_func hown]
  tauto

/-- One branch of both cascades: `A` is what the branch leaves untested. -/
theorem branch {c A B : Prop} [Decidable c] {x y : Option Target} {P : Target → Prop}
    (hpos : c → (A ↔ ∀ t, x = some t → P t)) (hneg : ¬ c → (B ↔ ∀ t, y = some t → P t)) :
    (if c then A else B) ↔ ∀ t, (if c then x else y) = some t → P t := by
  by_cases h : c
  · simpa only [if_pos h] using hpos h
  · simpa only [if_neg h] using hneg h

theorem taken {A : Prop} {t : Target} {P : Target → Prop} (h : A ↔ P t) :
    A ↔ ∀ t', some t = some t' → P t' := by
  rw [h]
  exact ⟨fun hp t' he => Option.some.inj he ▸ hp, fun hp => hp t rfl⟩

/-- **A message fits exactly if it is taken for what `get_config` returns.** -/
theorem fits_iff (p : Props J) (configType : UInt8) (configSize : Nat) :
    Fits p configType configSize ↔
      ∀ t, userTarget p configType configSize = some t → Same p configType configSize t.struct := by
  unfold Fits userTarget
  refine branch (fun h => taken ?_) fun h1 => ?_
  · have ht : typeTarget p.type = some ⟨.hvac, .hvac⟩ := by rw [h.1]; decide
    exact ⟨fun _ => (same_type ht).2 h.2, fun _ => trivial⟩
  refine branch (fun h => ?_) fun h2 => ?_
  · have hs : Same p configType configSize .weeklySchedule :=
      ⟨by rw [configStruct_eq, if_pos ⟨h.2.2, h.1⟩], h.2.1⟩
    refine ⟨fun _ t ht => ?_, fun _ => trivial⟩
    split at ht <;> cases ht <;> exact hs
  refine branch (fun h => taken ?_) fun h3 => ?_
  · have ht : typeTarget p.type = some ⟨.binarySensor, .binarySensor⟩ := by rw [h]; decide
    exact (same_type ht).symm
  refine branch (fun h => taken ?_) fun h4 => ?_
  · rw [same_func (by decide), funcTarget_tempHum h]
    simp
  refine branch (fun h => taken ?_) fun h5 => ?_
  · have ht : typeTarget p.type =
        some ⟨.generalPurposeMeasurement, .generalPurposeMeasurement⟩ := by rw [h]; decide
    exact (same_type ht).symm
  refine branch (fun h => taken ?_) fun h6 => ?_
  · have ht : typeTarget p.type = some ⟨.generalPurposeMeter, .generalPurposeMeter⟩ := by
      rw [h]; decide
    exact (same_type ht).symm
  refine branch (fun h => taken ?_) fun h7 => ?_
  · rw [same_func (by decide), funcTarget_rollerShutter h]
    simp
  refine branch (fun h => taken ?_) fun h8 => ?_
  · rw [same_func (by decide), funcTarget_facadeBlind h]
    simp
  refine branch (fun h => taken ?_) fun h9 => ?_
  · have ht : typeTarget p.type = none := by rw [h]; decide
    rw [same_func (by decide), funcTarget_electricityMeter]
    simp [ht]
  refine branch (fun h => taken ?_) fun h10 => ?_
  · unfold Same
    rw [configStruct_eq, h.1, h.2]
    by_cases hw : p.hasWeeklySchedule = true <;> simp [hw]
  refine branch (fun h => taken ?_) fun h11 => ?_
  · have ht : typeTarget p.type = some ⟨.impulseCounter, .impulseCounter⟩ := by rw [h.1]; decide
    exact ⟨fun _ => (same_type ht).2 h.2, fun _ => trivial⟩
  refine branch (fun h => taken ?_) fun h12 => ?_
  · unfold Same
    rw [h.2.1, configStruct_of_default, ownStruct_func (by decide)]
    obtain hf | hf := h.1
    · have hne : p.func ≠ channelfncStaircaseTimer := by
        intro he
        rw [he] at hf
        revert hf
        decide
      simp [funcTarget_powerSwitch hf, hne, h.2.2]
    · have hst : (funcTarget channelfncStaircaseTimer).map (·.struct) = some .staircaseTimer := by
        decide
      simp [hf, hst]
  refine branch (fun h => taken ?_) fun h13 => ?_
  · have hst : (funcTarget channelfncStaircaseTimer).map (·.struct) = some .staircaseTimer := by
      decide
    rw [same_func (by decide), h.1, hst]
    simp [isDefault, h.2.1, h.2.2]
  refine branch (fun h => taken ?_) fun h14 => ?_
  · unfold Same
    rw [configStruct_eq, h.2.1]
    by_cases hw : p.hasWeeklySchedule = true <;> simp [hw, h.1, h.2.2]
  refine branch (fun h => taken ?_) fun h15 => ?_
  · have ht : typeTarget p.type = some ⟨.container, .container⟩ := by rw [h]; decide
    exact (same_type ht).symm
  refine branch (fun h => taken ?_) fun h16 => ?_
  · have ht : typeTarget p.type = some ⟨.valve, .valve⟩ := by rw [h]; decide
    exact (same_type ht).symm
  · constructor
    · intro _ t ht
      cases ht
    · exact fun _ => trivial

/-! ## `set_user_config` -/

theorem agrees_nil (p : Props J) (configType : UInt8) (configSize : Nat) {o : UserConfig J}
    (hrows : o.rows = []) (hres : o.result ≠ .true) : Agrees p configType configSize o :=
  { written := by simp [hrows], otherwise := fun _ => ⟨hres, hrows⟩, unwritten := fun _ => hres }

/-- **Exactly the messages that fit are stored as what `get_config` returns for their type**, and
any other message within the size limit is stored as something else. -/
theorem user_config_agrees (js : JsonClasses J) (merged : Option J) (p : Props J)
    (configType : UInt8) (configSize : Nat) (bytes : List UInt8) :
    (∀ dao, Agrees p configType configSize
        (setUserConfig js dao merged p configType configSize (some bytes))) ↔
      (configSize ≤ channelConfigMaxsize → Fits p configType configSize) := by
  have hprod : ∀ s, Produces p configType s ↔ configStruct p configType = some s :=
    produces_iff js ⟨[], [], 0⟩ p configType
  rw [fits_iff]
  constructor
  · intro h hsize t ht
    -- a database that stores every document shows what the bytes were taken for
    have hw := (h fun _ => .stored).written
    simp only [setUserConfig, Nat.not_lt.2 hsize, if_false, ht] at hw
    obtain ⟨h1, h2⟩ := hw _ (List.mem_singleton_self _)
    exact ⟨(hprod _).1 h1, h2⟩
  · intro h dao
    unfold setUserConfig
    dsimp only
    split
    · exact agrees_nil _ _ _ rfl nofun
    · next hsize =>
      split
      · exact agrees_nil _ _ _ rfl nofun
      · next t ht =>
        obtain ⟨h1, h2⟩ := h (Nat.not_lt.1 hsize) t ht
        have hsame := (hprod _).2 h1
        split
        · exact agrees_nil _ _ _ rfl nofun
        · refine ⟨?_, fun hno => absurd ⟨_, hsame, h2⟩ hno, nofun⟩
          simpa using ⟨hsame, h2⟩
        · refine ⟨?_, fun hno => absurd ⟨_, hsame, h2⟩ hno, nofun⟩
          simpa using ⟨hsame, h2⟩

end

/-- Classes that find nothing in a document. -/
def noJson : JsonClasses (List UInt8) where
  hvac _ _ := none
  container _ := none
  valve _ := none
  other _ _ _ := none
  activeActions _ := 0
  relatedMeterChannelId _ := 0
  setConfig _ _ _ bytes := bytes

/-- A binary sensor, channel 7 of its device. -/
def binarySensor : Props (List UInt8) :=
  ⟨7, 1, 0, channeltypeBinarysensor, channelfncFloodSensor, 0, 0, 0, 0, none⟩

/-- **A photo configuration of five bytes is stored as that of a binary sensor.** -/
theorem user_config_misread :
    ¬ ∀ (js : JsonClasses (List UInt8)) (dao : List UInt8 → DaoAnswer)
      (p : Props (List UInt8)) (configType : UInt8) (configSize : Nat) (bytes : List UInt8),
      configSize ≤ channelConfigMaxsize →
      Agrees p configType configSize
        (setUserConfig js dao none p configType configSize (some bytes)) := by
  intro h
  have hw := (h noJson (fun _ => .stored) binarySensor configTypeOcr 5 [0, 0, 0, 0, 0]
    (by decide)).written ⟨⟨.binarySensor, .binarySensor⟩, [0, 0, 0, 0, 0]⟩ (by decide)
  exact absurd hw.2 (by decide)

end Channel
