import SuplaCore.Channel.HvacConfig
import SuplaCore.Device.Proof.JsonField
import Mathlib.Order.Fin.Basic

/-!
# The configuration of a thermostat is read back as it was written

In trees without an item of the configuration every statement of `set_config` leaves its item, and
no other one touches it (`get_assigns`). `getConfig_setConfig` reads them one by one; the flags and
the temperatures, which share an item, are read back as a whole (`readFlags_flagNames`,
`getTemperatures_node`).
-/

namespace Channel.HvacConfig

open Json Device.JsonConfig

/-! ## Names -/

/-- All fields. -/
def Field.all : List Field :=
  [mainThermometerChannelNo, auxThermometerChannelNo, auxThermometerType, auxMinMaxSetpointEnabled,
    useSeparateHeatCoolOutputs, binarySensorChannelNo, antiFreezeAndOverheatProtectionEnabled,
    availableAlgorithms, usedAlgorithm, minOnTimeS, minOffTimeS, outputValueOnError, subfunction,
    temperatureSetpointChangeSwitchesToManualMode, temperatures, masterThermostatChannelNo,
    heatOrColdSourceSwitch, pumpSwitch, temperatureControlType, hiddenConfigFields,
    readonlyConfigFields, hiddenTemperatureConfigFields, readonlyTemperatureConfigFields,
    localUILockingCapabilities, localUILock, minAllowedTemperatureSetpointFromLocalUI,
    maxAllowedTemperatureSetpointFromLocalUI]

theorem Field.mem_all (f : Field) : f ∈ Field.all := by cases f <;> decide

theorem Field.names_nodup : (Field.all.map fun f => lower f.name).Nodup := by decide +kernel

theorem Field.sameName_name {f g : Field} (h : g ≠ f) : sameName g.name f.name = false :=
  sameName_of_nodup Field.names_nodup g.mem_all f.mem_all h

theorem Field.name_ne (f : Field) : f.name ≠ "" := by cases f <;> decide

theorem Parameter.mem_all (p : Parameter) : p ∈ Parameter.all := by cases p <;> decide

theorem Parameter.name_injective (p q : Parameter) (h : q.name = p.name) : q = p := by
  have table : ∀ p ∈ Parameter.all, ∀ q ∈ Parameter.all, q.name = p.name → q = p := by decide
  exact table p p.mem_all q q.mem_all h

theorem TemperatureParameter.mem_all (p : TemperatureParameter) :
    p ∈ TemperatureParameter.all := by
  cases p <;> decide

theorem TemperatureParameter.name_injective (p q : TemperatureParameter) (h : q.name = p.name) :
    q = p := by
  have table : ∀ p ∈ TemperatureParameter.all, ∀ q ∈ TemperatureParameter.all,
      q.name = p.name → q = p := by decide
  exact table p p.mem_all q q.mem_all h

/-! ## Statements -/

variable {D : Type}

def Assign.field : Assign D → Field
  | .item f _ => f
  | .anew f _ => f

def Assign.node : Assign D → Node D
  | .item _ it => it.node
  | .anew _ n => n

theorem Assign.field_item (f : Field) (it : Item D) : (Assign.item f it).field = f := rfl

theorem Assign.node_item (f : Field) (it : Item D) : (Assign.item f it).node = it.node := rfl

theorem Assign.field_anew (f : Field) (n : Node D) : (Assign.anew f n).field = f := rfl

theorem Assign.node_anew (f : Field) (n : Node D) : (Assign.anew f n).node = n := rfl

theorem get_apply_self {root : Node D} (a : Assign D) (h : root.get a.field.name = none) :
    (a.apply root).get a.field.name = some a.node := by
  cases a with
  | item f it => exact get_setItemValue_new it f.name_ne h
  | anew f n =>
    refine Node.get_add_self n ?_
    have hnone : ∀ e ∈ root.children, ¬ hasName f.name e = true := by
      simpa [Node.get, Assign.field] using h
    rw [Node.erase, List.eraseP_of_forall_not hnone]
    exact h

theorem get_apply_other {root : Node D} (a : Assign D) {f : Field} (hne : f ≠ a.field) :
    (a.apply root).get f.name = root.get f.name := by
  cases a with
  | item g it => exact get_setItemValue_other it true (Field.sameName_name hne)
  | anew g n =>
    have hnames := Field.sameName_name hne
    exact (Node.get_add_other n hnames).trans (Node.get_erase_other hnames)

theorem get_assigns_other {f : Field} : ∀ (l : List (Assign D)) (root : Node D),
    f ∉ l.map Assign.field → (l.foldl Assign.apply root).get f.name = root.get f.name
  | [], _, _ => rfl
  | a :: l, root, h => by
    rw [List.map_cons, List.mem_cons, not_or] at h
    rw [List.foldl_cons, get_assigns_other l _ h.2, get_apply_other a h.1]

/-- **The statements leave their items.** -/
theorem get_assigns : ∀ (l : List (Assign D)) (root : Node D), (l.map Assign.field).Nodup →
    (∀ f ∈ l.map Assign.field, root.get f.name = none) →
    ∀ a ∈ l, (l.foldl Assign.apply root).get a.field.name = some a.node
  | [], _, _, _, _, ha => absurd ha List.not_mem_nil
  | b :: l, root, hnodup, hnone, a, ha => by
    rw [List.map_cons, List.nodup_cons] at hnodup
    rw [List.foldl_cons]
    rcases List.mem_cons.mp ha with rfl | ha
    · rw [get_assigns_other l _ hnodup.1]
      exact get_apply_self a (hnone _ List.mem_cons_self)
    · refine get_assigns l _ hnodup.2 (fun f hf => ?_) a ha
      have hne : f ≠ b.field := fun h => hnodup.1 (h ▸ hf)
      rw [get_apply_other b hne]
      exact hnone f (List.mem_cons_of_mem _ hf)

/-! ## Arrays of names -/

theorem foldl_addIf {α : Type} (f : α → String → α) (cond : Bool) (s : String) (arr : List String)
    (x : α) : (addIf cond s arr).foldl f x =
      if cond then f (arr.foldl f x) s else arr.foldl f x := by
  unfold addIf
  cases cond with
  | false => rfl
  | true => rw [if_pos rfl, if_pos rfl, List.foldl_append, List.foldl_cons, List.foldl_nil]

theorem arrayStrings_stringArray (arr : List String) :
    arrayStrings (some (stringArray arr : Node D)) = some arr := by
  unfold arrayStrings stringArray
  dsimp only [Node.ofItems, Node.kind, Node.items, Node.children]
  rw [Option.some.injEq, List.map_map, List.map_map, List.filterMap_map]
  exact List.filterMap_some

theorem readLockingCaps_arr {g : Got} {root : Node D} {field : Field} {caps : UInt8}
    (set : TChannelConfigHVAC → UInt8 → TChannelConfigHVAC) (hcaps : caps.toNat ≤ 3)
    (h : root.get field.name = some (createLockingCapArr caps)) :
    g.readLockingCaps root field set = ⟨g.result, set g.config caps⟩ := by
  have table : ∀ n ≤ 3, (addLockingCapToArray (addLockingCapToArray [] (UInt8.ofNat n)
      LOCAL_UI_LOCK_FULL) (UInt8.ofNat n) LOCAL_UI_LOCK_TEMPERATURE).foldl
        (fun result str => result ||| stringToLockingCap str) 0 = UInt8.ofNat n := by
    decide
  have hcaps := table caps.toNat hcaps
  rw [UInt8.ofNat_toNat] at hcaps
  unfold Got.readLockingCaps jsonArrayToLockingCaps
  rw [h, createLockingCapArr, arrayStrings_stringArray]
  dsimp only
  rw [hcaps]

/-- Only the algorithms change while they are read. -/
theorem foldl_addAlgorithm : ∀ (algs : List String) (g : Got), g.result = true →
    algs.foldl Got.addAlgorithm g = ⟨true, { g.config with
      availableAlgorithms := algs.foldl (fun result alg => result ||| stringToAlg alg)
        g.config.availableAlgorithms }⟩
  | [], ⟨_, _⟩, rfl => rfl
  | _ :: algs, _, _ => foldl_addAlgorithm algs _ rfl

theorem readAlgorithms_algorithms {g : Got} {root : Node D} {config : TChannelConfigHVAC}
    (hg : g.result = true) (hzero : g.config.availableAlgorithms = 0)
    (hconfig : config.availableAlgorithms.toNat ≤ 7)
    (h : root.get (Field.name .availableAlgorithms) = some (algorithms config)) :
    g.readAlgorithms root =
      ⟨true, { g.config with availableAlgorithms := config.availableAlgorithms }⟩ := by
  have table : ∀ n ≤ 7, (addAlgorithmToArray (addAlgorithmToArray (addAlgorithmToArray []
      { availableAlgorithms := UInt16.ofNat n } SUPLA_HVAC_ALGORITHM_ON_OFF_SETPOINT_MIDDLE)
      { availableAlgorithms := UInt16.ofNat n } SUPLA_HVAC_ALGORITHM_ON_OFF_SETPOINT_AT_MOST)
      { availableAlgorithms := UInt16.ofNat n } SUPLA_HVAC_ALGORITHM_PID).foldl
        (fun result alg => result ||| stringToAlg alg) 0 = UInt16.ofNat n := by
    decide
  have hn := table config.availableAlgorithms.toNat hconfig
  rw [UInt16.ofNat_toNat] at hn
  unfold Got.readAlgorithms
  rw [h, algorithms, arrayStrings_stringArray]
  dsimp only
  rw [foldl_addAlgorithm _ g hg, hzero]
  exact congrArg (fun algs => (⟨true, { g.config with availableAlgorithms := algs }⟩ : Got)) hn

theorem foldl_flagNames {P : Type} (name : P → String) (flag : P → Bool) (p : P) :
    ∀ (l : List P) (arr : List String) (flags : P → Bool),
      (l.foldl (fun arr q => addIf (flag q) (name q) arr) arr).foldl
          (fun flags str p => flags p || str == name p) flags p =
        (arr.foldl (fun flags str p => flags p || str == name p) flags p ||
          l.any fun q => flag q && name q == name p)
  | [], arr, flags => by simp
  | q :: l, arr, flags => by
    rw [List.foldl_cons, foldl_flagNames name flag p l, List.any_cons, foldl_addIf]
    cases flag q <;> simp [Bool.or_assoc]

theorem readFlags_flagNames {P : Type} {all : List P} {name : P → String} {flag : P → Bool}
    {g : Got} {root : Node D} {field : Field}
    (set : HvacParameterFlags → (P → Bool) → HvacParameterFlags) (hall : ∀ p, p ∈ all)
    (hname : ∀ p q, name q = name p → q = p)
    (h : root.get field.name = some (flagNames all name flag)) :
    g.readFlags root field name set =
      ⟨true, { g.config with parameterFlags := set g.config.parameterFlags flag }⟩ := by
  unfold Got.readFlags flagNames at *
  rw [h, arrayStrings_stringArray]
  dsimp only
  congr
  funext p
  rw [foldl_flagNames, List.foldl_nil, Bool.false_or, Bool.eq_iff_iff, List.any_eq_true]
  constructor
  · rintro ⟨q, -, hq⟩
    obtain ⟨hflag, hq⟩ := Bool.and_eq_true_iff.mp hq
    rwa [← hname p q (eq_of_beq hq)]
  · intro hflag
    exact ⟨p, hall p, by simp [hflag]⟩

/-! ## Temperatures -/

/-- The name of the temperature of a bit. -/
def temperatureName (a : Nat) : String := temperatureKeyToString (BitVec.twoPow 32 a)

/-- The bits of `temperatures_map`. -/
def mappedBits : List (Fin 24) := (List.finRange 24).take 19

theorem mem_mappedBits {a : Fin 24} : a ∈ mappedBits ↔ (a : Nat) < 19 := by
  have table : ∀ a : Fin 24, a ∈ mappedBits ↔ (a : Nat) < 19 := by decide
  exact table a

theorem temperaturesMap_eq :
    temperaturesMap =
      mappedBits.map fun (a : Fin 24) => (BitVec.twoPow 32 a, temperatureName a) := by
  decide

theorem temperatureName_ne {a : Nat} (h : a < 19) : temperatureName a ≠ "" := by
  have table : ∀ a < 19, temperatureName a ≠ "" := by decide
  exact table a h

theorem temperatureName_other {a : Nat} (h : 19 ≤ a) (h32 : a < 32) : temperatureName a = "" := by
  have table : ∀ a < 32, 19 ≤ a → temperatureName a = "" := by decide
  exact table a h32 h

theorem temperatureNames_nodup :
    ((List.range 19).map fun a => lower (temperatureName a)).Nodup := by
  decide +kernel

theorem sameName_temperatureName {a b : Nat} (ha : a < 19) (hb : b < 19) (hne : a ≠ b) :
    sameName (temperatureName a) (temperatureName b) = false :=
  sameName_of_nodup temperatureNames_nodup (List.mem_range.mpr ha) (List.mem_range.mpr hb) hne

theorem keyBit_twoPow {a : Nat} (h : a < 19) : keyBit (BitVec.twoPow 32 a) = some a := by
  have table : ∀ a < 19, keyBit (BitVec.twoPow 32 a) = some a := by decide
  exact table a h

/-- `mask & idx` -/
theorem and_twoPow_ne (mask : BitVec 32) {a : Nat} (h : a < 32) :
    mask &&& BitVec.twoPow 32 a ≠ 0 ↔ mask.getLsbD a = true := by
  rw [BitVec.and_twoPow]
  cases mask.getLsbD a with
  | false => simp
  | true =>
    refine iff_of_true (fun h0 => ?_) rfl
    have hbit := congrArg (BitVec.getLsbD · a) h0
    simp [h] at hbit

variable {t : THVACTemperatureCfg} {filter : BitVec 32}

/-- The temperature of a bit goes to the tree that `filter` is for. -/
def chosen (t : THVACTemperatureCfg) (filter : BitVec 32) (a : Nat) : Bool :=
  decide (a < 19) && filter.getLsbD a && t.index.getLsbD a

theorem lt_of_chosen {a : Nat} (h : chosen t filter a = true) : a < 19 := by
  simp only [chosen, Bool.and_eq_true, decide_eq_true_eq] at h
  exact h.1.1

variable [Number D]

def temperatureNode (t : THVACTemperatureCfg) (a : Fin 24) : Node D :=
  .leaf (.number (Number.ofInt (t.temperature.get a).toInt))

/-- One round of `set_temperatures`. -/
def addTemperature (t : THVACTemperatureCfg) (filter : BitVec 32) (node : Node D) (a : Fin 24) :
    Node D :=
  if chosen t filter a then node.add (temperatureName a) (temperatureNode t a) else node

theorem temperaturesNode_eq : temperaturesNode t filter =
    (List.finRange 24).foldl (addTemperature t filter) (.emptyObject : Node D) := by
  unfold temperaturesNode
  congr 1
  funext node a
  unfold addTemperature chosen
  have ha : (a : Nat) < 32 := by omega
  dsimp only
  simp only [and_twoPow_ne _ ha]
  by_cases h19 : (a : Nat) < 19
  · have hname : temperatureKeyToString (BitVec.twoPow 32 a) ≠ "" := temperatureName_ne h19
    simp [h19, hname, temperatureName, temperatureNode, Vector.get]
  · have hname : temperatureKeyToString (BitVec.twoPow 32 a) = "" :=
      temperatureName_other (by omega) ha
    simp [h19, hname]

theorem kind_addTemperature (node : Node D) (a : Fin 24) :
    (addTemperature t filter node a).kind = node.kind := by
  unfold addTemperature
  split <;> rfl

theorem kind_temperaturesNode : (temperaturesNode t filter : Node D).kind = .object := by
  have hkind : ∀ (l : List (Fin 24)) (node : Node D),
      (l.foldl (addTemperature t filter) node).kind = node.kind := by
    intro l
    induction l with
    | nil => exact fun _ => rfl
    | cons a l ih => exact fun node => (ih _).trans (kind_addTemperature node a)
  rw [temperaturesNode_eq, hkind]
  rfl

variable (D t filter) in
theorem get_temperaturesNode {b : Fin 24} (hb : (b : Nat) < 19) :
    (temperaturesNode t filter : Node D).get (temperatureName b) =
      if chosen t filter b then some (temperatureNode t b) else none := by
  have hne : ∀ a : Fin 24, chosen t filter a = true → a ≠ b →
      sameName (temperatureName b) (temperatureName a) = false := fun a ha hab =>
    sameName_temperatureName hb (lt_of_chosen ha) (Fin.val_ne_of_ne (Ne.symm hab))
  have hget := Node.get_foldl_add (c := fun a : Fin 24 => chosen t filter a)
    (f := fun a : Fin 24 => temperatureName a) (g := temperatureNode t) hne (List.finRange 24)
    (.emptyObject : Node D) (List.nodup_finRange 24) fun _ => rfl
  simp only [List.mem_finRange, true_and] at hget
  rw [temperaturesNode_eq]
  exact hget

/-! ## Temperatures read -/

/-- A temperature stored in another structure. -/
def store (t : THVACTemperatureCfg) (filter : BitVec 32) (base : THVACTemperatureCfg)
    (a : Fin 24) : THVACTemperatureCfg :=
  if chosen t filter a then
    ⟨base.index ||| BitVec.twoPow 32 a,
      base.temperature.setIfInBounds a (t.temperature.get a)⟩
  else base

theorem readTemperature_node {g : Got} {a : Fin 24} (ha : (a : Nat) < 19) (hg : g.result = true) :
    (if filter &&& BitVec.twoPow 32 a ≠ 0 then g.readTemperature
      (temperaturesNode t filter : Node D) (BitVec.twoPow 32 a) (temperatureName a) else g) =
      ⟨true, { g.config with temperatures := store t filter g.config.temperatures a }⟩ := by
  obtain ⟨result, config⟩ := g
  subst hg
  have hread := get_temperaturesNode D t filter ha
  have hmask := and_twoPow_ne filter (a := a) (by omega)
  unfold Got.readTemperature store
  rw [hread, keyBit_twoPow ha]
  cases hchosen : chosen t filter a with
  | false => simp
  | true =>
    have hbit : filter.getLsbD a = true := by
      simp only [chosen, Bool.and_eq_true] at hchosen
      exact hchosen.1.2
    rw [if_pos (hmask.mpr hbit)]
    simp [temperatureNode, Node.leaf, Node.kind]

theorem foldl_readTemperature : ∀ (l : List (Fin 24)) (g : Got), (∀ a ∈ l, (a : Nat) < 19) →
    g.result = true →
    l.foldl (fun g (a : Fin 24) => if filter &&& BitVec.twoPow 32 a ≠ 0 then g.readTemperature
      (temperaturesNode t filter : Node D) (BitVec.twoPow 32 a) (temperatureName a) else g) g =
      ⟨true, { g.config with
        temperatures := l.foldl (store t filter) g.config.temperatures }⟩
  | [], ⟨_, _⟩, _, rfl => rfl
  | a :: l, g, hl, hg => by
    rw [List.foldl_cons, readTemperature_node (hl a List.mem_cons_self) hg,
      foldl_readTemperature l _ (fun b hb => hl b (List.mem_cons_of_mem _ hb)) rfl]
    rfl

theorem getTemperatures_node {g : Got} {root : Node D} (hg : g.result = true)
    (h : root.get (Field.name .temperatures) = some (temperaturesNode t filter)) :
    g.getTemperatures root filter = ⟨true, { g.config with
      temperatures := mappedBits.foldl (store t filter) g.config.temperatures }⟩ := by
  unfold Got.getTemperatures
  rw [h]
  dsimp only
  rw [kind_temperaturesNode]
  dsimp only
  rw [temperaturesMap_eq, List.foldl_map]
  exact foldl_readTemperature mappedBits g (fun _ => mem_mappedBits.mp) hg

theorem foldl_store_temperature (b : Fin 24) : ∀ (l : List (Fin 24)) (base : THVACTemperatureCfg),
    (l.foldl (store t filter) base).temperature.get b =
      if b ∈ l ∧ chosen t filter b = true then t.temperature.get b else base.temperature.get b
  | [], base => by simp
  | a :: l, base => by
    rw [List.foldl_cons, foldl_store_temperature b l]
    unfold store
    cases hchosen : chosen t filter a with
    | false =>
      by_cases hab : b = a
      · subst hab
        simp [hchosen]
      · simp [hab]
    | true =>
      by_cases hab : a = b
      · subst hab
        simp [Bytes.get_setIfInBounds, hchosen]
      · simp [Bytes.get_setIfInBounds, hab, Ne.symm hab]

theorem foldl_store_index (i : Nat) : ∀ (l : List (Fin 24)) (base : THVACTemperatureCfg),
    (l.foldl (store t filter) base).index.getLsbD i =
      (base.index.getLsbD i || l.any fun b => decide ((b : Nat) = i) && chosen t filter b)
  | [], base => by simp
  | a :: l, base => by
    rw [List.foldl_cons, foldl_store_index i l, List.any_cons]
    unfold store
    have ha : (a : Nat) < 32 := by omega
    cases chosen t filter a with
    | false => simp
    | true =>
      by_cases hi : (a : Nat) = i
      · subst hi
        simp [ha]
      · simp [hi]

variable (t filter) in
/-- What one tree holds of the temperatures. -/
theorem store_temperature (base : THVACTemperatureCfg) (b : Fin 24) :
    (mappedBits.foldl (store t filter) base).temperature.get b =
      if chosen t filter b then t.temperature.get b else base.temperature.get b := by
  rw [foldl_store_temperature]
  refine if_congr ⟨fun h => h.2, fun h => ⟨mem_mappedBits.mpr (lt_of_chosen h), h⟩⟩ rfl rfl

theorem store_index (base : THVACTemperatureCfg) (i : Nat) :
    (mappedBits.foldl (store t filter) base).index.getLsbD i =
      (base.index.getLsbD i || chosen t filter i) := by
  rw [foldl_store_index]
  congr 1
  rw [Bool.eq_iff_iff, List.any_eq_true]
  constructor
  · rintro ⟨b, -, hb⟩
    simp only [Bool.and_eq_true, decide_eq_true_eq] at hb
    obtain ⟨rfl, hb⟩ := hb
    exact hb
  · intro hi
    have hlt := lt_of_chosen hi
    exact ⟨⟨i, by omega⟩, mem_mappedBits.mpr hlt, by simp [hi]⟩

/-! ## What can be stored -/

/-- `0` or `1`. -/
def isBool (value : UInt8) : Prop := value = 0 ∨ value = 1

instance (value : UInt8) : Decidable (isBool value) :=
  inferInstanceAs (Decidable (value = 0 ∨ value = 1))

/-- A configuration of channel `channelNumber` whose values have a place in the trees. -/
structure Storable (config : TChannelConfigHVAC) (channelNumber : UInt8) : Prop where
  auxThermometerType : config.auxThermometerType.toNat ≤ 5
  availableAlgorithms : config.availableAlgorithms.toNat ≤ 7
  usedAlgorithm : config.usedAlgorithm ∈ [0, SUPLA_HVAC_ALGORITHM_ON_OFF_SETPOINT_MIDDLE,
    SUPLA_HVAC_ALGORITHM_ON_OFF_SETPOINT_AT_MOST, SUPLA_HVAC_ALGORITHM_PID]
  subfunction : config.subfunction.toNat ≤ 2
  temperatureControlType : config.temperatureControlType.toNat ≤ 2
  localUILockingCapabilities : config.localUILockingCapabilities.toNat ≤ 3
  localUILock : config.localUILock.toNat ≤ 3
  minOnTimeS : config.minOnTimeS.toNat ≤ 3600
  minOffTimeS : config.minOffTimeS.toNat ≤ 3600
  outputValueOnError : -100 ≤ config.outputValueOnError.toInt ∧
    config.outputValueOnError.toInt ≤ 100
  antiFreezeAndOverheatProtectionEnabled : isBool config.antiFreezeAndOverheatProtectionEnabled
  temperatureSetpointChangeSwitchesToManualMode :
    isBool config.temperatureSetpointChangeSwitchesToManualMode
  auxMinMaxSetpointEnabled : isBool config.auxMinMaxSetpointEnabled
  useSeparateHeatCoolOutputs : isBool config.useSeparateHeatCoolOutputs
  masterThermostatIsSet : config.masterThermostatIsSet =
    if config.masterThermostatChannelNo ≠ channelNumber then 1 else 0
  heatOrColdSourceSwitchIsSet : config.heatOrColdSourceSwitchIsSet =
    if config.heatOrColdSourceSwitchChannelNo ≠ channelNumber then 1 else 0
  pumpSwitchIsSet : config.pumpSwitchIsSet =
    if config.pumpSwitchChannelNo ≠ channelNumber then 1 else 0
  index : ∀ i < 32, config.temperatures.index.getLsbD i = true →
    BitVec.twoPow 32 i ∈ temperaturesMap.map (·.1)
  temperature : ∀ a : Fin 24, config.temperatures.index.getLsbD a = false →
    config.temperatures.temperature[a] = 0
  flagsReserved : config.parameterFlags.reserved = 0
  reserved : config.reserved = Vector.replicate 21 0

variable {config : TChannelConfigHVAC} {channelNumber : UInt8}

theorem Storable.index_lt (h : Storable config channelNumber) {i : Nat}
    (hi : config.temperatures.index.getLsbD i = true) : i < 19 := by
  have table : ∀ i < 32, BitVec.twoPow 32 i ∈ temperaturesMap.map (·.1) → i < 19 := by decide
  have h32 := BitVec.lt_of_getLsbD hi
  exact table i h32 (h.index i h32 hi)

/-- The two trees hold all temperatures. -/
theorem Storable.temperatures_eq (h : Storable config channelNumber) :
    mappedBits.foldl (store config.temperatures readonlyTemperatures)
      (mappedBits.foldl (store config.temperatures (0xFFFFFFFF ^^^ readonlyTemperatures)) {}) =
      config.temperatures := by
  have hchosen : ∀ a : Nat, (chosen config.temperatures (0xFFFFFFFF ^^^ readonlyTemperatures) a ||
      chosen config.temperatures readonlyTemperatures a) =
        config.temperatures.index.getLsbD a := by
    intro a
    unfold chosen
    cases hbit : config.temperatures.index.getLsbD a with
    | false => simp
    | true =>
      have ha := h.index_lt hbit
      have table : ∀ a < 19, ((0xFFFFFFFF ^^^ readonlyTemperatures : BitVec 32).getLsbD a ||
          readonlyTemperatures.getLsbD a) = true := by decide
      simpa [ha] using table a ha
  apply THVACTemperatureCfg.ext
  · apply BitVec.eq_of_getLsbD_eq
    intro i _
    rw [store_index, store_index, Bool.or_assoc, hchosen i]
    simp
  · apply Vector.ext
    intro i hi
    have hfirst := store_temperature config.temperatures
      (0xFFFFFFFF ^^^ readonlyTemperatures) {} ⟨i, hi⟩
    have hsecond := store_temperature config.temperatures readonlyTemperatures
      (mappedBits.foldl
        (store config.temperatures (0xFFFFFFFF ^^^ readonlyTemperatures)) {}) ⟨i, hi⟩
    have hor := hchosen i
    have hzero := h.temperature ⟨i, hi⟩
    rw [hfirst] at hsecond
    refine hsecond.trans ?_
    split
    · rfl
    · split
      · rfl
      · rename_i h1 h2
        rw [Bool.not_eq_true] at h1 h2
        have hbit : config.temperatures.index.getLsbD i = false := by
          rw [← hor]
          exact Bool.or_eq_false_iff.mpr ⟨h2, h1⟩
        exact (Vector.getElem_replicate hi).trans (hzero hbit).symm

/-! ## String tables -/

theorem stringToAuxThermometerType_toString {type : UInt8} (h : type.toNat ≤ 5) :
    stringToAuxThermometerType (auxThermometerTypeToString type) = type := by
  have table : ∀ n ≤ 5, stringToAuxThermometerType (auxThermometerTypeToString (UInt8.ofNat n)) =
      UInt8.ofNat n := by decide
  simpa using table type.toNat h

theorem stringToSubfunction_toString {subfunction : UInt8} (h : subfunction.toNat ≤ 2) :
    stringToSubfunction (subfunctionToString subfunction) = subfunction := by
  have table : ∀ n ≤ 2, stringToSubfunction (subfunctionToString (UInt8.ofNat n)) =
      UInt8.ofNat n := by decide
  simpa using table subfunction.toNat h

theorem stringToTemperatureControlType_toString {type : UInt8} (h : type.toNat ≤ 2) :
    stringToTemperatureControlType (temperatureControlTypeToString type) = type := by
  have table : ∀ n ≤ 2,
      stringToTemperatureControlType (temperatureControlTypeToString (UInt8.ofNat n)) =
        UInt8.ofNat n := by decide
  simpa using table type.toNat h

theorem stringToAlg_toString {alg : UInt16} (h : alg ∈ [0,
    SUPLA_HVAC_ALGORITHM_ON_OFF_SETPOINT_MIDDLE, SUPLA_HVAC_ALGORITHM_ON_OFF_SETPOINT_AT_MOST,
    SUPLA_HVAC_ALGORITHM_PID]) : stringToAlg (algToString alg) = alg := by
  simp only [List.mem_cons, List.not_mem_nil, or_false] at h
  rcases h with rfl | rfl | rfl | rfl <;> decide

/-! ## Reading one item -/

theorem readChannelNumber_set {g : Got} {root : Node D} {field : Field}
    {no channelNumber : UInt8} (set : TChannelConfigHVAC → UInt8 → Bool → TChannelConfigHVAC)
    (h : root.get field.name = some (setChannelNumber field no channelNumber : Assign D).node) :
    g.readChannelNumber root field channelNumber set =
      ⟨true, set g.config no (decide (no ≠ channelNumber))⟩ := by
  unfold Got.readChannelNumber getChannelNumber getDouble
  rw [Option.bind_some, h]
  unfold setChannelNumber
  by_cases hno : channelNumber = no
  · subst hno
    simp [Assign.node, Item.node, Item.type, Node.leaf, Node.kind, numberOf]
  · have hne : no ≠ channelNumber := fun h => hno h.symm
    simp [Assign.node, Item.node, Item.type, Node.leaf, Node.kind, numberOf, hno, hne]

omit [Number D] in
theorem readString_string {g : Got} {root : Node D} {field : Field} {s : String}
    (set : TChannelConfigHVAC → String → TChannelConfigHVAC)
    (h : root.get field.name = some (Item.node (.string s))) :
    g.readString root field set = ⟨true, set g.config s⟩ := by
  unfold Got.readString getString
  rw [Option.bind_some, h]
  rfl

omit [Number D] in
theorem readBool_boolItem {g : Got} {root : Node D} {field : Field} {value : UInt8}
    (set : TChannelConfigHVAC → UInt8 → TChannelConfigHVAC) (hvalue : isBool value)
    (h : root.get field.name = some (boolItem value : Item D).node) :
    g.readBool root field set = ⟨true, set g.config value⟩ := by
  unfold Got.readBool getBool
  rw [Option.bind_some, h]
  rcases hvalue with rfl | rfl <;> rfl

omit [Number D] in
theorem readDouble_number {g : Got} {root : Node D} {field : Field} {accepts : D → Bool} {d : D}
    (set : TChannelConfigHVAC → D → TChannelConfigHVAC) (hd : accepts d = true)
    (h : root.get field.name = some (Item.node (.number d))) :
    g.readDouble root field accepts set = ⟨true, set g.config d⟩ := by
  unfold Got.readDouble getDouble
  rw [Option.bind_some, h]
  exact if_pos hd

/-! ## The whole configuration -/

/-- The items of the user's tree. -/
def userFields : List Field :=
  [.mainThermometerChannelNo, .auxThermometerChannelNo, .auxThermometerType,
    .auxMinMaxSetpointEnabled, .useSeparateHeatCoolOutputs, .binarySensorChannelNo,
    .antiFreezeAndOverheatProtectionEnabled, .usedAlgorithm, .minOffTimeS, .minOnTimeS,
    .outputValueOnError, .subfunction, .temperatureSetpointChangeSwitchesToManualMode,
    .masterThermostatChannelNo, .heatOrColdSourceSwitch, .pumpSwitch, .temperatureControlType,
    .temperatures, .localUILock, .minAllowedTemperatureSetpointFromLocalUI,
    .maxAllowedTemperatureSetpointFromLocalUI]

/-- The items of the properties' tree. -/
def propertiesFields : List Field :=
  [.availableAlgorithms, .temperatures, .readonlyConfigFields, .hiddenConfigFields,
    .readonlyTemperatureConfigFields, .hiddenTemperatureConfigFields, .localUILockingCapabilities]

theorem Storable.userFields_eq (h : Storable config channelNumber) :
    (userAssigns config channelNumber : List (Assign D)).map Assign.field = userFields := by
  unfold userAssigns
  rw [if_pos h.minOffTimeS, if_pos h.minOnTimeS, if_pos h.outputValueOnError]
  rfl

theorem field_setChannelNumber (field : Field) (no channelNumber : UInt8) :
    (setChannelNumber field no channelNumber : Assign D).field = field := rfl

/-- A channel number that is kept only with its `IsSet` flag. -/
theorem keptNumber {isSet no channelNumber : UInt8}
    (h : isSet = if no ≠ channelNumber then 1 else 0) :
    (if isSet ≠ 0 then no else channelNumber) = no := by
  subst h
  by_cases hno : no = channelNumber <;> simp [hno]

/-- **What was set is read back**, from trees that held no item of a thermostat. -/
theorem get_setConfig (c : EmConfig.Config D) (h : Storable config channelNumber)
    (huser : ∀ f ∈ userFields, c.userRoot.get f.name = none)
    (hproperties : ∀ f ∈ propertiesFields, c.propertiesRoot.get f.name = none) :
    getConfig (setConfig c config channelNumber) channelNumber = ⟨true, config⟩ := by
  have hu := get_assigns (userAssigns config channelNumber) c.userRoot
    (by rw [h.userFields_eq]; decide) (by rwa [h.userFields_eq])
  have hp := get_assigns (propertiesAssigns config) c.propertiesRoot
    (show propertiesFields.Nodup by decide) hproperties
  unfold getConfig setConfig
  generalize (userAssigns config channelNumber).foldl Assign.apply c.userRoot = user at *
  generalize (propertiesAssigns config).foldl Assign.apply c.propertiesRoot = properties at *
  simp only [userAssigns, if_pos h.minOffTimeS, if_pos h.minOnTimeS, if_pos h.outputValueOnError,
    keptNumber h.masterThermostatIsSet, keptNumber h.heatOrColdSourceSwitchIsSet,
    keptNumber h.pumpSwitchIsSet, List.forall_mem_append, List.forall_mem_cons,
    List.not_mem_nil, false_implies, implies_true, and_true, Assign.field_item,
    Assign.node_item, Assign.field_anew, Assign.node_anew, field_setChannelNumber,
    setTemperatures] at hu
  simp only [propertiesAssigns, List.forall_mem_cons, List.not_mem_nil, false_implies,
    implies_true, and_true, Assign.field_item, Assign.node_item, Assign.field_anew,
    Assign.node_anew, setTemperatures] at hp
  obtain ⟨⟨⟨⟨⟨hmain, haux, hauxType, hauxMinMax, hseparate, hsensor, hantiFreeze, hused⟩, hoff⟩,
    hon⟩, hout⟩, hsubfunction, hsetpoint, hmaster, hheat, hpump, hcontrol, huserTemps, hlock, hmin,
    hmax⟩ := hu
  obtain ⟨halgs, htemps, hreadonly, hhidden, htempReadonly, htempHidden, hcaps⟩ := hp
  dsimp only
  rw [readChannelNumber_set _ hmain, readChannelNumber_set _ haux, readString_string _ hauxType,
    readBool_boolItem _ h.auxMinMaxSetpointEnabled hauxMinMax,
    readBool_boolItem _ h.useSeparateHeatCoolOutputs hseparate, readChannelNumber_set _ hsensor,
    readBool_boolItem _ h.antiFreezeAndOverheatProtectionEnabled hantiFreeze]
  have hminOff := h.minOffTimeS
  have hminOn := h.minOnTimeS
  have hbetweenOff : Number.between 0 3600 (Number.ofInt config.minOffTimeS.toNat : D) = true :=
    between_ofInt_of_le (by omega) (by omega) (by decide) (by decide)
  have hbetweenOn : Number.between 0 3600 (Number.ofInt config.minOnTimeS.toNat : D) = true :=
    between_ofInt_of_le (by omega) (by omega) (by decide) (by decide)
  have hbetweenOut : Number.between (-100) 100 (Number.ofInt config.outputValueOnError.toInt : D) =
      true :=
    between_ofInt_of_le h.outputValueOnError.1 h.outputValueOnError.2 (by decide) (by decide)
  rw [readAlgorithms_algorithms rfl rfl h.availableAlgorithms halgs, readString_string _ hused,
    readDouble_number _ hbetweenOff hoff, readDouble_number _ hbetweenOn hon,
    readDouble_number _ hbetweenOut hout, readString_string _ hsubfunction,
    readBool_boolItem _ h.temperatureSetpointChangeSwitchesToManualMode hsetpoint,
    readChannelNumber_set _ hmaster, readChannelNumber_set _ hheat, readChannelNumber_set _ hpump,
    readString_string _ hcontrol, readLockingCaps_arr _ h.localUILock hlock,
    readDouble_number _ rfl hmin, readDouble_number _ rfl hmax]
  rw [getTemperatures_node rfl huserTemps, getTemperatures_node rfl htemps,
    readFlags_flagNames _ Parameter.mem_all Parameter.name_injective hreadonly,
    readFlags_flagNames _ Parameter.mem_all Parameter.name_injective hhidden,
    readFlags_flagNames _ TemperatureParameter.mem_all TemperatureParameter.name_injective
      htempReadonly,
    readFlags_flagNames _ TemperatureParameter.mem_all TemperatureParameter.name_injective
      htempHidden,
    readLockingCaps_arr _ h.localUILockingCapabilities hcaps]
  -- Every value went through its table or its number.
  have hflags : HvacParameterFlags.mk config.parameterFlags.readonly config.parameterFlags.hidden
      config.parameterFlags.temperatureReadonly config.parameterFlags.temperatureHidden 0 =
      config.parameterFlags := by
    rw [← h.flagsReserved]
  dsimp only
  simp only [stringToAuxThermometerType_toString h.auxThermometerType,
    stringToAlg_toString h.usedAlgorithm, stringToSubfunction_toString h.subfunction,
    stringToTemperatureControlType_toString h.temperatureControlType, toUInt16_ofInt,
    toInt8_ofInt, toInt16_ofInt, h.temperatures_eq, decide_eq_true_eq, ← h.masterThermostatIsSet,
    ← h.heatOrColdSourceSwitchIsSet, ← h.pumpSwitchIsSet]
  rw [hflags, ← h.reserved]

/-- **The configuration of a thermostat is read back from an empty configuration as it was set.** -/
theorem getConfig_setConfig (config : TChannelConfigHVAC) (channelNumber : UInt8)
    (h : Storable config channelNumber) :
    getConfig (setConfig (⟨.emptyObject, .emptyObject⟩ : EmConfig.Config D) config channelNumber)
      channelNumber = ⟨true, config⟩ :=
  get_setConfig _ h (fun _ _ => rfl) fun _ _ => rfl

/-- A thermostat with a master, an algorithm, two flags and temperatures of both trees. -/
def someConfig : TChannelConfigHVAC where
  mainThermometerChannelNo := 1
  auxThermometerChannelNo := 3
  auxThermometerType := 4
  availableAlgorithms := 5
  usedAlgorithm := 4
  minOnTimeS := 7
  outputValueOnError := -3
  parameterFlags := {
    readonly := fun p => decide (p = .minOnTimeS)
    temperatureHidden := fun p => decide (p = .eco) }
  masterThermostatIsSet := 1
  masterThermostatChannelNo := 9
  heatOrColdSourceSwitchChannelNo := 3
  pumpSwitchChannelNo := 3
  localUILock := 2
  temperatures := ⟨0x00401, ((Vector.replicate 24 0).set 0 (-7)).set 10 300⟩

theorem getConfig_setConfig_some :
    getConfig (setConfig (⟨.emptyObject, .emptyObject⟩ : EmConfig.Config Int) someConfig 3) 3 =
      ⟨true, someConfig⟩ :=
  getConfig_setConfig someConfig 3 (by constructor <;> decide)

end Channel.HvacConfig
