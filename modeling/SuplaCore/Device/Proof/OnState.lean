import SuplaCore.Device.OnState
import SuplaCore.Lib.Bytes

/-!
# Toggle and the on-state

`setOn` and `isOn` read the same byte of a switch. Of a dimmer they read the same two bytes, but
`is_on` asks whether one is positive and `toggle` whether both are zero; of a thermostat `is_on`
reads nothing. `Chan.agrees_iff` is what is left. `setOnOrToggle_methods` and `isOn_methods` say
that the operations of `Device.Channels` send and return exactly this.
-/

namespace Device

open Channel Channels

/-! ## Kinds of functions -/

theorem isOnOff_cases {func : Int} (h : isOnOff func = true) : func = channelfncPowerSwitch ∨
    func = channelfncLightSwitch ∨ func = channelfncStaircaseTimer ∨
      func = channelfncThermostatHeatpolHomeplus := by
  simpa [isOnOff, isSwitch, or_assoc] using h

theorem isRgbw_cases {func : Int} (h : isRgbw func = true) : func = channelfncDimmer ∨
    func = channelfncDimmerCct ∨ func = channelfncDimmerCctAndRgb ∨
      func = channelfncRgbLighting ∨ func = channelfncDimmerAndRgbLighting := by
  simpa [isRgbw, or_assoc] using h

theorem isHvac_cases {func : Int} (h : isHvac func = true) : func = channelfncHvacThermostat ∨
    func = channelfncHvacThermostatHeatCool ∨ func = channelfncHvacThermostatDifferential ∨
      func = channelfncHvacDomesticHotWater := by
  simpa [isHvac, or_assoc] using h

theorem isOnOff_kinds {func : Int} (h : isOnOff func = true) :
    isRgbw func = false ∧ isHvac func = false ∧ isCharValueWritable func = true := by
  obtain rfl | rfl | rfl | rfl := isOnOff_cases h <;> decide

theorem isRgbw_kinds {func : Int} (h : isRgbw func = true) :
    isOnOff func = false ∧ isHvac func = false ∧ (hasBrightness func || hasColor func) = true := by
  obtain rfl | rfl | rfl | rfl | rfl := isRgbw_cases h <;> decide

theorem isHvac_kinds {func : Int} (h : isHvac func = true) :
    isOnOff func = false ∧ isRgbw func = false ∧ isHvacValue func = true := by
  obtain rfl | rfl | rfl | rfl := isHvac_cases h <;> decide

/-! ## Set and read -/

theorem getRgbw_assign (func : Int) (r : Rgbw) (onOff command : UInt8) :
    (getRgbw (assignRgbwValue func r onOff command)).brightness =
      (if hasBrightness func then inPercent r.brightness else 0) ∧
    (getRgbw (assignRgbwValue func r onOff command)).colorBrightness =
      if hasColor func then inPercent r.colorBrightness else 0 :=
  ⟨rfl, rfl⟩

/-- The channel once the device has the value. -/
def Chan.withValue (c : Chan) (v : Raw) : Chan := { c with value := v }

@[simp] theorem Chan.func_withValue (c : Chan) (v : Raw) : (c.withValue v).func = c.func := rfl

@[simp] theorem Chan.value_withValue (c : Chan) (v : Raw) : (c.withValue v).value = v := rfl

variable {c : Chan}

theorem Chan.isOn_onOff (h : isOnOff c.func = true) : c.isOn = decide (c.value.get 0 ≠ 0) := by
  rw [Chan.isOn, if_pos h]
  rfl

theorem Chan.isOn_rgbw (h : isRgbw c.func = true) : c.isOn =
    (isPositive (getRgbw c.value).colorBrightness || isPositive (getRgbw c.value).brightness) := by
  rw [Chan.isOn, (isRgbw_kinds h).1, if_neg Bool.false_ne_true, if_pos h]

theorem Chan.isOn_hvac (h : isHvac c.func = true) : c.isOn = false := by
  obtain ⟨honOff, hrgbw, -⟩ := isHvac_kinds h
  rw [Chan.isOn, honOff, hrgbw, if_neg Bool.false_ne_true, if_neg Bool.false_ne_true]

theorem Chan.setOn_onOff (h : isOnOff c.func = true) (on toggled : Bool) : c.setOn on toggled =
    some (c.value.setIfInBounds 0
      (if toggled then (if c.value.get 0 ≠ 0 then 0 else 1) else if on then 1 else 0)) := by
  rw [Chan.setOn, if_pos h]
  rfl

/-- The value of a light with both brightnesses at `b`. -/
def lightValue (c : Chan) (b : UInt8) : Raw :=
  assignRgbwValue c.func { getRgbw c.value with colorBrightness := b, brightness := b } 3 0

theorem Chan.setOn_rgbw (h : isRgbw c.func = true) (on : Bool) :
    c.setOn on false = some (lightValue c (if on then 100 else 0)) := by
  rw [Chan.setOn, (isRgbw_kinds h).1, if_neg Bool.false_ne_true, if_pos h]
  cases on <;> rfl

theorem Chan.toggle_rgbw (h : isRgbw c.func = true) (on : Bool) :
    c.setOn on true = some (lightValue c
      (if (getRgbw c.value).colorBrightness = 0 ∧ (getRgbw c.value).brightness = 0 then 100
        else 0)) := by
  rw [Chan.setOn, (isRgbw_kinds h).1, if_neg Bool.false_ne_true, if_pos h]
  simp only [if_true]
  rfl

theorem Chan.setOn_hvac (h : isHvac c.func = true) (on toggled : Bool) : c.setOn on toggled =
    some (if toggled then toggle c.value else if on then turnOn c.value else turnOff c.value) := by
  obtain ⟨honOff, hrgbw, -⟩ := isHvac_kinds h
  rw [Chan.setOn, honOff, hrgbw, if_neg Bool.false_ne_true, if_neg Bool.false_ne_true, if_pos h]

theorem isOn_lightValue (h : isRgbw c.func = true) (on : Bool) :
    (c.withValue (lightValue c (if on then 100 else 0))).isOn = on := by
  rw [Chan.isOn_rgbw (by exact h), Chan.value_withValue, lightValue, (getRgbw_assign _ _ _ _).1,
    (getRgbw_assign _ _ _ _).2]
  have hkind := (isRgbw_kinds h).2.2
  have hlit : isPositive (inPercent 100) = true := by decide
  have hdark : isPositive (inPercent 0) = false := by decide
  have hzero : isPositive 0 = false := by decide
  cases on with
  | false =>
    simp only [Bool.false_eq_true, if_false]
    cases hasBrightness c.func <;> cases hasColor c.func <;> simp [hdark, hzero]
  | true =>
    rw [Bool.or_eq_true] at hkind
    simp only [if_true]
    rcases hkind with hb | hc
    · rw [if_pos hb, hlit, Bool.or_true]
    · rw [if_pos hc, hlit, Bool.true_or]

/-! ## Agreement -/

/-- `toggle` commands what `set_on` does with the opposite of the on-state, and the on-state of a
commanded value is what was commanded. -/
structure Chan.Agrees (c : Chan) : Prop where
  toggle : c.setOn false true = c.setOn (!c.isOn) false
  commanded : ∀ on, ∃ v, c.setOn on false = some v ∧ (c.withValue v).isOn = on

/-- No thermostat, and no light of which a brightness is negative and none is positive. -/
def Chan.Plain (c : Chan) : Prop :=
  isHvac c.func = false ∧ (isRgbw c.func = true →
    let r := getRgbw c.value
    isPositive r.colorBrightness = true ∨ isPositive r.brightness = true ∨
      (r.colorBrightness = 0 ∧ r.brightness = 0))

theorem Chan.agrees_onOff (h : isOnOff c.func = true) : c.Agrees := by
  constructor
  · rw [Chan.setOn_onOff h, Chan.setOn_onOff h, Chan.isOn_onOff h]
    by_cases hzero : c.value.get 0 = 0 <;> simp [hzero]
  · intro on
    refine ⟨_, Chan.setOn_onOff h on false, ?_⟩
    rw [Chan.isOn_onOff (by exact h), Chan.value_withValue]
    have hget : ∀ b : UInt8, (c.value.setIfInBounds 0 b).get 0 = b := fun b =>
      (Bytes.get_setIfInBounds c.value 0 0 b).trans (if_pos rfl)
    rw [hget]
    cases on <;> rfl

theorem lightValue_ne (h : isRgbw c.func = true) : lightValue c 100 ≠ lightValue c 0 := by
  intro heq
  have hlit := isOn_lightValue h true
  have hdark := isOn_lightValue h false
  rw [if_pos rfl, heq] at hlit
  rw [if_neg Bool.false_ne_true, hlit] at hdark
  cases hdark

theorem Chan.agrees_rgbw (h : isRgbw c.func = true) : c.Agrees ↔ c.Plain := by
  have hcommanded : ∀ on, ∃ v, c.setOn on false = some v ∧ (c.withValue v).isOn = on :=
    fun on => ⟨_, Chan.setOn_rgbw h on, isOn_lightValue h on⟩
  have hoff : isPositive 0 = false := by decide
  have htoggle : c.setOn false true = c.setOn (!c.isOn) false ↔
      isPositive (getRgbw c.value).colorBrightness = true ∨
        isPositive (getRgbw c.value).brightness = true ∨
        ((getRgbw c.value).colorBrightness = 0 ∧ (getRgbw c.value).brightness = 0) := by
    rw [Chan.toggle_rgbw h, Chan.setOn_rgbw h, Chan.isOn_rgbw h, Option.some.injEq]
    by_cases hzero : (getRgbw c.value).colorBrightness = 0 ∧ (getRgbw c.value).brightness = 0
    · simp [hzero, hoff]
    · cases hpos : isPositive (getRgbw c.value).colorBrightness ||
          isPositive (getRgbw c.value).brightness with
      | true =>
        rw [Bool.or_eq_true] at hpos
        simp only [if_neg hzero, Bool.not_true, if_neg Bool.false_ne_true, true_iff]
        tauto
      | false =>
        rw [Bool.or_eq_false_iff] at hpos
        simp only [Bool.not_false, if_true, hpos, Bool.false_eq_true, false_or,
          hzero, iff_false]
        exact (lightValue_ne h).symm
  exact ⟨fun hagrees => ⟨(isRgbw_kinds h).2.1, fun _ => htoggle.mp hagrees.toggle⟩,
    fun hplain => ⟨htoggle.mpr (hplain.2 h), hcommanded⟩⟩

/-- A thermostat that is switched on does not count as on. -/
theorem Chan.not_agrees_hvac (h : isHvac c.func = true) : ¬ c.Agrees := by
  intro hagrees
  obtain ⟨v, -, hv⟩ := hagrees.commanded true
  rw [Chan.isOn_hvac (by exact h)] at hv
  cases hv

theorem Chan.agrees_iff (h : isSettable c.func = true) : c.Agrees ↔ c.Plain := by
  rw [isSettable, Bool.or_eq_true, Bool.or_eq_true] at h
  obtain (honOff | hrgbw) | hhvac := h
  · obtain ⟨hrgbw, hhvac, -⟩ := isOnOff_kinds honOff
    exact ⟨fun _ => ⟨hhvac, fun hr => absurd (hrgbw.symm.trans hr) Bool.false_ne_true⟩,
      fun _ => Chan.agrees_onOff honOff⟩
  · exact Chan.agrees_rgbw hrgbw
  · exact ⟨fun hagrees => absurd hagrees (Chan.not_agrees_hvac hhvac),
      fun hplain => absurd (hplain.1.symm.trans hhvac) Bool.false_ne_true⟩

/-! ## The operations -/

section
variable {J : Type} {rest : Methods Chan J} {w : World Chan} {id : Int}

/-- The channel that `find_channel` finds. -/
def found (w : World Chan) (id : Int) : Option (Nat × Chan) :=
  if id = 0 then none
  else (w.channels.findIdx? fun c => c.id = id).bind fun i => w.channels[i]?.map (i, ·)

theorem found_id {i : Nat} {c : Chan} (h : found w id = some (i, c)) : c.id = id := by
  unfold found at h
  split at h
  · cases h
  · obtain ⟨j, hfind, hget⟩ := Option.bind_eq_some_iff.mp h
    obtain ⟨hj, hid, -⟩ := List.findIdx?_eq_some_iff_getElem.mp hfind
    rw [List.getElem?_eq_getElem hj, Option.map_some, Option.some.injEq, Prod.mk.injEq] at hget
    rw [← hget.2]
    exact of_decide_eq_true hid

theorem found_get {i : Nat} {c : Chan} (h : found w id = some (i, c)) :
    w.channels[i]? = some c := by
  unfold found at h
  split at h
  · cases h
  · obtain ⟨j, -, hget⟩ := Option.bind_eq_some_iff.mp h
    obtain ⟨c', hc', heq⟩ := Option.map_eq_some_iff.mp hget
    cases heq
    exact hc'

/-- One operation after another. -/
theorem bind_run {α β : Type} {x : Op Chan α} {f : α → Op Chan β} {w w' : World Chan} {a : α}
    (h : x w = some (a, w')) : (x >>= f) w = f a w' := by
  simp [Bind.bind, StateT.bind, h]

theorem findChannel_eq : findChannel (methods rest) id w =
    some ((found w id).map Prod.fst, w) := by
  unfold findChannel found
  by_cases hid : id = 0
  · rw [if_pos hid, if_pos hid]
    rfl
  · rw [if_neg hid, if_neg hid]
    cases hfind : w.channels.findIdx? fun c => c.id = id with
    | none =>
      have hnone : w.channels.findIdx? (fun c => (methods rest).id c = id) = none := hfind
      rw [hnone]
      rfl
    | some i =>
      have hsome : w.channels.findIdx? (fun c => (methods rest).id c = id) = some i := hfind
      obtain ⟨hi, -, -⟩ := List.findIdx?_eq_some_iff_getElem.mp hfind
      rw [hsome, Option.bind_some, List.getElem?_eq_getElem hi]
      rfl

/-- What is done with a channel, and what without one. -/
theorem withChannel_eq {α : Type} (default : α) (f : Ptr → Chan → Op Chan α) :
    withChannel (methods rest) id default f w =
      match found w id with
      | some (i, c) => f (some i) c w
      | none => some (default, w) := by
  unfold withChannel
  rw [bind_run findChannel_eq]
  cases hfound : found w id with
  | none => rfl
  | some p =>
    obtain ⟨i, c⟩ := p
    have hderef : deref (some i) w = some (c, w) := by
      show (w.channels[i]?).map (·, w) = _
      rw [found_get hfound]
      rfl
    exact bind_run hderef

/-- **`is_on` is the on-state of the channel found.** -/
theorem isOn_methods : isOn (methods rest) id w =
    some ((found w id).any fun c => c.2.isOn, w) := by
  unfold isOn
  rw [withChannel_eq]
  cases found w id with
  | none => rfl
  | some p =>
    obtain ⟨i, c⟩ := p
    show some (_, w) = some (c.isOn, w)
    unfold Chan.isOn
    congr 2
    by_cases honOff : isOnOff c.func = true
    · rw [if_pos honOff]
      exact if_pos honOff
    · rw [if_neg honOff]
      refine (if_neg honOff).trans ?_
      by_cases hrgbw : isRgbw c.func = true
      · rw [if_pos hrgbw]
        refine (if_pos hrgbw).trans ?_
        have hread : (methods rest).rgbw c = some (getRgbw c.value) := if_pos hrgbw
        rw [hread]
      · rw [if_neg hrgbw]
        exact if_neg hrgbw

theorem raw_toList (v : Raw) : raw v.toList = v := by
  apply Vector.ext
  intro i hi
  simp [raw, List.getD_eq_getElem?_getD]

/-- **`set_on` sends the value that the channel found is set to.** -/
theorem setOnOrToggle_methods (caller : Caller) (on toggled : Bool) {i : Nat} {c : Chan}
    (h : found w id = some (i, c)) (hset : isSettable c.func = true) :
    ∃ v, c.setOn on toggled = some v ∧ setOnOrToggle (methods rest) caller id on toggled w =
      (do asyncSetChannelValue (methods rest) (some i) caller v.toList (!isHvac c.func)
          pure true : Op Chan Bool) w := by
  have hderef : deref (some i) w = some (c, w) := by
    show (w.channels[i]?).map (·, w) = _
    rw [found_get h]
    rfl
  unfold setOnOrToggle
  rw [withChannel_eq, h]
  dsimp only
  rw [isSettable, Bool.or_eq_true, Bool.or_eq_true] at hset
  obtain (honOff | hrgbw) | hhvac := hset
  · obtain ⟨hrgbw, hhvac, hchar⟩ := isOnOff_kinds honOff
    refine ⟨_, Chan.setOn_onOff honOff on toggled, ?_⟩
    refine (congrFun (if_pos honOff) w).trans ?_
    refine (bind_run hderef).trans ?_
    refine (congrFun (if_neg (ne_true_of_eq_false hrgbw)) w).trans ?_
    refine (congrFun (if_pos hchar) w).trans ?_
    rw [hhvac, Vector.toList_setIfInBounds]
    rfl
  · obtain ⟨honOff, hhvac, -⟩ := isRgbw_kinds hrgbw
    have hvalue : (methods rest).rgbw c = some (getRgbw c.value) := if_pos hrgbw
    have hagain : found w ((methods rest).id c) = some (i, c) := by
      rw [show (methods rest).id c = id from found_id h, h]
    refine ⟨_, (if_neg (ne_true_of_eq_false honOff)).trans (if_pos hrgbw), ?_⟩
    refine (congrFun (if_neg (ne_true_of_eq_false honOff)) w).trans ?_
    refine (congrFun (if_pos hrgbw) w).trans ?_
    rw [hvalue, hhvac]
    dsimp only
    unfold setDeviceChannelRgbwValue
    rw [withChannel_eq, hagain]
    exact congrFun (if_pos hrgbw) w
  · obtain ⟨honOff, hrgbw, hsupported⟩ := isHvac_kinds hhvac
    have hvalue : (methods rest).hvac c = some c.value.toList := if_pos hsupported
    refine ⟨_, Chan.setOn_hvac hhvac on toggled, ?_⟩
    refine (congrFun (if_neg (ne_true_of_eq_false honOff)) w).trans ?_
    refine (congrFun (if_neg (ne_true_of_eq_false hrgbw)) w).trans ?_
    refine (congrFun (if_pos hhvac) w).trans ?_
    rw [hvalue, hhvac]
    simp only [methods, raw_toList, Bool.not_true]
    cases toggled with
    | true => rfl
    | false =>
      cases on with
      | true => rfl
      | false => rfl

end

end Device
