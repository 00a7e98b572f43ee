import SuplaCore.Device.Channels

/-!
# Unknown channel identifiers

An operation on an identifier that the container does not have leaves everything as it was and
reports a failure. All of them look the channel up and test the pointer (`withChannel`), or hand it
to a function that does; only `timer_arm` goes on with the null pointer.
-/

namespace Device.Channels

open Channel

section
variable {C J : Type} (m : Methods C J)

/-- The container has no channel with this identifier. -/
def Unknown (w : World C) (id : Int) : Prop := ∀ c ∈ w.channels, m.id c ≠ id

/-- The operation returns `r` and does nothing. -/
def Idle {α : Type} (x : Op C α) (w : World C) (r : α) : Prop := x w = some (r, w)

variable {m}

theorem Idle.map {α β : Type} {x : Op C α} {w : World C} {r : α} (h : Idle x w r) (f : α → β) :
    Idle (f <$> x) w (f r) := by
  unfold Idle at h ⊢
  simp [Functor.map, StateT.map, h]

theorem Idle.bind {α β : Type} {x : Op C α} {w : World C} {r : α} {f : α → Op C β} {r' : β}
    (h : Idle x w r) (hf : Idle (f r) w r') : Idle (x >>= f) w r' := by
  unfold Idle at h hf ⊢
  simp [Bind.bind, StateT.bind, h, hf]

theorem Idle.pure {α : Type} (w : World C) (r : α) : Idle (Pure.pure r : Op C α) w r := rfl

section
variable {w : World C} {id : Int} (h : Unknown m w id)
include h

theorem findChannel_unknown : Idle (findChannel m id) w none := by
  unfold Idle findChannel
  split
  · rfl
  · have hnone : w.channels.findIdx? (fun c => m.id c = id) = none := by
      rw [List.findIdx?_eq_none_iff]
      intro c hc
      simpa using h c hc
    rw [hnone]

/-- **What is done with a channel is not done without one.** -/
theorem withChannel_unknown {α : Type} (default : α) (f : Ptr → C → Op C α) :
    Idle (withChannel m id default f) w default :=
  (findChannel_unknown h).bind (Idle.pure w default)

theorem setDeviceChannelCharValue_unknown (caller : Caller) (value : UInt8) :
    Idle (setDeviceChannelCharValue m caller id value) w false :=
  (findChannel_unknown h).bind (Idle.pure w false)

theorem channelExists_unknown : Idle (channelExists m id) w false :=
  (findChannel_unknown h).bind (Idle.pure w false)

/-- Neither the Heatpol thermostat nor the others find a channel. -/
theorem hpOrHvac_unknown (caller : Caller) (duration : Nat)
    (onCalcfg : C → Op C (Option CalCfgRequest)) (onValue : C → Value → Option Value) :
    Idle (hpOrHvac m caller id duration onCalcfg onValue) w false :=
  (withChannel_unknown h (false, false) _).bind (withChannel_unknown h false _)

theorem onRelatedSensorValueChanged_unknown (isOpen : Bool) :
    Idle (onRelatedSensorValueChanged m id isOpen) w () :=
  (withChannel_unknown h none _).bind (Idle.pure w ())

/-- `timer_arm` calls a method of the null pointer. -/
theorem timerArm_unknown (caller : Caller) (on : Bool) (durationMs : Nat) :
    timerArm m caller id on durationMs w = none := by
  have hfind := findChannel_unknown h
  unfold Idle at hfind
  simp [timerArm, Bind.bind, StateT.bind, hfind, asyncSetChannelValueFor, deref]

/-- **Every other operation does nothing and reports a failure.** -/
theorem exec_unknown (op : Operation)
    (hop : ∀ caller on durationMs, op ≠ .timerArm caller on durationMs) :
    ∃ r, Idle (exec m id op) w r ∧ r.failed := by
  cases op with
  | timerArm caller on durationMs => exact absurd rfl (hop caller on durationMs)
  | setDeviceChannelCharValue caller value =>
    exact ⟨_, (setDeviceChannelCharValue_unknown h caller value).map _, rfl⟩
  | channelExists => exact ⟨_, (channelExists_unknown h).map _, rfl⟩
  | onRelatedSensorValueChanged isOpen =>
    exact ⟨_, (onRelatedSensorValueChanged_unknown h isOpen).map _, trivial⟩
  | setChannelExtendedvalue | setChannelState | setChannelFunction | setDeviceChannelValue =>
    exact ⟨_, (withChannel_unknown h () _).map _, trivial⟩
  | calcfgRequest senderId su request =>
    refine ⟨_, Idle.map (r := false) ?_ _, rfl⟩
    unfold calcfgRequest
    split
    · exact Idle.pure w false
    · split
      · exact withChannel_unknown h false _
      · exact withChannel_unknown h false _
  | actionHvacSetParameters caller params =>
    refine ⟨_, Idle.map (r := false) ?_ _, rfl⟩
    cases params with
    | none => exact Idle.pure w false
    | some ps => exact hpOrHvac_unknown h caller _ _ _
  | actionHvacSetTemperature caller t =>
    refine ⟨_, Idle.map (r := false) ?_ _, rfl⟩
    cases t with
    | none => exact Idle.pure w false
    | some t => exact hpOrHvac_unknown h caller _ _ _
  | actionHvacSetTemperatures caller ts =>
    refine ⟨_, Idle.map (r := false) ?_ _, rfl⟩
    cases ts with
    | none => exact Idle.pure w false
    | some ts => exact withChannel_unknown h false _
  | actionHvacSwitchToManualMode caller | actionHvacSwitchToProgramMode caller =>
    exact ⟨_, (hpOrHvac_unknown h caller _ _ _).map _, rfl⟩
  | _ => exact ⟨_, (withChannel_unknown h _ _).map _, rfl⟩

/-- **Exactly the operations other than `timer_arm` are inert on an unknown identifier**: they
return, leave the container as it was, send nothing and report a failure. -/
theorem unknown_channel_inert (op : Operation) :
    (∃ r w', exec m id op w = some (r, w') ∧ w'.channels = w.channels ∧ w'.sent = w.sent ∧
        w'.gate = w.gate ∧ r.failed) ↔
      ∀ caller on durationMs, op ≠ .timerArm caller on durationMs := by
  constructor
  · rintro ⟨r, w', he, -⟩ caller on durationMs rfl
    have hnone := timerArm_unknown h caller on durationMs
    simp [exec, Functor.map, StateT.map, hnone] at he
  · intro hop
    obtain ⟨r, hr, hf⟩ := exec_unknown h op hop
    exact ⟨r, w, hr, rfl, rfl, rfl, hf⟩

end

end

/-! ## A container of one channel -/

/-- A light switch, known by its identifier alone. -/
def lightSwitch : Methods Int Unit where
  id := fun c => c
  number _ := 0
  func _ := channelfncLightSwitch
  type _ := 2900
  flags _ := 0
  param1 _ := 0
  value _ := zeroValue
  setValue c _ _ _ := (true, c)
  availabilityStatus _ := 0
  setAvailabilityStatus c _ := (true, c)
  validityTimeSec _ := 0
  extendedValue _ := none
  setExtendedValue c _ := c
  icCalculatedValue _ := none
  hpProgramMode _ := none
  double _ := []
  char _ := 0
  valueDuration _ := 0
  isValueWritable _ := true
  isCharValueWritable _ := true
  isRgbwValueWritable _ := false
  rgbw _ := none
  assignRgbwValue _ _ _ _ := zeroValue
  hvac _ := none
  json _ := none
  state _ := none
  setState c _ := c
  setFunc c _ := c
  relations _ _ := []
  shadingApply _ _ _ _ _ := none
  hvacToggle v := v
  hvacTurnOn v := v
  hvacTurnOff v := v
  hvacClear v := v
  hvacSwitchToManual v := v
  hvacSwitchToProgram v := v
  hvacModeCool _ := false
  hvacSetHeat _ v := v
  hvacSetCool _ v := v
  hvacSubfunction _ _ := none
  rsSettings _ := zeroValue
  gateVerification _ := false

/-- A connected device whose only channel is 7. -/
def oneSwitch : World Int := ⟨[7], true, true, 28, [], []⟩

theorem oneSwitch_unknown : Unknown lightSwitch oneSwitch 9 := by
  unfold Unknown
  decide

/-- Switching channel 9 on has no effect. -/
theorem unknown_channel_inert_on :
    ∃ r w', exec lightSwitch 9 (.setOn ⟨1, 0, 0⟩ true) oneSwitch = some (r, w') ∧
      w'.channels = oneSwitch.channels ∧ w'.sent = oneSwitch.sent ∧ w'.gate = oneSwitch.gate ∧
      r.failed :=
  (unknown_channel_inert oneSwitch_unknown (.setOn ⟨1, 0, 0⟩ true)).2 nofun

/-- **The timer of channel 9 ends the process.** -/
theorem timer_arm_crashes :
    ¬ ∀ (m : Methods Int Unit) (w : World Int) (id : Int) (op : Operation), Unknown m w id →
      ∃ r w', exec m id op w = some (r, w') ∧ w'.channels = w.channels ∧ w'.sent = w.sent ∧
        w'.gate = w.gate ∧ r.failed := by
  intro h
  obtain ⟨r, w', he, -⟩ := h lightSwitch oneSwitch 9 (.timerArm ⟨1, 0, 1⟩ true 1000)
    oneSwitch_unknown
  cases he

end Device.Channels
