import SuplaCore.Device.Proof.OnState
import SuplaCore.User.Proof.ChannelGroups
import SuplaCore.User.GroupToggle

/-!
# Two toggles of a group

The first loop of `action_toggle` finds whether a member is on (`anyOn_eq`), the second one commands
every member in the order of the devices (`commands_eq`). Once the commands are applied a member is
on if that was commanded, unless it is a thermostat, which `is_on` never takes for on
(`isOn_applied`); so a second toggle commands the opposite exactly if one member is none.
-/

namespace User

open Device Channel

/-! ## The loops -/

section
variable {e : Env} {pairs : List DCPair}

theorem result_visit (e : Env) (pairs : List DCPair) (it : Nat) (r : Run) :
    (visit e pairs it r).result =
    (r.result || (connectedAt e pairs it && e.f (callAt e pairs it))) := by
  unfold visit connectedAt callAt
  dsimp only
  split
  · rename_i h
    rw [h, Bool.true_and]
  · rename_i h
    rw [eq_false_of_ne_true h, Bool.false_and, Bool.or_false]

/-- A loop that stops at the first success. -/
theorem result_stops : ∀ (its : List Nat) (r : Run), r.result = false →
    (Loop.forEach (fun it r => (!(true && (visit e pairs it r).result), visit e pairs it r))
      its r).result = its.any fun it => connectedAt e pairs it && e.f (callAt e pairs it)
  | [], _, h => h
  | it :: its, r, h => by
    have hvisit := result_visit e pairs it r
    rw [h, Bool.false_or] at hvisit
    rw [Loop.forEach, List.any_cons, ← hvisit]
    cases hresult : (visit e pairs it r).result with
    | true => exact hresult
    | false =>
      rw [Bool.false_or]
      exact result_stops its _ hresult

theorem any_cells (e : Env) (pairs : List DCPair) (g : DCPair → Bool) :
    ((List.range pairs.length).any fun it => g (cell e pairs it)) = pairs.any g := by
  have hcells : pairs = (List.range pairs.length).map (cell e pairs) := by
    apply List.ext_getElem?
    intro i
    by_cases hi : i < pairs.length
    · rw [getElem?_cell (e := e) hi]
      simp [hi]
    · simp [hi]
  conv => rhs; rw [hcells, List.any_map]
  rfl

end

variable {devices : Devices} {beyond : Nat → DCPair} {groups : List ChannelGroup} {groupId : Int}

/-- The pairs of the group in the order in which they are visited. -/
def ordered (groups : List ChannelGroup) (groupId : Int) : List DCPair :=
  sortByDeviceId (findChannels groups groupId)

/-- The channels of the group whose device is connected. -/
def members (devices : Devices) (groups : List ChannelGroup) (groupId : Int) : List Chan :=
  (ordered groups groupId).filterMap devices.channel

theorem channel_disconnected {p : DCPair} (h : (devices p.deviceId).isSome = false) :
    devices.channel p = none := by
  unfold Devices.channel
  rw [Option.isSome_eq_false_iff, Option.isNone_iff_eq_none] at h
  rw [h]
  rfl

theorem connected_isOn (p : DCPair) :
    ((devices p.deviceId).isSome && isOn devices p) = isOn devices p := by
  cases h : (devices p.deviceId).isSome with
  | true => exact Bool.true_and _
  | false =>
    unfold isOn
    rw [channel_disconnected h]
    rfl

/-- **The first loop finds whether a member is on.** -/
theorem anyOn_eq : anyOn devices beyond groups groupId =
    (members devices groups groupId).any Chan.isOn := by
  let e : Env := ⟨fun _ deviceId => (devices deviceId).isSome,
    fun call => isOn devices call.pair, beyond⟩
  have hloop : anyOn devices beyond groups groupId =
      (List.range (ordered groups groupId).length).any fun it =>
        isOn devices (cell e (ordered groups groupId) it) := by
    refine (result_stops (e := e) _ _ rfl).trans ?_
    refine congrArg (List.any (List.range (ordered groups groupId).length)) ?_
    funext it
    exact connected_isOn _
  rw [hloop, any_cells, members, List.any_filterMap]
  rfl

/-- The pairs that are called for. -/
theorem called_pairs (devices : Devices) (beyond : Nat → DCPair) (groups : List ChannelGroup)
    (groupId : Int) (f : DCPair → Bool) :
    ((eachChannel devices beyond groups groupId false f).calls.map Call.pair) =
      (ordered groups groupId).filter fun p => (devices p.deviceId).isSome := by
  let e : Env := ⟨fun _ deviceId => (devices deviceId).isSome, fun call => f call.pair, beyond⟩
  have h := congrArg (List.map Prod.fst) (@calls_visited e (ordered groups groupId))
  rw [List.map_map] at h
  refine h.trans ?_
  show (((ordered groups groupId).zipIdx).filter
    ((fun p : DCPair => (devices p.deviceId).isSome) ∘ Prod.fst)).map Prod.fst = _
  rw [← List.filter_map, List.zipIdx_map_fst]

/-- The commands for the members, in order. -/
def commandsOf (devices : Devices) (pairs : List DCPair) (on : Bool) : List Command :=
  pairs.filterMap fun p => (setOn devices on p).map (p, ·)

/-- **The second loop commands every member.** -/
theorem commands_eq : actionToggle devices beyond groups groupId =
    (!anyOn devices beyond groups groupId,
      commandsOf devices (ordered groups groupId) (!anyOn devices beyond groups groupId),
      (actionToggle devices beyond groups groupId).2.2) := by
  refine Prod.ext rfl (Prod.ext ?_ rfl)
  unfold actionToggle commandsOf
  dsimp only
  generalize (!anyOn devices beyond groups groupId) = on
  have hcalls := called_pairs devices beyond groups groupId fun p => (setOn devices on p).isSome
  generalize (eachChannel devices beyond groups groupId false fun p =>
    (setOn devices on p).isSome).calls = calls at hcalls
  have hmap : calls.filterMap (fun call => (setOn devices on call.pair).map (call.pair, ·)) =
      (calls.map Call.pair).filterMap fun p => (setOn devices on p).map (p, ·) := by
    rw [List.filterMap_map]
    rfl
  rw [hmap, hcalls, List.filterMap_filter]
  refine List.filterMap_congr fun p _ => ?_
  cases h : (devices p.deviceId).isSome with
  | true => exact if_pos rfl
  | false =>
    unfold setOn
    rw [if_neg Bool.false_ne_true, channel_disconnected h]
    rfl

/-! ## Applying the commands -/

/-- What a channel is after a command for it. -/
def commanded (on : Bool) (c : Chan) : Chan :=
  match c.setOn on false with
  | some v => c.withValue v
  | none => c

theorem lookup_commandsOf (on : Bool) (p : DCPair) : ∀ pairs : List DCPair,
    (commandsOf devices pairs on).lookup p = if p ∈ pairs then setOn devices on p else none
  | [] => rfl
  | q :: pairs => by
    have ih := lookup_commandsOf on p pairs
    unfold commandsOf at ih ⊢
    by_cases hpq : p = q
    · subst hpq
      rw [if_pos List.mem_cons_self]
      cases hset : setOn devices on p with
      | some v =>
        rw [List.filterMap_cons_some (b := (p, v)) (by rw [hset]; rfl), List.lookup_cons_self]
      | none =>
        rw [List.filterMap_cons_none (by rw [hset]; rfl), ih, hset]
        split <;> rfl
    · have hmem : p ∈ q :: pairs ↔ p ∈ pairs := by simp [hpq]
      rw [if_congr hmem rfl rfl, ← ih]
      cases hset : setOn devices on q with
      | some v =>
        rw [List.filterMap_cons_some (b := (q, v)) (by rw [hset]; rfl), List.lookup_cons,
          beq_eq_false_iff_ne.mpr hpq]
      | none => rw [List.filterMap_cons_none (by rw [hset]; rfl)]

theorem received_id (commands : List Command) (deviceId : Int) (c : Chan) :
    (received commands deviceId c).id = c.id := by
  unfold received
  split
  · rfl
  · rfl

/-- **A member has the value that it was commanded.** -/
theorem channel_apply {pairs : List DCPair} {on : Bool} {p : DCPair} (hp : p ∈ pairs) :
    (devices.apply (commandsOf devices pairs on)).channel p =
      (devices.channel p).map (commanded on) := by
  cases hchannel : devices p.deviceId with
  | none =>
    unfold Devices.channel Devices.apply
    rw [hchannel]
    rfl
  | some channels =>
    by_cases hid : p.channelId = 0
    · unfold Devices.channel Devices.apply
      rw [hchannel]
      simp only [Option.map_some, Option.bind_some, if_pos hid, Option.map_none]
    · have hfound : devices.channel p = channels.find? fun c => c.id = p.channelId := by
        unfold Devices.channel
        rw [hchannel, Option.bind_some, if_neg hid]
      rw [hfound]
      unfold Devices.channel Devices.apply
      rw [hchannel, Option.map_some, Option.bind_some, if_neg hid, List.find?_map]
      have hsame : ((fun c : Chan => decide (c.id = p.channelId)) ∘
          received (commandsOf devices pairs on) p.deviceId) =
            fun c => decide (c.id = p.channelId) := by
        funext c
        rw [Function.comp_apply, received_id]
      rw [hsame]
      cases hfind : channels.find? fun c => c.id = p.channelId with
      | none => rfl
      | some c =>
        have hid' := List.find?_some hfind
        have hcid : c.id = p.channelId := of_decide_eq_true hid'
        have hlookup : (commandsOf devices pairs on).lookup ⟨p.deviceId, c.id⟩ =
            c.setOn on false := by
          rw [hcid, lookup_commandsOf, if_pos hp, setOn, hfound, hfind]
          rfl
        rw [Option.map_some, Option.map_some, received, hlookup, commanded]
        cases c.setOn on false with
        | none => rfl
        | some v => rfl

theorem members_apply (groups : List ChannelGroup) (groupId : Int) (on : Bool) :
    members (devices.apply (commandsOf devices (ordered groups groupId) on)) groups groupId =
      (members devices groups groupId).map (commanded on) := by
  unfold members
  rw [List.map_filterMap]
  exact List.filterMap_congr fun p hp => channel_apply hp

/-- **A member that was commanded is on if that was commanded, and it is no thermostat.** -/
theorem isOn_commanded {c : Chan} (h : isSettable c.func = true) (on : Bool) :
    (commanded on c).isOn = (on && !isHvac c.func) := by
  unfold commanded
  rw [isSettable, Bool.or_eq_true, Bool.or_eq_true] at h
  obtain (honOff | hrgbw) | hhvac := h
  · obtain ⟨v, hset, hon⟩ := (Chan.agrees_onOff honOff).commanded on
    rw [hset, (isOnOff_kinds honOff).2.1, Bool.not_false, Bool.and_true]
    exact hon
  · rw [Chan.setOn_rgbw hrgbw, (isRgbw_kinds hrgbw).2.1, Bool.not_false, Bool.and_true]
    exact isOn_lightValue hrgbw on
  · rw [Chan.setOn_hvac hhvac, hhvac, Bool.not_true, Bool.and_false]
    exact Chan.isOn_hvac hhvac

/-! ## Two toggles -/

/-- The state that a second toggle commands once the commands of the first are applied. -/
def secondState (devices : Devices) (beyond : Nat → DCPair) (groups : List ChannelGroup)
    (groupId : Int) : Bool :=
  (actionToggle (devices.apply (actionToggle devices beyond groups groupId).2.1) beyond groups
    groupId).1

theorem opposite_iff (beyond : Nat → DCPair)
    (hset : ∀ c ∈ members devices groups groupId, isSettable c.func = true) :
    secondState devices beyond groups groupId = !(actionToggle devices beyond groups groupId).1 ↔
      ∃ c ∈ members devices groups groupId, isHvac c.func = false := by
  have hfirst : (actionToggle devices beyond groups groupId).1 =
      !(members devices groups groupId).any Chan.isOn := congrArg (!·) anyOn_eq
  have hcommands : (actionToggle devices beyond groups groupId).2.1 =
      commandsOf devices (ordered groups groupId)
        (!(members devices groups groupId).any Chan.isOn) := by
    rw [commands_eq, anyOn_eq]
  have hsecond : secondState devices beyond groups groupId =
      !((!(members devices groups groupId).any Chan.isOn) &&
        (members devices groups groupId).any fun c => !isHvac c.func) := by
    unfold secondState
    rw [hcommands]
    refine (congrArg (!·) anyOn_eq).trans ?_
    rw [members_apply, List.any_map]
    generalize (!(members devices groups groupId).any Chan.isOn) = on
    have hany : (members devices groups groupId).any (Chan.isOn ∘ commanded on) =
        (members devices groups groupId).any fun c => on && !isHvac c.func := by
      rw [Bool.eq_iff_iff, List.any_eq_true, List.any_eq_true]
      refine exists_congr fun c => and_congr_right fun hc => ?_
      rw [Function.comp_apply, isOn_commanded (hset c hc)]
    rw [hany]
    cases on with
    | true => rfl
    | false => simp
  rw [hsecond, hfirst]
  have hexists : (∃ c ∈ members devices groups groupId, isHvac c.func = false) ↔
      ((members devices groups groupId).any fun c => !isHvac c.func) = true := by
    rw [List.any_eq_true]
    refine exists_congr fun c => and_congr_right fun _ => ?_
    rw [Bool.not_eq_true']
  rw [hexists]
  cases hon : (members devices groups groupId).any Chan.isOn with
  | true =>
    -- only a channel that is no thermostat is on
    obtain ⟨c, hc, hcon⟩ := List.any_eq_true.mp hon
    have hplain : ((members devices groups groupId).any fun c =>
        !isHvac c.func) = true := by
      refine List.any_eq_true.mpr ⟨c, hc, ?_⟩
      cases hhvac : isHvac c.func with
      | false => rfl
      | true => exact absurd (hcon.symm.trans (Chan.isOn_hvac hhvac)) (by decide)
    rw [hplain]
    decide
  | false =>
    cases (members devices groups groupId).any fun c => !isHvac c.func with
    | true => decide
    | false => decide

/-- **Toggle agrees with the on-state** of a channel exactly if it is plain. A group commands every
member what a toggle of its on-state is, and a second toggle the opposite exactly if one member is
no thermostat. -/
theorem toggle_agrees_iff (devices : Devices) (beyond : Nat → DCPair) (groups : List ChannelGroup)
    (groupId : Int) (hset : ∀ c ∈ members devices groups groupId, isSettable c.func = true) :
    let on := !(members devices groups groupId).any Chan.isOn
    (∀ c : Chan, isSettable c.func = true → (c.Agrees ↔ c.Plain)) ∧
      (actionToggle devices beyond groups groupId).1 = on ∧
      (actionToggle devices beyond groups groupId).2.1 =
        commandsOf devices (ordered groups groupId) on ∧
      (secondState devices beyond groups groupId = !on ↔
        ∃ c ∈ members devices groups groupId, isHvac c.func = false) := by
  refine ⟨fun c h => Chan.agrees_iff h, ?_⟩
  have hfirst : (actionToggle devices beyond groups groupId).1 =
      !(members devices groups groupId).any Chan.isOn := congrArg (!·) anyOn_eq
  refine ⟨hfirst, ?_, ?_⟩
  · rw [commands_eq, anyOn_eq]
  · have hopposite := opposite_iff beyond hset
    rw [hfirst] at hopposite
    exact hopposite

/-- A group of one channel on one device. -/
def oneMember (c : Chan) : Devices × List ChannelGroup :=
  (fun deviceId => if deviceId = 5 then some [c] else none, [⟨7, c.id, 5⟩])

/-- A light switch that is off. -/
def lightSwitch : Chan := ⟨1, 0, Channel.channelfncLightSwitch, Vector.replicate 8 0⟩

theorem toggle_agrees_switch :
    let g := oneMember lightSwitch
    let beyond : Nat → DCPair := fun _ => ⟨0, 0⟩
    lightSwitch.Agrees ∧ (actionToggle g.1 beyond g.2 7).1 = true ∧
      secondState g.1 beyond g.2 7 = false := by
  intro g beyond
  have hmembers : members g.1 g.2 7 = [lightSwitch] := rfl
  have hset : ∀ c ∈ members g.1 g.2 7, isSettable c.func = true := by
    rw [hmembers]
    decide
  have hplain : lightSwitch.Plain := ⟨by decide, fun h => absurd h (by decide)⟩
  obtain ⟨hchannel, hfirst, -, hsecond⟩ := toggle_agrees_iff g.1 beyond g.2 7 hset
  rw [hmembers] at hfirst hsecond
  refine ⟨(hchannel lightSwitch (by decide)).mpr hplain, hfirst, ?_⟩
  exact hsecond.mpr ⟨lightSwitch, List.mem_singleton_self _, by decide⟩

/-- A thermostat that heats. -/
def thermostat : Chan :=
  ⟨1, 0, Channel.channelfncHvacThermostat, #v[1, SUPLA_HVAC_MODE_HEAT, 0, 0, 0, 0, 0, 0]⟩

/-- It is never on, so that toggling it turns it off while toggling its group turns it on, again and
again. -/
theorem thermostat_never_on :
    let g := oneMember thermostat
    let beyond : Nat → DCPair := fun _ => ⟨0, 0⟩
    isSettable thermostat.func = true ∧ thermostat.isOn = false ∧
      thermostat.setOn false true = some (turnOff thermostat.value) ∧
      thermostat.setOn true false = some (turnOn thermostat.value) ∧
      turnOff thermostat.value ≠ turnOn thermostat.value ∧
      (thermostat.withValue (turnOn thermostat.value)).isOn = false ∧
      (actionToggle g.1 beyond g.2 7).1 = true ∧ secondState g.1 beyond g.2 7 = true := by
  decide

end User
