import SuplaCore.Device.DeviceChannel
import SuplaCore.Lib.Words

/-!
# The flags of a channel

What `get_flags` answers after any calls, and when that is what it should be (`getFlags_iff`). On
the way in the flags of a registered channel lose their upper half, on the way out the answer is
extended from bit 31, and a phase that a configuration once disabled stays flagged.
-/

namespace Device

open Analyzer Words

variable {D : Type} [JsonDouble D]

/-! ## What is due -/

/-- The flags of a channel that is registered. -/
def ChannelAct.registered : ChannelAct D → BitVec 64
  | .registerFlags flags => flags
  | _ => 0

def ChannelAct.config : ChannelAct D → Option (Option (Json.Node D))
  | .setJsonConfig config => some config
  | _ => none

/-- The flags that a configuration yields. -/
def userFlags (type : Int) : Option (Json.Node D) → BitVec 64
  | some root => if type = SUPLA_CHANNELTYPE_ELECTRICITY_METER then getChannelUserFlags root else 0
  | none => 0

namespace DeviceChannel

/-- A channel after some calls. -/
def after (r : Row D) (now : TimeVal) (acts : List (ChannelAct D)) : DeviceChannel D :=
  acts.foldl (fun c a => a.apply c) (create r now)

/-- The flags of the constructor and of all registrations. -/
def initialFlags (r : Row D) (acts : List (ChannelAct D)) : BitVec 64 :=
  r.flags ||| orAll (acts.map ChannelAct.registered)

/-- The configurations, the last one in force. -/
def configs (r : Row D) (acts : List (ChannelAct D)) : List (Option (Json.Node D)) :=
  some r.userConfig :: acts.filterMap ChannelAct.config

def configInForce (r : Row D) (acts : List (ChannelAct D)) : Option (Json.Node D) :=
  (configs r acts).getLast (List.cons_ne_nil _ _)

/-- What `get_flags` should answer. -/
def dueFlags (r : Row D) (acts : List (ChannelAct D)) : BitVec 64 :=
  initialFlags r acts ||| userFlags r.type (configInForce r acts)

/-- The flags that any of the configurations yielded. -/
def pastFlags (r : Row D) (acts : List (ChannelAct D)) : BitVec 64 :=
  orAll ((configs r acts).map (userFlags r.type))

/-! ## One call -/

omit [JsonDouble D] in
theorem addInitFlags_flags {c : DeviceChannel D} (hc : c.flags ||| c.initFlags = c.flags)
    (flags : BitVec 64) : (c.addInitFlags flags).flags = c.flags ||| flags := by
  unfold addInitFlags
  split
  · rfl
  · rename_i hknown
    rw [ne_eq, not_not] at hknown
    rw [← hc, BitVec.or_assoc, hknown]

omit [JsonDouble D] in
theorem addInitFlags_covered {c : DeviceChannel D} (hc : c.flags ||| c.initFlags = c.flags)
    (flags : BitVec 64) :
    (c.addInitFlags flags).flags ||| (c.addInitFlags flags).initFlags =
      (c.addInitFlags flags).flags := by
  unfold addInitFlags
  split
  · calc (c.flags ||| flags) ||| (c.initFlags ||| flags)
        = (c.flags ||| c.initFlags) ||| (flags ||| flags) := by ac_rfl
      _ = c.flags ||| flags := by rw [hc, BitVec.or_self]
  · exact hc

theorem setJsonConfig_flags (c : DeviceChannel D) (config : Option (Json.Node D)) :
    (c.setJsonConfig config).flags = c.flags ||| userFlags c.type config := by
  cases config with
  | none => exact BitVec.or_zero.symm
  | some root =>
    simp only [setJsonConfig, userFlags]
    split
    · rfl
    · exact BitVec.or_zero.symm

theorem setJsonConfig_covered {c : DeviceChannel D} (hc : c.flags ||| c.initFlags = c.flags)
    (config : Option (Json.Node D)) :
    (c.setJsonConfig config).flags ||| c.initFlags = (c.setJsonConfig config).flags := by
  rw [setJsonConfig_flags, BitVec.or_assoc, BitVec.or_comm (userFlags _ _), ← BitVec.or_assoc, hc]

end DeviceChannel

/-- What a call leaves of the flags: only the lower half of those of a registered channel. -/
structure ChannelAct.Flags (a : ChannelAct D) (c c' : DeviceChannel D) : Prop where
  type : c'.type = c.type
  covered : c'.flags ||| c'.initFlags = c'.flags
  lower : c'.flags.setWidth 32 = (c.flags ||| a.registered |||
    orAll (a.config.toList.map (userFlags c.type))).setWidth 32

theorem ChannelAct.flags (a : ChannelAct D) {c : DeviceChannel D}
    (hc : c.flags ||| c.initFlags = c.flags) : a.Flags c (a.apply c) := by
  have hsame : ∀ {c' : DeviceChannel D}, c'.type = c.type → c'.initFlags = c.initFlags →
      c'.flags = c.flags → a.registered = 0 → a.config = none → a.Flags c c' := by
    intro c' htype hinit hflags hregistered hconfig
    refine ⟨htype, by rw [hflags, hinit, hc], ?_⟩
    rw [hflags, hregistered, hconfig]
    simp [orAll]
  cases a with
  | setFunc func =>
    simp only [apply, DeviceChannel.setFunc]
    split <;> exact hsame rfl rfl rfl rfl rfl
  | registerFlags flags =>
    have hflags := DeviceChannel.addInitFlags_flags hc ((flags.setWidth 32).setWidth 64)
    have hlower : ((flags.setWidth 32).setWidth 64).setWidth 32 = flags.setWidth 32 :=
      BitVec.setWidth_setWidth_of_le _ (by decide)
    refine ⟨?_, DeviceChannel.addInitFlags_covered hc _, ?_⟩
    · simp only [apply, DeviceChannel.registerFlags, DeviceChannel.addInitFlags]
      split <;> rfl
    · show (c.addInitFlags ((flags.setWidth 32).setWidth 64)).flags.setWidth 32 = _
      rw [hflags, BitVec.setWidth_or, hlower]
      simp [registered, config, orAll]
  | setJsonConfig config =>
    refine ⟨rfl, DeviceChannel.setJsonConfig_covered hc config, ?_⟩
    show (c.setJsonConfig config).flags.setWidth 32 = _
    rw [DeviceChannel.setJsonConfig_flags]
    simp [registered, ChannelAct.config, orAll]
  | setExtendedValue ev now =>
    simp only [apply, DeviceChannel.setExtendedValue]
    split <;> exact hsame rfl rfl rfl rfl rfl
  | setAvailabilityStatus status =>
    simp only [apply]
    rw [DeviceChannel.setAvailabilityStatus_snd]
    exact hsame rfl rfl rfl rfl rfl
  | setValue b now =>
    simp only [apply]
    rw [DeviceChannel.setValue_frame]
    exact hsame rfl rfl rfl rfl rfl

/-! ## All calls -/

namespace DeviceChannel

theorem calls_flags (acts : List (ChannelAct D)) :
    ∀ {c : DeviceChannel D}, c.flags ||| c.initFlags = c.flags →
      (acts.foldl (fun c a => a.apply c) c).flags.setWidth 32 =
        (c.flags ||| orAll (acts.map ChannelAct.registered) |||
          orAll ((acts.filterMap ChannelAct.config).map (userFlags c.type))).setWidth 32 := by
  induction acts with
  | nil =>
    intro c _
    simp [orAll]
  | cons a rest ih =>
    intro c hc
    obtain ⟨htype, hcovered, hlower⟩ := a.flags hc
    have hrest := ih hcovered
    rw [htype] at hrest
    simp only [BitVec.setWidth_or] at hlower hrest
    have hconfigs : (a :: rest).filterMap ChannelAct.config =
        a.config.toList ++ rest.filterMap ChannelAct.config := by
      cases h : a.config <;> simp [h]
    rw [List.foldl_cons, hrest, hlower, hconfigs, List.map_append, List.map_cons, orAll_append,
      orAll_cons]
    simp only [BitVec.setWidth_or]
    ac_rfl

theorem create_covered (r : Row D) (now : TimeVal) :
    (create r now).flags ||| (create r now).initFlags = (create r now).flags :=
  setJsonConfig_covered (c := members r now) BitVec.or_self (some r.userConfig)

theorem after_flags (r : Row D) (now : TimeVal) (acts : List (ChannelAct D)) :
    (after r now acts).getFlags = throughInt (initialFlags r acts ||| pastFlags r acts) := by
  have hcreate : (create r now).flags = r.flags ||| userFlags r.type (some r.userConfig) :=
    setJsonConfig_flags (members r now) (some r.userConfig)
  apply throughInt_congr
  rw [after, calls_flags acts (create_covered r now), hcreate, initialFlags, pastFlags, configs,
    List.map_cons, orAll_cons]
  show BitVec.setWidth 32 (_ ||| _ ||| _ ||| orAll (List.map (userFlags r.type) _)) = _
  congr 1
  ac_rfl

theorem getChannelUserFlags_lt (root : Json.Node D) :
    (getChannelUserFlags root).toNat < 2 ^ 31 := by
  unfold getChannelUserFlags
  cases isPhaseDisabled root 1 <;> cases isPhaseDisabled root 2 <;>
    cases isPhaseDisabled root 3 <;> decide

theorem userFlags_low (type : Int) (config : Option (Json.Node D)) {i : Nat} (hi : 31 ≤ i) :
    (userFlags type config).getLsbD i = false := by
  cases config with
  | none => exact BitVec.getLsbD_zero
  | some root =>
    simp only [userFlags]
    split
    · exact getLsbD_of_lt (getChannelUserFlags_lt root) hi
    · exact BitVec.getLsbD_zero

theorem pastFlags_low (r : Row D) (acts : List (ChannelAct D)) {i : Nat} (hi : 31 ≤ i) :
    (pastFlags r acts).getLsbD i = false := by
  rw [pastFlags, getLsbD_orAll, List.any_map, List.any_eq_false]
  intro config _
  exact Bool.eq_false_iff.mp (userFlags_low r.type config hi)

/-- The configuration in force is one of all. -/
theorem pastFlags_inForce (r : Row D) (acts : List (ChannelAct D)) {i : Nat}
    (hi : (userFlags r.type (configInForce r acts)).getLsbD i = true) :
    (pastFlags r acts).getLsbD i = true := by
  rw [pastFlags, getLsbD_orAll, List.any_map, List.any_eq_true]
  exact ⟨_, List.getLast_mem (List.cons_ne_nil _ _), hi⟩

/-- **The flags of a channel** are what they should be exactly when those that are due from the
constructor and the registrations fit an `int`, and nothing more was ever disabled than now. -/
theorem getFlags_iff (r : Row D) (now : TimeVal) (acts : List (ChannelAct D)) :
    (after r now acts).getFlags = dueFlags r acts ↔
      FitsInt (initialFlags r acts) ∧ dueFlags r acts ||| pastFlags r acts = dueFlags r acts := by
  rw [after_flags]
  exact throughInt_or_iff (fun _ => pastFlags_low r acts) (fun _ => pastFlags_inForce r acts)

/-! A flag of the upper half, the highest one of the lower half, and a phase enabled again. -/

def SUPLA_CHANNEL_FLAG_BATTERY_COVER_AVAILABLE : BitVec 64 := 0x80000000

def SUPLA_CHANNEL_FLAG_BUTTON_MODE_SUPPORTED : BitVec 64 := 0x100000000

/-- An electricity meter with the second phase disabled. -/
def meter : Row Nat where
  type := SUPLA_CHANNELTYPE_ELECTRICITY_METER
  func := SUPLA_CHANNELFNC_ELECTRICITY_METER
  flags := 0
  value := .replicate 8 0
  validityTimeSec := 0
  userConfig := .mk .object
    [(some "disabledPhases", .mk .array [(none, .mk (.number 2) [])])]

theorem getFlags_bits :
    (after meter .zero [.registerFlags SUPLA_CHANNEL_FLAG_BUTTON_MODE_SUPPORTED]).getFlags =
        0x40000 ∧
      (after meter .zero [.registerFlags SUPLA_CHANNEL_FLAG_BATTERY_COVER_AVAILABLE]).getFlags =
        0xffffffff80040000 ∧
      (after meter .zero [.setJsonConfig (some (.mk .object []))]).getFlags = 0x40000 ∧
      ¬ ∀ (r : Row Nat) (now : TimeVal) (acts : List (ChannelAct Nat)),
        (after r now acts).getFlags = dueFlags r acts := by
  refine ⟨by decide, by decide, by decide, fun hall => ?_⟩
  exact absurd (hall meter .zero [.setJsonConfig (some (.mk .object []))]) (by decide)

end DeviceChannel

end Device
