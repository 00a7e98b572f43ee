import SuplaCore.Vbt.Condition

/-!
# Value-based triggers

`supla_value_based_trigger` (`supla-server/src/vbt/value_based_trigger.cpp`): the definition of a
trigger as it is stored, its comparison with another one (`equal`), down to the parameters of its
action (`supla-server/src/actions/`) and its active period (`supla-server/src/active_period.cpp`),
and the trigger itself, a definition with the memory of its condition.

Not here: `fire` with its limits (`Vbt.Fire`), which no comparison reads.
-/

namespace Vbt

/-! ## Actions -/

/-- `TAction_RGBW_Parameters`. -/
structure RgbwParameters where
  brightness : Int
  colorBrightness : Int
  color : Nat
  colorRandom : Int
  onOff : Int
  command : Int
  whiteTemperature : Int
  deriving DecidableEq

/-- `TAction_HVAC_Parameters`. -/
structure HvacParameters where
  durationSec : Nat
  mode : Nat
  setpointTemperatureHeat : Int
  setpointTemperatureCool : Int
  flags : Nat
  deriving DecidableEq

/-- The classes of action parameters. -/
inductive ActionParameters
  | shadingSystem (percentage tilt : Int) (flags : Nat)
  | rgbw (rgbw : RgbwParameters)
  | hvac (params : HvacParameters)
  | setpointTemperature (temperature : Int)
  | setpointTemperatures (heating cooling : Option Int)
  deriving DecidableEq

/-- The virtual method `equal`. Of the RGBW parameters it compares all but the command and the
white temperature. -/
def ActionParameters.equal : ActionParameters → ActionParameters → Bool
  | .shadingSystem p t f, .shadingSystem p' t' f' => p == p' && t == t' && f == f'
  | .rgbw a, .rgbw b =>
    a.brightness == b.brightness && a.color == b.color &&
      a.colorBrightness == b.colorBrightness && a.colorRandom == b.colorRandom &&
      a.onOff == b.onOff
  | .hvac a, .hvac b => decide (a = b)
  | .setpointTemperature t, .setpointTemperature t' => t == t'
  | .setpointTemperatures h c, .setpointTemperatures h' c' => h == h' && c == c'
  | _, _ => false

inductive SubjectType
  | unknown
  | channel
  | channelGroup
  | scene
  | schedule
  | pushNotification
  deriving DecidableEq

structure ActionConfig where
  actionId : Int
  subjectType : SubjectType
  subjectId : Int
  sourceDeviceId : Int
  sourceChannelId : Int
  parameters : Option ActionParameters
  deriving DecidableEq

/-- The comparison of parameters that may be missing; no two configurations share theirs. -/
def equalParameters : Option ActionParameters → Option ActionParameters → Bool
  | none, none => true
  | some a, some b => a.equal b
  | _, _ => false

def ActionConfig.equal (a b : ActionConfig) : Bool :=
  a.actionId == b.actionId && a.subjectType == b.subjectType && a.subjectId == b.subjectId &&
    a.sourceDeviceId == b.sourceDeviceId && a.sourceChannelId == b.sourceChannelId &&
    equalParameters a.parameters b.parameters

/-! ## Active periods -/

inductive AstroType
  | afterSunset
  | beforeSunset
  | afterSunrise
  | beforeSunrise
  deriving DecidableEq

structure AstroCondition where
  cndType : AstroType
  minutes : Int
  deriving DecidableEq

structure ActivePeriod where
  activeFromUtc : Nat
  activeToUtc : Nat
  activeHours : List (Nat × List Nat)
  astroConditions : List (List AstroCondition)
  deriving DecidableEq

def ActivePeriod.equal (a b : ActivePeriod) : Bool :=
  a.activeFromUtc == b.activeFromUtc && a.activeToUtc == b.activeToUtc &&
    a.activeHours == b.activeHours && a.astroConditions == b.astroConditions

/-! ## Triggers -/

/-- A trigger as it is stored. -/
structure TriggerDef (V : Values) where
  id : Int
  channelId : Int
  activePeriod : ActivePeriod
  actionConfig : ActionConfig
  condition : ConditionDef V
  deriving DecidableEq

variable {V : Values}

def TriggerDef.equal (a b : TriggerDef V) : Bool :=
  a.id == b.id && a.channelId == b.channelId && a.condition.equal b.condition &&
    a.actionConfig.equal b.actionConfig && a.activePeriod.equal b.activePeriod

/-- A trigger: what is stored of it and its condition with its memory. -/
structure Trigger (V : Values) where
  id : Int
  channelId : Int
  activePeriod : ActivePeriod
  actionConfig : ActionConfig
  condition : Condition V

namespace Trigger

def ofDef (d : TriggerDef V) : Trigger V :=
  ⟨d.id, d.channelId, d.activePeriod, d.actionConfig, .ofDef d.condition⟩

/-- What would be stored of a trigger. -/
def definition (t : Trigger V) : TriggerDef V :=
  ⟨t.id, t.channelId, t.activePeriod, t.actionConfig, t.condition.definition⟩

/-- `is_condition_met(channel_id, old_value, new_value)`. -/
def metByValues (t : Trigger V) (now : Nat) (channelId : Int) (old new : ChannelValue V) :
    Trigger V × Option Int :=
  if channelId = t.channelId then
    let r := t.condition.metByValues now old new
    ({ t with condition := r.1 }, r.2)
  else (t, none)

/-- `is_condition_met(milliseconds_left)`. -/
def metByTime (t : Trigger V) (now : Nat) : Trigger V × Bool × Int :=
  let r := t.condition.metByTime now
  ({ t with condition := r.1 }, r.2)

end Trigger
end Vbt
