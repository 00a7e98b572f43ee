import SuplaCore.Analyzer.VoltageAberration
import SuplaCore.Lib.Json

/-!
# Data analyzers

`supla_electricity_analyzer` with the settings it takes from `electricity_meter_config`
(`supla-server/src/jsonconfig/channel/electricity_meter_config.cpp`), and
`supla_data_analyzer_factory`. The user configuration of a channel is a JSON tree. Left out: the
statistics of voltages, currents and powers, and what the other analyzer does with its samples.
-/

namespace Analyzer

/-- The numbers of a JSON text. -/
class JsonDouble (D : Type) extends Double D where
  zero : D
  /-- `valueint` of a number. -/
  valueint : D → Int

instance : JsonDouble Nat := ⟨0, Int.ofNat⟩

variable {D : Type} [JsonDouble D]

/-! ## Configuration -/

/-- `supla_json_helper::get_double`. -/
def getDouble (root : Json.Node D) (key : String) : D :=
  match root.get key with
  | some item =>
    match item.kind with
    | .number value => value
    | _ => JsonDouble.zero
  | none => JsonDouble.zero

def getLowerVoltageThreshold (root : Json.Node D) : D := getDouble root "lowerVoltageThreshold"

def getUpperVoltageThreshold (root : Json.Node D) : D := getDouble root "upperVoltageThreshold"

/-- An item of `disabledPhases` that is the phase. -/
def isPhase (phase : Nat) (item : Json.Node D) : Bool :=
  match item.kind with
  | .number value => decide (JsonDouble.valueint value = phase)
  | _ => false

def isPhaseDisabled (root : Json.Node D) (phase : Nat) : Bool :=
  match root.get "disabledPhases" with
  | some disabled =>
    match disabled.kind with
    | .array => disabled.items.any (isPhase phase)
    | _ => false
  | none => false

def SUPLA_CHANNEL_FLAG_PHASE1_UNSUPPORTED : BitVec 64 := 0x00020000

def SUPLA_CHANNEL_FLAG_PHASE2_UNSUPPORTED : BitVec 64 := 0x00040000

def SUPLA_CHANNEL_FLAG_PHASE3_UNSUPPORTED : BitVec 64 := 0x00080000

/-- `get_channel_user_flags`. -/
def getChannelUserFlags (root : Json.Node D) : BitVec 64 :=
  (if isPhaseDisabled root 1 then SUPLA_CHANNEL_FLAG_PHASE1_UNSUPPORTED else 0) |||
    (if isPhaseDisabled root 2 then SUPLA_CHANNEL_FLAG_PHASE2_UNSUPPORTED else 0) |||
    (if isPhaseDisabled root 3 then SUPLA_CHANNEL_FLAG_PHASE3_UNSUPPORTED else 0)

/-! ## Extended values -/

/-- What is read of `TElectricityMeter_ExtendedValue_V3`. -/
structure EmExtendedValue (D : Type) where
  measuredValues : BitVec 32
  mCount : Int
  /-- `get_voltage(phase)`. -/
  getVoltage : Nat → D

/-- An extended value of an electricity meter, or another one. -/
inductive ExtendedValue (D : Type)
  | em (value : EmExtendedValue D)
  | other

def EM_VAR_VOLTAGE : BitVec 32 := 0x0002

/-! ## Analyzers -/

/-- `aberration_phase1`, `aberration_phase2` and `aberration_phase3`. -/
structure ElectricityAnalyzer (D : Type) where
  aberrationPhase1 : Option (VoltageAberrationAnalyzer D)
  aberrationPhase2 : Option (VoltageAberrationAnalyzer D)
  aberrationPhase3 : Option (VoltageAberrationAnalyzer D)

/-- `add_sample` of a voltage: the analyzer of a phase is created with the first sample. -/
def addVoltage (lower upper voltage : D) (now : TimeVal)
    (va : Option (VoltageAberrationAnalyzer D)) : Option (VoltageAberrationAnalyzer D) :=
  if !Double.isZero lower || !Double.isZero upper then
    some ((va.getD (.new lower upper)).addSample voltage now)
  else va

/-- A phase of which voltages are analyzed. -/
def sampled (channelFlags : BitVec 32) (root : Json.Node D) (ev : EmExtendedValue D)
    (flag : BitVec 64) (phase : Nat) : Bool :=
  decide (channelFlags &&& flag.setWidth 32 = 0) && !isPhaseDisabled root phase &&
    decide (ev.measuredValues &&& EM_VAR_VOLTAGE ≠ 0)

/-- `add_sample` of an extended value. -/
def ElectricityAnalyzer.addSample (channelFlags : BitVec 32) (config : Option (Json.Node D))
    (ev : ExtendedValue D) (now : TimeVal) (a : ElectricityAnalyzer D) : ElectricityAnalyzer D :=
  match config, ev with
  | some root, .em ev =>
    let lower := getLowerVoltageThreshold root
    let upper := getUpperVoltageThreshold root
    if ev.mCount > 0 then
      { aberrationPhase1 :=
          if sampled channelFlags root ev SUPLA_CHANNEL_FLAG_PHASE1_UNSUPPORTED 1 then
            addVoltage lower upper (ev.getVoltage 1) now a.aberrationPhase1
          else a.aberrationPhase1
        aberrationPhase2 :=
          if sampled channelFlags root ev SUPLA_CHANNEL_FLAG_PHASE2_UNSUPPORTED 2 then
            addVoltage lower upper (ev.getVoltage 2) now a.aberrationPhase2
          else a.aberrationPhase2
        aberrationPhase3 :=
          if sampled channelFlags root ev SUPLA_CHANNEL_FLAG_PHASE3_UNSUPPORTED 3 then
            addVoltage lower upper (ev.getVoltage 3) now a.aberrationPhase3
          else a.aberrationPhase3 }
    else a
  | _, _ => a

/-- The analyzer of a channel. -/
inductive DataAnalyzer (D : Type)
  | electricity (a : ElectricityAnalyzer D)
  | generalPurposeMeasurement

/-- The classes of analyzers. -/
inductive AnalyzerKind
  | electricity
  | generalPurposeMeasurement
  deriving DecidableEq

def DataAnalyzer.kind : DataAnalyzer D → AnalyzerKind
  | .electricity _ => .electricity
  | .generalPurposeMeasurement => .generalPurposeMeasurement

def DataAnalyzer.addSample (channelFlags : BitVec 32) (config : Option (Json.Node D))
    (ev : ExtendedValue D) (now : TimeVal) : DataAnalyzer D → DataAnalyzer D
  | .electricity a => .electricity (a.addSample channelFlags config ev now)
  | .generalPurposeMeasurement => .generalPurposeMeasurement

def SUPLA_CHANNELFNC_ELECTRICITY_METER : Int := 310

def SUPLA_CHANNELFNC_GENERAL_PURPOSE_MEASUREMENT : Int := 520

/-- `supla_data_analyzer_factory::new_analyzer`. -/
def newAnalyzer (func : Int) : Option (DataAnalyzer D) :=
  if func = SUPLA_CHANNELFNC_ELECTRICITY_METER then some (.electricity ⟨none, none, none⟩)
  else if func = SUPLA_CHANNELFNC_GENERAL_PURPOSE_MEASUREMENT then some .generalPurposeMeasurement
  else none

end Analyzer
