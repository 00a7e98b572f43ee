import SuplaCore.Lib.Sys
import SuplaCore.Analyzer.Proof.Electricity
import SuplaCore.Device.DeviceChannel

/-!
# The analyzer of a channel

A channel with a log of the voltages that reached it while its function was that of an electricity
meter (`Analyzed`). In a run that keeps to `Follows`, the analyzer is of the kind that belongs to
the function, and each voltage is judged by the configuration in force (`Analyzed.contract`).
-/

namespace Device

open Analyzer Sys

/-! ## Phases -/

inductive Phase
  | one
  | two
  | three
  deriving DecidableEq

namespace Phase

def all : List Phase := [.one, .two, .three]

def number : Phase → Nat
  | .one => 1
  | .two => 2
  | .three => 3

def unsupported : Phase → BitVec 64
  | .one => SUPLA_CHANNEL_FLAG_PHASE1_UNSUPPORTED
  | .two => SUPLA_CHANNEL_FLAG_PHASE2_UNSUPPORTED
  | .three => SUPLA_CHANNEL_FLAG_PHASE3_UNSUPPORTED

def aberration {D : Type} : Phase → ElectricityAnalyzer D → Option (VoltageAberrationAnalyzer D)
  | .one, a => a.aberrationPhase1
  | .two, a => a.aberrationPhase2
  | .three, a => a.aberrationPhase3

end Phase

variable {D : Type} [JsonDouble D]

/-- What a sample does to the analyzer of a phase. -/
theorem aberration_addSample (p : Phase) (flags : BitVec 32) (root : Json.Node D)
    (ev : EmExtendedValue D) (now : TimeVal) (a : ElectricityAnalyzer D) (hcount : ev.mCount > 0) :
    p.aberration (a.addSample flags (some root) (.em ev) now) =
      if sampled flags root ev p.unsupported p.number then
        addVoltage (getLowerVoltageThreshold root) (getUpperVoltageThreshold root)
          (ev.getVoltage p.number) now (p.aberration a)
      else p.aberration a := by
  simp only [ElectricityAnalyzer.addSample, if_pos hcount]
  cases p <;> rfl

/-! ## The log -/

/-- A voltage of a phase that is supported by the channel and enabled by the configuration. -/
structure Sample (D : Type) where
  phase : Phase
  voltage : D
  config : Option (Json.Node D)
  /-- The flags of the channel that `add_sample` gets. -/
  channelFlags : BitVec 32
  /-- The analyzer of the phase before and after. -/
  before : Option (VoltageAberrationAnalyzer D)
  after : Option (VoltageAberrationAnalyzer D)

/-- The analyzer of a phase, if the channel has an electricity analyzer. -/
def DeviceChannel.aberration (p : Phase) (c : DeviceChannel D) :
    Option (VoltageAberrationAnalyzer D) :=
  match c.dataAnalyzer with
  | some (.electricity a) => p.aberration a
  | _ => none

/-- The flags of the constructor and of registrations decide what is supported. -/
def DeviceChannel.enabled (ev : EmExtendedValue D) (c : DeviceChannel D) (p : Phase) : Bool :=
  decide (c.func = SUPLA_CHANNELFNC_ELECTRICITY_METER) && decide (ev.mCount > 0) &&
    decide (ev.measuredValues &&& EM_VAR_VOLTAGE ≠ 0) &&
    decide (c.initFlags &&& p.unsupported = 0) &&
    !c.jsonConfig.any (isPhaseDisabled · p.number)

/-- The voltages that come with a call. -/
def samples (c c' : DeviceChannel D) : ChannelAct D → List (Sample D)
  | .setExtendedValue (some (.em ev)) _ =>
    (Phase.all.filter (c.enabled ev)).map fun p =>
      ⟨p, ev.getVoltage p.number, c.jsonConfig, c.flags.setWidth 32, c.aberration p,
        c'.aberration p⟩
  | _ => []

structure Analyzed (D : Type) where
  channel : DeviceChannel D
  log : List (Sample D)

/-- Every call succeeds. -/
def analyzed (D : Type) [JsonDouble D] : Machine (Analyzed D) (ChannelAct D) where
  init s := ∃ r now, s = ⟨.create r now, []⟩
  step s a := some ⟨a.apply s.channel, s.log ++ samples s.channel (a.apply s.channel) a⟩

/-- The kind of analyzer of a channel. -/
def DeviceChannel.kind (c : DeviceChannel D) : Option AnalyzerKind :=
  c.dataAnalyzer.map DataAnalyzer.kind

/-- The kind of analyzer that belongs to a function. -/
def analyzerKind (D : Type) [JsonDouble D] (func : Int) : Option AnalyzerKind :=
  (newAnalyzer (D := D) func).map DataAnalyzer.kind

def Sample.Ok (e : Sample D) : Prop :=
  judged e.voltage e.before e.after = dueJudgement e.voltage e.config

instance (e : Sample D) : Decidable e.Ok := inferInstanceAs (Decidable (_ = _))

structure Analyzed.Contract (s : Analyzed D) : Prop where
  kind : s.channel.kind = analyzerKind D s.channel.func
  judged : ∀ e ∈ s.log, e.Ok

/-- With thresholds in force, the phase was never disabled before, and its analyzer is not older
than the thresholds. -/
def Sample.Current (e : Sample D) : Prop :=
  ∀ root, e.config = some root →
    (Double.isZero (getLowerVoltageThreshold root) = true ∧
      Double.isZero (getUpperVoltageThreshold root) = true) ∨
    (e.channelFlags &&& e.phase.unsupported.setWidth 32 = 0 ∧
      ∀ va, e.before = some va → va.lowerThreshold = getLowerVoltageThreshold root ∧
        va.upperThreshold = getUpperVoltageThreshold root)

/-- No function that needs an analyzer comes after one that has none, and thresholds do not change
behind the back of an analyzer. -/
def Follows (s : Analyzed D) : ChannelAct D → Prop
  | .setFunc func => (analyzerKind D s.channel.func).isSome ∨ analyzerKind D func = none
  | a => ∀ e ∈ samples s.channel (a.apply s.channel) a, e.Current

/-! ## The kind -/

theorem DataAnalyzer.kind_addSample (flags : BitVec 32) (config : Option (Json.Node D))
    (ev : ExtendedValue D) (now : TimeVal) (a : DataAnalyzer D) :
    (a.addSample flags config ev now).kind = a.kind := by
  cases a <;> rfl

/-- Only `set_func` touches the function or the kind of the analyzer. -/
theorem ChannelAct.kind {a : ChannelAct D} (ha : ∀ func, a ≠ .setFunc func) (c : DeviceChannel D) :
    (a.apply c).kind = c.kind ∧ (a.apply c).func = c.func := by
  cases a with
  | setFunc func => exact absurd rfl (ha func)
  | registerFlags flags =>
    simp only [apply, DeviceChannel.registerFlags, DeviceChannel.addInitFlags]
    split <;> exact ⟨rfl, rfl⟩
  | setJsonConfig config => exact ⟨rfl, rfl⟩
  | setExtendedValue ev now =>
    cases ev with
    | none => exact ⟨rfl, rfl⟩
    | some ev =>
      refine ⟨?_, rfl⟩
      simp only [apply, DeviceChannel.setExtendedValue, DeviceChannel.kind, Option.map_map,
        Function.comp_def, DataAnalyzer.kind_addSample]
  | setAvailabilityStatus status =>
    simp only [apply]
    rw [DeviceChannel.setAvailabilityStatus_snd]
    exact ⟨rfl, rfl⟩
  | setValue b now =>
    simp only [apply]
    rw [DeviceChannel.setValue_frame]
    exact ⟨rfl, rfl⟩

/-- `set_func` replaces an analyzer, but does not create a first one. -/
theorem setFunc_kind {c : DeviceChannel D} (hc : c.kind = analyzerKind D c.func) {func : Int}
    (hfunc : (analyzerKind D c.func).isSome ∨ analyzerKind D func = none) :
    (c.setFunc func).kind = analyzerKind D (c.setFunc func).func := by
  unfold DeviceChannel.setFunc
  split
  · obtain hsome | hnone := hfunc
    · have hanalyzer : c.dataAnalyzer.isSome = true := by
        rw [← hc, DeviceChannel.kind, Option.isSome_map] at hsome
        exact hsome
      show Option.map _ (if c.dataAnalyzer.isSome then _ else none) = _
      rw [if_pos hanalyzer]
      rfl
    · show Option.map _ (if c.dataAnalyzer.isSome then _ else none) = analyzerKind D func
      split
      · rfl
      · exact hnone.symm
  · exact hc

/-! ## The samples -/

omit [JsonDouble D] in
/-- An analyzer of electricity. -/
theorem exists_electricity {c : DeviceChannel D} (hc : c.kind = some .electricity) :
    ∃ a, c.dataAnalyzer = some (.electricity a) := by
  obtain ⟨a, hanalyzer, hkind⟩ := Option.map_eq_some_iff.mp hc
  cases a with
  | electricity a => exact ⟨a, hanalyzer⟩
  | generalPurposeMeasurement => cases hkind

/-- The analyzer of a phase that is enabled takes the sample. -/
theorem sampled_of_enabled {c : DeviceChannel D} {ev : EmExtendedValue D} {p : Phase}
    {root : Json.Node D} (henabled : c.enabled ev p = true) (hroot : c.jsonConfig = some root)
    (hflags : c.flags.setWidth 32 &&& p.unsupported.setWidth 32 = 0) :
    sampled (c.flags.setWidth 32) root ev p.unsupported p.number = true := by
  simp only [DeviceChannel.enabled, hroot, Option.any_some, Bool.and_eq_true] at henabled
  rw [sampled, Bool.and_eq_true, Bool.and_eq_true]
  exact ⟨⟨decide_eq_true hflags, henabled.2⟩, henabled.1.1.2⟩

/-- With the analyzer of an electricity meter, a sample is judged as it should be. -/
theorem enabled_ok {c : DeviceChannel D} (hc : c.kind = analyzerKind D c.func)
    {ev : EmExtendedValue D} (now : TimeVal) {p : Phase} (henabled : c.enabled ev p = true)
    (hcurrent : Sample.Current ⟨p, ev.getVoltage p.number, c.jsonConfig, c.flags.setWidth 32,
      c.aberration p, (c.setExtendedValue (some (.em ev)) now).aberration p⟩) :
    judged (ev.getVoltage p.number) (c.aberration p)
        ((c.setExtendedValue (some (.em ev)) now).aberration p) =
      dueJudgement (ev.getVoltage p.number) c.jsonConfig := by
  have hmeter : c.func = SUPLA_CHANNELFNC_ELECTRICITY_METER ∧ ev.mCount > 0 := by
    simp only [DeviceChannel.enabled, Bool.and_eq_true, decide_eq_true_iff] at henabled
    exact henabled.1.1.1
  rw [hmeter.1] at hc
  obtain ⟨a, hanalyzer⟩ := exists_electricity hc
  have hbefore : c.aberration p = p.aberration a := by
    rw [DeviceChannel.aberration, hanalyzer]
  have hafter : (c.setExtendedValue (some (.em ev)) now).aberration p =
      p.aberration (a.addSample (c.flags.setWidth 32) c.jsonConfig (.em ev) now) := by
    simp only [DeviceChannel.setExtendedValue, DeviceChannel.aberration, hanalyzer,
      Option.map_some, DataAnalyzer.addSample]
  rw [hafter, hbefore]
  cases hroot : c.jsonConfig with
  | none => exact judged_self _ _
  | some root =>
    rw [aberration_addSample p _ root ev now a hmeter.2]
    obtain ⟨hlower, hupper⟩ | ⟨hflags, hsame⟩ := hcurrent root hroot
    · rw [addVoltage_zero _ _ hlower hupper, ite_self, judged_self]
      exact (judgement_zero _ hlower hupper).symm
    · rw [if_pos (sampled_of_enabled henabled hroot hflags)]
      apply judged_addVoltage
      intro va hva
      exact hsame va (hbefore.trans hva)

theorem samples_ok {c : DeviceChannel D} (hc : c.kind = analyzerKind D c.func) {a : ChannelAct D}
    {e : Sample D} (he : e ∈ samples c (a.apply c) a) (hcurrent : e.Current) : e.Ok := by
  unfold samples at he
  split at he
  · obtain ⟨p, hp, rfl⟩ := List.mem_map.mp he
    exact enabled_ok hc _ (List.mem_filter.mp hp).2 hcurrent
  · cases he

/-! ## All runs -/

namespace Analyzed

theorem contract_create (r : DeviceChannel.Row D) (now : TimeVal) :
    Contract (⟨.create r now, []⟩ : Analyzed D) where
  kind := rfl
  judged := by
    intro e he
    cases he

theorem kind_step {c : DeviceChannel D} (hc : c.kind = analyzerKind D c.func) {a : ChannelAct D}
    (hfunc : ∀ func, a = .setFunc func →
      (analyzerKind D c.func).isSome ∨ analyzerKind D func = none) :
    (a.apply c).kind = analyzerKind D (a.apply c).func := by
  by_cases ha : ∃ func, a = .setFunc func
  · obtain ⟨func, rfl⟩ := ha
    exact setFunc_kind hc (hfunc func rfl)
  · obtain ⟨hkind, hsame⟩ := ChannelAct.kind (not_exists.mp ha) c
    rw [hkind, hsame, hc]

theorem contract_step {s s' : Analyzed D} {a : ChannelAct D} (hs : s.Contract) (ha : Follows s a)
    (h : (analyzed D).step s a = some s') : s'.Contract := by
  cases h
  constructor
  · apply kind_step hs.kind
    rintro func rfl
    exact ha
  · intro e he
    rw [List.mem_append] at he
    obtain hold | hnew := he
    · exact hs.judged e hold
    · apply samples_ok hs.kind hnew
      cases a with
      | setFunc func => cases hnew
      | _ => exact ha e hnew

/-- **The analyzer follows function and configuration** in every run that never puts a function with
an analyzer after one without, and never judges by thresholds that are no longer in force. -/
theorem contract {s : Analyzed D} (h : Reach (analyzed D) Follows s) : s.Contract := by
  apply h.invariant
  · rintro s ⟨r, now, rfl⟩
    exact contract_create r now
  · intro s s' a ha hs hstep
    exact contract_step hs ha hstep

/-! A meter that is told its thresholds, and 260 volts on each phase. -/

private def limits (lower upper : Nat) (disabled : List (Option String × Json.Node Nat)) :
    Json.Node Nat :=
  .mk .object [(some "lowerVoltageThreshold", .mk (.number lower) []),
    (some "upperVoltageThreshold", .mk (.number upper) []),
    (some "disabledPhases", .mk .array disabled)]

private def meterRow (func : Int) (config : Json.Node Nat) : DeviceChannel.Row Nat :=
  ⟨SUPLA_CHANNELTYPE_ELECTRICITY_METER, func, 0, .replicate 8 0, 0, config⟩

private def volts : ChannelAct Nat :=
  .setExtendedValue (some (.em ⟨EM_VAR_VOLTAGE, 1, fun _ => 260⟩)) .zero

private def start (func : Int) (config : Json.Node Nat) : Analyzed Nat :=
  ⟨.create (meterRow func config) .zero, []⟩

private theorem start_init (func : Int) (config : Json.Node Nat) :
    (analyzed Nat).init (start func config) := ⟨_, _, rfl⟩

theorem contract_volts :
    ∃ s : Analyzed Nat, (analyzed Nat).run (start 310 (limits 210 250 [])) [volts] = some s ∧
      s.log.length = 3 ∧ s.Contract := by
  refine ⟨_, rfl, by decide, contract (.step (.init (start_init _ _)) ?_ rfl)⟩
  intro e he
  change e ∈ [_, _, _] at he
  simp only [List.mem_cons, List.not_mem_nil, or_false] at he
  obtain rfl | rfl | rfl := he <;>
  · intro root _
    refine .inr ⟨by decide, ?_⟩
    intro va hva
    cases hva

theorem analyzer_left_behind :
    (∃ s : Analyzed Nat, (analyzed Nat).run (start 0 (limits 210 250 [])) [.setFunc 310] = some s ∧
      s.channel.kind ≠ analyzerKind Nat s.channel.func) ∧
    (∃ s : Analyzed Nat, (analyzed Nat).run (start 310 (limits 210 270 []))
        [volts, .setJsonConfig (some (limits 210 250 [])), volts] = some s ∧
      ∃ e ∈ s.log, ¬ e.Ok) ∧
    (∃ s : Analyzed Nat, (analyzed Nat).run
        (start 310 (limits 210 250 [(none, .mk (.number 2) [])]))
        [.setJsonConfig (some (limits 210 250 [])), volts] = some s ∧
      ∃ e ∈ s.log, ¬ e.Ok) := by
  exact ⟨⟨_, rfl, by decide⟩, ⟨_, rfl, by decide⟩, ⟨_, rfl, by decide⟩⟩

end Analyzed

end Device
