import SuplaCore.Analyzer.Electricity

/-!
# A channel of a device

`supla_device_channel` (`supla-server/src/device/devicechannel.cpp`): the value with its validity
and availability, the flags, and the analyzer that follows the function and the configuration.
Each function runs under the lock of the channel.

Left out: texts and parameters, the state, the messages to users and triggers, and the database.
What the class of a value makes of the raw value that was sent (`apply_channel_properties`) and
whether it differs from the last one (`is_differ`) comes with the call of `set_value`.
-/

namespace Device

open Analyzer

/-! ## Availability -/

/-- `proto_offline` of `supla_channel_availability_status`. -/
inductive AvailabilityStatus
  | online
  | offline
  | onlineButNotAvailable
  | offlineRemoteWakeupNotSupported
  | firmwareUpdateOngoing
  deriving DecidableEq

def AvailabilityStatus.isOffline (s : AvailabilityStatus) : Bool := decide (s = .offline)

def AvailabilityStatus.ofOffline (offline : Bool) : AvailabilityStatus :=
  if offline then .offline else .online

/-- `!x` of C. -/
def lnot (x : Int) : Int := if x = 0 then 1 else 0

/-! ## The channel -/

/-- `char value[SUPLA_CHANNELVALUE_SIZE]`. -/
abbrev RawValue := Vector UInt8 8

structure DeviceChannel (D : Type) where
  type : Int
  func : Int
  flags : BitVec 64
  initFlags : BitVec 64
  availabilityStatus : AvailabilityStatus
  value : RawValue
  /-- Zero for none. -/
  valueValidTo : TimeVal
  jsonConfig : Option (Json.Node D)
  dataAnalyzer : Option (DataAnalyzer D)

def SUPLA_CHANNELTYPE_ELECTRICITY_METER : Int := 5000

def SUPLA_CHANNEL_FLAG_OFFLINE_DURING_REGISTRATION : BitVec 64 := 0x00400000

namespace DeviceChannel

variable {D : Type} [JsonDouble D]

def setJsonConfig (config : Option (Json.Node D)) (c : DeviceChannel D) : DeviceChannel D :=
  { c with
    jsonConfig := config
    flags :=
      match config with
      | some root =>
        if c.type = SUPLA_CHANNELTYPE_ELECTRICITY_METER then c.flags ||| getChannelUserFlags root
        else c.flags
      | none => c.flags }

/-- What the database knows of a channel when it is constructed. -/
structure Row (D : Type) where
  type : Int
  func : Int
  flags : BitVec 64
  value : RawValue
  validityTimeSec : Nat
  userConfig : Json.Node D

/-- The members as the constructor sets them first. -/
def members (r : Row D) (now : TimeVal) : DeviceChannel D where
  type := r.type
  func := r.func
  flags := r.flags
  initFlags := r.flags
  availabilityStatus := .ofOffline
    (decide (r.flags &&& SUPLA_CHANNEL_FLAG_OFFLINE_DURING_REGISTRATION ≠ 0))
  value := r.value
  valueValidTo := if r.validityTimeSec > 0 then now.addSec r.validityTimeSec else .zero
  jsonConfig := none
  dataAnalyzer := none

/-- The constructor. -/
def create (r : Row D) (now : TimeVal) : DeviceChannel D :=
  { (members r now).setJsonConfig (some r.userConfig) with dataAnalyzer := newAnalyzer r.func }

def setFunc (func : Int) (c : DeviceChannel D) : DeviceChannel D :=
  if c.func ≠ func then
    { c with
      func := func
      dataAnalyzer := if c.dataAnalyzer.isSome then newAnalyzer func else none }
  else c

/-- `get_flags`: the result is an `int` first. -/
def getFlags (c : DeviceChannel D) : BitVec 64 := (c.flags.setWidth 32).signExtend 64

def addInitFlags (flags : BitVec 64) (c : DeviceChannel D) : DeviceChannel D :=
  if c.initFlags ||| flags ≠ c.initFlags then
    { c with flags := c.flags ||| flags, initFlags := c.initFlags ||| flags }
  else c

/-- `add_init_flags` in the loop of the constructor of `supla_device_channels`, where the `Flags`
of a registered channel are an `unsigned int` first. -/
def registerFlags (flags : BitVec 64) (c : DeviceChannel D) : DeviceChannel D :=
  c.addInitFlags ((flags.setWidth 32).setWidth 64)

def getAvailabilityStatus (now : TimeVal) (c : DeviceChannel D) : AvailabilityStatus :=
  if c.availabilityStatus.isOffline ∧ (c.valueValidTo.sec > 0 ∨ c.valueValidTo.usec ≠ 0) then
    if lnot now.usecs - c.valueValidTo.usecs > 0 then .ofOffline false else c.availabilityStatus
  else c.availabilityStatus

def setAvailabilityStatus (status : AvailabilityStatus) (c : DeviceChannel D) :
    Bool × DeviceChannel D :=
  if c.availabilityStatus ≠ status then (true, { c with availabilityStatus := status })
  else (false, c)

omit [JsonDouble D] in
theorem setAvailabilityStatus_snd (c : DeviceChannel D) (status : AvailabilityStatus) :
    (c.setAvailabilityStatus status).2 = { c with availabilityStatus := status } := by
  unfold setAvailabilityStatus
  split
  · rfl
  · rename_i hsame
    rw [ne_eq, not_not] at hsame
    rw [← hsame]

/-- The arguments of `set_value`. -/
structure SetValue where
  /-- The raw value as its class leaves it. -/
  value : RawValue
  validityTimeSec : Option Nat
  status : Option AvailabilityStatus
  differ : Bool

/-- The two returns at the beginning of `set_value`. -/
def refuses (a : SetValue) (now : TimeVal) (c : DeviceChannel D) : Bool :=
  (a.status.all (·.isOffline) && c.availabilityStatus.isOffline) ||
    (a.validityTimeSec.isNone && decide (c.valueValidTo.usec ≠ 0 ∨ c.valueValidTo.sec ≠ 0) &&
      decide (c.valueValidTo.usecs - now.usecs > 0))

/-- `set_value`; the clock is read once, for one of the two comparisons with it. -/
def setValue (a : SetValue) (now : TimeVal) (c : DeviceChannel D) : Bool × DeviceChannel D :=
  if c.refuses a now then (false, c)
  else
    let c := { c with
      value := a.value
      valueValidTo :=
        match a.validityTimeSec with
        | some sec => now.addSec sec
        | none => .zero }
    match a.status with
    | some status =>
      let r := c.setAvailabilityStatus status
      (a.differ || r.1, r.2)
    | none => (a.differ, c)

omit [JsonDouble D] in
/-- `set_value` touches nothing else. -/
theorem setValue_frame (a : SetValue) (now : TimeVal) (c : DeviceChannel D) :
    (c.setValue a now).2 = { c with
      value := (c.setValue a now).2.value
      valueValidTo := (c.setValue a now).2.valueValidTo
      availabilityStatus := (c.setValue a now).2.availabilityStatus } := by
  unfold setValue
  split
  · rfl
  · obtain ⟨value, validity, status, differ⟩ := a
    cases status <;> simp only [setAvailabilityStatus_snd]

/-- `set_extended_value`. -/
def setExtendedValue (ev : Option (ExtendedValue D)) (now : TimeVal) (c : DeviceChannel D) :
    DeviceChannel D :=
  match ev with
  | some ev =>
    { c with
      dataAnalyzer := c.dataAnalyzer.map
        (·.addSample (c.flags.setWidth 32) c.jsonConfig ev now) }
  | none => c

end DeviceChannel

/-- The calls that change a channel. -/
inductive ChannelAct (D : Type)
  | setFunc (func : Int)
  | registerFlags (flags : BitVec 64)
  | setJsonConfig (config : Option (Json.Node D))
  | setExtendedValue (ev : Option (ExtendedValue D)) (now : TimeVal)
  | setAvailabilityStatus (status : AvailabilityStatus)
  | setValue (a : DeviceChannel.SetValue) (now : TimeVal)

def ChannelAct.apply {D : Type} [JsonDouble D] : ChannelAct D → DeviceChannel D → DeviceChannel D
  | .setFunc func, c => c.setFunc func
  | .registerFlags flags, c => c.registerFlags flags
  | .setJsonConfig config, c => c.setJsonConfig config
  | .setExtendedValue ev now, c => c.setExtendedValue ev now
  | .setAvailabilityStatus status, c => (c.setAvailabilityStatus status).2
  | .setValue a now, c => (c.setValue a now).2

end Device
