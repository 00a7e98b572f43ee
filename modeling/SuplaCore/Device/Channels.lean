import Mathlib.Algebra.Group.Nat.Defs
import SuplaCore.Channel.Relations

/-!
# The channels of a device

`supla_device_channels` (`supla-server/src/device/devicechannels.cpp`): the operations that take a
channel identifier. A channel is known by the methods of `supla_device_channel` that they call
(`Methods`), a pointer to it is a position in the container or null, and a method called through a
null pointer ends the process (`none`). Every message to the device and every call of the gate
tasks is recorded in `World`.

Left out: the operations that look a channel up by its number, and those over all channels.
-/

namespace Device.Channels

open Channel

/-! ## Constants -/

abbrev channelfncThermostatHeatpolHomeplus : Int := 410
abbrev channelfncDimmer : Int := 180
abbrev channelfncDimmerCct : Int := 185
abbrev channelfncRgbLighting : Int := 190
abbrev channelfncDimmerAndRgbLighting : Int := 200
abbrev channelfncDimmerCctAndRgb : Int := 205
abbrev channelfncDigiglassHorizontal : Int := 800
abbrev channelfncDigiglassVertical : Int := 810

abbrev channelFlagCalcfgResetCounters : BitVec 64 := 0x2000
abbrev channelFlagCalcfgRecalibrate : BitVec 64 := 0x4000
abbrev channelFlagCalcfgIdentifySubdevice : BitVec 64 := 0x8000
abbrev channelFlagCalcfgRestartSubdevice : BitVec 64 := 0x40000000

abbrev calcfgCmdResetCounters : Int := 7000
abbrev calcfgCmdRecalibrate : Int := 8000
abbrev calcfgCmdIdentifySubdevice : Int := 9310
abbrev calcfgCmdRestartSubdevice : Int := 9410
abbrev calcfgCmdTakeOcrPhoto : Int := 9420
abbrev calcfgCmdMuteAlarmSound : Int := 9430
abbrev calcfgDatatypeRsSettings : Int := 1000
abbrev calcfgDataMaxsize : Nat := 128

abbrev thermostatCmdTurnon : Int := 1
abbrev thermostatCmdSetModeAuto : Int := 2
abbrev thermostatCmdSetModeNormal : Int := 5
abbrev thermostatCmdSetTemperature : Int := 13

/-- The shading system actions. -/
inductive ShadingAction
  | shut
  | reveal
  | stop
  | upOrStop
  | downOrStop
  | stepByStep
  | up
  | down
  deriving Repr, DecidableEq

/-- The modes of an HVAC parameter set that `action_hvac_set_parameters` knows. -/
inductive HvacMode
  | off
  | heat
  | cmdSwitchToManual
  | cmdWeeklySchedule
  | other
  deriving Repr, DecidableEq

/-! ## Channels, messages and the state -/

/-- `char value[SUPLA_CHANNELVALUE_SIZE]`. -/
abbrev Value := List UInt8

def zeroValue : Value := List.replicate 8 0

/-- `supla_channel_availability_status` by its protocol byte. -/
abbrev Status := UInt8

def Status.offline : Status := 1

structure Rgbw where
  color : Int
  colorBrightness : UInt8
  brightness : UInt8
  whiteTemperature : UInt8
  deriving Repr, DecidableEq

/-- The out parameters of `get_channel_value`. -/
structure ChannelValue where
  value : Value
  status : Status
  validityTimeSec : Nat
  extendedValue : Option (List UInt8)
  function : Int
  deriving DecidableEq

/-- The methods of `supla_device_channel`, and of the values and parameters it hands out, that the
operations call. -/
structure Methods (C J : Type) where
  id : C → Int
  number : C → UInt8
  func : C → Int
  type : C → Int
  flags : C → BitVec 64
  param1 : C → Nat
  value : C → Value
  setValue : C → Value → Option Nat → Option Status → Bool × C
  availabilityStatus : C → Status
  setAvailabilityStatus : C → Status → Bool × C
  validityTimeSec : C → Nat
  extendedValue : C → Option (List UInt8)
  setExtendedValue : C → List UInt8 → C
  icCalculatedValue : C → Option Value
  hpProgramMode : C → Option Bool
  double : C → List UInt8
  char : C → UInt8
  valueDuration : C → Nat
  isValueWritable : C → Bool
  isCharValueWritable : C → Bool
  isRgbwValueWritable : C → Bool
  rgbw : C → Option Rgbw
  assignRgbwValue : C → Rgbw → (onOff command : UInt8) → Value
  hvac : C → Option Value
  json : C → Option J
  state : C → Option (List UInt8)
  setState : C → List UInt8 → C
  setFunc : C → Int → C
  relations : C → RelationKind → List Relation
  shadingApply : ShadingAction → Option Nat → Value → Int → BitVec 64 → Option Value
  hvacToggle : Value → Value
  hvacTurnOn : Value → Value
  hvacTurnOff : Value → Value
  hvacClear : Value → Value
  hvacSwitchToManual : Value → Value
  hvacSwitchToProgram : Value → Value
  hvacModeCool : Value → Bool
  hvacSetHeat : Int → Value → Value
  hvacSetCool : Int → Value → Value
  hvacSubfunction : J → UInt8 → Option (Option Bool)
  rsSettings : J → List UInt8
  gateVerification : J → Bool

/-- `TSD_DeviceCalCfgRequest`. -/
structure CalCfgRequest where
  senderId : Int := 0
  channelNumber : UInt8
  command : Int
  superUserAuthorized : Bool := false
  dataType : Int := 0
  data : List UInt8 := []
  deriving DecidableEq

/-- The messages to the device. -/
inductive Msg
  | calcfg (r : CalCfgRequest)
  | channelNewValue (number : UInt8) (durationMs : Nat) (senderId : Int) (value : Value)
  | channelGroupNewValue (number : UInt8) (durationMs : Nat) (senderId groupId : Int) (eol : UInt8)
      (value : Value)
  | getChannelState (number : UInt8) (senderId : Int)
  deriving DecidableEq

/-- The calls of `supla_action_gate_openclose`. -/
inductive GateCall
  | cancelTasks (channelId : Int) (isOpen : Option Bool)
  | openClose (channelId : Int) (open_ : Bool)
  deriving DecidableEq

/-- The container and what has gone out. `connected` is whether the device has a connection,
`accepts` whether its srpc object takes another message. -/
structure World (C : Type) where
  channels : List C
  connected : Bool
  accepts : Bool
  protoVersion : Nat
  sent : List Msg
  gate : List GateCall

/-- An operation; `none` where a null pointer is dereferenced. -/
abbrev Op (C : Type) := StateT (World C) Option

/-- `supla_device_channel *`. -/
abbrev Ptr := Option Nat

section
variable {C J : Type} (m : Methods C J)

def findChannel (id : Int) : Op C Ptr := fun w =>
  some (if id = 0 then none else w.channels.findIdx? (m.id · = id), w)

/-- A method call through the pointer. -/
def deref (p : Ptr) : Op C C := fun w =>
  match p with
  | none => none
  | some i => w.channels[i]?.map (·, w)

def update (p : Ptr) (c : C) : Op C Unit := fun w =>
  match p with
  | none => none
  | some i => some ((), { w with channels := w.channels.set i c })

/-- A call of the srpc object, which a device without a connection does not have. -/
def trySend (msg : Msg) : Op C Bool := fun w =>
  if w.connected then
    if w.accepts then some (true, { w with sent := w.sent ++ [msg] }) else some (false, w)
  else none

/-- A call whose result is not looked at. -/
def send (msg : Msg) : Op C Unit := do
  let _ ← trySend msg
  pure ()

def gate (call : GateCall) : Op C Unit := fun w => some ((), { w with gate := w.gate ++ [call] })

/-- `if (channel) { .. }` around what is done with the channel, `default` without one. -/
def withChannel {α : Type} (id : Int) (default : α) (f : Ptr → C → Op C α) : Op C α := do
  let p ← findChannel m id
  match p with
  | none => pure default
  | some _ => do
    let c ← deref p
    f p c

/-- `access_channel`. -/
abbrev accessChannel {α : Type} (id : Int) (result : α) (onChannel : Ptr → C → Op C α) : Op C α :=
  withChannel m id result onChannel

/-! ## Getters and setters -/

def isIc (func : Int) : Bool :=
  func = Channel.channelfncIcElectricityMeter || func = channelfncIcGasMeter ||
    func = channelfncIcWaterMeter || func = channelfncIcHeatMeter

def getChannelValue (id : Int) (forClient : Bool) : Op C (Option ChannelValue) :=
  withChannel m id none fun _ c => pure <| some
    { value := if forClient && isIc (m.func c) then (m.icCalculatedValue c).getD zeroValue
        else m.value c
      status := m.availabilityStatus c
      validityTimeSec := m.validityTimeSec c
      extendedValue := m.extendedValue c
      function := m.func c }

def getChannelDoubleValue (id : Int) : Op C (Option (List UInt8)) :=
  withChannel m id none fun _ c => pure (some (m.double c))

def getChannelCharValue (id : Int) : Op C (Option (List UInt8)) :=
  withChannel m id none fun _ c => pure (some [m.char c])

/-- `get_channel_value<T>`. -/
def getTypedValue (id : Int) : Op C (Option (List UInt8)) :=
  withChannel m id none fun _ c => pure (some (m.value c))

def getRelayValue (id : Int) : Op C (Option (List UInt8)) :=
  withChannel m id none fun _ c => pure (if isSwitch (m.func c) then some (m.value c) else none)

def setChannelValue (id : Int) (value : Value) (validityTimeSec : Option Nat)
    (status : Option Status) : Op C Bool :=
  withChannel m id false fun p c => do
    let (r, c') := m.setValue c value validityTimeSec status
    update p c'
    pure r

def setChannelAvailabilityStatus (id : Int) (status : Status) : Op C Bool :=
  accessChannel m id false fun p c => do
    let (r, c') := m.setAvailabilityStatus c status
    update p c'
    pure r

def setChannelExtendedvalue (id : Int) (ev : List UInt8) : Op C Unit :=
  withChannel m id () fun p c => update p (m.setExtendedValue c ev)

def getChannelValueDuration (id : Int) : Op C Int :=
  withChannel m id 0 fun _ c => pure (m.valueDuration c)

def getChannelFunc (id : Int) : Op C Int := withChannel m id 0 fun _ c => pure (m.func c)

def getChannelType (id : Int) : Op C Int := withChannel m id 0 fun _ c => pure (m.type c)

def getChannelRelations (id : Int) (kind : RelationKind) : Op C (List Relation) :=
  withChannel m id [] fun _ c => pure (m.relations c kind)

def channelExists (id : Int) : Op C Bool := do
  let p ← findChannel m id
  pure p.isSome

def getChannelAvailabilityStatus (id : Int) : Op C Status :=
  accessChannel m id Status.offline fun _ c => pure (m.availabilityStatus c)

def setChannelState (id : Int) (state : List UInt8) : Op C Unit :=
  accessChannel m id () fun p c => update p (m.setState c state)

def getChannelState (id : Int) : Op C (Option (List UInt8)) :=
  accessChannel m id none fun _ c => pure (m.state c)

def setChannelFunction (id : Int) (func : Int) : Op C Unit :=
  withChannel m id () fun p c => update p (m.setFunc c func)

def getJsonConfig (id : Int) : Op C (Option J) := accessChannel m id none fun _ c => pure (m.json c)

/-! ## Calibration and configuration commands -/

def calcfgCmd (id : Int) (flag : BitVec 64) (superuserAuthorized : Bool) (cmd : Int) : Op C Bool :=
  withChannel m id false fun _ c => do
    if flag = 0 ∨ m.flags c &&& flag ≠ 0 then
      send (.calcfg
        { channelNumber := m.number c, command := cmd, superUserAuthorized := superuserAuthorized })
      pure true
    else pure false

def resetCounters (id : Int) : Op C Bool :=
  calcfgCmd m id channelFlagCalcfgResetCounters true calcfgCmdResetCounters

def takeOcrPhoto (id : Int) : Op C Bool := calcfgCmd m id 0 true calcfgCmdTakeOcrPhoto

def muteAlarmSound (id : Int) : Op C Bool := calcfgCmd m id 0 true calcfgCmdMuteAlarmSound

def restartSubdevice (id : Int) : Op C Bool :=
  calcfgCmd m id channelFlagCalcfgRestartSubdevice true calcfgCmdRestartSubdevice

def identifySubdevice (id : Int) : Op C Bool :=
  calcfgCmd m id channelFlagCalcfgIdentifySubdevice true calcfgCmdIdentifySubdevice

def isShutterFunc (func : Int) : Bool :=
  func = channelfncControllingTheRollerShutter || func = channelfncControllingTheRoofWindow ||
    func = channelfncTerraceAwning || func = channelfncProjectorScreen ||
    func = channelfncCurtain || func = channelfncRollerGarageDoor

def recalibrate (id : Int) (senderId : Int) (superuserAuthorized : Bool) : Op C Bool :=
  withChannel m id false fun _ c => do
    if m.flags c &&& channelFlagCalcfgRecalibrate ≠ 0 then
      let r : CalCfgRequest :=
        { senderId, channelNumber := m.number c, command := calcfgCmdRecalibrate,
          superUserAuthorized := superuserAuthorized }
      if isShutterFunc (m.func c) then
        send (.calcfg { r with
          dataType := calcfgDatatypeRsSettings
          data := ((m.json c).map m.rsSettings).getD zeroValue })
      else send (.calcfg r)
      pure true
    else pure false

/-- `TCS_DeviceCalCfgRequest_B`. -/
structure ClientCalCfgRequest where
  command : Int
  dataType : Int
  data : List UInt8

def calcfgRequest (senderId : Int) (id : Int) (superuserAuthorized : Bool)
    (request : Option ClientCalCfgRequest) : Op C Bool :=
  match request with
  | none => pure false
  | some r =>
    if r.command = calcfgCmdRecalibrate then recalibrate m id senderId superuserAuthorized
    else
      withChannel m id false fun _ c => do
        send (.calcfg
          { senderId, channelNumber := m.number c, command := r.command,
            superUserAuthorized := superuserAuthorized, dataType := r.dataType,
            data := r.data.take calcfgDataMaxsize })
        pure true

def getChannelStateAsync (senderId : Int) (channelId : Option Int) : Op C Bool :=
  match channelId with
  | none => pure false
  | some id =>
    withChannel m id false fun _ c => do
      send (.getChannelState (m.number c) senderId)
      pure true

/-! ## New values -/

/-- Who asks, and for which group. -/
structure Caller where
  senderId : Int
  groupId : Int
  eol : UInt8

/-- `async_set_channel_value` with a duration. Nothing here asks whether there is a channel. -/
def asyncSetChannelValueFor (p : Ptr) (caller : Caller) (value : Value) (durationMs : Nat)
    (cancelTasks : Bool) : Op C Unit := do
  let c ← deref p
  if cancelTasks && (m.func c = channelfncControllingTheGate ||
      m.func c = channelfncControllingTheGarageDoor) then
    gate (.cancelTasks (m.id c) none)
  let w ← get
  if caller.groupId ≠ 0 ∧ 13 ≤ w.protoVersion then
    send (.channelGroupNewValue (m.number c) durationMs caller.senderId caller.groupId caller.eol
      value)
  else
    send (.channelNewValue (m.number c) durationMs
      (if caller.groupId ≠ 0 then 0 else caller.senderId) value)

/-- `async_set_channel_value` with the channel's own duration. -/
def asyncSetChannelValue (p : Ptr) (caller : Caller) (value : Value) (cancelTasks : Bool) :
    Op C Unit := do
  let c ← deref p
  asyncSetChannelValueFor m p caller value (m.valueDuration c) cancelTasks

def setDeviceChannelValue (caller : Caller) (id : Int) (value : Value) : Op C Unit :=
  withChannel m id () fun p c =>
    if m.isValueWritable c then asyncSetChannelValue m p caller value true else pure ()

def setDeviceChannelRgbwValue (caller : Caller) (id : Int) (rgbw : Rgbw) (onOff command : UInt8) :
    Op C Bool :=
  withChannel m id false fun p c => do
    if m.isRgbwValueWritable c then
      asyncSetChannelValue m p caller (m.assignRgbwValue c rgbw onOff command) true
      pure true
    else pure false

/-- `> 0` of a `char`, which is signed. -/
def isPositive (c : UInt8) : Bool := 0 < c && c < 128

/-- `set_device_channel_char_value` of a channel pointer. -/
def setCharValue (caller : Caller) (p : Ptr) (value : UInt8) (cancelTasks : Bool) : Op C Bool :=
  match p with
  | none => pure false
  | some _ => do
    let c ← deref p
    if m.isRgbwValueWritable c then
      match m.rgbw c with
      | none => pure false
      | some rgbw =>
        let b : UInt8 := if isPositive value then 100 else 0
        setDeviceChannelRgbwValue m caller (m.id c)
          { rgbw with colorBrightness := b, brightness := b } 1 0
    else if m.isCharValueWritable c then do
      asyncSetChannelValue m p caller ((m.value c).set 0 value) cancelTasks
      pure true
    else pure false

def setDeviceChannelCharValue (caller : Caller) (id : Int) (value : UInt8) : Op C Bool := do
  let p ← findChannel m id
  setCharValue m caller p value true

/-! ## Switching on -/

def isOnOff (func : Int) : Bool := isSwitch func || func = channelfncThermostatHeatpolHomeplus

def isRgbw (func : Int) : Bool :=
  func = channelfncDimmer || func = channelfncDimmerCct || func = channelfncDimmerCctAndRgb ||
    func = channelfncRgbLighting || func = channelfncDimmerAndRgbLighting

/-- `set_on` with `toggle`. -/
def setOnOrToggle (caller : Caller) (id : Int) (on toggle : Bool) : Op C Bool :=
  withChannel m id false fun p c =>
    if isOnOff (m.func c) then
      let v : UInt8 := if toggle then (if m.char c ≠ 0 then 0 else 1) else if on then 1 else 0
      setCharValue m caller p v true
    else if isRgbw (m.func c) then
      match m.rgbw c with
      | none => pure false
      | some rgbw =>
        let lit := if toggle then rgbw.colorBrightness = 0 ∧ rgbw.brightness = 0 else on = true
        let b : UInt8 := if lit then 100 else 0
        setDeviceChannelRgbwValue m caller (m.id c)
          { rgbw with colorBrightness := b, brightness := b } 3 0
    else if isHvac (m.func c) then
      match m.hvac c with
      | none => pure false
      | some v => do
        let v' := if toggle then m.hvacToggle v else if on then m.hvacTurnOn v else m.hvacTurnOff v
        asyncSetChannelValue m p caller v' false
        pure true
    else pure false

def setOn (caller : Caller) (id : Int) (on : Bool) : Op C Bool := setOnOrToggle m caller id on false

def actionToggle (caller : Caller) (id : Int) : Op C Bool := setOnOrToggle m caller id false true

def isOn (id : Int) : Op C Bool :=
  withChannel m id false fun _ c => pure <|
    if isOnOff (m.func c) then m.char c ≠ 0
    else if isRgbw (m.func c) then
      match m.rgbw c with
      | none => false
      | some rgbw => isPositive rgbw.colorBrightness || isPositive rgbw.brightness
    else false

/-- `set_rgbw`: what is not given keeps its value. -/
def setRgbw (caller : Caller) (id : Int) (color : Option Int)
    (colorBrightness brightness onOff command whiteTemperature : Option UInt8) : Op C Bool :=
  withChannel m id false fun _ c =>
    if m.isRgbwValueWritable c then
      match m.rgbw c with
      | none => pure false
      | some rgbw =>
        setDeviceChannelRgbwValue m caller id
          { color := color.getD rgbw.color
            colorBrightness := colorBrightness.getD rgbw.colorBrightness
            brightness := brightness.getD rgbw.brightness
            whiteTemperature := whiteTemperature.getD rgbw.whiteTemperature }
          (onOff.getD 0) (command.getD 0)
    else pure false

def setColor (caller : Caller) (id : Int) (color : Int) : Op C Bool :=
  setRgbw m caller id (some color) none none none none none

def setColorBrightness (caller : Caller) (id : Int) (brightness : UInt8) : Op C Bool :=
  setRgbw m caller id none (some brightness) none none none none

def setBrightness (caller : Caller) (id : Int) (brightness : UInt8) : Op C Bool :=
  setRgbw m caller id none none (some brightness) none none none

/-- A 16 bit number, low byte first. -/
def bytes16 (n : BitVec 16) : List UInt8 :=
  [UInt8.ofNat n.toNat, UInt8.ofNat (n.toNat / 256)]

def setDgfTransparency (senderId : Int) (id : Int) (activeBits mask : BitVec 16) : Op C Bool :=
  withChannel m id false fun p c => do
    if m.func c = channelfncDigiglassHorizontal ∨ m.func c = channelfncDigiglassVertical then
      let scope := BitVec.ofNat 16 (2 ^ m.param1 c - 1)
      asyncSetChannelValue m p ⟨senderId, 0, 0⟩
        (bytes16 (mask &&& scope) ++ bytes16 (activeBits &&& scope) ++ [0, 0, 0, 0]) true
      pure true
    else pure false

/-! ## Shading systems -/

/-- `shading_system_action`; the parameters by their percentage, where one is set. -/
def shadingSystemAction (caller : Caller) (id : Int) (action : ShadingAction)
    (params : Option Nat) : Op C Bool :=
  accessChannel m id false fun p c => do
    match m.shadingApply action params (m.value c) (m.func c) (m.flags c) with
    | none => pure false
    | some v => do
      asyncSetChannelValue m p caller v true
      pure true

/-- `action_shut`: without parameters it shuts all the way. -/
def actionShut (caller : Caller) (id : Int) (params : Option (Option Nat)) : Op C Bool :=
  shadingSystemAction m caller id .shut (params.getD (some 100))

def actionReveal (caller : Caller) (id : Int) : Op C Bool :=
  shadingSystemAction m caller id .reveal none

def actionStop (caller : Caller) (id : Int) : Op C Bool :=
  shadingSystemAction m caller id .stop none

def actionUp (caller : Caller) (id : Int) : Op C Bool := shadingSystemAction m caller id .up none

def actionDown (caller : Caller) (id : Int) : Op C Bool :=
  shadingSystemAction m caller id .down none

def actionUpOrStop (caller : Caller) (id : Int) : Op C Bool :=
  shadingSystemAction m caller id .upOrStop none

def actionDownOrStop (caller : Caller) (id : Int) : Op C Bool :=
  shadingSystemAction m caller id .downOrStop none

def actionStepByStep (caller : Caller) (id : Int) : Op C Bool :=
  shadingSystemAction m caller id .stepByStep none

/-! ## Opening and closing -/

def isGate (func : Int) : Bool :=
  func = channelfncControllingTheGate || func = channelfncControllingTheGarageDoor

def isLock (func : Int) : Bool :=
  func = channelfncControllingTheDoorLock || func = channelfncControllingTheGatewayLock

/-- `action_open_close` with `unknown`: it is not known which of the two it will be. -/
def actionOpenOrClose (caller : Caller) (id : Int) (unknown open_ cancelTasks : Bool) : Op C Bool :=
  withChannel m id false fun p c =>
    if m.isCharValueWritable c then
      if unknown then
        if isGate (m.func c) || isLock (m.func c) then setCharValue m caller p 1 cancelTasks
        else pure false
      else if isGate (m.func c) then do
        gate (.openClose (m.id c) open_)
        pure true
      else if isLock (m.func c) then setCharValue m caller p 1 cancelTasks
      else if m.func c = channelfncValveOpenclose then
        setCharValue m caller p (if open_ then 1 else 0) false
      else pure false
    else pure false

def actionOpen (caller : Caller) (id : Int) : Op C Bool :=
  actionOpenOrClose m caller id false true true

def actionClose (caller : Caller) (id : Int) : Op C Bool :=
  actionOpenOrClose m caller id false false true

/-- `action_close` of a caller alone. -/
def actionCloseAlone (senderId : Int) (id : Int) : Op C Bool :=
  actionOpenOrClose m ⟨senderId, 0, 0⟩ id false false true

def actionOpenClose (caller : Caller) (id : Int) : Op C Bool :=
  actionOpenOrClose m caller id true false true

def actionOpenCloseWithoutCancelingTasks (caller : Caller) (id : Int) : Op C Bool :=
  actionOpenOrClose m caller id true false false

/-! ## Thermostats -/

/-- `action_hvac`; `onValue` returns the new value, or none for `false`. -/
def actionHvac (caller : Caller) (id : Int) (duration : Nat) (onValue : C → Value → Option Value) :
    Op C Bool :=
  accessChannel m id false fun p c =>
    match m.hvac c with
    | none => pure false
    | some v =>
      match onValue c v with
      | none => pure false
      | some v' => do
        asyncSetChannelValueFor m p caller v' duration false
        pure true

/-- `hp_action`: whether the function matches, and the result. `onCalcfg` may send requests of its
own and returns the one that is left, if any. -/
def hpAction (id : Int) (onCalcfg : C → Op C (Option CalCfgRequest)) : Op C (Bool × Bool) :=
  accessChannel m id (false, false) fun _ c => do
    if m.func c = channelfncThermostatHeatpolHomeplus then
      let w ← get
      if w.connected then
        match ← onCalcfg c with
        | none => pure (true, false)
        | some r => do
          let ok ← trySend (.calcfg r)
          pure (true, ok)
      else pure (true, false)
    else pure (false, false)

/-- `hp_action` first, `action_hvac` where the function does not match. -/
def hpOrHvac (caller : Caller) (id : Int) (duration : Nat)
    (onCalcfg : C → Op C (Option CalCfgRequest)) (onValue : C → Value → Option Value) :
    Op C Bool := do
  let (hpMatch, result) ← hpAction m id onCalcfg
  if hpMatch then pure result else actionHvac m caller id duration onValue

/-- `TThermostatTemperatureCfg` with the first temperature. -/
def temperatureCfg (t : Int) : List UInt8 :=
  bytes16 1 ++ bytes16 (BitVec.ofInt 16 t) ++ List.replicate 18 0

/-- `supla_action_hvac_parameters`. -/
structure HvacParameters where
  mode : HvacMode
  heatSet : Bool
  heat : Int
  durationSec : Nat
  applyOn : Value → Value

/-- The command for the mode of the parameters, 0 for none, with its byte. -/
def hpModeCommand : HvacMode → Int × List UInt8
  | .heat | .cmdSwitchToManual => (thermostatCmdSetModeNormal, [1])
  | .off => (thermostatCmdTurnon, [0])
  | .cmdWeeklySchedule => (thermostatCmdSetModeAuto, [1])
  | .other => (0, [])

/-- A set temperature forces a thermostat out of its program. -/
def hpForceManual (c : C) (cmd : Int × List UInt8) : Int × List UInt8 :=
  if cmd.1 ≠ thermostatCmdSetModeNormal ∧ m.hpProgramMode c = some true then
    (thermostatCmdSetModeNormal, [0])
  else cmd

def hpParameters (params : HvacParameters) (c : C) : Op C (Option CalCfgRequest) := do
  let request (cmd : Int × List UInt8) : CalCfgRequest :=
    { channelNumber := m.number c, command := cmd.1, data := cmd.2 }
  let cmd := hpModeCommand params.mode
  if params.heatSet then
    let first := hpForceManual m c cmd
    if first.1 ≠ 0 then send (.calcfg (request first))
    pure (some (request (thermostatCmdSetTemperature, temperatureCfg params.heat)))
  else pure (if cmd.1 ≠ 0 then some (request cmd) else none)

def actionHvacSetParameters (caller : Caller) (id : Int) (params : Option HvacParameters) :
    Op C Bool :=
  match params with
  | none => pure false
  | some ps =>
    hpOrHvac m caller id ps.durationSec (hpParameters m ps)
      fun _ v => some (ps.applyOn (m.hvacClear v))

/-- A request of one command for the whole thermostat. -/
def hpMode (cmd : Int) (c : C) : Op C (Option CalCfgRequest) :=
  pure (some { channelNumber := m.number c, command := cmd, data := [1] })

def actionHvacSwitchToManualMode (caller : Caller) (id : Int) : Op C Bool :=
  hpOrHvac m caller id 0 (hpMode m thermostatCmdSetModeNormal)
    fun _ v => some (m.hvacSwitchToManual (m.hvacClear v))

def actionHvacSwitchToProgramMode (caller : Caller) (id : Int) : Op C Bool :=
  hpOrHvac m caller id 0 (hpMode m thermostatCmdSetModeAuto)
    fun _ v => some (m.hvacSwitchToProgram (m.hvacClear v))

/-- In program mode the temperature goes out first and the switch to manual mode after it. -/
def hpTemperature (t : Int) (c : C) : Op C (Option CalCfgRequest) := do
  let r : CalCfgRequest :=
    { channelNumber := m.number c
      command := thermostatCmdSetTemperature
      data := temperatureCfg t }
  if m.hpProgramMode c = some true then
    let ok ← trySend (.calcfg r)
    -- only the first data byte is overwritten, but the size says one byte
    pure (some (if ok then { r with command := thermostatCmdSetModeNormal, data := [0] } else r))
  else pure (some r)

/-- Which setpoint a single temperature is for. -/
def hvacTemperature (t : Int) (c : C) (v : Value) : Option Value :=
  let cleared := m.hvacClear v
  if m.func c = channelfncHvacThermostatDifferential ∨
      m.func c = channelfncHvacDomesticHotWater then
    some (m.hvacSetHeat t cleared)
  else if m.func c = channelfncHvacThermostat then
    match (m.json c).bind (m.hvacSubfunction · (m.number c)) with
    | some (some true) => some (m.hvacSetHeat t cleared)
    | some (some false) => some (m.hvacSetCool t cleared)
    | _ => none
  else if m.func c = channelfncHvacThermostatHeatCool then
    some (if m.hvacModeCool v then m.hvacSetCool t cleared else m.hvacSetHeat t cleared)
  else none

def actionHvacSetTemperature (caller : Caller) (id : Int) (temperature : Option Int) : Op C Bool :=
  match temperature with
  | none => pure false
  | some t => hpOrHvac m caller id 0 (hpTemperature m t) (hvacTemperature m t)

def hvacTemperatures (heating cooling : Option Int) (c : C) (v : Value) : Option Value :=
  if m.func c = channelfncHvacThermostatHeatCool then
    let cleared := m.hvacClear v
    match heating, cooling with
    | none, none => none
    | some h, none => some (m.hvacSetHeat h cleared)
    | none, some k => some (m.hvacSetCool k cleared)
    | some h, some k => some (m.hvacSetCool k (m.hvacSetHeat h cleared))
  else none

def actionHvacSetTemperatures (caller : Caller) (id : Int)
    (temperatures : Option (Option Int × Option Int)) : Op C Bool :=
  match temperatures with
  | none => pure false
  | some (heating, cooling) => actionHvac m caller id 0 (hvacTemperatures m heating cooling)

/-! ## The timer -/

/-- The value that `timer_arm` sends, none where it returns. -/
def timerValue (c : C) (on : Bool) : Option Value :=
  if isSwitch (m.func c) then some (zeroValue.set 0 (if on then 1 else 0))
  else if m.func c = channelfncHvacThermostat || m.func c = channelfncHvacThermostatHeatCool ||
      m.func c = channelfncHvacDomesticHotWater then
    (m.hvac c).map fun v => if on then m.hvacTurnOn v else m.hvacTurnOff v
  else none

/-- `timer_arm`. The test of the pointer ends before the value is sent. -/
def timerArm (caller : Caller) (id : Int) (on : Bool) (durationMs : Nat) : Op C Unit := do
  let p ← findChannel m id
  match p with
  | some _ => do
    let c ← deref p
    match timerValue m c on with
    | none => pure ()
    | some v => asyncSetChannelValueFor m p caller v durationMs true
  | none => asyncSetChannelValueFor m p caller zeroValue durationMs true

/-! ## Gates -/

def onRelatedSensorValueChanged (controlChannelId : Int) (isOpen : Bool) : Op C Unit := do
  let config ← accessChannel m controlChannelId none fun _ c =>
    pure (if isGate (m.func c) then m.json c else none)
  match config with
  | none => pure ()
  | some j =>
    if m.gateVerification j then gate (.cancelTasks controlChannelId (some isOpen)) else pure ()

end

/-! ## All operations -/

/-- The public operations that take a channel identifier, with their other arguments. -/
inductive Operation
  | getChannelValue (forClient : Bool)
  | getChannelDoubleValue
  | getChannelCharValue
  | getTypedValue
  | getRelayValue
  | setChannelValue (value : Value) (validityTimeSec : Option Nat) (status : Option Status)
  | setChannelAvailabilityStatus (status : Status)
  | setChannelExtendedvalue (ev : List UInt8)
  | getChannelValueDuration
  | getChannelFunc
  | getChannelType
  | getChannelRelations (kind : RelationKind)
  | channelExists
  | getChannelAvailabilityStatus
  | setChannelState (state : List UInt8)
  | getChannelState
  | getChannelStateAsync (senderId : Int)
  | setChannelFunction (func : Int)
  | getJsonConfig
  | resetCounters
  | takeOcrPhoto
  | muteAlarmSound
  | restartSubdevice
  | identifySubdevice
  | recalibrate (senderId : Int) (superuserAuthorized : Bool)
  | calcfgRequest (senderId : Int) (superuserAuthorized : Bool)
      (request : Option ClientCalCfgRequest)
  | setDeviceChannelValue (caller : Caller) (value : Value)
  | setDeviceChannelRgbwValue (caller : Caller) (rgbw : Rgbw) (onOff command : UInt8)
  | setDeviceChannelCharValue (caller : Caller) (value : UInt8)
  | setOn (caller : Caller) (on : Bool)
  | actionToggle (caller : Caller)
  | isOn
  | setRgbw (caller : Caller) (color : Option Int)
      (colorBrightness brightness onOff command whiteTemperature : Option UInt8)
  | setColor (caller : Caller) (color : Int)
  | setColorBrightness (caller : Caller) (brightness : UInt8)
  | setBrightness (caller : Caller) (brightness : UInt8)
  | setDgfTransparency (senderId : Int) (activeBits mask : BitVec 16)
  | actionShut (caller : Caller) (params : Option (Option Nat))
  | actionReveal (caller : Caller)
  | actionStop (caller : Caller)
  | actionUp (caller : Caller)
  | actionDown (caller : Caller)
  | actionUpOrStop (caller : Caller)
  | actionDownOrStop (caller : Caller)
  | actionStepByStep (caller : Caller)
  | actionOpen (caller : Caller)
  | actionClose (caller : Caller)
  | actionCloseAlone (senderId : Int)
  | actionOpenClose (caller : Caller)
  | actionOpenCloseWithoutCancelingTasks (caller : Caller)
  | actionHvacSetParameters (caller : Caller) (params : Option HvacParameters)
  | actionHvacSwitchToManualMode (caller : Caller)
  | actionHvacSwitchToProgramMode (caller : Caller)
  | actionHvacSetTemperature (caller : Caller) (temperature : Option Int)
  | actionHvacSetTemperatures (caller : Caller) (temperatures : Option (Option Int × Option Int))
  | timerArm (caller : Caller) (on : Bool) (durationMs : Nat)
  | onRelatedSensorValueChanged (isOpen : Bool)

/-- What an operation returns; `unit` for those without a result. -/
inductive Answer (J : Type)
  | unit
  | bool (b : Bool)
  | number (n : Int)
  | bytes (v : Option (List UInt8))
  | value (v : Option ChannelValue)
  | status (s : Status)
  | relations (l : List Relation)
  | json (j : Option J)

/-- The answers that report a failure: `false`, 0, nothing, an empty list, offline. -/
def Answer.failed {J : Type} : Answer J → Prop
  | unit => True
  | bool b => b = false
  | number n => n = 0
  | bytes v => v = none
  | value v => v = none
  | status s => s = Status.offline
  | relations l => l = []
  | json j => j = none

section
variable {C J : Type} (m : Methods C J)

/-- The operation on channel `id`. -/
def exec (id : Int) : Operation → Op C (Answer J)
  | .getChannelValue forClient => .value <$> getChannelValue m id forClient
  | .getChannelDoubleValue => .bytes <$> getChannelDoubleValue m id
  | .getChannelCharValue => .bytes <$> getChannelCharValue m id
  | .getTypedValue => .bytes <$> getTypedValue m id
  | .getRelayValue => .bytes <$> getRelayValue m id
  | .setChannelValue value validity status =>
    .bool <$> setChannelValue m id value validity status
  | .setChannelAvailabilityStatus status => .bool <$> setChannelAvailabilityStatus m id status
  | .setChannelExtendedvalue ev => (fun _ => .unit) <$> setChannelExtendedvalue m id ev
  | .getChannelValueDuration => .number <$> getChannelValueDuration m id
  | .getChannelFunc => .number <$> getChannelFunc m id
  | .getChannelType => .number <$> getChannelType m id
  | .getChannelRelations kind => .relations <$> getChannelRelations m id kind
  | .channelExists => .bool <$> channelExists m id
  | .getChannelAvailabilityStatus => .status <$> getChannelAvailabilityStatus m id
  | .setChannelState state => (fun _ => .unit) <$> setChannelState m id state
  | .getChannelState => .bytes <$> getChannelState m id
  | .getChannelStateAsync senderId => .bool <$> getChannelStateAsync m senderId (some id)
  | .setChannelFunction func => (fun _ => .unit) <$> setChannelFunction m id func
  | .getJsonConfig => .json <$> getJsonConfig m id
  | .resetCounters => .bool <$> resetCounters m id
  | .takeOcrPhoto => .bool <$> takeOcrPhoto m id
  | .muteAlarmSound => .bool <$> muteAlarmSound m id
  | .restartSubdevice => .bool <$> restartSubdevice m id
  | .identifySubdevice => .bool <$> identifySubdevice m id
  | .recalibrate senderId su => .bool <$> recalibrate m id senderId su
  | .calcfgRequest senderId su request => .bool <$> calcfgRequest m senderId id su request
  | .setDeviceChannelValue caller value =>
    (fun _ => .unit) <$> setDeviceChannelValue m caller id value
  | .setDeviceChannelRgbwValue caller rgbw onOff command =>
    .bool <$> setDeviceChannelRgbwValue m caller id rgbw onOff command
  | .setDeviceChannelCharValue caller value =>
    .bool <$> setDeviceChannelCharValue m caller id value
  | .setOn caller on => .bool <$> setOn m caller id on
  | .actionToggle caller => .bool <$> actionToggle m caller id
  | .isOn => .bool <$> isOn m id
  | .setRgbw caller color cb b onOff command wt =>
    .bool <$> setRgbw m caller id color cb b onOff command wt
  | .setColor caller color => .bool <$> setColor m caller id color
  | .setColorBrightness caller b => .bool <$> setColorBrightness m caller id b
  | .setBrightness caller b => .bool <$> setBrightness m caller id b
  | .setDgfTransparency senderId activeBits mask =>
    .bool <$> setDgfTransparency m senderId id activeBits mask
  | .actionShut caller params => .bool <$> actionShut m caller id params
  | .actionReveal caller => .bool <$> actionReveal m caller id
  | .actionStop caller => .bool <$> actionStop m caller id
  | .actionUp caller => .bool <$> actionUp m caller id
  | .actionDown caller => .bool <$> actionDown m caller id
  | .actionUpOrStop caller => .bool <$> actionUpOrStop m caller id
  | .actionDownOrStop caller => .bool <$> actionDownOrStop m caller id
  | .actionStepByStep caller => .bool <$> actionStepByStep m caller id
  | .actionOpen caller => .bool <$> actionOpen m caller id
  | .actionClose caller => .bool <$> actionClose m caller id
  | .actionCloseAlone senderId => .bool <$> actionCloseAlone m senderId id
  | .actionOpenClose caller => .bool <$> actionOpenClose m caller id
  | .actionOpenCloseWithoutCancelingTasks caller =>
    .bool <$> actionOpenCloseWithoutCancelingTasks m caller id
  | .actionHvacSetParameters caller params => .bool <$> actionHvacSetParameters m caller id params
  | .actionHvacSwitchToManualMode caller => .bool <$> actionHvacSwitchToManualMode m caller id
  | .actionHvacSwitchToProgramMode caller => .bool <$> actionHvacSwitchToProgramMode m caller id
  | .actionHvacSetTemperature caller t => .bool <$> actionHvacSetTemperature m caller id t
  | .actionHvacSetTemperatures caller ts => .bool <$> actionHvacSetTemperatures m caller id ts
  | .timerArm caller on durationMs => (fun _ => .unit) <$> timerArm m caller id on durationMs
  | .onRelatedSensorValueChanged isOpen =>
    (fun _ => .unit) <$> onRelatedSensorValueChanged m id isOpen

end

end Device.Channels
