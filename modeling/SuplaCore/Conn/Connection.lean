import SuplaCore.Lib.Sys
import SuplaCore.Srpc.Call

/-!
# A connection

`supla_connection` (`supla-server/src/conn/connection.cpp`) with the collections of its call
handlers (`device/call_handler/call_handler_collection.cpp`,
`client/call_handler/call_handler_collection.cpp`) and the loop of its thread. A `timeval` is
microseconds; what `tv_sec` has of it is `sec`.

`log_limits` and `is_connection_allowed` stand between the loops that accept connections
(`accept_loop.cpp`), the connections that register or end, and the main loop of the server, which
calls `log_limits`.

A call that arrives is a step, and so is every section of the loop; time may pass between any two of
them. What the database and the object answer comes with the step. Left out: the socket, the
protocol version, what a handler does besides its own connection, and the warnings of a connection
that has to wait until nobody else holds its object.
-/

namespace Connection

open Srpc Sys

/-! ## Call handlers -/

/-- What a handler does to the connection. -/
inductive Duty
  | none
  | register
  | setActivityTimeout
  deriving DecidableEq, Repr

/-- `supla_abstract_srpc_call_handler`. -/
structure Handler where
  calls : List Call
  isRegistrationRequired : Bool
  duty : Duty
  deriving DecidableEq, Repr

namespace Handler

def canHandleCall (callId : UInt32) (h : Handler) : Bool := h.calls.any fun c => c.id == callId

/-- A handler that overrides nothing but `can_handle_call` and `handle_call`. -/
def plain (c : Call) : Handler := ⟨[c], true, .none⟩

def register (c : Call) : Handler := ⟨[c], false, .register⟩

/-- A handler without registration that leaves the connection alone. -/
def free (c : Call) : Handler := ⟨[c], false, .none⟩

end Handler

def chGetVersion : Handler := .free .dcsGetversion
def chSetActivityTimeout : Handler := ⟨[.dcsSetActivityTimeout], true, .setActivityTimeout⟩
def chPingServer : Handler := .plain .dcsPingServer
def chGetUserLocaltime : Handler := .plain .dcsGetUserLocaltime
def chGetRegistrationEnabled : Handler := .plain .dcsGetRegistrationEnabled

/-- The handlers that both collections end with. -/
def commonHandlers : List Handler :=
  [chGetVersion, chSetActivityTimeout, chPingServer, chGetUserLocaltime, chGetRegistrationEnabled]

def chActionTrigger : Handler := .plain .dsActiontrigger
def chChannelSetValueResult : Handler := .plain .dsChannelSetValueResult
def chDeviceChannelValueChangedC : Handler := .plain .dsDeviceChannelValueChangedC
def chDeviceChannelValueChangedB : Handler := .plain .dsDeviceChannelValueChangedB
def chDeviceChannelValueChanged : Handler := .plain .dsDeviceChannelValueChanged
def chDeviceChannelExtendedvalueChanged : Handler := .plain .dsDeviceChannelExtendedvalueChanged
def chChannelStateResult : Handler := .plain .dscChannelStateResult
def chGetFirmwareUpdateUrl : Handler := .plain .dsGetFirmwareUpdateUrl
def chDeviceCalcfgResult : Handler := .plain .dsDeviceCalcfgResult
def chGetChannelFunctions : Handler := .plain .dsGetChannelFunctions
def chGetChannelConfig : Handler := .plain .dsGetChannelConfig
def chRegisterDeviceG : Handler := .register .dsRegisterDeviceG
def chRegisterDeviceF : Handler := .register .dsRegisterDeviceF
def chRegisterDeviceE : Handler := .register .dsRegisterDeviceE
def chRegisterDeviceD : Handler := .register .dsRegisterDeviceD
def chRegisterDeviceC : Handler := .register .dsRegisterDeviceC
def chRegisterDeviceB : Handler := .register .dsRegisterDeviceB
def chRegisterDeviceA : Handler := .register .dsRegisterDevice
def chSetDeviceConfig : Handler := .plain .dsSetDeviceConfig
def chSetDeviceConfigResult : Handler := .plain .dsSetDeviceConfigResult
def chSetChannelConfig : Handler := .plain .dsSetChannelConfig
def chSetChannelCaption : Handler := .plain .dcsSetChannelCaption
def chSetChannelConfigResult : Handler := .plain .dsSetChannelConfigResult
def chRegisterPushNotification : Handler := .plain .dsRegisterPushNotification
def chSendPushNotification : Handler := .plain .dsSendPushNotification
def chSetSubdeviceDetails : Handler := .plain .dsSetSubdeviceDetails

/-- `supla_device_call_handler_collection`. -/
def deviceHandlers : List Handler :=
  [chActionTrigger, chChannelSetValueResult, chDeviceChannelValueChangedC,
    chDeviceChannelValueChangedB, chDeviceChannelValueChanged,
    chDeviceChannelExtendedvalueChanged, chChannelStateResult, chGetFirmwareUpdateUrl,
    chDeviceCalcfgResult, chGetChannelFunctions, chGetChannelConfig, chRegisterDeviceG,
    chRegisterDeviceF, chRegisterDeviceE, chRegisterDeviceD, chRegisterDeviceC,
    chRegisterDeviceB, chRegisterDeviceA, chSetDeviceConfig, chSetDeviceConfigResult,
    chSetChannelConfig, chSetChannelCaption, chSetChannelConfigResult,
    chRegisterPushNotification, chSendPushNotification, chSetSubdeviceDetails] ++ commonHandlers

def chSetValue : Handler := .plain .csSetValue
def chChannelSetValueB : Handler := .plain .csChannelSetValueB
def chChannelSetValue : Handler := .plain .csChannelSetValue
def chExecuteActionWithAuth : Handler := .free .csExecuteActionWithAuth
def chExecuteAction : Handler := .plain .csExecuteAction
def chTimerArm : Handler := .plain .csTimerArm
def chGetNext : Handler := .plain .csGetNext
def chGetChannelState : Handler := .plain .csdGetChannelState
def chGetChannelValueWithAuth : Handler := .free .csGetChannelValueWithAuth
def chCalcfgRequestB : Handler := .plain .csDeviceCalcfgRequestB
def chCalcfgRequest : Handler := .plain .csDeviceCalcfgRequest
def chOauthTokenRequest : Handler := .plain .csOauthTokenRequest
def chSuperuserAuthorizationRequest : Handler := .plain .csSuperuserAuthorizationRequest
def chSuperuserAuthorizationResult : Handler := .plain .csGetSuperuserAuthorizationResult
def chGetChannelBasicCfg : Handler := .plain .csGetChannelBasicCfg

def chSetCaption : Handler :=
  ⟨[.dcsSetChannelCaption, .csSetChannelGroupCaption, .csSetLocationCaption, .csSetSceneCaption],
    true, .none⟩

def chSetChannelFunction : Handler := .plain .csSetChannelFunction
def chClientsReconnectRequest : Handler := .plain .csClientsReconnectRequest
def chSetRegistrationEnabled : Handler := .plain .csSetRegistrationEnabled
def chDeviceReconnectRequest : Handler := .plain .csDeviceReconnectRequest
def chRegisterClientD : Handler := .register .csRegisterClientD
def chRegisterClientC : Handler := .register .csRegisterClientC
def chRegisterClientB : Handler := .register .csRegisterClientB
def chRegisterClientA : Handler := .register .csRegisterClient
def chRegisterPnClientToken : Handler := .free .csRegisterPnClientToken
def clientChGetChannelConfig : Handler := .plain .csGetChannelConfig
def clientChSetChannelConfig : Handler := .plain .csSetChannelConfig
def clientChGetDeviceConfig : Handler := .plain .csGetDeviceConfig

/-- `supla_client_call_handler_collection`. -/
def clientHandlers : List Handler :=
  [chSetValue, chChannelSetValueB, chChannelSetValue, chExecuteActionWithAuth, chExecuteAction,
    chTimerArm, chGetNext, chGetChannelState, chGetChannelValueWithAuth, chCalcfgRequestB,
    chCalcfgRequest, chOauthTokenRequest, chSuperuserAuthorizationRequest,
    chSuperuserAuthorizationResult, chGetChannelBasicCfg, chSetCaption, chSetChannelFunction,
    chClientsReconnectRequest, chSetRegistrationEnabled, chDeviceReconnectRequest,
    chRegisterClientD, chRegisterClientC, chRegisterClientB, chRegisterClientA,
    chRegisterPnClientToken, clientChGetChannelConfig, clientChSetChannelConfig,
    clientChGetDeviceConfig] ++ commonHandlers

/-- The class of the object. -/
inductive Kind
  | device
  | client
  deriving DecidableEq, Repr

/-- `get_srpc_call_handler_collection`. -/
def Kind.handlers : Kind → List Handler
  | .device => deviceHandlers
  | .client => clientHandlers

/-! ## State -/

/-- `supla_abstract_connection_object`. -/
structure Object where
  kind : Kind
  registered : Bool
  lastActivityTime : Nat
  deriving DecidableEq

/-- Where the thread of the connection stands. -/
inductive Pc
  /-- before the condition of the loop, with the time of the last check -/
  | head (checked : Nat)
  /-- in `eh_wait` -/
  | waiting (checked since : Nat)
  /-- in `srpc_iterate`, with the calls that it has delivered -/
  | iterating (calls : Nat)
  /-- before the check of the timeouts -/
  | checking
  /-- behind the loop -/
  | closing
  /-- until the device wakes up, in milliseconds -/
  | sleeping (left : Nat)
  /-- the object is about to be released -/
  | releasing
  | finished

/-- A call that a handler has worked on, whether the object was registered, and whether it is now;
or a call that nobody handles. -/
inductive Event
  | executed (kind : Kind) (callId : UInt32) (h : Handler) (before after : Bool)
  | unhandled (callId : UInt32)

structure Conn where
  now : Nat
  initTime : Nat
  object : Option Object
  activityTimeout : Nat
  unhandledCallCounter : Nat
  /-- `sthread_isterminated` -/
  terminated : Bool
  /-- the connection is in `reg_pending_arr` -/
  pending : Bool
  waitUsec : Nat
  pc : Pc
  log : List Event

def sec (t : Nat) : Nat := t / 1000000

def registerWaitTimeout : Nat := 10

def activityTimeoutDefault : Nat := 120

def unhandledCallMaxcount : Nat := 5

def waitUsecMin : Nat := 100000

def activityTimeoutMin : Nat := 10

def activityTimeoutMax : Nat := 240

namespace Conn

def isRegistered (c : Conn) : Bool := c.object.any (·.registered)

/-! ## Calls -/

/-- What is special about one call. -/
structure Answer where
  /-- there is no structure with the arguments -/
  dataMissing : Bool
  /-- whether the registration succeeds, if it is one -/
  registered : Bool
  /-- what the client asks for in `SET_ACTIVITY_TIMEOUT` -/
  activityTimeout : UInt8
  /-- the time that the handler takes -/
  elapsed : Nat

/-- `handle_call` of a handler. The registrations are `register_device` and `register_client`, to
which the handlers of the older versions lead. -/
def run (h : Handler) (r : Answer) (c : Conn) : Conn :=
  let c := { c with now := c.now + r.elapsed }
  if r.dataMissing then c
  else match h.duty with
    | .none => c
    | .register =>
      if c.isRegistered then { c with terminated := true }
      else { c with
        object := c.object.map fun o => { o with registered := r.registered }
        pending := false }
    | .setActivityTimeout => { c with
        activityTimeout := min (max r.activityTimeout.toNat activityTimeoutMin) activityTimeoutMax }

/-- `handle_call` of the collection; `none` if nobody handles the call. -/
def handleCall (kind : Kind) (callId : UInt32) (r : Answer) (c : Conn) : Option Conn :=
  (kind.handlers.find? (·.canHandleCall callId)).map fun h =>
    if !h.isRegistrationRequired || c.isRegistered then
      let c' := c.run h r
      { c' with log := .executed kind callId h c.isRegistered c'.isRegistered :: c'.log }
    else c

def catchUnhandledCall (callId : UInt32) (c : Conn) : Conn :=
  let counter := c.unhandledCallCounter + 1
  { c with
    unhandledCallCounter := counter
    terminated := c.terminated || decide (counter ≥ unhandledCallMaxcount)
    log := .unhandled callId :: c.log }

/-- A new object tries to handle the call; it is kept if it can. -/
def tryObject (kind : Kind) (callId : UInt32) (r : Answer) (c : Conn) : Option Conn :=
  handleCall kind callId r { c with object := some ⟨kind, false, c.now⟩ }

/-- `on_remote_call_received` of a call that could be read. -/
def onRemoteCallReceived (callId : UInt32) (r : Answer) (c : Conn) : Conn :=
  match c.object with
  | some o =>
    match c.handleCall o.kind callId r with
    | some c => { c with object := c.object.map fun o => { o with lastActivityTime := c.now } }
    | none => c.catchUnhandledCall callId
  | none =>
    match c.tryObject .device callId r with
    | some c => c
    | none =>
      match c.tryObject .client callId r with
      | some c => c
      | none => c.catchUnhandledCall callId

/-! ## The loop -/

/-- The check behind `srpc_iterate`: `object->wait_time_usec()` and `is_sleeping_object()` are what
the object says. -/
def check (waitTimeUsec : Nat) (isSleepingObject : Bool) (c : Conn) : Conn :=
  match c.object.filter (·.registered) with
  | none =>
    if sec c.now - sec c.initTime ≥ registerWaitTimeout then
      { c with terminated := true, pc := .closing }
    else { c with pc := .head c.now }
  | some o =>
    let delay := sec c.now - sec o.lastActivityTime
    if c.activityTimeout ≤ delay then
      { c with terminated := c.terminated || !isSleepingObject, pc := .closing }
    else { c with
      waitUsec := max (min waitTimeUsec ((c.activityTimeout - delay) * 1000000)) waitUsecMin
      pc := .head c.now }

end Conn

inductive Act
  | tick (us : Nat)
  /-- another thread terminates the connection -/
  | terminate
  /-- the condition of the loop -/
  | go
  /-- `eh_wait` returns -/
  | wake
  | call (callId : UInt32) (r : Conn.Answer)
  /-- `srpc_iterate` returns -/
  | iterated (ok : Bool)
  | check (waitTimeUsec : Nat) (isSleepingObject : Bool)
  /-- the socket is closed; what the object says -/
  | close (isSleepingObject : Bool) (timeToWakeupMsec : Nat)
  /-- a turn of the loop that waits for the device to wake up -/
  | sleep
  /-- nobody holds the object any more -/
  | release

/-- `eh_wait` ends when its time is over. A call of `srpc_iterate` that goes on delivers one call at
most; after a version error, when it fails, it may have delivered more. -/
def step (c : Conn) : Act → Option Conn
  | .tick us =>
    match c.pc with
    | .waiting _ since =>
      if c.now + us ≤ since + c.waitUsec then some { c with now := c.now + us } else none
    | _ => some { c with now := c.now + us }
  | .terminate => some { c with terminated := true }
  | .go =>
    match c.pc with
    | .head checked =>
      some { c with pc := if c.terminated then .closing else .waiting checked c.now }
    | _ => none
  | .wake =>
    match c.pc with
    | .waiting _ _ => some { c with pc := .iterating 0 }
    | _ => none
  | .call callId r =>
    match c.pc with
    | .iterating calls => some { c.onRemoteCallReceived callId r with pc := .iterating (calls + 1) }
    | _ => none
  | .iterated ok =>
    match c.pc with
    | .iterating calls =>
      if ok then if calls ≤ 1 then some { c with pc := .checking } else none
      else some { c with pc := .closing }
    | _ => none
  | .check waitTimeUsec isSleepingObject =>
    match c.pc with
    | .checking => some (c.check waitTimeUsec isSleepingObject)
    | _ => none
  | .close isSleepingObject timeToWakeupMsec =>
    match c.pc with
    | .closing => some { c with pc :=
        if c.object.isSome && isSleepingObject then .sleeping timeToWakeupMsec else .releasing }
    | _ => none
  | .sleep =>
    match c.pc with
    | .sleeping left =>
      if left > 0 ∧ ¬ c.terminated then
        if left ≥ 1000 then some { c with now := c.now + 1000000, pc := .sleeping (left - 1000) }
        else some { c with now := c.now + left * 1000, pc := .sleeping 0 }
      else some { c with pc := .releasing }
    | _ => none
  | .release =>
    match c.pc with
    | .releasing => some { c with object := none, pending := false, pc := .finished }
    | _ => none

/-- A connection that was just accepted. -/
def connection : Machine Conn Act where
  init c := c.now = c.initTime ∧ c.object = none ∧ c.activityTimeout = activityTimeoutDefault ∧
    c.unhandledCallCounter = 0 ∧ c.terminated = false ∧ c.pending = true ∧
    c.waitUsec = waitUsecMin ∧ c.pc = .head c.initTime ∧ c.log = []
  step := step

/-! ## The limit of concurrent registrations -/

/-- The static members that `log_limits` keeps; a time that is not set is zero. -/
structure Limits where
  regLimitExceededAlertTime : Nat
  regLimitExceededTime : Nat
  rejectAllNewConnections : Bool
  deriving DecidableEq

namespace Limits

def none : Limits := ⟨0, 0, false⟩

/-- `limit` is `CFG_LIMIT_CONCURRENT_REGISTRATIONS`, and `pending` the length of
`reg_pending_arr`. -/
def exceeded (limit : Int) (pending : Nat) : Bool := limit > 0 ∧ (pending : Int) ≥ limit

def logLimits (limit : Int) (pending now : Nat) (l : Limits) : Limits :=
  if exceeded limit pending then
    let l := if l.regLimitExceededAlertTime = 0 then { l with regLimitExceededAlertTime := now }
      else if now - l.regLimitExceededAlertTime ≥ 600 then
        { l with regLimitExceededAlertTime := now, rejectAllNewConnections := true }
      else l
    { l with regLimitExceededTime := now }
  else if l.regLimitExceededTime ≠ 0 ∧ now - l.regLimitExceededTime ≥ 10 then none
  else l

/-- `local_ipv4` has the addresses of the host, with a zero behind them if they are few. -/
def isLocal (localIpv4 : List UInt32) (ipv4 : UInt32) : Bool :=
  (localIpv4.takeWhile (· ≠ 0)).contains ipv4

def isConnectionAllowed (limit : Int) (localIpv4 : List UInt32) (pending : Nat) (ipv4 : UInt32)
    (l : Limits) : Bool :=
  if l.rejectAllNewConnections then false
  else if exceeded limit pending then isLocal localIpv4 ipv4
  else true

end Limits

/-- Where a loop stands that accepts connections. -/
inductive AcceptPc
  | accepting
  /-- before the connection is made that was allowed -/
  | allowed (ipv4 : UInt32)

/-- `pending` has the connections of `reg_pending_arr` with their addresses; `checks` the times at
which `log_limits` was called, and whether the limit was exceeded, the newest first. -/
structure Listener where
  now : Nat
  limits : Limits
  pending : List (Nat × UInt32)
  created : Nat
  loops : List AcceptPc
  checks : List (Nat × Bool)

inductive ListenerAct
  | tick (s : Nat)
  /-- a socket was accepted by a loop -/
  | accept (i : Nat) (ipv4 : UInt32)
  /-- the constructor of the connection -/
  | create (i : Nat)
  /-- `on_object_registration_done`, or the destructor -/
  | done (id : Nat)
  | logLimits

namespace Listener

def step (limit : Int) (localIpv4 : List UInt32) (s : Listener) : ListenerAct → Option Listener
  | .tick sec => some { s with now := s.now + sec }
  | .accept i ipv4 =>
    match s.loops[i]? with
    | some .accepting =>
      some (if s.limits.isConnectionAllowed limit localIpv4 s.pending.length ipv4 then
        { s with loops := s.loops.set i (.allowed ipv4) } else s)
    | _ => none
  | .create i =>
    match s.loops[i]? with
    | some (.allowed ipv4) => some { s with
        pending := s.pending ++ [(s.created, ipv4)]
        created := s.created + 1
        loops := s.loops.set i .accepting }
    | _ => none
  | .done id => some { s with pending := s.pending.eraseP (·.1 = id) }
  | .logLimits => some { s with
      limits := s.limits.logLimits limit s.pending.length s.now
      checks := (s.now, Limits.exceeded limit s.pending.length) :: s.checks }

end Listener

/-- A server with some loops that accept connections. -/
def listener (limit : Int) (localIpv4 : List UInt32) (loops : Nat) :
    Machine Listener ListenerAct where
  init s := 0 < s.now ∧ s.limits = .none ∧ s.pending = [] ∧
    s.loops = List.replicate loops .accepting ∧ s.checks = []
  step := Listener.step limit localIpv4

end Connection
