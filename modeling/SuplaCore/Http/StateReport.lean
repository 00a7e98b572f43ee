import SuplaCore.Async.TaskList
import SuplaCore.Http.Throttling
import SuplaCore.Scene.Nested

/-!
# State reports

`new_request` and `make_request` of the requests that tell Google Home, Alexa and the state webhook
about a channel (`supla-server/src/google/google_home_state_report_request.cpp`,
`amazon/alexa_change_report_request.cpp`, `webhook/state_webhook_request.cpp`), for any number of
threads that call them and of pool threads that work on the tasks. A step is a section under one
lock, or one access to what other threads may change. What the three have in common is written
once; they differ in a `Service`.

A task that was not yet added to the queue is known to its thread alone and is kept where the
thread stands. Nothing cancels these tasks as long as the queue is there. Left out: the id and the
time of a message, the texts that are sent, and the tasks of other classes in the queue, which no
search finds. The type `V` is what a channel has to tell.
-/

namespace Http

open Channel Sys Async

/-! ## Services -/

/-- The channel of a device of a user. -/
structure Key where
  userId : Int
  deviceId : Int
  channelId : Int
  deriving DecidableEq

/-- What `new_request` asks the caller, the credentials and the configuration of the channel. -/
structure Gate where
  caller : Nested.CallerType
  isAccessTokenExists : Bool
  isChannelExcluded : Bool
  isIntegrationDisabled : Bool
  urlSize : Nat
  functionIds : List Int

/-- What a service does its own way. A note is what a call hands to its request: the request id of
Google Home, the actions of the webhook. -/
structure Service (N : Type) where
  throttling : Throttling
  /-- `new_request` up to the throttling, for a function of the channel -/
  isAllowed : Gate → Int → Bool
  /-- the functions for which `make_request` sends what it has read -/
  isReported : Int → Bool
  priority : N → Int
  isAnyActionSet : N → Bool
  /-- the callback of `access_task`: the note of the call and that of the task -/
  onTask : N → N → N
  /-- what `make_request` leaves of a note -/
  taken : N → N
  onTask_actions : ∀ new old, isAnyActionSet old = isAnyActionSet new →
    isAnyActionSet (onTask new old) = isAnyActionSet old
  taken_actions : ∀ note, isAnyActionSet (taken note) = isAnyActionSet note

namespace GoogleHome

def isCallerAllowed : Nested.CallerType → Bool
  | .unknown => false
  | _ => true

def isFunctionAllowed (func : Int) : Bool :=
  [channelfncPowerSwitch, channelfncLightSwitch, channelfncStaircaseTimer, channelfncDimmer,
    channelfncRgbLighting, channelfncDimmerAndRgbLighting, channelfncControllingTheRollerShutter,
    channelfncControllingTheFacadeBlind, channelfncControllingTheGate,
    channelfncControllingTheGarageDoor, channelfncHvacThermostat,
    channelfncHvacThermostatHeatCool, channelfncHvacThermostatDifferential,
    channelfncHvacDomesticHotWater, channelfncThermostatHeatpolHomeplus].contains func

/-- `set_request_id` if there is one. -/
def onTask (new old : String) : String := if new = "" then old else new

theorem no_actions (_new _old : String) (_h : false = false) : false = false := rfl

theorem no_actions_taken (_note : String) : false = false := rfl

/-- `supla_google_home_state_report_request`. -/
def stateReport : Service String where
  throttling := .googleHomeStateReport
  isAllowed g func := isCallerAllowed g.caller && g.isAccessTokenExists && !g.isChannelExcluded &&
    isFunctionAllowed func && !g.isIntegrationDisabled
  isReported := isFunctionAllowed
  priority _ := 90
  isAnyActionSet _ := false
  onTask := onTask
  taken _ := ""
  onTask_actions := no_actions
  taken_actions := no_actions_taken

end GoogleHome

namespace Alexa

def isCallerAllowed : Nested.CallerType → Bool
  | .unknown => false
  | .googleHome => false
  | _ => true

def isFunctionAllowed (func : Int) : Bool :=
  [channelfncPowerSwitch, channelfncLightSwitch, channelfncStaircaseTimer, channelfncDimmer,
    channelfncRgbLighting, channelfncDimmerAndRgbLighting, channelfncOpeningSensorGate,
    channelfncOpeningSensorGateway, channelfncOpeningSensorGarageDoor,
    channelfncOpeningSensorDoor, channelfncOpeningSensorRollerShutter,
    channelfncOpeningSensorWindow, channelfncControllingTheRollerShutter,
    channelfncControllingTheFacadeBlind, channelfncHotelCardSensor, channelfncHvacThermostat,
    channelfncHvacThermostatHeatCool, channelfncHvacThermostatDifferential,
    channelfncHvacDomesticHotWater, channelfncThermostatHeatpolHomeplus].contains func

theorem no_actions (_new _old : Unit) (_h : false = false) : false = false := rfl

theorem no_actions_taken (_note : Unit) : false = false := rfl

/-- `supla_alexa_change_report_request`, which sends a report for any function it finds. -/
def changeReport : Service Unit where
  throttling := .alexaChangeReport
  isAllowed g func := isCallerAllowed g.caller && g.isAccessTokenExists &&
    isFunctionAllowed func && !g.isIntegrationDisabled
  isReported _ := true
  priority _ := 80
  isAnyActionSet _ := false
  onTask _ old := old
  taken := id
  onTask_actions := no_actions
  taken_actions := no_actions_taken

end Alexa

namespace Webhook

def isCallerAllowed : Nested.CallerType → Bool
  | .unknown => false
  | _ => true

/-- What the switches of `is_function_allowed` and `make_request` have in common. -/
def commonFunctions : List Int :=
  [channelfncDimmer, channelfncDimmerAndRgbLighting, channelfncRgbLighting,
    channelfncThermometer, channelfncHumidity, channelfncHumidityAndTemperature,
    channelfncWindSensor, channelfncPressureSensor, channelfncRainSensor, channelfncWeightSensor,
    channelfncDistanceSensor, channelfncDepthSensor, channelfncElectricityMeter,
    channelfncIcElectricityMeter, channelfncIcGasMeter, channelfncIcWaterMeter,
    channelfncIcHeatMeter, channelfncPowerSwitch, channelfncLightSwitch,
    channelfncStaircaseTimer, channelfncOpeningSensorGateway, channelfncOpeningSensorGate,
    channelfncOpeningSensorGarageDoor, channelfncNoLiquidSensor, channelfncOpeningSensorDoor,
    channelfncOpeningSensorRollerShutter, channelfncOpeningSensorRoofWindow,
    channelfncOpeningSensorWindow, channelfncHotelCardSensor, channelfncMailSensor,
    channelfncControllingTheRollerShutter, channelfncControllingTheRoofWindow,
    channelfncHvacThermostat, channelfncHvacThermostatHeatCool,
    channelfncHvacThermostatDifferential, channelfncHvacDomesticHotWater]

def isFunctionAllowed (func : Int) (functionIds : List Int) : Bool :=
  func ≠ 0 && functionIds.contains func &&
    (commonFunctions.contains func || func = channelfncActionTrigger)

def isReported (func : Int) : Bool :=
  commonFunctions.contains func ||
    [channelfncTerraceAwning, channelfncProjectorScreen, channelfncCurtain,
      channelfncVerticalBlind, channelfncRollerGarageDoor, channelfncBinarySensor,
      channelfncMotionSensor].contains func

def isAnyActionSet (actions : BitVec 32) : Bool := actions ≠ 0

def onTask (new old : BitVec 32) : BitVec 32 := if new ≠ 0 then old ||| new else old

theorem onTask_actions (new old : BitVec 32) (h : isAnyActionSet old = isAnyActionSet new) :
    isAnyActionSet (onTask new old) = isAnyActionSet old := by
  unfold isAnyActionSet onTask at *
  by_cases hnew : new = 0
  · rw [if_neg (not_not.mpr hnew)]
  · have hold : old ≠ 0 := of_decide_eq_true (h.trans (decide_eq_true hnew))
    have hor : old ||| new ≠ 0 := fun h0 => hold (BitVec.or_eq_zero_iff.mp h0).1
    rw [if_pos hnew, decide_eq_true hor, decide_eq_true hold]

theorem taken_actions (note : BitVec 32) : isAnyActionSet (id note) = isAnyActionSet note := rfl

/-- `supla_state_webhook_request`. -/
def state : Service (BitVec 32) where
  throttling := .stateWebhook
  isAllowed g func := isCallerAllowed g.caller && g.isAccessTokenExists && decide (g.urlSize ≠ 0) &&
    isFunctionAllowed func g.functionIds
  isReported := isReported
  priority actions := if actions ≠ 0 then 100 else 0
  isAnyActionSet := isAnyActionSet
  onTask := onTask
  taken := id
  onTask_actions := onTask_actions
  taken_actions := taken_actions

end Webhook

/-! ## Requests and threads -/

/-- A request in the queue. -/
structure Request (N : Type) where
  key : Key
  note : N
  task : Task

/-- Where a thread stands that calls `new_request`. -/
inductive CallPc (N : Type)
  | idle
  | entered (key : Key) (note : N)
  /-- before `get_delay_time` -/
  | allowed (key : Key) (note : N) (func : Int)
  /-- before `access_task` -/
  | delayed (key : Key) (note : N) (delay : Int)
  /-- before the callback of `access_task` -/
  | found (key : Key) (note : N) (i : Nat)
  /-- before the request is made -/
  | missing (key : Key) (note : N) (delay : Int)
  /-- before `add_task` -/
  | started (r : Request N)

/-- Where a pool thread stands. -/
inductive WorkPc (N V : Type)
  | idle
  /-- before the first section of `execute` -/
  | picked (i : Nat)
  /-- in `make_request`, before the value is read -/
  | running (i : Nat)
  /-- before the note is read -/
  | read (i : Nat) (content : Int × V)
  /-- before the note is taken -/
  | noted (i : Nat) (content : Int × V) (note : N)
  /-- before the report is sent -/
  | taken (i : Nat) (content : Int × V) (note : N)
  /-- before the last section of `execute` -/
  | ending (i : Nat) (result : Bool)
  /-- before `remove_task` -/
  | finished (i : Nat)

/-- The task of a pool thread. -/
def WorkPc.holds {N V : Type} : WorkPc N V → Option Nat
  | .idle => none
  | .picked i => some i
  | .running i => some i
  | .read i _ => some i
  | .noted i _ _ => some i
  | .taken i _ _ => some i
  | .ending i _ => some i
  | .finished i => some i

inductive Event (N V : Type)
  /-- a channel has changed and `new_request` is about to be called -/
  | changed (key : Key)
  /-- `new_request` does not go on -/
  | refused (key : Key)
  /-- a request without actions is picked -/
  | picked (key : Key) (now : Int)
  /-- a request gives up: it is late, has no token, or does not know the function any more -/
  | dropped (key : Key)
  | sent (key : Key) (content : Int × V) (note : N)
  | actionsSent (key : Key) (note : N)

/-- `content` has the function and the value of each channel; `log` has the newest event first. -/
structure Reports (N V : Type) where
  now : Int
  content : Key → Int × V
  items : List Throttling.Item
  requests : Nat → Request N
  created : Nat
  queue : List Nat
  callers : Nat → CallPc N
  workers : Nat → WorkPc N V
  log : List (Event N V)

inductive Act (N V : Type)
  | tick (us : Nat)
  /-- a channel changes, and `on_channel_value_change` is called -/
  | change (th : Nat) (key : Key) (note : N) (content : Int × V)
  /-- `on_actions_triggered` -/
  | trigger (th : Nat) (key : Key) (note : N)
  /-- the next step of `new_request` -/
  | call (th : Nat) (g : Gate)
  /-- the next step of a pool thread; whether there is a token, and whether sending succeeds -/
  | work (w : Nat) (tokenExists result : Bool)

variable {N V : Type}

/-- `condition_met`. -/
def Request.conditionMet (svc : Service N) (key : Key) (note : N) (r : Request N) : Bool :=
  decide (r.key = key) && svc.isAnyActionSet r.note == svc.isAnyActionSet note &&
    decide (r.task.state = .waiting)

/-- A request that was constructed and started, with `set_priority` and `set_delay_usec`. -/
def Request.new (svc : Service N) (timeoutUsec : Nat) (now : Int) (key : Key) (note : N)
    (delay : Int) : Request N :=
  let task : Task := ⟨.init, 0, 0, none, false, timeoutUsec, 0, false, false⟩
  ⟨key, note, (((task.setPriority (svc.priority note)).setDelayUsec now delay).start).2⟩

namespace Reports

def setCaller (th : Nat) (pc : CallPc N) (s : Reports N V) : Reports N V :=
  { s with callers := fun u => if u = th then pc else s.callers u }

def setWorker (w : Nat) (pc : WorkPc N V) (s : Reports N V) : Reports N V :=
  { s with workers := fun v => if v = w then pc else s.workers v }

def setRequest (i : Nat) (r : Request N) (s : Reports N V) : Reports N V :=
  { s with requests := fun j => if j = i then r else s.requests j }

def setTask (i : Nat) (t : Task) (s : Reports N V) : Reports N V :=
  s.setRequest i { s.requests i with task := t }

def tell (e : Event N V) (s : Reports N V) : Reports N V := { s with log := e :: s.log }

/-- `find_task`. -/
def findTask (svc : Service N) (key : Key) (note : N) (s : Reports N V) : Option Nat :=
  s.queue.find? fun i => (s.requests i).conditionMet svc key note

/-- `add_task`. -/
def addTask (r : Request N) (s : Reports N V) : Reports N V :=
  let s := s.setRequest s.created r
  { s with
    created := s.created + 1
    queue := Life.insert (fun i => (s.requests i).task) s.created s.queue }

/-- The next step of `new_request`. -/
def callStep (svc : Service N) (timeoutUsec : Nat) (th : Nat) (g : Gate) (s : Reports N V) :
    Option (Reports N V) :=
  match s.callers th with
  | .idle => none
  | .entered key note =>
    let func := (s.content key).1
    some (if svc.isAllowed g func then s.setCaller th (.allowed key note func)
      else (s.tell (.refused key)).setCaller th .idle)
  | .allowed key note func =>
    let r := svc.throttling.getDelayTime key.channelId func s.now s.items
    some ({ s with items := r.2 }.setCaller th (.delayed key note r.1))
  | .delayed key note delay =>
    some (s.setCaller th (match s.findTask svc key note with
      | some i => .found key note i
      | none => .missing key note delay))
  | .found _ note i =>
    let r := s.requests i
    some ((s.setRequest i { r with note := svc.onTask note r.note }).setCaller th .idle)
  | .missing key note delay =>
    some (s.setCaller th (.started (.new svc timeoutUsec s.now key note delay)))
  | .started r => some ((s.addTask r).setCaller th .idle)

/-- The task that a pool thread finds. -/
def findDue (s : Reports N V) : Option Nat :=
  s.queue.find? fun i => decide ((s.requests i).task.state = .waiting) &&
    decide ((s.requests i).task.timeLeftUsec s.now ≤ 0)

/-- The next step of a pool thread. -/
def workStep (svc : Service N) (w : Nat) (tokenExists result : Bool) (s : Reports N V) :
    Option (Reports N V) :=
  match s.workers w with
  | .idle =>
    s.findDue.map fun i =>
      let r := s.requests i
      let s := (s.setTask i r.task.pick.2).setWorker w (.picked i)
      if svc.isAnyActionSet r.note then s else s.tell (.picked r.key s.now)
  | .picked i =>
    let r := s.requests i
    let begun := r.task.executeBegin s.now
    let s := s.setTask i begun.2
    some (if begun.1 then s.setWorker w (.running i)
      else (s.tell (.dropped r.key)).setWorker w (.finished i))
  | .running i =>
    let r := s.requests i
    some (if !tokenExists then (s.tell (.dropped r.key)).setWorker w (.ending i false)
      else if svc.isAnyActionSet r.note then
        (s.tell (.actionsSent r.key r.note)).setWorker w (.ending i result)
      else s.setWorker w (.read i (s.content r.key)))
  | .read i content => some (s.setWorker w (.noted i content (s.requests i).note))
  | .noted i content note =>
    let r := s.requests i
    some ((s.setRequest i { r with note := svc.taken r.note }).setWorker w (.taken i content note))
  | .taken i content note =>
    let key := (s.requests i).key
    some (if svc.isReported content.1 then
        (s.tell (.sent key content note)).setWorker w (.ending i result)
      else (s.tell (.dropped key)).setWorker w (.ending i false))
  | .ending i result =>
    some ((s.setTask i ((s.requests i).task.executeEnd s.now false result)).setWorker w
      (.finished i))
  | .finished i => some ({ s with queue := s.queue.erase i }.setWorker w .idle)

def step (svc : Service N) (timeoutUsec : Nat) (s : Reports N V) : Act N V → Option (Reports N V)
  | .tick us => some { s with now := s.now + us }
  | .change th key note content =>
    match s.callers th with
    | .idle =>
      if svc.isAnyActionSet note then none
      else
        some (({ s with content := fun k => if k = key then content else s.content k }.tell
          (.changed key)).setCaller th (.entered key note))
    | _ => none
  | .trigger th key note =>
    match s.callers th with
    | .idle =>
      if svc.isAnyActionSet note then some (s.setCaller th (.entered key note)) else none
    | _ => none
  | .call th g => s.callStep svc timeoutUsec th g
  | .work w tokenExists result => s.workStep svc w tokenExists result

end Reports

/-- A queue without reports. -/
def reports (svc : Service N) (timeoutUsec : Nat) (V : Type) : Machine (Reports N V) (Act N V) where
  init s := s.items = [] ∧ s.created = 0 ∧ s.queue = [] ∧ (∀ th, s.callers th = .idle) ∧
    (∀ w, s.workers w = .idle) ∧ s.log = []
  step := Reports.step svc timeoutUsec

end Http
