import SuplaCore.Lib.Sys

/-!
# The queues of a MQTT datasource

`supla_mqtt_client_datasource` (`supla-server/src/mqtt/mqtt_client_datasource.cpp`) with the
contexts that it opens (`mqtt_ds_context.cpp`): what is to be published is noted in three queues
from any thread, and the thread of the client takes it from there. The time of a queued channel is
left out: it is only compared with the time at which it is taken, for a warning.

What the virtual methods answer (`is_context_allowed`, `context_open`, `_fetch`) is part of the
step. `noted` holds the notifications that no context was opened for since; it is not in the source
and nothing is decided by it.
-/

namespace Mqtt

/-! ## Contexts -/

/-- `supla_mqtt_ds_context`, with the ids that its scope has; `set_user_id` sets one in the scope
`MQTTDS_SCOPE_FULL`. -/
inductive Context
  | none
  | full (userId : Int)
  | user (userId : Int)
  | device (userId deviceId : Int)
  | channelState (userId deviceId channelId : Int)
  deriving DecidableEq

namespace Context

/-- An id is set where there is none, and cleared where there is one. -/
def setUserId (userId : Int) : Context → Context
  | full u => if userId = 0 ∧ u ≠ 0 ∨ userId ≠ 0 ∧ u = 0 then full userId else full u
  | c => c

@[simp]
theorem setUserId_full_zero (u : Int) : (full u).setUserId 0 = full 0 := by
  by_cases hu : u = 0
  · rw [hu]
    rfl
  · exact if_pos (.inl ⟨rfl, hu⟩)

theorem setUserId_setUserId_zero (ctx : Context) (u : Int) :
    (ctx.setUserId u).setUserId 0 = ctx.setUserId 0 := by
  cases ctx with
  | full v =>
    rw [setUserId_full_zero, setUserId]
    split <;> exact setUserId_full_zero _
  | _ => rfl

def userId : Context → Int
  | none => 0
  | full userId => userId
  | user userId => userId
  | device userId _ => userId
  | channelState userId _ _ => userId

def deviceId : Context → Int
  | device _ deviceId => deviceId
  | channelState _ deviceId _ => deviceId
  | _ => 0

def channelId : Context → Int
  | channelState _ _ channelId => channelId
  | _ => 0

/-- What is published in one context is also published in another: all data, all of a user, all of
a device. -/
def covers : Context → Context → Bool
  | full _, full _ => true
  | full _, user _ => true
  | full _, device _ _ => true
  | full _, channelState _ _ _ => true
  | user u, user u' => decide (u = u')
  | user u, device u' _ => decide (u = u')
  | user u, channelState u' _ _ => decide (u = u')
  | device u d, device u' d' => decide (u = u' ∧ d = d')
  | device u d, channelState u' d' _ => decide (u = u' ∧ d = d')
  | channelState u d c, channelState u' d' c' => decide (u = u' ∧ d = d' ∧ c = c')
  | _, _ => false

end Context

/-- Which device a channel belongs to, and which user a device. -/
structure Owner where
  user : Int → Int
  device : Int → Int

/-! ## The queues -/

/-- `_mqtt_ds_device_id_t`. -/
structure DeviceId where
  userId : Int
  deviceId : Int
  deriving DecidableEq

/-- `_mqtt_ds_channel_id_t`, without the time. -/
structure ChannelId where
  userId : Int
  deviceId : Int
  channelId : Int
  deriving DecidableEq

structure Queues where
  allDataExpected : Bool
  userQueue : List Int
  deviceQueue : List DeviceId
  channelQueue : List ChannelId
  deriving DecidableEq

namespace Queues

def empty : Queues := ⟨false, [], [], []⟩

def isUserQueued (q : Queues) (userId : Int) : Bool := q.userQueue.any (· = userId)

def isDeviceQueued (q : Queues) (deviceId : Int) : Bool :=
  q.deviceQueue.any fun d => d.deviceId = deviceId

def isChannelQueued (q : Queues) (channelId : Int) : Bool :=
  q.channelQueue.any fun c => c.channelId = channelId

def onBrokerConnected (q : Queues) : Queues :=
  if q.allDataExpected then q else ⟨true, [], [], []⟩

def onUserdataChanged (q : Queues) (userId : Int) : Queues :=
  if q.allDataExpected || q.isUserQueued userId then q
  else
    { q with
      userQueue := q.userQueue ++ [userId]
      deviceQueue := q.deviceQueue.filter fun d => d.userId ≠ userId
      channelQueue := q.channelQueue.filter fun c => c.userId ≠ userId }

def onDevicedataChanged (q : Queues) (userId deviceId : Int) : Queues :=
  if q.allDataExpected || q.isUserQueued userId || q.isDeviceQueued deviceId then q
  else
    { q with
      deviceQueue := q.deviceQueue ++ [⟨userId, deviceId⟩]
      channelQueue :=
        q.channelQueue.filter fun c => ¬ (c.userId = userId ∧ c.deviceId = deviceId) }

def onChannelstateChanged (q : Queues) (userId deviceId channelId : Int) : Queues :=
  if q.allDataExpected || q.isUserQueued userId || q.isDeviceQueued deviceId ||
      q.isChannelQueued channelId then q
  else { q with channelQueue := q.channelQueue ++ [⟨userId, deviceId, channelId⟩] }

/-- The context that `context_should_be_opened` takes from the queues. -/
def take (q : Queues) : Option (Context × Queues) :=
  if q.allDataExpected then some (.full 0, { q with allDataExpected := false })
  else
    match q.userQueue with
    | u :: us => some (.user u, { q with userQueue := us })
    | [] =>
      match q.deviceQueue with
      | d :: ds => some (.device d.userId d.deviceId, { q with deviceQueue := ds })
      | [] =>
        match q.channelQueue with
        | c :: cs =>
          some (.channelState c.userId c.deviceId c.channelId, { q with channelQueue := cs })
        | [] => none

end Queues

/-! ## The datasource -/

inductive Notification
  | brokerConnected
  | userdataChanged (userId : Int)
  | devicedataChanged (userId deviceId : Int)
  | channelstateChanged (userId deviceId channelId : Int)
  deriving DecidableEq

/-- The context that `is_context_allowed` is asked for. -/
def Notification.context : Notification → Context
  | brokerConnected => .full 0
  | userdataChanged u => .user u
  | devicedataChanged u d => .device u d
  | channelstateChanged u d c => .channelState u d c

def Queues.notify (q : Queues) : Notification → Queues
  | .brokerConnected => q.onBrokerConnected
  | .userdataChanged u => q.onUserdataChanged u
  | .devicedataChanged u d => q.onDevicedataChanged u d
  | .channelstateChanged u d c => q.onChannelstateChanged u d c

/-- Where a call of `fetch` stands; `second` in the second call of `__fetch`. -/
inductive FetchPc
  | idle
  /-- before `context_should_be_opened` -/
  | deciding (second : Bool)
  /-- before `context_open` -/
  | opening (second : Bool)
  /-- before `_fetch` -/
  | fetching (second : Bool)
  deriving DecidableEq

structure Datasource where
  queues : Queues
  context : Context
  contextOpen : Bool
  pc : FetchPc
  noted : List Notification

def Datasource.init : Datasource := ⟨.empty, .none, false, .idle, []⟩

inductive Act
  | notify (n : Notification) (allowed : Bool)
  | fetch
  | contextShouldBeOpened
  | contextOpen (success : Bool)
  | fetchNext (result : Bool)
  /-- `context_close` when the thread ends -/
  | threadCleanup

def Datasource.step (s : Datasource) : Act → Option Datasource
  | .notify n allowed =>
    if allowed then some { s with queues := s.queues.notify n, noted := n :: s.noted }
    else some s
  | .fetch => if s.pc = .idle then some { s with pc := .deciding false } else none
  | .contextShouldBeOpened =>
    match s.pc with
    | .deciding second =>
      if s.contextOpen then some { s with pc := .fetching second }
      else
        match s.queues.take with
        | some (c, q) => some { s with queues := q, context := c, pc := .opening second }
        | none => some { s with pc := .fetching second }
    | _ => none
  | .contextOpen success =>
    match s.pc with
    | .opening second =>
      some { s with
        contextOpen := success
        pc := .fetching second
        noted :=
          if success then s.noted.filter fun n => !s.context.covers n.context else s.noted }
    | _ => none
  | .fetchNext result =>
    match s.pc with
    | .fetching second =>
      if s.contextOpen then
        let context := s.context.setUserId 0
        if result then some { s with context := context, pc := .idle }
        else
          some { s with
            context := context
            contextOpen := false
            pc := if second then .idle else .deciding true }
      else some { s with pc := .idle }
    | _ => none
  | .threadCleanup => if s.pc = .idle then some { s with contextOpen := false } else none

/-- A datasource as it is constructed. -/
def datasource : Sys.Machine Datasource Act where
  init s := s = .init
  step := Datasource.step

end Mqtt
