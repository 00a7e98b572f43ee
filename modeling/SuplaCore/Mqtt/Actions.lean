import SuplaCore.Lib.Sys
import SuplaCore.Mqtt.Topics
import Mathlib.Algebra.Ring.Nat

/-!
# The queue of triggered actions

`on_actions_triggered` and `fetch_actions` of `supla_mqtt_publisher_datasource`
(`supla-server/src/mqtt/mqtt_publisher_datasource.cpp`), with the provider of the messages
(`mqtt_abstract_action_message_provider.cpp`). A time is what the source makes of a `timeval`, its
microseconds as an `unsigned long long`, and it is read with the call; what `_get_user_suid` finds
is part of the call.

`log` has what the calls have done, the newest first; it is not in the source and nothing is decided
by it.
-/

namespace Mqtt

def ACTION_TIMEOUT_MSEC : Nat := 3000

namespace ActionCap

def turnOn : BitVec 32 := 1#32 <<< 0
def turnOff : BitVec 32 := 1#32 <<< 1
def toggleX1 : BitVec 32 := 1#32 <<< 2
def toggleX2 : BitVec 32 := 1#32 <<< 3
def toggleX3 : BitVec 32 := 1#32 <<< 4
def toggleX4 : BitVec 32 := 1#32 <<< 5
def toggleX5 : BitVec 32 := 1#32 <<< 6
def rotateRight : BitVec 32 := 1#32 <<< 7
def hold : BitVec 32 := 1#32 <<< 10
def shortPressX1 : BitVec 32 := 1#32 <<< 11
def shortPressX2 : BitVec 32 := 1#32 <<< 12
def shortPressX3 : BitVec 32 := 1#32 <<< 13
def shortPressX4 : BitVec 32 := 1#32 <<< 14
def shortPressX5 : BitVec 32 := 1#32 <<< 15

/-- The actions that are published. -/
def published : BitVec 32 :=
  turnOn ||| turnOff ||| toggleX1 ||| toggleX2 ||| toggleX3 ||| toggleX4 ||| toggleX5 ||| hold |||
    shortPressX1 ||| shortPressX2 ||| shortPressX3 ||| shortPressX4 ||| shortPressX5

/-- The `switch` of `get_message_at_index`. -/
def topic (action : BitVec 32) : Option String :=
  [(turnOn, "turn_on"), (turnOff, "turn_off"), (toggleX1, "toggle_x1"), (toggleX2, "toggle_x2"),
    (toggleX3, "toggle_x3"), (toggleX4, "toggle_x4"), (toggleX5, "toggle_x5"), (hold, "hold"),
    (shortPressX1, "press_x1"), (shortPressX2, "press_x2"), (shortPressX3, "press_x3"),
    (shortPressX4, "press_x4"), (shortPressX5, "press_x5")].lookup action

end ActionCap

/-- The channel of an action trigger. -/
structure TriggerKey where
  userId : Int
  deviceId : Int
  channelId : Int
  deriving DecidableEq

/-- `_mqtt_ds_triggered_actions_t` -/
structure TriggeredActions where
  key : TriggerKey
  actions : BitVec 32
  time : Nat
  deriving DecidableEq

structure ActionMessage where
  topicName : String
  message : String
  deriving DecidableEq

/-- `supla_mqtt_action_message_provider` -/
structure ActionProvider where
  key : TriggerKey
  action : BitVec 32
  userSuid : Option String
  deriving DecidableEq

namespace ActionProvider

def new : ActionProvider := ⟨⟨0, 0, 0⟩, 0, none⟩

/-- `set_action`; the short unique id is looked up where the user is another one. -/
def setAction (getUserSuid : Int → Option String) (key : TriggerKey) (action : BitVec 32)
    (p : ActionProvider) : ActionProvider :=
  ⟨key, action, if p.key.userId ≠ key.userId then getUserSuid key.userId else p.userSuid⟩

/-- `get_message_at_index` at the index zero, with `create_message`. -/
def getMessage (topicPrefix : String) (p : ActionProvider) : Option ActionMessage :=
  match p.userSuid with
  | none => none
  | some userSuid =>
    if p.key.deviceId = 0 ∨ p.key.channelId = 0 ∨ p.action = 0 then none
    else
      match ActionCap.topic p.action with
      | none => none
      | some topic =>
        if userSuid = "" then none
        else some ⟨channelTopic topicPrefix userSuid p.key.deviceId p.key.channelId
          ("action/" ++ topic), topic⟩

end ActionProvider

inductive ActionEvent
  | triggered (key : TriggerKey) (actions : BitVec 32) (time : Nat)
  /-- `_get_user_suid` -/
  | lookedUp (userId : Int) (userSuid : Option String)
  /-- An action was taken out of the queue, with what the call returns. -/
  | taken (key : TriggerKey) (action : BitVec 32) (time : Nat) (message : Option ActionMessage)
  /-- An entry was dropped. -/
  | dropped (key : TriggerKey) (actions : BitVec 32) (time : Nat)
  deriving DecidableEq

structure ActionQueue where
  triggeredActions : List TriggeredActions
  provider : Option ActionProvider
  usersEnabled : List Int
  /-- the time of the last call -/
  clock : Nat
  log : List ActionEvent

namespace ActionQueue

/-- The loop of `on_actions_triggered` over the queue. -/
def merge (key : TriggerKey) (actions : BitVec 32) (now : Nat) :
    List TriggeredActions → List TriggeredActions
  | [] => []
  | it :: rest =>
    if it.key = key then { it with actions := it.actions ||| actions, time := now } :: rest
    else it :: merge key actions now rest

def onActionsTriggered (key : TriggerKey) (actions : BitVec 32) (now : Nat) (s : ActionQueue) :
    ActionQueue :=
  let s := { s with clock := now }
  if key.userId = 0 ∨ key.deviceId = 0 ∨ key.channelId = 0 then s
  else
    let actions := actions &&& ActionCap.published
    if actions = 0 then s
    else if s.triggeredActions.any (·.key = key) then
      { s with
        triggeredActions := merge key actions now s.triggeredActions
        log := .triggered key actions now :: s.log }
    else if s.usersEnabled.any (· = key.userId) then
      { s with
        triggeredActions := s.triggeredActions ++ [⟨key, actions, now⟩]
        log := .triggered key actions now :: s.log }
    else s

/-- The milliseconds since `time`, in 64-bit arithmetic. -/
def timeDiff (now time : Nat) : Nat := (now + 2 ^ 64 - time) % 2 ^ 64 / 1000

/-- The lowest bit that is set. -/
def lowestBit (actions : BitVec 32) : Option (BitVec 32) :=
  ((List.range 32).map (BitVec.twoPow 32)).find? fun bit => actions &&& bit ≠ 0

/-- An action was taken, and its message is made. -/
def publish (topicPrefix : String) (now : Nat) (getUserSuid : Int → Option String)
    (key : TriggerKey) (action : BitVec 32) (queue : List TriggeredActions) (s : ActionQueue) :
    Option ActionMessage × ActionQueue :=
  let before := s.provider.getD .new
  let provider := before.setAction getUserSuid key action
  let message := provider.getMessage topicPrefix
  let lookup : List ActionEvent :=
    if before.key.userId ≠ key.userId then [.lookedUp key.userId (getUserSuid key.userId)] else []
  (message,
    { s with
      triggeredActions := queue
      provider := some provider
      log := .taken key action now message :: (lookup ++ s.log) })

/-- `fetch_actions` with what it returns. -/
def fetchActions (topicPrefix : String) (now : Nat) (getUserSuid : Int → Option String)
    (s : ActionQueue) : Option ActionMessage × ActionQueue :=
  let s := { s with clock := now }
  match s.triggeredActions with
  | [] => (none, { s with provider := none })
  | front :: rest =>
    if ACTION_TIMEOUT_MSEC ≤ timeDiff now front.time then
      (none,
        { s with
          triggeredActions := rest
          provider := some (s.provider.getD .new)
          log := .dropped front.key front.actions now :: s.log })
    else
      match lowestBit front.actions with
      | none => (none, { s with provider := some (s.provider.getD .new) })
      | some bit =>
        let actions := front.actions &&& ~~~bit
        let queue := if actions ≠ 0 then { front with actions := actions } :: rest else rest
        s.publish topicPrefix now getUserSuid front.key bit queue

end ActionQueue

inductive ActionCall
  | onActionsTriggered (key : TriggerKey) (actions : BitVec 32) (now : Nat)
  | fetchActions (now : Nat) (getUserSuid : Int → Option String)
  /-- `users_enabled` changes as a context is closed. -/
  | usersEnabled (users : List Int)

/-- The time of a call. -/
def ActionCall.Timed (clock : Nat) : ActionCall → Prop
  | .onActionsTriggered _ _ now => clock ≤ now ∧ now < 2 ^ 64
  | .fetchActions now _ => clock ≤ now ∧ now < 2 ^ 64
  | .usersEnabled _ => True

instance (clock : Nat) (a : ActionCall) : Decidable (a.Timed clock) := by
  unfold ActionCall.Timed
  cases a <;> infer_instance

def ActionQueue.next (topicPrefix : String) (s : ActionQueue) : ActionCall → ActionQueue
  | .onActionsTriggered key actions now => s.onActionsTriggered key actions now
  | .fetchActions now getUserSuid => (s.fetchActions topicPrefix now getUserSuid).2
  | .usersEnabled users => { s with usersEnabled := users }

/-- Calls in any order; the clock does not go back. -/
def actionQueue (topicPrefix : String) : Sys.Machine ActionQueue ActionCall where
  init s := ∃ users, s = ⟨[], none, users, 0, []⟩
  step s a := if a.Timed s.clock then some (s.next topicPrefix a) else none

end Mqtt
