import SuplaCore.Lib.Sys
import SuplaCore.Mqtt.Topics

/-!
# The clean-up subscriptions

`supla_mqtt_unpublisher_datasource` (`supla-server/src/mqtt/mqtt_unpublisher_datasource.cpp`), the
part for the users whose publication is switched off: the topics of such a user are subscribed for
a while, so that what the broker has retained comes in and is erased. `subscribe_timeto` is kept by
its seconds, the only part that is compared.

What the database answers and what the clock shows is part of the step. `handedOut` has every topic
that was returned, the newest first, and `since` is the time of the call that found the user; both
are not in the source and nothing is decided by them.
-/

namespace Mqtt

def SUBSCRIPTION_TIME_SEC : Int := 20

/-- `_unpub_user_item_t` -/
structure UnpubUserItem where
  userId : Int
  mqttEnabled : Bool
  needsSubscribe : Bool
  subscribeTimeto : Int
  deriving DecidableEq

/-- What a user turns to. -/
def UnpubUserItem.setEnabled (mqttEnabled : Bool) (it : UnpubUserItem) : UnpubUserItem :=
  if it.mqttEnabled ≠ mqttEnabled then
    if mqttEnabled then
      { it with mqttEnabled, needsSubscribe := false, subscribeTimeto := 1 }
    else { it with mqttEnabled, needsSubscribe := true, subscribeTimeto := 0 }
  else it

/-- What `supla_mqtt_unpublisher_user_topic_provider` reads of `_mqtt_db_data_row_user_t`. -/
structure UserRow where
  userId : Int
  userSuid : String
  deriving DecidableEq

/-- `supla_mqtt_unpublisher_user_topic_provider` -/
structure UserTopicProvider where
  row : Option UserRow
  unsubscribe : Bool
  index : Nat
  since : Int
  deriving DecidableEq

namespace UserTopicProvider

def getMessageAtIndex (topicPrefix : String) (p : UserTopicProvider) : Option String :=
  match p.row with
  | none => none
  | some row =>
    match p.index with
    | 0 => if row.userSuid = "" then none else some (createTopic topicPrefix row.userSuid "#")
    | 1 => some ("homeassistant/+/" ++ row.userSuid ++ "/+/config")
    | _ => none

/-- `set_data_row` -/
def setDataRow (row : UserRow) (unsubscribe : Bool) (now : Int) : UserTopicProvider :=
  ⟨some row, unsubscribe, 0, now⟩

end UserTopicProvider

structure HandedOut where
  userId : Int
  topicName : String
  unsubscribe : Bool
  since : Int
  deriving DecidableEq

/-- The users with their topic provider. -/
structure UnpubUsers where
  users : List UnpubUserItem
  provider : UserTopicProvider
  handedOut : List HandedOut

namespace UnpubUsers

/-- The `mqtt_enabled` of `supla_mqtt_db`, which finds no row where its query fails. -/
inductive EnabledAnswer
  | notConnected
  | failed
  | found (enabled : Bool)

/-- `on_userdata_changed` with what `mqtt_enabled` returns. -/
def setEnabled (userId : Int) (mqttEnabled : Bool) (users : List UnpubUserItem) :
    List UnpubUserItem :=
  if users.any fun it => it.userId = userId then
    users.modify (users.findIdx fun it => it.userId = userId) (.setEnabled mqttEnabled)
  else if mqttEnabled then users ++ [⟨userId, mqttEnabled, false, 0⟩]
  else users

/-- `on_userdata_changed`; ids of users are positive, and the query returns the id that it finds. -/
def onUserdataChanged (userId : Int) (answer : EnabledAnswer) (s : UnpubUsers) : UnpubUsers :=
  match answer with
  | .notConnected => s
  | .failed => { s with users := setEnabled userId false s.users }
  | .found enabled =>
    { s with users := setEnabled userId (enabled && decide (0 < userId)) s.users }

/-- The condition of the loop of `fetch_subscription`. -/
def due (now : Int) (it : UnpubUserItem) : Bool :=
  (it.needsSubscribe && it.subscribeTimeto = 0) ||
    (it.subscribeTimeto ≠ 0 && it.subscribeTimeto ≤ now)

/-- What the loop makes of the list, where it stops at `user`. -/
def advance (now : Int) (user : UnpubUserItem) (users : List UnpubUserItem) :
    List UnpubUserItem :=
  let i := users.findIdx (due now)
  if user.needsSubscribe then
    users.modify i fun it =>
      { it with subscribeTimeto := now + SUBSCRIPTION_TIME_SEC, needsSubscribe := false }
  else if user.mqttEnabled then users.modify i fun it => { it with subscribeTimeto := 0 }
  else users.eraseIdx i

/-- `fetch` of the provider; the topic is returned. -/
def fetchTopic (topicPrefix : String) (s : UnpubUsers) : Option UnpubUsers :=
  match s.provider.row, s.provider.getMessageAtIndex topicPrefix with
  | some row, some topicName =>
    some { s with
      provider := { s.provider with index := s.provider.index + 1 }
      handedOut :=
        ⟨row.userId, topicName, s.provider.unsubscribe, s.provider.since⟩ :: s.handedOut }
  | _, _ => none

/-- The row that the query finds for the user the loop has stopped at; `suid` is none where the
connection or the query fails or there is no row. -/
def setRow (now : Int) (user : UnpubUserItem) (suid : Option String) (s : UnpubUsers) :
    UnpubUsers :=
  match suid with
  | some suid =>
    if user.userId ≠ 0 then
      { s with provider := .setDataRow ⟨user.userId, suid⟩ (!user.needsSubscribe) now }
    else s
  | none => s

def fetchSubscription (topicPrefix : String) (now : Int) (suid : Option String) (s : UnpubUsers) :
    UnpubUsers :=
  match s.fetchTopic topicPrefix with
  | some s => s
  | none =>
    match s.users.find? (due now) with
    | some user =>
      -- the list is changed before the database is asked
      let s := { s with users := advance now user s.users }.setRow now user suid
      (s.fetchTopic topicPrefix).getD s
    | none => (s.fetchTopic topicPrefix).getD s

end UnpubUsers

inductive UnpubAct
  | userdataChanged (userId : Int) (answer : UnpubUsers.EnabledAnswer)
  | fetchSubscription (now : Int) (suid : Option String)

/-- The users as `thread_init` loads them, and calls in any order; the clock is past the first
second of its epoch. -/
def unpubUsers (topicPrefix : String) : Sys.Machine UnpubUsers UnpubAct where
  init s := ∃ ids : List Int, ids.Nodup ∧ (∀ id ∈ ids, id ≠ 0) ∧
    s = ⟨ids.map (⟨·, true, false, 0⟩), ⟨none, false, 0, 0⟩, []⟩
  step s
    | .userdataChanged userId answer => some (s.onUserdataChanged userId answer)
    | .fetchSubscription now suid =>
      if 0 < now then some (s.fetchSubscription topicPrefix now suid) else none

end Mqtt
