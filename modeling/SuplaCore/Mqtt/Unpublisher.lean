import SuplaCore.Mqtt.Datasource
import SuplaCore.Mqtt.Topics

/-!
# Removing the topics of a changed channel

`supla_mqtt_unpublisher_datasource` (`supla-server/src/mqtt/mqtt_unpublisher_datasource.cpp`), the
part for the channels whose function changes: the row before the change is taken over, and when the
change is through a context is opened that returns the topics to be removed
(`mqtt_removed_topics_provider.cpp`). The part for deleted devices is left out: only for these a
context of a device is opened. Of the users only the flag `mqtt_enabled` is kept.

`after` of a changed channel is never loaded, here as in the source.
-/

namespace Mqtt

def expireTimeSec : Int := 10

/-- `_unpub_channel_item_t`. -/
structure ChannelItem where
  before : ChannelRow
  after : ChannelRow
  eventTime : Int
  deriving DecidableEq

structure Unpublisher where
  users : List (Int × Bool)
  modifiedChannels : List ChannelItem
  queues : Queues
  context : Context
  contextOpen : Bool
  /-- the topics of `removed_topics_provider`, where there is one -/
  removedTopics : Option (List String)
  deriving DecidableEq

/-- The topics of `before` that `after` has not got
(`supla_mqtt_removed_topics_provider::set_data`). -/
def removedTopics (before after : ChannelAndState) : List String :=
  let topicsAfter := after.fetchAll
  before.fetchAll.filter fun topic => !topicsAfter.contains topic

namespace Unpublisher

def isUserEnabled (s : Unpublisher) (userId : Int) : Bool :=
  match s.users.find? fun u => u.1 = userId with
  | some u => u.2
  | none => false

def isContextAllowed (s : Unpublisher) : Context → Bool
  | .device u _ => s.isUserEnabled u
  | .channelState u _ _ => s.isUserEnabled u
  | _ => false

def removeExpired (s : Unpublisher) (now : Int) : Unpublisher :=
  { s with
    modifiedChannels :=
      s.modifiedChannels.filter fun item => ¬ item.eventTime + expireTimeSec < now }

/-- `row` is what `load_channel_row` finds in the database. -/
def beforeChannelFunctionChange (s : Unpublisher) (now : Int) (row : Option ChannelRow)
    (channelId : Int) : Unpublisher :=
  let s := s.removeExpired now
  if s.modifiedChannels.any fun item => item.before.channelId = channelId then
    -- the oldest row is kept
    let i := s.modifiedChannels.findIdx fun item => item.before.channelId = channelId
    { s with
      modifiedChannels := s.modifiedChannels.modify i fun item => { item with eventTime := now } }
  else
    match row with
    | some row =>
      if row.channelId ≠ 0 then
        { s with modifiedChannels := s.modifiedChannels ++ [⟨row, .zero, now⟩] }
      else s
    | none => s

def onChannelstateChanged (s : Unpublisher) (userId deviceId channelId : Int) : Unpublisher :=
  if s.isContextAllowed (.channelState userId deviceId channelId) then
    { s with queues := s.queues.onChannelstateChanged userId deviceId channelId }
  else s

def onDevicedataChanged (s : Unpublisher) (now : Int) (deviceId : Int) : Unpublisher :=
  let s := s.removeExpired now
  (s.modifiedChannels.filter fun item => item.before.deviceId = deviceId).foldl
    (fun s item =>
      s.onChannelstateChanged item.before.userId item.before.deviceId item.before.channelId) s

/-! ## Fetching -/

/-- `context_open`, of a channel. -/
def openContext (topicPrefix : String) (live : Option ChannelFunction) (s : Unpublisher) :
    Unpublisher :=
  match s.context with
  | .channelState _ _ channelId =>
    match s.modifiedChannels.find? fun item => item.before.channelId = channelId with
    | some item =>
      { s with
        modifiedChannels :=
          s.modifiedChannels.eraseP fun item => item.before.channelId = channelId
        removedTopics :=
          some (Mqtt.removedTopics (.setDataRow topicPrefix live item.before)
            (.setDataRow topicPrefix live item.after))
        contextOpen := true }
    | none => { s with contextOpen := false }
  | _ => { s with contextOpen := false }

/-- `__fetch`, with the topic and whether the context was closed. -/
def fetchOnce (topicPrefix : String) (live : Option ChannelFunction) (now : Int)
    (s : Unpublisher) : Option String × Bool × Unpublisher :=
  let s :=
    if s.contextOpen then s
    else
      match s.queues.take with
      | some (c, q) => openContext topicPrefix live { s with queues := q, context := c }
      | none => s
  if s.contextOpen then
    let s := { s.removeExpired now with context := s.context.setUserId 0 }
    match s.removedTopics with
    | some (topic :: rest) => (some topic, false, { s with removedTopics := some rest })
    | _ => (none, true, { s with removedTopics := none, contextOpen := false })
  else (none, false, s)

def fetch (topicPrefix : String) (live : Option ChannelFunction) (now : Int) (s : Unpublisher) :
    Option String × Unpublisher :=
  match fetchOnce topicPrefix live now s with
  | (some topic, _, s) => (some topic, s)
  | (none, true, s) =>
    match fetchOnce topicPrefix live now s with
    | (topic, _, s) => (topic, s)
  | (none, false, s) => (none, s)

/-- The topics that are returned until there are no more, if `n` calls at the times given get
there. -/
def fetches (topicPrefix : String) (live : Option ChannelFunction) (now : Nat → Int) :
    Nat → Unpublisher → Option (List String)
  | 0, _ => none
  | n + 1, s =>
    match fetch topicPrefix live (now n) s with
    | (some topic, s) => (fetches topicPrefix live now n s).map (topic :: ·)
    | (none, _) => some []

end Unpublisher

end Mqtt
