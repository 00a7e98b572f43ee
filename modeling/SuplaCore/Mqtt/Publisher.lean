import SuplaCore.Mqtt.Datasource

/-!
# What the publisher has published

`supla_mqtt_publisher_datasource` (`supla-server/src/mqtt/mqtt_publisher_datasource.cpp`) on the
queues of `supla_mqtt_client_datasource`. An open context walks through the rows of the users, the
devices and the channels; the provider of a row is asked for one message after another, and the
state of a channel is read with the first of its state messages
(`mqtt_abstract_state_message_provider.cpp`) and again only where it was not there.

Every access under the lock, every query and every question to a provider is one step. `version`
counts the changes of a channel, `published` has the version that the last state message of a
channel was made from; both are not in the source. A change brings its notification, which is first
checked (`is_context_allowed`) and then noted in the queues.
-/

namespace Mqtt

/-- The tables of the users, the devices and the channels, in the order of their ids. -/
structure Tables where
  users : List Int
  devices : List Int
  channels : List Int
  own : Owner

namespace Tables

def userOf (db : Tables) (channelId : Int) : Int := db.own.user (db.own.device channelId)

/-- The context of the state of a channel. -/
def channelContext (db : Tables) (channelId : Int) : Context :=
  .channelState (db.userOf channelId) (db.own.device channelId) channelId

/-- A condition `? = 0 OR id = ?`. -/
def matchId (wanted id : Int) : Bool := decide (wanted = 0 ∨ id = wanted)

/-- `open_userquery`. -/
def selectUsers (db : Tables) (enabled : Int → Bool) (c : Context) : List Int :=
  db.users.filter fun u => enabled u && matchId c.userId u

/-- `open_devicequery`. -/
def selectDevices (db : Tables) (enabled : Int → Bool) (c : Context) : List Int :=
  db.devices.filter fun d =>
    enabled (db.own.user d) && matchId c.userId (db.own.user d) && matchId c.deviceId d

/-- `open_channelquery`. -/
def selectChannels (db : Tables) (enabled : Int → Bool) (c : Context) : List Int :=
  db.channels.filter fun ch =>
    enabled (db.userOf ch) && matchId c.userId (db.userOf ch) &&
      matchId c.deviceId (db.own.device ch) && matchId c.channelId ch

end Tables

/-! ## The open context -/

/-- An open query of users or devices: the row of the provider and those to come. `sent` tells
whether the provider has given a message for the row. -/
structure Rows where
  current : Int
  rest : List Int
  sent : Bool
  deriving DecidableEq

/-- An open query of channels. `snapshot` is the version that was read for the state messages of
the row. -/
structure ChannelRows where
  current : Int
  rest : List Int
  snapshot : Option Nat
  deriving DecidableEq

/-- The parts of `_fetch`. -/
inductive Stage
  | users
  | devices
  | channels
  | states
  deriving DecidableEq

/-- Where a call of `fetch` stands; `second` in the second call of `__fetch`. -/
inductive PublisherPc
  | idle
  /-- before `context_should_be_opened` -/
  | deciding (second : Bool)
  /-- before `context_open` -/
  | opening (second : Bool)
  /-- before `_fetch` -/
  | fetching (second : Bool)
  /-- at a part of `_fetch` -/
  | stage (st : Stage) (second : Bool)
  /-- before a provider is asked for a message, `retry` for the next row of the same call -/
  | provider (st : Stage) (retry second : Bool)
  deriving DecidableEq

/-- What a provider answers: no message, a message about a user, a device or a channel, or a state
message; `again` where the state is read again. -/
inductive Answer
  | none
  | message
  | state (again : Bool)
  deriving DecidableEq

structure Publisher where
  queues : Queues
  context : Context
  contextOpen : Bool
  pc : PublisherPc
  usersEnabled : List Int
  usersEnabledTmp : List Int
  fetchUsers : Bool
  fetchDevices : Bool
  fetchChannels : Bool
  fetchStates : Bool
  userRows : Option Rows
  deviceRows : Option Rows
  channelRows : Option ChannelRows
  /-- the version that was read for the context of a channel state -/
  stateSnapshot : Option Nat
  /-- `mqtt_broker_enabled` in the database -/
  enabled : Int → Bool
  version : Int → Nat
  published : Int → Option Nat
  /-- notifications that follow a change and are not checked yet -/
  owed : List Notification
  /-- notifications that are allowed and not noted yet -/
  admitted : List Notification
  connected : Bool

namespace Publisher

def init (enabled : Int → Bool) : Publisher :=
  { queues := .empty, context := .none, contextOpen := false, pc := .idle, usersEnabled := []
    usersEnabledTmp := [], fetchUsers := false, fetchDevices := false, fetchChannels := false
    fetchStates := false, userRows := none, deviceRows := none, channelRows := none
    stateSnapshot := none, enabled := enabled, version := fun _ => 0, published := fun _ => none
    owed := [], admitted := [], connected := false }

def isContextAllowed (s : Publisher) : Context → Bool
  | .full _ => true
  | .user _ => true
  | .device u _ => s.usersEnabled.any (· = u)
  | .channelState u _ _ => s.usersEnabled.any (· = u)
  | .none => false

/-- `context_open` of the publisher, which always succeeds. -/
def openContext (s : Publisher) : Publisher :=
  let s := { s with fetchUsers := false, fetchDevices := false, fetchChannels := false
                    fetchStates := false, contextOpen := true }
  match s.context with
  | .full _ => { s with fetchUsers := true, fetchDevices := true, fetchChannels := true
                        usersEnabledTmp := [] }
  | .user _ => { s with fetchUsers := true, fetchDevices := true, fetchChannels := true
                        usersEnabledTmp := [] }
  | .device _ _ => { s with fetchDevices := true, fetchChannels := true }
  | .channelState _ _ _ => { s with fetchStates := true }
  | .none => s

def addUserToList (userId : Int) (users : List Int) : List Int :=
  if users.any (· = userId) then users else users ++ [userId]

/-- What `context_close` makes of `users_enabled`. -/
def closedUsers (s : Publisher) : List Int :=
  match s.context with
  | .full _ => s.usersEnabledTmp
  | .user u =>
    match s.usersEnabledTmp with
    | v :: _ => addUserToList v s.usersEnabled
    | [] => if u ≠ 0 then s.usersEnabled.erase u else s.usersEnabled
  | _ => s.usersEnabled

/-- `context_close`, after `_fetch` has given no message. -/
def closeContext (s : Publisher) (second : Bool) : Publisher :=
  { s with
    usersEnabled := s.closedUsers
    usersEnabledTmp := []
    fetchUsers := false
    fetchDevices := false
    fetchChannels := false
    fetchStates := false
    userRows := none
    deviceRows := none
    channelRows := none
    stateSnapshot := none
    contextOpen := false
    pc := if second then .idle else .deciding true }

/-- The end of `_fetch` with a message. -/
def fetched (s : Publisher) : Publisher :=
  let tmp :=
    if s.context.userId = 0 then s.usersEnabledTmp
    else
      match s.context with
      | .full u => addUserToList u s.usersEnabledTmp
      | .user u => if s.usersEnabledTmp = [] then [u] else s.usersEnabledTmp
      | _ => s.usersEnabledTmp
  { s with usersEnabledTmp := tmp, pc := .idle }

/-- A part of `_fetch` has no more messages: its flag is cleared and its query closed. -/
def endStage (s : Publisher) (second : Bool) : Stage → Publisher
  | .users => { s with fetchUsers := false, userRows := none, pc := .stage .devices second }
  | .devices => { s with fetchDevices := false, deviceRows := none, pc := .stage .channels second }
  | .channels => { s with fetchChannels := false, channelRows := none, pc := .stage .states second }
  | .states => s.closeContext second

/-- `db_fetch_row` and `set_provider_data_row`, or the end of the part. -/
def nextRow (s : Publisher) (st : Stage) (retry second : Bool) (rows : List Int) : Publisher :=
  match rows with
  | [] => s.endStage second st
  | r :: rs =>
    match st with
    | .users => { s with userRows := some ⟨r, rs, false⟩, context := s.context.setUserId r
                         pc := .provider .users retry second }
    | .devices => { s with deviceRows := some ⟨r, rs, false⟩
                           pc := .provider .devices retry second }
    | .channels => { s with channelRows := some ⟨r, rs, none⟩
                            pc := .provider .channels retry second }
    | .states => s

/-- A part of `_fetch` up to the first question to its provider. -/
def enterStage (db : Tables) (s : Publisher) (st : Stage) (second dbConnected : Bool) :
    Publisher :=
  match st with
  | .users =>
    if s.fetchUsers then
      match s.userRows with
      | some _ => { s with pc := .provider .users false second }
      | none =>
        s.nextRow .users false second
          (if dbConnected then db.selectUsers s.enabled s.context else [])
    else { s with pc := .stage .devices second }
  | .devices =>
    if s.fetchDevices then
      match s.deviceRows with
      | some _ => { s with pc := .provider .devices false second }
      | none =>
        s.nextRow .devices false second
          (if dbConnected then db.selectDevices s.enabled s.context else [])
    else { s with pc := .stage .channels second }
  | .channels =>
    if s.fetchChannels then
      match s.channelRows with
      | some _ => { s with pc := .provider .channels false second }
      | none =>
        s.nextRow .channels false second
          (if dbConnected then db.selectChannels s.enabled s.context else [])
    else { s with pc := .stage .states second }
  | .states =>
    if s.fetchStates then { s with pc := .provider .states false second }
    else s.closeContext second

/-- A state message of a channel, made from `version`. -/
def publish (s : Publisher) (channelId : Int) (version : Nat) : Publisher :=
  { s with published := fun c => if c = channelId then some version else s.published c }

/-- The version that a state message is made from. -/
def readVersion (s : Publisher) (channelId : Int) (snapshot : Option Nat) (again : Bool) : Nat :=
  if again then s.version channelId else snapshot.getD (s.version channelId)

/-- The answer of a provider; without a message the next row is tried once. -/
def answered (s : Publisher) (st : Stage) (retry second : Bool) (a : Answer) : Option Publisher :=
  match st, a with
  | .users, .message =>
    s.userRows.map fun r => { s with userRows := some { r with sent := true } }.fetched
  | .users, .none =>
    s.userRows.map fun r =>
      if retry then s.endStage second .users else s.nextRow .users true second r.rest
  | .devices, .message =>
    s.deviceRows.map fun r => { s with deviceRows := some { r with sent := true } }.fetched
  | .devices, .none =>
    s.deviceRows.map fun r =>
      if retry then s.endStage second .devices else s.nextRow .devices true second r.rest
  | .channels, .message => s.channelRows.map fun _ => s.fetched
  | .channels, .state again =>
    s.channelRows.map fun r =>
      let v := s.readVersion r.current r.snapshot again
      ({ s with channelRows := some { r with snapshot := some v } }.publish r.current v).fetched
  | .channels, .none =>
    s.channelRows.map fun r =>
      if retry then s.endStage second .channels else s.nextRow .channels true second r.rest
  | .states, .state again =>
    let c := s.context.channelId
    let v := s.readVersion c s.stateSnapshot again
    some ({ s with stateSnapshot := some v }.publish c v).fetched
  | .states, .none => some (s.endStage second .states)
  | _, _ => none

end Publisher

/-! ## The steps -/

inductive PublisherAct
  | brokerConnected
  | userdataChanged (userId : Int)
  /-- the database row of a user changes -/
  | setEnabled (userId : Int) (enabled : Bool)
  /-- a channel changes -/
  | changeChannel (channelId : Int)
  /-- a device changes, and with it its channels -/
  | changeDevice (deviceId : Int)
  /-- `is_context_allowed` for a notification -/
  | check (n : Notification)
  /-- the notification is noted in the queues -/
  | note (n : Notification)
  | fetch
  | contextShouldBeOpened
  | contextOpen
  | fetchNext
  | enterStage (dbConnected : Bool)
  | provider (a : Answer)

def Publisher.step (db : Tables) (s : Publisher) : PublisherAct → Option Publisher
  | .brokerConnected => some { s with queues := s.queues.onBrokerConnected, connected := true }
  | .userdataChanged u => some { s with queues := s.queues.onUserdataChanged u }
  | .setEnabled u e => some { s with enabled := fun v => if v = u then e else s.enabled v }
  | .changeChannel c =>
    some { s with
      version := fun ch => if ch = c then s.version ch + 1 else s.version ch
      owed := .channelstateChanged (db.userOf c) (db.own.device c) c :: s.owed }
  | .changeDevice d =>
    some { s with
      version := fun ch => if db.own.device ch = d then s.version ch + 1 else s.version ch
      owed := .devicedataChanged (db.own.user d) d :: s.owed }
  | .check n =>
    if n ∈ s.owed then
      if s.isContextAllowed n.context then
        some { s with owed := s.owed.erase n, admitted := n :: s.admitted }
      else some { s with owed := s.owed.erase n }
    else none
  | .note n =>
    if n ∈ s.admitted then
      some { s with queues := s.queues.notify n, admitted := s.admitted.erase n }
    else none
  | .fetch => if s.pc = .idle then some { s with pc := .deciding false } else none
  | .contextShouldBeOpened =>
    match s.pc with
    | .deciding second =>
      if s.contextOpen then some { s with pc := .fetching second }
      else
        match s.queues.take with
        | some (c, q) => some { s with queues := q, context := c, pc := .opening second }
        | none => some { s with pc := .fetching second }
    | _ => none
  | .contextOpen =>
    match s.pc with
    | .opening second => some { s.openContext with pc := .fetching second }
    | _ => none
  | .fetchNext =>
    match s.pc with
    | .fetching second =>
      if s.contextOpen then
        some { s with context := s.context.setUserId 0, pc := .stage .users second }
      else some { s with pc := .idle }
    | _ => none
  | .enterStage dbConnected =>
    match s.pc with
    | .stage st second => some (s.enterStage db st second dbConnected)
    | _ => none
  | .provider a =>
    match s.pc with
    | .provider st retry second => s.answered st retry second a
    | _ => none

end Mqtt
