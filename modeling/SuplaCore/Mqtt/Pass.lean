import SuplaCore.Mqtt.Publisher
import SuplaCore.Mqtt.Topics

/-!
# A publication pass

`_fetch` of `supla_mqtt_publisher_datasource` on an open context, call by call
(`mqtt_publisher_datasource.cpp`), within `__fetch` of `mqtt_client_datasource.cpp`, which clears
the user id of the context before the call and closes the context after a call without a message.

The queries are functions of the ids in the context, and a row comes with the messages that its
provider has at the indexes 0, 1, … (fewer than an `unsigned short` can tell apart). The database is
connected and no query fails.
-/

namespace Mqtt

namespace Pass

/-- A row of the users. -/
structure UserRow where
  userId : Int
  messages : List String

/-- A row of the devices. -/
structure DeviceRow where
  messages : List String

/-- A row of the channels, with the messages of both providers. -/
structure ChannelRow where
  channel : List String
  state : List String

/-- What the queries find for the ids in a context. With a user id they find some of the rows that
they find without one. -/
structure Queries where
  users : Context → List UserRow
  devices : Context → List DeviceRow
  channels : Context → List ChannelRow
  /-- the messages of the provider of one channel state -/
  states : Context → List String
  userId_ne_zero : ∀ c, ∀ r ∈ users c, r.userId ≠ 0
  nodup : ∀ c, ((users c).map (·.userId)).Nodup
  devices_sublist : ∀ c, (devices c).Sublist (devices (c.setUserId 0))
  channels_sublist : ∀ c, (channels c).Sublist (channels (c.setUserId 0))

/-! ## Providers -/

/-- A provider with its index. -/
inductive Provider
  | plain (messages : List String) (index : Nat)
  | channelAndState (p : ChannelAndState)

def Provider.fetch : Provider → Option String × Provider
  | plain messages index =>
    match messages[index]? with
    | some m => (some m, plain messages (index + 1))
    | none => (none, plain messages index)
  | channelAndState p => (p.fetch.1, channelAndState p.fetch.2)

def UserRow.provider (r : UserRow) : Provider := .plain r.messages 0

def DeviceRow.provider (r : DeviceRow) : Provider := .plain r.messages 0

def ChannelRow.provider (r : ChannelRow) : Provider :=
  .channelAndState ⟨some r.channel, some r.state, 0⟩

/-! ## One query -/

/-- An open query: the provider of its row, and the rows to come. -/
structure Cursor (ρ : Type) where
  provider : Provider
  rest : List ρ

section
variable {ρ : Type} (provider : ρ → Provider) (setProviderDataRow : ρ → Context → Context)

/-- The second half of `fetch`: no more than one row is passed over. -/
def Cursor.fetch (cur : Cursor ρ) (c : Context) : Option String × Cursor ρ × Context :=
  match cur.provider.fetch with
  | (some m, p) => (some m, ⟨p, cur.rest⟩, c)
  | (none, p) =>
    match cur.rest with
    | [] => (none, ⟨p, []⟩, c)
    | r :: rest =>
      let next := (provider r).fetch
      (next.1, ⟨next.2, rest⟩, setProviderDataRow r c)

/-- `fetch`; without a row the query is open and has nothing. -/
def fetch (openQuery : Context → List ρ) (query : Option (Cursor ρ)) (c : Context) :
    Option String × Option (Cursor ρ) × Context :=
  match query with
  | some cur =>
    let r := cur.fetch provider setProviderDataRow c
    (r.1, some r.2.1, r.2.2)
  | none =>
    match openQuery c with
    | [] => (none, none, c)
    | r :: rest =>
      let r := Cursor.fetch provider setProviderDataRow ⟨provider r, rest⟩
        (setProviderDataRow r c)
      (r.1, some r.2.1, r.2.2)

end

end Pass

/-! ## The datasource -/

structure Pass where
  context : Context
  contextOpen : Bool
  usersEnabled : List Int
  usersEnabledTmp : List Int
  fetchUsers : Bool
  fetchDevices : Bool
  fetchChannels : Bool
  fetchStates : Bool
  userQuery : Option (Pass.Cursor Pass.UserRow)
  deviceQuery : Option (Pass.Cursor Pass.DeviceRow)
  channelQuery : Option (Pass.Cursor Pass.ChannelRow)
  stateProvider : Option Pass.Provider

namespace Pass

/-- No context is open. -/
def closed (usersEnabled : List Int) : Pass :=
  { context := .none, contextOpen := false, usersEnabled := usersEnabled, usersEnabledTmp := []
    fetchUsers := false, fetchDevices := false, fetchChannels := false, fetchStates := false
    userQuery := none, deviceQuery := none, channelQuery := none, stateProvider := none }

def contextOpens (c : Context) (s : Pass) : Pass :=
  let s := { s with context := c, contextOpen := true, fetchUsers := false, fetchDevices := false
                    fetchChannels := false, fetchStates := false }
  match c with
  | .full _ => { s with fetchUsers := true, fetchDevices := true, fetchChannels := true
                        usersEnabledTmp := [] }
  | .user _ => { s with fetchUsers := true, fetchDevices := true, fetchChannels := true
                        usersEnabledTmp := [] }
  | .device _ _ => { s with fetchDevices := true, fetchChannels := true }
  | .channelState _ _ _ => { s with fetchStates := true }
  | .none => s

/-- `set_provider_data_row` sets the user id of the context. -/
def fetchUser (q : Queries) (s : Pass) : Option String × Pass :=
  if s.fetchUsers then
    let r := fetch UserRow.provider (fun r => Context.setUserId r.userId) q.users s.userQuery
      s.context
    match r.1 with
    | some m => (some m, { s with userQuery := r.2.1, context := r.2.2 })
    | none => (none, { s with fetchUsers := false, userQuery := none, context := r.2.2 })
  else (none, s)

def fetchDevice (q : Queries) (s : Pass) : Option String × Pass :=
  if s.fetchDevices then
    let r := fetch DeviceRow.provider (fun _ c => c) q.devices s.deviceQuery s.context
    match r.1 with
    | some m => (some m, { s with deviceQuery := r.2.1, context := r.2.2 })
    | none => (none, { s with fetchDevices := false, deviceQuery := none, context := r.2.2 })
  else (none, s)

def fetchChannel (q : Queries) (s : Pass) : Option String × Pass :=
  if s.fetchChannels then
    let r := fetch ChannelRow.provider (fun _ c => c) q.channels s.channelQuery s.context
    match r.1 with
    | some m => (some m, { s with channelQuery := r.2.1, context := r.2.2 })
    | none => (none, { s with fetchChannels := false, channelQuery := none, context := r.2.2 })
  else (none, s)

def fetchState (q : Queries) (s : Pass) : Option String × Pass :=
  if s.fetchStates then
    let r := (s.stateProvider.getD (.plain (q.states s.context) 0)).fetch
    (r.1, { s with stateProvider := some r.2 })
  else (none, s)

/-- A part of `_fetch` that is reached without a message. -/
def orElse (part : Pass → Option String × Pass) (r : Option String × Pass) :
    Option String × Pass :=
  match r.1 with
  | some _ => r
  | none => part r.2

/-- The end of `_fetch` with a message. -/
def noteUser (s : Pass) : Pass :=
  if s.context.userId = 0 then s
  else
    match s.context with
    | .full u => { s with usersEnabledTmp := Publisher.addUserToList u s.usersEnabledTmp }
    | .user u => if s.usersEnabledTmp = [] then { s with usersEnabledTmp := [u] } else s
    | _ => s

/-- `_fetch` -/
def fetchNext (q : Queries) (s : Pass) : Option String × Pass :=
  let r := orElse (fetchState q) (orElse (fetchChannel q) (orElse (fetchDevice q) (s.fetchUser q)))
  match r.1 with
  | some m => (some m, r.2.noteUser)
  | none => (none, r.2)

def contextClose (s : Pass) : Pass :=
  let usersEnabled :=
    match s.context with
    | .full _ => s.usersEnabledTmp
    | .user u =>
      match s.usersEnabledTmp with
      | v :: _ => Publisher.addUserToList v s.usersEnabled
      | [] => if u ≠ 0 then s.usersEnabled.erase u else s.usersEnabled
    | _ => s.usersEnabled
  { s with
    usersEnabled := usersEnabled
    usersEnabledTmp := []
    fetchUsers := false
    fetchDevices := false
    fetchChannels := false
    fetchStates := false
    userQuery := none
    deviceQuery := none
    channelQuery := none
    stateProvider := none
    contextOpen := false }

/-- What `__fetch` does with an open context: a call returns false where it closes it. -/
def fetchOpen (q : Queries) (s : Pass) : Bool × List String × Pass :=
  let r := { s with context := s.context.setUserId 0 }.fetchNext q
  match r.1 with
  | some m => (true, [m], r.2)
  | none => (false, [], r.2.contextClose)

end Pass

end Mqtt
