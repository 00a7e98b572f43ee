import Mathlib.Data.Fintype.Basic
import SuplaCore.Client.ObjContainer
import SuplaCore.Client.Proof.Channels
import SuplaCore.Client.Proof.SceneSync
import SuplaCore.Common.SafeArray
import SuplaCore.Dobject.Proof.PackUpdater
import SuplaCore.Lib.Dialogue

/-!
# The lists of a client

`supla_client_locations` (`supla-server/src/client/clientlocation.cpp`) and
`supla_client_channelgroups` (`clientchannelgroups.cpp`, with `proto_get` of the groups and their
relations to channels): what a `remote_update` sends of them. The value of a channel is of any type.

`supla_client::iterate` (`supla-server/src/client/client.cpp`) sends what has changed in the lists
of a client, one pack in a turn, and the client asks for the next one (`supla_ch_get_next`) when it
has got a pack (`supla-client/src/supla-client.c`). Other threads change the lists and call
`remote_update_lists`, or update a list themselves, as `set_location_caption`, `set_scene_caption`
and the observers of the scenes do.

The update of a list is one step here, and a list may become any other when it is changed. The lists
with an updater are as they are between two calls of it.
-/

namespace Client

open Batch ObjContainer

/-- `SUPLA_LOCATION_CAPTION_MAXSIZE` and `SUPLA_CHANNELGROUP_CAPTION_MAXSIZE`. -/
def captionMaxsize : Nat := 401

/-- A caption with its size, as it is copied to an item. -/
structure Caption where
  size : Nat
  text : List UInt8
  deriving DecidableEq

def Caption.copy (caption : Option (List UInt8)) : Caption :=
  let text := (caption.getD []).take (captionMaxsize - 1)
  ⟨text.length + 1, text⟩

/-! ## Locations -/

/-- `supla_client_location` -/
structure Location where
  id : Int
  caption : Option (List UInt8)

/-- `TSC_SuplaLocation` -/
structure LocationItem where
  eol : Bool
  id : Int
  caption : Caption
  deriving DecidableEq

/-- `proto_get_location`, with `EOL` as it is set after it. -/
def Location.protoGetLocation (l : Location) : LocationItem := ⟨false, l.id, .copy l.caption⟩

namespace Locations

/-- `SUPLA_LOCATIONPACK_MAXCOUNT` -/
def locationpackMaxcount : Nat := 20

/-- The loop of `remote_update`, with room for so many items. -/
def collect : Nat → SafeArray.TSafeArray Location →
    List LocationItem × SafeArray.TSafeArray Location
  | 0, arr => ([], arr)
  | room + 1, arr =>
    match SafeArray.pop true arr with
    | (none, arr) => ([], arr)
    | (some loc, arr) =>
      let rest := collect room arr
      (loc.protoGetLocation :: rest.1, rest.2)

/-- `remote_update`. The last item of each pack has the end of the list. -/
def remoteUpdate (arr : SafeArray.TSafeArray Location) :
    Bool × List (List LocationItem) × SafeArray.TSafeArray Location :=
  let r := collect locationpackMaxcount arr
  if r.1.length > 0 then
    (true, [r.1.modify (r.1.length - 1) fun item => { item with eol := true }], r.2)
  else (false, [], r.2)

end Locations

/-! ## Channel groups -/

namespace ChannelGroups

/-- `SUPLA_CHANNELGROUP_PACK_MAXCOUNT` -/
def channelgroupPackMaxcount : Nat := 20

/-- `SUPLA_CHANNELGROUP_RELATION_PACK_MAXCOUNT` -/
def channelgroupRelationPackMaxcount : Nat := 100

/-- `SUPLA_CHANNELVALUE_PACK_MAXCOUNT` -/
def channelvaluePackMaxcount : Nat := 20

/-- `supla_client_channelgroup` -/
structure Group where
  id : Int
  locationId : Int
  func : Int
  altIcon : Int
  userIcon : Int
  flags : Int
  caption : Option (List UInt8)

/-- `TSC_SuplaChannelGroup`, which has no `UserIcon`, and `TSC_SuplaChannelGroup_B`. -/
inductive GroupItem
  | a (id locationId func altIcon flags : Int) (caption : Caption)
  | b (id locationId func altIcon userIcon flags : Int) (caption : Caption)
  deriving DecidableEq

/-- `proto_get` for the layout of the version. -/
def Group.protoGet (version : Nat) (g : Group) : GroupItem :=
  if version ≥ 10 then
    .b g.id g.locationId g.func g.altIcon g.userIcon g.flags (.copy g.caption)
  else .a g.id g.locationId g.func g.altIcon g.flags (.copy g.caption)

/-- `supla_client_channelgroup_relation` -/
structure Relation where
  channelId : Int
  groupId : Int

/-- `TSC_SuplaChannelGroupRelation` -/
structure RelationItem where
  channelGroupId : Int
  channelId : Int
  deriving DecidableEq

def Relation.protoGet (r : Relation) : RelationItem := ⟨r.groupId, r.channelId⟩

/-- `supla_client_channelgroup_value`, with what the user has of the channel. -/
structure Value (V : Type) where
  channelId : Int
  value : V

/-- `TSC_SuplaChannelValue` and `TSC_SuplaChannelValue_B`; only the latter has the type of the
second value. -/
inductive ValueItem (V : Type)
  | a (id : Int) (value : V)
  | b (id : Int) (value : V)
  deriving DecidableEq

variable {V : Type}

def Value.protoGet (version : Nat) (v : Value V) : ValueItem V :=
  if version ≥ 15 then .b v.channelId v.value else .a v.channelId v.value

/-- An item of a pack with its `EOL`. -/
structure PackItem (R : Type) where
  eol : Bool
  record : R
  deriving DecidableEq

/-- `get_datapack_for_remote` -/
def getDatapackForRemote {C R : Type} (maxCount : Nat) (protoGet : C → R) (c : C)
    (data : Option (Pack (PackItem R))) : Fetch (Pack (PackItem R)) :=
  let pack := data.getD ⟨[], 0⟩
  if pack.items.length < maxCount then ⟨true, some (pack.add ⟨false, protoGet c⟩), true⟩
  else ⟨false, some pack.leave, true⟩

/-- `set_pack_eol` -/
def setPackEol {R : Type} (pack : Pack (PackItem R)) : Pack (PackItem R) :=
  if pack.totalLeft = 0 then
    { pack with
      items := pack.items.modify (pack.items.length - 1) fun item => { item with eol := true } }
  else pack

/-- The calls of `srpc` with the packs. -/
inductive Message (V : Type)
  | channelgroupPackUpdate (pack : Pack (PackItem GroupItem))
  | channelgroupRelationPackUpdate (pack : Pack (PackItem RelationItem))
  | channelvaluePackUpdate (pack : Pack (PackItem (ValueItem V)))

/-- `get_data_for_remote` and `send_data_to_remote_and_free` for a scope; each has one data type. -/
def remoteOf {C R : Type} (maxCount : Nat) (protoGet : C → R)
    (call : Pack (PackItem R) → Message V) : Remote C (Message V) where
  Data := Pack (PackItem R)
  getData := getDatapackForRemote maxCount protoGet
  send := fun pack => call (setPackEol pack)

def master (version : Nat) : Remote Group (Message V) :=
  remoteOf channelgroupPackMaxcount (Group.protoGet version) .channelgroupPackUpdate

def detail1 : Remote Relation (Message V) :=
  remoteOf channelgroupRelationPackMaxcount Relation.protoGet .channelgroupRelationPackUpdate

def detail2 (version : Nat) : Remote (Value V) (Message V) :=
  remoteOf channelvaluePackMaxcount (Value.protoGet version) .channelvaluePackUpdate

/-- The arrays of the three scopes. -/
structure Groups (V : Type) where
  master : List (Obj Unit Group)
  detail1 : List (Obj Unit Relation)
  detail2 : List (Obj Unit (Value V))

/-- `remote_update` over the scopes. -/
def remoteUpdate (version : Nat) (s : Groups V) : Bool × List (Message V) × Groups V :=
  let groups := doRemoteUpdate (ChannelGroups.master version) () s.master
  if groups.result then (true, groups.sent, { s with master := groups.objs })
  else
    let relations := doRemoteUpdate ChannelGroups.detail1 () s.detail1
    if relations.result then
      (true, groups.sent ++ relations.sent, ⟨groups.objs, relations.objs, s.detail2⟩)
    else
      let values := doRemoteUpdate (ChannelGroups.detail2 version) () s.detail2
      (values.result, groups.sent ++ relations.sent ++ values.sent,
        ⟨groups.objs, relations.objs, values.objs⟩)

end ChannelGroups

end Client

namespace Client.Lists

open Batch Dialogue Dobject ObjContainer

inductive ListKind
  | locations
  | channels
  | channelGroups
  | scenes
  | channelRelations
  | channelStates
  deriving DecidableEq

instance ListKind.instFintype : Fintype ListKind where
  elems := {.locations, .channels, .channelGroups, .scenes, .channelRelations, .channelStates}
  complete k := by cases k <;> decide

/-- `TSC_SuplaChannelRelation` -/
structure ChannelRelation where
  id : Int
  parentId : Int
  type : Int
  deriving DecidableEq

/-- What the server sends. Values, the states of scenes and those of channels are values of any
type. -/
inductive Message (V : Type)
  | locationpack (items : List LocationItem)
  | channels (m : Channels.Message V)
  | channelGroups (m : ChannelGroups.Message V)
  | scenes (pack : Scenes.SentPack V)
  | channelRelations (pack : Pack (PackUpdater.Item ChannelRelation))
  | channelStates (pack : Pack (PackUpdater.Item V))

variable {V : Type}

/-! ## The updates -/

def locations : Source (Message V) where
  Content := SafeArray.TSafeArray Location
  update arr :=
    let r := Locations.remoteUpdate arr
    (r.1, r.2.1.map .locationpack, r.2.2)
  left arr := arr.length

/-- The data of the channels that are marked for a data type, where they have any. -/
def dataToSend (version : Nat) (t : Channels.DataType)
    (objs : List (Obj Channels.DataType (Channels.Channel V))) : List (Channels.Record V) :=
  (marked t objs).filterMap (Channels.Channel.dataFor version t)

def channels (version : Nat) : Source (Message V) where
  Content := List (Obj Channels.DataType (Channels.Channel V))
  update objs :=
    let u := remoteUpdate (Channels.remote version) Channels.availableDataTypesForRemote objs
    (u.result, u.sent.map .channels, u.objs)
  left objs := (Channels.availableDataTypesForRemote.map fun t =>
    (dataToSend version t objs).length).sum

def channelGroups (version : Nat) : Source (Message V) where
  Content := ChannelGroups.Groups V
  update s :=
    let r := ChannelGroups.remoteUpdate version s
    (r.1, r.2.1.map .channelGroups, r.2.2)
  left s := (marked () s.master).length + (marked () s.detail1).length +
    (marked () s.detail2).length

theorem idle_scenes {s : Scenes.Container V} (h : s.Idle) : s.updateRemote.2.2.Idle := by
  by_cases hversion : s.protoVersion ≥ 18
  · obtain ⟨s', hcall, -, hidle, -⟩ | ⟨k, s', hcall, hsends, -⟩ :=
      Scenes.Container.updateRemote_spec h hversion
    · rw [hcall]
      exact hidle
    · rw [hcall]
      exact hsends.idle
  · rw [Scenes.Container.updateRemote, if_neg hversion]
    exact h

def scenes : Source (Message V) where
  Content := { s : Scenes.Container V // s.Idle }
  update s :=
    let r := s.1.updateRemote
    (r.1, r.2.1.map .scenes, ⟨r.2.2, idle_scenes s.2⟩)
  left s := if s.1.protoVersion ≥ 18 then s.1.owed else 0

theorem idle_updateRemote {k : PackUpdater.Kind} {version : Nat} (hmax : 0 < k.maxcount)
    {W : Type} {s : PackUpdater.Container W} (h : s.Idle) :
    (s.updateRemote k version).2.2.Idle := by
  by_cases hversion : version ≥ k.versionMin
  · obtain ⟨-, s', hcall, -, hidle⟩ | ⟨-, s', hcall, hleft⟩ :=
      PackUpdater.Container.updateRemote_spec h hversion hmax
    · rw [hcall]
      exact hidle
    · rw [hcall]
      exact hleft.idle
  · rw [PackUpdater.Container.updateRemote, if_neg hversion]
    exact h

theorem idle_updateStates {version : Nat} {s : PackUpdater.Container V} (h : s.Idle) :
    (s.updateStates version).2.2.Idle := by
  have hidle : (s.updateRemote PackUpdater.channelState version).2.2.Idle :=
    idle_updateRemote (by decide) h
  rw [PackUpdater.Container.updateStates]
  dsimp only
  split
  · exact hidle
  · exact ⟨hidle.pack, hidle.started, hidle.rejected⟩

def channelRelations (version : Nat) : Source (Message V) where
  Content := { s : PackUpdater.Container ChannelRelation // s.Idle }
  update s :=
    let r := s.1.updateRemote PackUpdater.channelRelation version
    (r.1, r.2.1.map .channelRelations, ⟨r.2.2, idle_updateRemote (by decide) s.2⟩)
  left s := if version ≥ PackUpdater.channelRelation.versionMin then
      (PackUpdater.toSend 0 s.1.objects).length
    else 0

def channelStates (version : Nat) : Source (Message V) where
  Content := { s : PackUpdater.Container V // s.Idle }
  update s :=
    let r := s.1.updateStates version
    (r.1, r.2.1.map .channelStates, ⟨r.2.2, idle_updateStates s.2⟩)
  left s := if version ≥ PackUpdater.channelState.versionMin then
      (PackUpdater.toSend 0 s.1.objects).length
    else 0

/-! ## The client -/

def source (version : Nat) : ListKind → Source (Message V)
  | .locations => locations
  | .channels => channels version
  | .channelGroups => channelGroups version
  | .scenes => scenes
  | .channelRelations => channelRelations version
  | .channelStates => channelStates version

/-- The order of `iterate`. -/
def order : List ListKind :=
  [.locations, .channels, .channelGroups, .scenes, .channelRelations, .channelStates]

/-- Which callbacks an application has set, of those that matter. -/
structure Callbacks where
  cbSceneUpdate : Bool
  cbSceneStateUpdate : Bool

/-- Whether the client calls `srpc_cs_async_get_next` for what it has got: it returns early from the
handlers of the two packs of scenes. -/
def asksForNext (cfg : Callbacks) : Message V → Bool
  | .locationpack _ => true
  | .channels _ => true
  | .channelGroups _ => true
  | .scenes pack =>
    match pack.kind with
    | .scene => cfg.cbSceneUpdate
    | .state => cfg.cbSceneStateUpdate
  | .channelRelations _ => true
  | .channelStates _ => true

/-- A client of a version, once its lists are loaded and to be sent. -/
def machine (V : Type) (version : Nat) (cfg : Callbacks) :
    Sys.Machine (State (source (V := V) version)) (Act (source (V := V) version)) :=
  dialogue (source version) order (asksForNext cfg)

end Client.Lists
