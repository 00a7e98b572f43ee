import SuplaCore.Dobject.Objects
import SuplaCore.Lib.Batch

/-!
# Objects that are sent in packs

`supla_client_channel_relation_remote_updater` and `supla_client_channel_state_remote_updater`
(`supla-server/src/client/`) with `datapack_add` and `datapack_set_eol` of `srpc/srpc_adapter.h`.
They differ in the version of the protocol from which on they send, in the size of a pack and in
what is copied to an item, which is a value of any type.

The pointer `first` is the place of the object it points to. `new` succeeds, so no transaction is
rejected.
-/

namespace Dobject.PackUpdater

open Batch

/-- An item with `START_OF_LIST_BIT` and `END_OF_LIST_BIT` of its `EOL`. -/
structure Item (V : Type) where
  startOfList : Bool
  endOfList : Bool
  content : V
  deriving DecidableEq

/-- A `supla_dobject` with its `supla_dobject_change_indicator`. -/
structure Obj (V : Type) where
  content : V
  changed : Bool

/-- What the two updaters differ in. -/
structure Kind where
  versionMin : Nat
  maxcount : Nat

/-- `supla_client_channel_relation_remote_updater` -/
def channelRelation : Kind := ⟨21, 100⟩

/-- `supla_client_channel_state_remote_updater` -/
def channelState : Kind := ⟨26, 20⟩

/-- The objects, the updater and its members. -/
structure Container (V : Type) where
  objects : List (Obj V)
  updater : Updater
  pack : Option (Pack (Item V))
  first : Option Nat

variable {V : Type}

/-- `datapack_add` -/
def datapackAdd (maxCount : Nat) (sol : Bool) (content : V) (pack : Pack (Item V)) :
    Bool × Pack (Item V) :=
  if pack.items.length < maxCount then (true, pack.add ⟨sol, false, content⟩)
  else (false, pack.leave)

/-- `datapack_set_eol` with `set_bit`. -/
def datapackSetEol (pack : Pack (Item V)) : Pack (Item V) :=
  if pack.totalLeft = 0 then
    { pack with
      items := pack.items.modify (pack.items.length - 1) fun i => { i with endOfList := true } }
  else pack

namespace Container

/-- The first loop of `update_remote`; `pre_transaction_verification` notes the front object. -/
def verifyAll (s : Container V) : Container V :=
  if s.objects = [] then s else { s with first := some 0 }

def beginTransaction (s : Container V) : Container V :=
  if s.updater.transactionStarted then s
  else { s with pack := some ⟨[], 0⟩, updater := ⟨true, false, false, false⟩ }

/-- `prepare_the_update` for the object at a place, and what `update` does with its answer. -/
def prepare (k : Kind) (i : Nat) (o : Obj V) (s : Container V) : Obj V × Container V :=
  match s.pack with
  | none => (o, s)
  | some pack =>
    match datapackAdd k.maxcount (s.first = some i) o.content pack with
    | (true, pack) =>
      ({ o with changed := false },
        { s with pack := some pack, updater := { s.updater with anyUpdates := true } })
    | (false, pack) => (o, { s with pack := some pack })

def update (k : Kind) (i : Nat) (o : Obj V) (s : Container V) : Obj V × Container V :=
  if o.changed then
    let s := s.beginTransaction
    if s.updater.isTransactionRejected then (o, s) else s.prepare k i o
  else (o, s)

/-- The second loop of `update_remote`, from a place on. -/
def updateAll (k : Kind) : Nat → List (Obj V) → Container V → List (Obj V) × Container V
  | _, [], s => ([], s)
  | i, o :: objects, s =>
    let r := s.update k i o
    if r.2.updater.isTransactionRejected || r.2.updater.isTransactionShouldEnd then
      (r.1 :: objects, r.2)
    else
      let rest := updateAll k (i + 1) objects r.2
      (r.1 :: rest.1, rest.2)

/-- `on_transaction_end`, with the pack that it sends. -/
def onTransactionEnd (s : Container V) : List (Pack (Item V)) × Container V :=
  let sent := match s.pack with
    | none => []
    | some pack => if pack.items.length > 0 then [datapackSetEol pack] else []
  (sent, { s with pack := none, first := none })

def endTransaction (s : Container V) : Bool × List (Pack (Item V)) × Container V :=
  if s.updater.transactionStarted then
    let r := s.onTransactionEnd
    (r.2.updater.anyUpdates, r.1,
      { r.2 with updater := { r.2.updater with transactionStarted := false } })
  else (false, [], s)

/-- `update_remote` -/
def updateRemote (k : Kind) (version : Nat) (s : Container V) :
    Bool × List (Pack (Item V)) × Container V :=
  if version ≥ k.versionMin then
    let s := s.verifyAll
    let r := updateAll k 0 s.objects s
    { r.2 with objects := r.1 }.endTransaction
  else (false, [], s)

/-- `supla_client_channel_reactions::load`, with the relations of the channels. What is added behind
them makes a client clear its list where there are none. -/
def loadRelations (relations : List V) (empty : V) (s : Container V) : Container V :=
  { s with objects := (relations ++ [empty]).map fun v => ⟨v, true⟩ }

/-- `supla_client_channels_state::load` -/
def loadStates (version : Nat) (states : List V) (s : Container V) : Container V :=
  if version ≥ channelState.versionMin then { s with objects := states.map fun v => ⟨v, true⟩ }
  else s

/-- `supla_client_channels_state::update_remote` -/
def updateStates (version : Nat) (s : Container V) : Bool × List (Pack (Item V)) × Container V :=
  let r := s.updateRemote channelState version
  (r.1, r.2.1, if r.1 then r.2.2 else { r.2.2 with objects := [] })

end Container

/-- The calls of `update_remote` until it returns false, at most `fuel` of them. -/
def updates (k : Kind) (version : Nat) : Nat → Container V →
    Option (List (Pack (Item V)) × Container V)
  | 0, _ => none
  | fuel + 1, s =>
    let r := s.updateRemote k version
    if r.1 then (updates k version fuel r.2.2).map fun rest => (r.2.1 ++ rest.1, rest.2)
    else some (r.2.1, r.2.2)

end Dobject.PackUpdater
