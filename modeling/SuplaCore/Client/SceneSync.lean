import SuplaCore.Client.Scenes

/-!
# One caller of `update_remote`

A whole call of `supla_dobjects::update_remote` on the scenes of a client (`dobjects.cpp`,
`abstract_dobject_remote_updater.cpp`, `client_scene_remote_updater.cpp`), made of what a thread
does in it step by step, with the packs that it hands over.
-/

namespace Client.Scenes

/-- A pack as it is handed over. `eol` is the mark of its last item, the others have none. -/
structure SentPack (S : Type) where
  kind : Kind
  items : List (Item S)
  totalLeft : Nat
  eol : Bool
  deriving DecidableEq

namespace Container

variable {S : Type}

/-- A pack as it is in memory. -/
def sentPack (k : Kind) (b : Pack S) : SentPack S := ⟨k, b.items, b.totalLeft, b.eol⟩

/-- The part of `on_transaction_end` for one pack. -/
def endPack (k : Kind) (s : Container S) : List (SentPack S) × Container S :=
  match s.pack k with
  | none => ([], s)
  | some p =>
    let r :=
      if s.itemsOf k = [] then ([], s.deref k id)
      else
        let s := (s.deref k id).derefUnlessNull k Pack.setEol
        ([sentPack k (s.heap p)], s.handOver k)
    (r.1, (r.2.derefUnlessNull k fun b => { b with deleted := true }).setPointer k none)

def onTransactionEnd (s : Container S) : List (SentPack S) × Container S :=
  let scene := s.endPack .scene
  let state := scene.2.endPack .state
  (scene.1 ++ state.1, state.2)

def endTransaction (s : Container S) : Bool × List (SentPack S) × Container S :=
  if s.updater.transactionStarted then
    let r := s.onTransactionEnd
    let s := { r.2 with updater := { r.2.updater with transactionStarted := false } }
    (s.updater.anyUpdates, r.1, s)
  else (false, [], s)

def updateRemote (s : Container S) : Bool × List (SentPack S) × Container S :=
  if s.protoVersion ≥ 18 then s.lockedPass.endTransaction else (false, [], s)

end Container

end Client.Scenes
