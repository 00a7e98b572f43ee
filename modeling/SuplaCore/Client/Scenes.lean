import SuplaCore.Dobject.Objects

/-!
# The scenes of a client

`supla_client_scenes` with `supla_client_scene_remote_updater`
(`supla-server/src/client/client_scenes.cpp`, `client_scene.cpp`, `client_scene_remote_updater.cpp`)
for any number of threads that call `update_remote`, as the thread of the client and the observer
callbacks of the task queue do. The pass over the scenes is made under the lock and is one step;
the steps of `end_transaction` and `on_transaction_end` are made without it. Captions and states are
set under the lock.

The packs are blocks in memory. What is only there to speak about a run is kept apart: whether a
block was handed over, the `log`, and the two flags for misuse. The state of a scene is a value of
any type that can be compared; an item of a state pack carries the state it is made from.
-/

namespace Client.Scenes

open Sys

/-- The two kinds of packs, and of changes. -/
inductive Kind
  | scene
  | state
  deriving DecidableEq

/-- `supla_client_scene_change_indicator`. -/
structure Indicator where
  sceneChanged : Bool
  stateChanged : Bool
  deriving DecidableEq

instance : Dobject.ChangeIndicator Indicator := ⟨fun ind => ind.sceneChanged || ind.stateChanged⟩

def Indicator.changed (k : Kind) (ind : Indicator) : Bool :=
  match k with
  | .scene => ind.sceneChanged
  | .state => ind.stateChanged

def Indicator.set (k : Kind) (changed : Bool) (ind : Indicator) : Indicator :=
  match k with
  | .scene => { ind with sceneChanged := changed }
  | .state => { ind with stateChanged := changed }

def sceneCaptionMaxsize : Nat := 401

def packMaxcount : Nat := 20

/-- `supla_client_scene`. -/
structure Scene (S : Type) where
  id : Int
  locationId : Int
  altIconId : Int
  userIconId : Int
  caption : Option (List UInt8)
  state : S
  indicator : Indicator

/-- `TSC_SuplaScene` and `TSC_SuplaSceneState`. -/
inductive Item (S : Type)
  | scene (id locationId altIcon userIcon : Int) (caption : List UInt8)
  | state (sceneId : Int) (state : S)
  deriving DecidableEq

section
variable {S : Type}

/-- `convert`, with the caption as `sproto__set_null_terminated_string` copies it. -/
def Scene.convert (k : Kind) (sc : Scene S) : Item S :=
  match k with
  | .scene => .scene sc.id sc.locationId sc.altIconId sc.userIconId
      ((sc.caption.getD []).take (sceneCaptionMaxsize - 1))
  | .state => .state sc.id sc.state

def Scene.isChanged (sc : Scene S) : Bool := Dobject.ChangeIndicator.isChanged sc.indicator

/-- `set_caption`; `none` where the caption is the same. -/
def Scene.setCaption (caption : Option (List UInt8)) (sc : Scene S) : Option (Scene S) :=
  if sc.caption.map (·.take sceneCaptionMaxsize) =
      caption.map (·.take sceneCaptionMaxsize) then none
  else
    some { sc with
      caption := caption.map (·.take sceneCaptionMaxsize)
      indicator := sc.indicator.set .scene true }

/-- `set_state`; `none` where the state is the same. -/
def Scene.setState [DecidableEq S] (state : S) (sc : Scene S) : Option (Scene S) :=
  if sc.state = state then none
  else some { sc with state := state, indicator := sc.indicator.set .state true }

/-- `TSC_SuplaScenePack` and `TSC_SuplaSceneStatePack` as a block in memory. -/
structure Pack (S : Type) where
  items : List (Item S)
  totalLeft : Nat
  eol : Bool
  handed : Bool
  deleted : Bool

def Pack.empty : Pack S := ⟨[], 0, false, false, false⟩

/-- The last item is marked if nothing is left. -/
def Pack.setEol (b : Pack S) : Pack S := if b.totalLeft = 0 then { b with eol := true } else b

/-- Where a thread stands in `update_remote`. -/
inductive Pc
  /-- outside, with what the last call returned -/
  | idle (result : Bool)
  /-- before the lock -/
  | entered
  /-- before `end_transaction` looks at `transaction_started` -/
  | passed
  /-- before `on_transaction_end` looks at the pointer -/
  | check (k : Kind)
  | count (k : Kind)
  | setEol (k : Kind)
  | hand (k : Kind)
  | delete (k : Kind)
  | null (k : Kind)
  /-- before `transaction_started = false` -/
  | finish
  /-- before `return any_updates` -/
  | answer
  deriving DecidableEq

inductive Event (S : Type)
  /-- the caption or the state of the scene at a place has changed -/
  | changed (place : Nat) (k : Kind)
  | handed (items : List (Item S))

/-- The container, its updater and the threads. `log` has the newest event first. -/
structure Container (S : Type) where
  protoVersion : Nat
  scenes : List (Scene S)
  updater : Dobject.Updater
  anySceneChanged : Bool
  /-- `scene_pack` and `state_pack` -/
  pack : Kind → Option Nat
  heap : Nat → Pack S
  next : Nat
  pcs : Nat → Pc
  log : List (Event S)
  /-- an item was added to a pack that had been handed over or deleted -/
  addedLate : Bool
  /-- a pointer was used after its pack was deleted, or once it was cleared -/
  misused : Bool

namespace Container

def setPc (t : Nat) (pc : Pc) (s : Container S) : Container S :=
  { s with pcs := fun u => if u = t then pc else s.pcs u }

def setPointer (k : Kind) (p : Option Nat) (s : Container S) : Container S :=
  { s with pack := fun l => if l = k then p else s.pack l }

/-- An access to the block behind a pointer. -/
def access (p : Nat) (f : Pack S → Pack S) (s : Container S) : Container S :=
  { s with
    heap := fun q => if q = p then f (s.heap p) else s.heap q
    misused := s.misused || (s.heap p).deleted }

/-! ## The locked pass -/

/-- `pre_transaction_verification`: whether the loop goes on, and `any_scene_changed`. -/
def preTransactionVerification (sc : Scene S) (first anySceneChanged : Bool) : Bool × Bool :=
  if sc.indicator.sceneChanged then (false, true)
  else (true, if first then false else anySceneChanged)

def verifyAll : Bool → List (Scene S) → Bool → Bool
  | _, [], anySceneChanged => anySceneChanged
  | first, sc :: scenes, anySceneChanged =>
    match preTransactionVerification sc first anySceneChanged with
    | (false, anySceneChanged) => anySceneChanged
    | (true, anySceneChanged) => verifyAll false scenes anySceneChanged

/-- `new` where there is no pack, then `*pack = {}`. -/
def openPack (k : Kind) (s : Container S) : Container S :=
  match s.pack k with
  | none =>
    { s with
      heap := fun q => if q = s.next then .empty else s.heap q
      next := s.next + 1 }.setPointer k (some s.next)
  | some p => s.access p fun b => { Pack.empty with handed := b.handed, deleted := b.deleted }

def onTransactionBegin (sc : Scene S) (s : Container S) : Bool × Container S :=
  if s.anySceneChanged || sc.indicator.sceneChanged then (true, s.openPack .scene)
  else if sc.indicator.stateChanged then (true, s.openPack .state)
  else (false, s)

def beginTransaction (sc : Scene S) (s : Container S) : Container S :=
  if s.updater.transactionStarted then s
  else
    match s.onTransactionBegin sc with
    | (true, s) => { s with updater := ⟨true, false, false, false⟩ }
    | (false, s) => { s with updater := { s.updater with transactionRejected := true } }

/-- `datapack_add`. -/
def datapackAdd (p : Nat) (item : Item S) (s : Container S) : Bool × Container S :=
  if (s.heap p).items.length < packMaxcount then
    (true, { s with
      addedLate := s.addedLate || (s.heap p).handed || (s.heap p).deleted }.access p
        fun b => { b with items := b.items ++ [item] })
  else (false, s.access p fun b => { b with totalLeft := b.totalLeft + 1 })

/-- `prepare_the_update`: the scene with its new indicator, and whether there is one. -/
def prepareTheUpdate (sc : Scene S) (s : Container S) : Bool × Scene S × Container S :=
  match s.pack .scene, s.pack .state with
  | some p, _ =>
    if sc.indicator.sceneChanged then
      match s.datapackAdd p (sc.convert .scene) with
      | (true, s) => (true, { sc with indicator := sc.indicator.set .scene false }, s)
      | (false, s) => (false, sc, s)
    else (false, sc, s)
  | none, some p =>
    if sc.indicator.stateChanged then
      match s.datapackAdd p (sc.convert .state) with
      | (true, s) => (true, { sc with indicator := sc.indicator.set .state false }, s)
      | (false, s) => (false, sc, s)
    else (false, sc, s)
  | none, none => (false, sc, s)

/-- `update` from `prepare_the_update` on. -/
def prepare (sc : Scene S) (s : Container S) : Scene S × Container S :=
  match s.prepareTheUpdate sc with
  | (true, sc, s) => (sc, { s with updater := { s.updater with anyUpdates := true } })
  | (false, sc, s) => (sc, s)

def update (sc : Scene S) (s : Container S) : Scene S × Container S :=
  if sc.isChanged then
    if s.updater.transactionStarted then s.prepare sc
    else
      let s := s.beginTransaction sc
      if s.updater.transactionRejected then (sc, s) else s.prepare sc
  else (sc, s)

/-- The second loop of `update_remote`. -/
def updateAll : List (Scene S) → Container S → List (Scene S) × Container S
  | [], s => ([], s)
  | sc :: scenes, s =>
    let r := s.update sc
    if r.2.updater.isTransactionRejected || r.2.updater.isTransactionShouldEnd then
      (r.1 :: scenes, r.2)
    else
      let rest := updateAll scenes r.2
      (r.1 :: rest.1, rest.2)

/-- What `update_remote` does under the lock. -/
def lockedPass (s : Container S) : Container S :=
  let r := updateAll s.scenes
    { s with anySceneChanged := verifyAll true s.scenes s.anySceneChanged }
  { r.2 with scenes := r.1 }

/-! ## The steps of a thread -/

/-- What follows in `on_transaction_end` when it is done with one pack. -/
def afterPack : Kind → Pc
  | .scene => .check .state
  | .state => .finish

/-- The block is used through the pointer as it is now. -/
def deref (k : Kind) (f : Pack S → Pack S) (s : Container S) : Container S :=
  match s.pack k with
  | none => { s with misused := true }
  | some p => s.access p f

/-- `datapack_set_eol` and `delete` do nothing with a null pointer. -/
def derefUnlessNull (k : Kind) (f : Pack S → Pack S) (s : Container S) : Container S :=
  match s.pack k with
  | none => s
  | some p => s.access p f

def itemsOf (k : Kind) (s : Container S) : List (Item S) :=
  match s.pack k with
  | none => []
  | some p => (s.heap p).items

/-- `sc_async_scene_pack_update` or `sc_async_scene_state_pack_update`, which takes every pack. -/
def handOver (k : Kind) (s : Container S) : Container S :=
  { s with log := .handed (s.itemsOf k) :: s.log }.deref k fun b => { b with handed := true }

def threadStep (t : Nat) (s : Container S) : Container S :=
  match s.pcs t with
  | .idle _ => s.setPc t (if s.protoVersion ≥ 18 then .entered else .idle false)
  | .entered => s.lockedPass.setPc t .passed
  | .passed => s.setPc t (if s.updater.transactionStarted then .check .scene else .idle false)
  | .check k => s.setPc t (if (s.pack k).isSome then .count k else afterPack k)
  | .count k => (s.deref k id).setPc t (if s.itemsOf k = [] then .delete k else .setEol k)
  | .setEol k => (s.derefUnlessNull k Pack.setEol).setPc t (.hand k)
  | .hand k => (s.handOver k).setPc t (.delete k)
  | .delete k =>
    (s.derefUnlessNull k fun b => { b with deleted := true }).setPc t (.null k)
  | .null k => (s.setPointer k none).setPc t (afterPack k)
  | .finish =>
    { s with updater := { s.updater with transactionStarted := false } }.setPc t .answer
  | .answer => s.setPc t (.idle s.updater.anyUpdates)

/-- The scene at a place is set to what the function makes of it. -/
def setScene (place : Nat) (k : Kind) (f : Scene S → Option (Scene S)) (s : Container S) :
    Container S :=
  match (s.scenes[place]?).bind f with
  | none => s
  | some sc => { s with scenes := s.scenes.set place sc, log := .changed place k :: s.log }

end Container

inductive Act (S : Type)
  /-- the next step of a thread in `update_remote` -/
  | thread (t : Nat)
  | setCaption (place : Nat) (caption : Option (List UInt8))
  | setState (place : Nat) (state : S)

def Container.step [DecidableEq S] (s : Container S) : Act S → Option (Container S)
  | .thread t => some (s.threadStep t)
  | .setCaption place caption => some (s.setScene place .scene (·.setCaption caption))
  | .setState place state => some (s.setScene place .state (·.setState state))

/-- Any number of threads over scenes as they are loaded. -/
def machine (S : Type) [DecidableEq S] : Machine (Container S) (Act S) where
  init s := (∀ sc ∈ s.scenes, sc.indicator = ⟨true, true⟩) ∧ s.updater = .init ∧
    (∀ k, s.pack k = none) ∧ (∀ t, s.pcs t = .idle false) ∧ s.log = [] ∧ s.addedLate = false ∧
    s.misused = false
  step := Container.step

end

end Client.Scenes
