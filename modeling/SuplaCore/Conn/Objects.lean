import SuplaCore.Lib.Sys

/-!
# Live connection objects

`supla_connection_objects` (`supla-server/src/conn/connection_objects.cpp`): the weak references to
the objects of the connections of a user, of which the one that is added replaces those with its
id or GUID.

An object is a number, which no second object gets. The id and the GUID of an object are set
(`set_id`, `set_guid`) before it is added; they come with the call here, so an object may be added
again with others.
-/

namespace ConnectionObjects

variable {G : Type} [DecidableEq G]

/-- What is done to an object in a call of `add`. -/
inductive Event
  | onPrevious (p : Nat)
  | terminate (p : Nat)
  deriving DecidableEq

/-- A call of `add`: the object, whether there is an `on_previous`, the live objects that the list
lost and what was done to them. -/
structure Entry where
  obj : Nat
  hasOnPrevious : Bool
  removed : List Nat
  events : List Event
  deriving DecidableEq

/-- `log` has the calls of `add`, the last one first. -/
structure Objects (G : Type) where
  objects : List Nat
  id : Nat → Int
  guid : Nat → G
  expired : Nat → Bool
  log : List Entry

def Objects.init (id : Nat → Int) (guid : Nat → G) : Objects G := ⟨[], id, guid, fun _ => false, []⟩

/-- What the loop of `add` has found so far. -/
structure Walk where
  objects : List Nat
  ptrExists : Bool
  previous : Option Nat
  events : List Event

/-- One turn of the loop of `add`. -/
def visit (s : Objects G) (obj : Nat) (hasOnPrevious : Bool) (w : Walk) (p : Nat) : Walk :=
  if s.expired p then w
  else if p = obj then { w with objects := w.objects ++ [p], ptrExists := true }
  else if s.id p = s.id obj ∨ s.guid p = s.guid obj then
    { w with
      previous := some p
      events := w.events ++ if hasOnPrevious then [.onPrevious p] else [] }
  else { w with objects := w.objects ++ [p] }

def walk (s : Objects G) (obj : Nat) (hasOnPrevious : Bool) : Walk :=
  s.objects.foldl (visit s obj hasOnPrevious) ⟨[], false, none, []⟩

/-- The list after `add`, what was done, and the answer. -/
def addTo (s : Objects G) (obj : Nat) (hasOnPrevious : Bool) : List Nat × List Event × Bool :=
  let w := walk s obj hasOnPrevious
  if w.ptrExists then (w.objects, w.events, false)
  else (w.objects ++ [obj], w.events ++ (w.previous.map .terminate).toList, true)

/-- `add`, with its entry in the log. -/
def add (s : Objects G) (obj : Nat) (hasOnPrevious : Bool) : Objects G :=
  let r := addTo s obj hasOnPrevious
  let removed := s.objects.filter fun p => !s.expired p && decide (p ∉ r.1)
  { s with objects := r.1, log := ⟨obj, hasOnPrevious, removed, r.2.1⟩ :: s.log }

/-- `get`. -/
def get (s : Objects G) (id : Int) : Option Nat :=
  if id = 0 then none else s.objects.find? fun p => !s.expired p && decide (s.id p = id)

/-- `set_id` and `set_guid` of an object. -/
def identify (s : Objects G) (obj : Nat) (id : Int) (guid : G) : Objects G :=
  { s with
    id := fun p => if p = obj then id else s.id p
    guid := fun p => if p = obj then guid else s.guid p }

inductive Act (G : Type)
  | add (obj : Nat) (id : Int) (guid : G) (hasOnPrevious : Bool)
  | expire (obj : Nat)

/-- Who adds an object holds it, so it is not expired. -/
def step (s : Objects G) : Act G → Option (Objects G)
  | .add obj id guid hasOnPrevious =>
    if s.expired obj then none else some (add (identify s obj id guid) obj hasOnPrevious)
  | .expire obj => some { s with expired := fun p => decide (p = obj) || s.expired p }

def machine (G : Type) [DecidableEq G] : Sys.Machine (Objects G) (Act G) where
  init s := ∃ id guid, s = .init id guid
  step := step

end ConnectionObjects
