import SuplaCore.Vbt.Trigger
import SuplaCore.Lib.Sys
import SuplaCore.Lib.Collect

/-!
# The triggers of a user and their scheduler

`supla_value_based_triggers` and `supla_vbt_scheduler`
(`supla-server/src/vbt/value_based_triggers.cpp`, `vbt_scheduler.cpp`) as a machine. A step is a
section that one of their locks delimits, or the code between two such sections:

* `change`: the locked loop of `on_value_changed`. What has to wait becomes a batch that the thread
  still has to hand to the scheduler; what does not is handed to `fire`.
* `publish`: `add_delayed` with one of these batches.
* `collect`: the locked part of a scheduler pass; `fire`: the pass fires the next trigger that it
  found ready. The next pass begins when nothing is left to fire.
* `loadBegin`, `loadNext`, `loadFinish`: `load` holds the lock of the triggers from its first to
  its last step; in between it calls `erase` of the scheduler for every trigger it drops.

A trigger is known by its place in `objects`, its identity as a shared pointer.
-/

namespace Vbt

/-- What happens, as far as it is recorded: a change of a channel, a trigger handed to `fire`, and
a trigger fired by the scheduler. -/
inductive Event (V : Values)
  | changed (time : Nat) (channelId : Int) (old new : ChannelValue V)
  | handed (time : Nat) (trigger : Nat)
  | fired (trigger : Nat)

/-- A `load` between its first and its last step: what the database returned, the triggers still
to be compared and those that stay. -/
structure Loading (V : Values) where
  stored : List (TriggerDef V)
  todo : List Nat
  kept : List Nat

structure State (V : Values) where
  clock : Nat
  objects : List (Trigger V)
  live : List Nat
  loading : Option (Loading V)
  delayed : List Nat
  batches : List (List Nat)
  ready : List Nat
  /-- Newest first. -/
  trace : List (Event V)
  /-- Triggers that a `load` has told the scheduler to erase. -/
  erased : List Nat
  /-- Triggers that a `load` that has returned removed or replaced. -/
  removed : List Nat

inductive Op (V : Values)
  | tick (us : Nat)
  | change (channelId : Int) (old new : ChannelValue V)
  | publish (batch : Nat)
  | collect
  | fire
  | loadBegin (stored : List (TriggerDef V))
  | loadNext
  | loadFinish

/-- `is_now_active` of an active period at a time, for the time zone and the place of the user. -/
abbrev Calendar : Type := ActivePeriod → Nat → Bool

variable {V : Values}

/-! ## A change of a value -/

/-- What the loop of `on_value_changed` has collected. -/
structure Matches (V : Values) where
  objects : List (Trigger V)
  delayed : List Nat
  matched : List Nat

/-- One trigger of the loop. -/
def matchOne (cal : Calendar) (now : Nat) (channelId : Int) (old new : ChannelValue V)
    (m : Matches V) (p : Nat) : Matches V :=
  match m.objects[p]? with
  | none => m
  | some t =>
    let r := t.metByValues now channelId old new
    let m := { m with objects := m.objects.set p r.1 }
    match r.2 with
    | none => m
    | some left =>
      if 0 < left then { m with delayed := m.delayed ++ [p] }
      else if cal t.activePeriod now then { m with matched := m.matched ++ [p] }
      else m

def onValueChanged (cal : Calendar) (s : State V) (channelId : Int) (old new : ChannelValue V) :
    State V :=
  let m := s.live.foldl (matchOne cal s.clock channelId old new) ⟨s.objects, [], []⟩
  { s with
    objects := m.objects
    batches := if m.delayed.isEmpty then s.batches else s.batches ++ [m.delayed]
    trace := (m.matched.map (.handed s.clock)).reverse ++
      .changed s.clock channelId old new :: s.trace }

/-! ## The scheduler -/

/-- `add_delayed`: a trigger that waits already is not added again. -/
def addDelayed (delayed batch : List Nat) : List Nat :=
  batch.foldl (Collect.push fun a b => a == b) delayed

/-- What the locked part of a pass has collected. -/
structure Pass (V : Values) where
  objects : List (Trigger V)
  delayed : List Nat
  ready : List Nat

/-- One entry of the list of delayed triggers; it stays as long as there is time left. -/
def pollOne (cal : Calendar) (now : Nat) (m : Pass V) (p : Nat) : Pass V :=
  match m.objects[p]? with
  | none => m
  | some t =>
    let r := t.metByTime now
    let m := { m with objects := m.objects.set p r.1 }
    if r.2.2 * 1000 ≤ 0 then
      if r.2.1 && cal t.activePeriod now then { m with ready := m.ready ++ [p] } else m
    else { m with delayed := m.delayed ++ [p] }

def collect (cal : Calendar) (s : State V) : State V :=
  let m := s.delayed.foldl (pollOne cal s.clock) ⟨s.objects, [], []⟩
  { s with
    objects := m.objects
    delayed := m.delayed
    ready := m.ready
    trace := (m.ready.map (.handed s.clock)).reverse ++ s.trace }

/-! ## Loading -/

/-- The stored trigger of the same identifier, if `equal` says that it did not change. -/
def unchanged (stored : List (TriggerDef V)) (t : Trigger V) : Bool :=
  match stored.find? fun n => decide (t.id = n.id) with
  | some n => n.equal t.definition
  | none => false

/-- One trigger of the first loop of `load`. -/
def loadNext (s : State V) (l : Loading V) (p : Nat) (todo : List Nat) : State V :=
  match s.objects[p]? with
  | none => s
  | some t =>
    if unchanged l.stored t then
      { s with loading := some { l with todo := todo, kept := l.kept ++ [p] } }
    else
      { s with
        loading := some { l with todo := todo }
        delayed := s.delayed.filter (· ≠ p)
        erased := p :: s.erased }

/-- The second loop of `load`: stored triggers whose identifier is not there are added. -/
def addMissing (objects : List (Trigger V)) (live : List Nat) :
    List (TriggerDef V) → List (Trigger V) × List Nat
  | [] => (objects, live)
  | n :: stored =>
    if live.any fun p => (objects[p]?).any fun t => decide (t.id = n.id) then
      addMissing objects live stored
    else addMissing (objects ++ [.ofDef n]) (live ++ [objects.length]) stored

def loadFinish (s : State V) (l : Loading V) : State V :=
  let r := addMissing s.objects l.kept l.stored
  { s with
    objects := r.1
    live := r.2
    loading := none
    removed := s.live.filter (fun p => p ∉ l.kept) ++ s.removed }

/-! ## The machine -/

def step (cal : Calendar) (s : State V) : Op V → Option (State V)
  | .tick us => some { s with clock := s.clock + us }
  | .change channelId old new =>
    if s.loading.isNone then some (onValueChanged cal s channelId old new) else none
  | .publish i =>
    match s.batches[i]? with
    | none => none
    | some batch =>
      some { s with batches := s.batches.eraseIdx i, delayed := addDelayed s.delayed batch }
  | .collect => if s.ready.isEmpty then some (collect cal s) else none
  | .fire =>
    match s.ready with
    | [] => none
    | p :: ready => some { s with ready := ready, trace := .fired p :: s.trace }
  | .loadBegin stored =>
    if s.loading.isNone ∧ (stored.map TriggerDef.id).Nodup then
      some { s with loading := some ⟨stored, s.live, []⟩ }
    else none
  | .loadNext =>
    match s.loading with
    | none => none
    | some l =>
      match l.todo with
      | [] => none
      | p :: todo => some (loadNext s l p todo)
  | .loadFinish =>
    match s.loading with
    | none => none
    | some l => if l.todo.isEmpty then some (loadFinish s l) else none

/-- A user whose triggers were loaded, and nothing has happened yet. -/
def start (stored : List (TriggerDef V)) : State V where
  clock := 0
  objects := stored.map .ofDef
  live := List.range stored.length
  loading := none
  delayed := []
  batches := []
  ready := []
  trace := []
  erased := []
  removed := []

/-- The runs that begin with the given triggers. -/
def machine (cal : Calendar) (stored : List (TriggerDef V)) : Sys.Machine (State V) (Op V) where
  init s := s = start stored
  step := step cal

end Vbt
