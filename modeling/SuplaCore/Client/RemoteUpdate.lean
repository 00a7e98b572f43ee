import SuplaCore.Client.Channels
import SuplaCore.Lib.Sys

/-!
# Updates while channels change

The thread of a client goes through its channels in `remote_update` while other threads change them
and set their marks. The array is not locked, so each access of the thread to an object is a step of
its own: reading the mark, copying the data, clearing the mark. `srpc` may refuse what it is handed.

Channels for which `remote_update_is_possible` is false are never marked and are left out. `K` is
what a client is told with `DATA1` only (function, caption), `W` is the value.
-/

namespace Client.Channels

open ObjContainer Sys

/-- `mark_for_remote_update`: with the channel its value is sent as well. -/
def markForRemoteUpdate {C : Type} (t : DataType) (o : Obj DataType C) : Obj DataType C :=
  let o := { o with mark := fun u => o.mark u || u = t }
  if o.mark .data1 && o.mark .data2 then o.unmarkForRemoteUpdate .data2 else o

/-- Where the thread of the client is. -/
inductive Pc (version : Nat) (K W : Type)
  /-- outside of `remote_update` -/
  | idle
  /-- before it reads the mark of the object at a place -/
  | look (t : DataType) (place : Nat) (result : Bool)
      (data : Option (remote (V := K × W) version t).Data)
  /-- before `get_data_for_remote` -/
  | copy (t : DataType) (place : Nat) (result : Bool)
      (data : Option (remote (V := K × W) version t).Data)
  /-- before `unmark_for_remote_update` -/
  | unmark (t : DataType) (place : Nat) (checkMore : Bool)
      (data : Option (remote (V := K × W) version t).Data)
  /-- behind the loop -/
  | send (t : DataType) (result : Bool) (data : Option (remote (V := K × W) version t).Data)

/-- The channels, the thread, and the calls that `srpc` has accepted. -/
structure State (version : Nat) (K W : Type) where
  objs : List (Obj DataType (Channel (K × W)))
  pc : Pc version K W
  accepted : List (Message (K × W))

variable {version : Nat} {K W : Type}

/-- Where the loop goes on. -/
def Pc.next (t : DataType) (place : Nat) (result checkMore : Bool)
    (data : Option (remote (V := K × W) version t).Data) : Pc version K W :=
  if checkMore then .look t (place + 1) result data else .send t result data

/-- Where `remote_update` goes on. -/
def Pc.afterUpdate (t : DataType) (result : Bool) : Pc version K W :=
  if result then .idle
  else
    match t with
    | .data1 => .look .data2 0 false none
    | .data2 => .look .data3 0 false none
    | .data3 => .idle

namespace State

/-- The mark of the object at a place is read. -/
def look (t : DataType) (place : Nat) (result : Bool)
    (data : Option (remote (V := K × W) version t).Data) (s : State version K W) :
    State version K W :=
  match s.objs[place]? with
  | none => { s with pc := .send t result data }
  | some o =>
    if o.mark t then { s with pc := .copy t place result data }
    else { s with pc := .look t (place + 1) result data }

/-- `get_data_for_remote` for the object at a place. -/
def copy (t : DataType) (place : Nat) (result : Bool)
    (data : Option (remote (V := K × W) version t).Data) (s : State version K W) :
    State version K W :=
  match s.objs[place]? with
  | none => { s with pc := .send t result data }
  | some o =>
    let got := (remote version t).getData o.content data
    if got.result then { s with pc := .unmark t place got.checkMore got.data }
    else { s with pc := .next t place result got.checkMore got.data }

def threadStep (accept : Bool) (s : State version K W) : State version K W :=
  match s.pc with
  | .idle => { s with pc := .look .data1 0 false none }
  | .look t place result data => s.look t place result data
  | .copy t place result data => s.copy t place result data
  | .unmark t place checkMore data =>
    { s with
      objs := s.objs.modify place (·.unmarkForRemoteUpdate t)
      pc := .next t place true checkMore data }
  | .send t result data =>
    { s with
      accepted := s.accepted ++ if accept then (data.map (remote version t).send).toList else []
      pc := .afterUpdate t result }

/-- A channel changes, and is then marked. -/
def change (place : Nat) (t : DataType) (f : Channel (K × W) → Channel (K × W))
    (s : State version K W) : State version K W :=
  { s with
    objs := s.objs.modify place fun o => markForRemoteUpdate t { o with content := f o.content } }

end State

inductive Act (K W : Type)
  /-- the next step of the thread; whether `srpc` accepts what it is handed there -/
  | thread (accept : Bool)
  /-- `set_func` or `setCaption` -/
  | changeChannel (place : Nat) (k : K)
  /-- `on_channel_value_changed` -/
  | changeValue (place : Nat) (w : W)
  /-- `on_channel_value_changed` for an extended value -/
  | changeExtendedValue (place : Nat) (value meter : Option ExtendedValue)
  | mark (place : Nat) (t : DataType)

def State.step (s : State version K W) : Act K W → Option (State version K W)
  | .thread accept => some (s.threadStep accept)
  | .changeChannel place k =>
    some (s.change place .data1 fun c => { c with content := (k, c.content.2) })
  | .changeValue place w =>
    some (s.change place .data2 fun c => { c with content := (c.content.1, w) })
  | .changeExtendedValue place value meter =>
    some (s.change place .data3 fun c => { c with extendedValue := value, meterValue := meter })
  | .mark place t => some (s.change place t id)

/-- The channels of a client after they were loaded. -/
def machine (version : Nat) (K W : Type) : Machine (State version K W) (Act K W) where
  init s := (s.objs.map (·.content.id)).Nodup ∧
    (∀ o ∈ s.objs, ∀ t, o.mark t = decide (t ≠ .data2)) ∧
    s.pc = .idle ∧ s.accepted = []
  step := State.step

end Client.Channels
