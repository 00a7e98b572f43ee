import SuplaCore.Lib.Batch

/-!
# Updating a client from a container of objects

`supla_client_objcontainer` (`supla-server/src/client/clientobjcontainer.cpp`) with the marks of its
items (`objcontaineritem.cpp`). Each data type has its own mark. What the containers differ in is a
parameter: `Remote` holds, for one data type, what is behind the `void *` and the two virtual
methods that use it.
-/

namespace Client.ObjContainer

/-- What `get_data_for_remote` returns, leaves behind `data` and sets `check_more` to. -/
structure Fetch (δ : Type) where
  result : Bool
  data : Option δ
  checkMore : Bool

/-- `get_data_for_remote` and `send_data_to_remote_and_free` for one data type. -/
structure Remote (C M : Type) where
  Data : Type
  getData : C → Option Data → Fetch Data
  send : Data → M

/-- `supla_client_objcontainer_item`: a mark for each data type, and what the object is about. -/
structure Obj (T C : Type) where
  content : C
  mark : T → Bool

variable {T C M : Type} [DecidableEq T]

def Obj.unmarkForRemoteUpdate (t : T) (o : Obj T C) : Obj T C :=
  { o with mark := fun u => o.mark u && u ≠ t }

/-- The state in which the loop of `do_remote_update` ends. -/
structure Pass (T C δ : Type) where
  result : Bool
  objs : List (Obj T C)
  data : Option δ

def loop (k : Remote C M) (t : T) : List (Obj T C) → Option k.Data → Pass T C k.Data
  | [], data => ⟨false, [], data⟩
  | o :: objs, data =>
    if o.mark t then
      let got := k.getData o.content data
      let o := if got.result then o.unmarkForRemoteUpdate t else o
      if got.checkMore then
        let rest := loop k t objs got.data
        ⟨got.result || rest.result, o :: rest.objs, rest.data⟩
      else ⟨got.result, o :: objs, got.data⟩
    else
      let rest := loop k t objs data
      ⟨rest.result, o :: rest.objs, rest.data⟩

/-- What an update returns, leaves and has sent. -/
structure Update (T C M : Type) where
  result : Bool
  objs : List (Obj T C)
  sent : List M

def doRemoteUpdate (k : Remote C M) (t : T) (objs : List (Obj T C)) : Update T C M :=
  let pass := loop k t objs none
  ⟨pass.result, pass.objs, (pass.data.map k.send).toList⟩

/-- `remote_update` over the available data types; it ends with the first update that does
something. The check that there are objects at all makes no difference. -/
def remoteUpdate (remote : T → Remote C M) : List T → List (Obj T C) → Update T C M
  | [], objs => ⟨false, objs, []⟩
  | t :: types, objs =>
    let u := doRemoteUpdate (remote t) t objs
    if u.result then u
    else
      let v := remoteUpdate remote types u.objs
      ⟨v.result, v.objs, u.sent ++ v.sent⟩

/-- `remote_update` called until it returns false, at most `fuel` times: all that was sent, and the
objects at the end. -/
def updates (remote : T → Remote C M) (types : List T) :
    Nat → List (Obj T C) → Option (List M × List (Obj T C))
  | 0, _ => none
  | fuel + 1, objs =>
    let u := remoteUpdate remote types objs
    if u.result then (updates remote types fuel u.objs).map fun r => (u.sent ++ r.1, r.2)
    else some (u.sent, u.objs)

/-- What the objects that are marked are about. -/
def marked (t : T) (objs : List (Obj T C)) : List C := (objs.filter (·.mark t)).map Obj.content

end Client.ObjContainer
