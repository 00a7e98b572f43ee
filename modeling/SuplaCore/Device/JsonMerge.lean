import SuplaCore.Device.JsonConfig

/-!
# Merging and pruning device configurations

`merge`, `leave_only_thise_fields`, `remove_fields` and `remove_empty_sub_roots` of
`device_json_config` (`supla-server/src/jsonconfig/device/device_json_config.cpp`) over
`supla_json_helper::merge` (`supla-common/helper/json_helper.cpp`). The comparison of values,
`cJSON_Compare`, is the parameter `same`. The sub-trees of a source are kept in a map by their
addresses, so either of them may come first (`homeFirst`).
-/

namespace Device.JsonConfig

open Json

variable {N : Doubles} {D : Type}

/-! ## The JSON helper -/

/-- One turn of the loop of `supla_json_helper::merge`: the destination and whether it changed. -/
def mergeItem (same : Node D → Node D → Bool) (deleteNonexistent : Bool) (src : Node D)
    (dst : Node D × Bool) (name : String) : Node D × Bool :=
  match src.member name with
  | none =>
    if (dst.1.get name).isSome && deleteNonexistent then (dst.1.erase name, true) else dst
  | some srcItem =>
    match dst.1.get name with
    | none => (dst.1.add name srcItem.2, true)
    | some dstItem =>
      if same srcItem.2 dstItem then dst else (dst.1.exchange name srcItem, true)

def mergeNode (same : Node D → Node D → Bool) (src dst : Node D) (names : List String)
    (deleteNonexistent : Bool) : Node D × Bool :=
  names.foldl (mergeItem same deleteNonexistent src) (dst, false)

/-! ## Merging -/

/-- The fields that stand in the user's tree itself, in the order of `field_map`. -/
def rootFields : List Field := Field.all.filter fun f => !f.inHomeScreen

/-- The fields that stand under `homeScreen`. -/
def homeFields : List Field := Field.all.filter Field.inHomeScreen

/-- `get_root(true, true, field)` changed. -/
def Config.within (c : Config N) (f : Field) (change : Node N.D → Node N.D) : Config N :=
  { c with user := if f.inHomeScreen then c.user.within homeScreen change else change c.user }

/-- A sub-tree of the source with its fields: all of them are merged once for each of them. -/
def mergeRoot (same : Node N.D → Node N.D → Bool) (src : Node N.D) (fields : List Field)
    (dst : Config N) : Config N :=
  fields.foldl (fun dst f => dst.within f fun root =>
    (mergeNode same src root (fields.map Field.name) false).1) dst

/-- The item that `get_root(false, true, field)` answers is taken out of the user's tree if it is
not the tree itself and holds nothing. -/
def removeEmptySubRoot (c : Config N) (f : Field) : Config N :=
  match c.root f with
  | some item =>
    if f.inHomeScreen && item.children.isEmpty then { c with user := c.user.erase homeScreen } else c
  | none => c

def removeEmptySubRoots (c : Config N) : Config N := Field.all.foldl removeEmptySubRoot c

/-- `src.merge(&dst)`: both configurations afterwards. -/
def merge (same : Node N.D → Node N.D → Bool) (homeFirst : Bool) (src dst : Config N) :
    Config N × Config N :=
  let mergeUser (dst : Config N) := mergeRoot same src.user rootFields dst
  let mergeHome (dst : Config N) :=
    match src.user.get homeScreen with
    | some home => mergeRoot same home homeFields dst
    | none => dst
  let dst := if homeFirst then mergeUser (mergeHome dst) else mergeHome (mergeUser dst)
  (removeEmptySubRoots src,
    { dst with
      properties := (mergeNode same src.properties dst.properties
        [contentAvailable, Field.name .modbus] false).1 })

/-! ## Taking fields out -/

/-- The item of a field taken out of `get_root(false, true, field)`. -/
def eraseField (c : Config N) (f : Field) : Config N :=
  { c with
    user := if f.inHomeScreen then c.user.modify homeScreen (·.erase f.name)
      else c.user.erase f.name }

def leaveOnlyThiseFields (c : Config N) (fields : BitVec 64) : Config N :=
  let c := Field.all.foldl (fun c f => if !has fields f then eraseField c f else c) c
  let c := if !has fields .homeScreenContent then
      { c with properties := c.properties.erase contentAvailable } else c
  removeEmptySubRoots c

def removeFields (c : Config N) (fields : BitVec 64) : Config N :=
  removeEmptySubRoots
    (Field.all.foldl (fun c f => if has fields f then eraseField c f else c) c)

end Device.JsonConfig
