import Mathlib.Data.List.Nodup

/-!
# JSON trees

JSON values as a tree of nodes: a kind, and the child nodes with their keys (members of an object
have one, items of an array have none; a node of any kind can carry children). A key is looked up
without regard to letter case and the first child that has it is found. `get` reads a child,
`add`, `modify` and `erase` change the list of children; every law says what a later `get` sees.
-/

namespace Json

/-- Type and value of a node; `D` is the type of its numbers. -/
inductive Kind (D : Type)
  | false
  | true
  | null
  | number (value : D)
  | string (value : String)
  | array
  | object
  deriving DecidableEq

/-- Two values of one JSON type. -/
def Kind.sameType {D : Type} : Kind D → Kind D → Bool
  | .false, .false | .true, .true | .null, .null | .number _, .number _ | .string _, .string _
  | .array, .array | .object, .object => Bool.true
  | _, _ => Bool.false

/-- A node: its kind and its children in order, each with its key. -/
inductive Node (D : Type)
  | mk (kind : Kind D) (children : List (Option String × Node D))

variable {D : Type}

namespace Node

def kind : Node D → Kind D
  | mk k _ => k

def children : Node D → List (Option String × Node D)
  | mk _ cs => cs

@[simp] theorem children_mk (k : Kind D) (cs : List (Option String × Node D)) :
    (mk k cs).children = cs := rfl

/-- An object without members. -/
def emptyObject : Node D := mk .object []

/-- A node without children. -/
def leaf (k : Kind D) : Node D := mk k []

/-- An array of the given items. -/
def ofItems (items : List (Node D)) : Node D := mk .array (items.map fun n => (none, n))

/-- The items of an array: all children, whatever their keys. -/
def items (n : Node D) : List (Node D) := n.children.map (·.2)

@[simp] theorem items_ofItems (l : List (Node D)) : (ofItems l).items = l := by
  simp [ofItems, items, children, Function.comp_def]

end Node

/-! ## Keys -/

/-- A key with its letters in lower case. -/
def lower (key : String) : List Char := key.toList.map Char.toLower

/-- Keys that differ at most in letter case. -/
def sameName (a b : String) : Bool := lower a == lower b

/-- A child under the key `name`. -/
def hasName {α : Type} (name : String) (child : Option String × α) : Bool :=
  child.1.any (sameName name)

theorem hasName_key {α : Type} (name key : String) (a : α) :
    hasName name (some key, a) = sameName name key := rfl

@[simp] theorem sameName_refl (a : String) : sameName a a = Bool.true := by simp [sameName]

theorem sameName_comm (a b : String) : sameName a b = sameName b a := by
  unfold sameName
  exact BEq.comm

theorem sameName_trans {a b c : String} (h : sameName a b = Bool.true) :
    sameName a c = sameName b c := by
  have : lower a = lower b := eq_of_beq h
  simp [sameName, this]

/-- Distinct members of a list have distinct keys if its keys in lower case do not repeat. -/
theorem sameName_of_nodup {α : Type} {name : α → String} {l : List α}
    (h : (l.map fun a => lower (name a)).Nodup) {a b : α} (ha : a ∈ l) (hb : b ∈ l)
    (hne : a ≠ b) : sameName (name a) (name b) = Bool.false :=
  beq_eq_false_iff_ne.mpr fun heq => hne (List.inj_on_of_nodup_map h ha hb heq)

/-- A child under a key that is not `name`'s is not under `name`. -/
theorem hasName_other {α : Type} {name other : String} {child : Option String × α}
    (hne : sameName other name = Bool.false) (h : hasName name child = Bool.true) :
    hasName other child = Bool.false := by
  obtain ⟨key, a⟩ := child
  cases key with
  | none => rfl
  | some k =>
    rw [hasName_key] at h ⊢
    rw [sameName_comm other k, ← sameName_trans h, sameName_comm, hne]

/-! ## Children -/

namespace Node

/-- The first child under `name`. -/
def get (n : Node D) (name : String) : Option (Node D) :=
  (n.children.find? (hasName name)).map (·.2)

/-- The first child under `name`, with its key. -/
def member (n : Node D) (name : String) : Option (Option String × Node D) :=
  n.children.find? (hasName name)

/-- A child added behind the others. -/
def add (n : Node D) (name : String) (child : Node D) : Node D :=
  mk n.kind (n.children ++ [(some name, child)])

/-- The children with the first one under `name` changed by `f`. -/
def modifyFirst (name : String) (f : Option String × Node D → Option String × Node D) :
    List (Option String × Node D) → List (Option String × Node D)
  | [] => []
  | c :: cs => if hasName name c then f c :: cs else c :: modifyFirst name f cs

/-- The first child under `name` changed, its key kept. -/
def modify (n : Node D) (name : String) (f : Node D → Node D) : Node D :=
  mk n.kind (modifyFirst name (fun c => (c.1, f c.2)) n.children)

/-- The first child under `name` replaced by another node under that key. -/
def replace (n : Node D) (name : String) (child : Node D) : Node D :=
  mk n.kind (modifyFirst name (fun _ => (some name, child)) n.children)

/-- The first child under `name` replaced by another node with its key. -/
def exchange (n : Node D) (name : String) (child : Option String × Node D) : Node D :=
  mk n.kind (modifyFirst name (fun _ => child) n.children)

/-- The first child under `name` taken out. -/
def erase (n : Node D) (name : String) : Node D :=
  mk n.kind (n.children.eraseP (hasName name))

/-- The child under `name` changed by `f`; an empty object is added there first when there is
none. -/
def within (n : Node D) (name : String) (f : Node D → Node D) : Node D :=
  if (n.get name).isSome then n.modify name f else n.add name (f emptyObject)

/-- The children under `name`, in order. -/
def named (n : Node D) (name : String) : List (Node D) :=
  (n.children.filter (hasName name)).map (·.2)

/-- The children under none of the names, in order, with their keys. -/
def others (n : Node D) (names : List String) : List (Option String × Node D) :=
  n.children.filter fun c => !names.any fun name => hasName name c

/-! ## The children under one name after a change -/

variable {n : Node D} {name other : String}

theorem get_eq_named : n.get name = (n.named name).head? := by
  rw [get, named, List.head?_map, List.head?_filter]

theorem named_add_self (child : Node D) :
    (n.add name child).named name = n.named name ++ [child] := by
  simp [named, add, hasName]

theorem named_add_other (child : Node D) (hne : sameName other name = Bool.false) :
    (n.add name child).named other = n.named other := by
  simp [named, add, hasName, hne]

theorem filter_modifyFirst_self {f : Option String × Node D → Option String × Node D}
    (hf : ∀ c, hasName name c = Bool.true → hasName name (f c) = Bool.true) :
    ∀ cs, (modifyFirst name f cs).filter (hasName name) =
      (cs.filter (hasName name)).modifyHead f
  | [] => rfl
  | c :: cs => by
    rw [modifyFirst]
    by_cases h : hasName name c = Bool.true
    · rw [if_pos h, List.filter_cons_of_pos (hf c h), List.filter_cons_of_pos h]
      rfl
    · rw [if_neg h, List.filter_cons_of_neg h, List.filter_cons_of_neg h,
        filter_modifyFirst_self hf cs]

theorem filter_modifyFirst_other {f : Option String × Node D → Option String × Node D}
    (hne : sameName other name = Bool.false)
    (hf : ∀ c, hasName name c = Bool.true → hasName name (f c) = Bool.true) :
    ∀ cs, (modifyFirst name f cs).filter (hasName other) = cs.filter (hasName other)
  | [] => rfl
  | c :: cs => by
    rw [modifyFirst]
    by_cases h : hasName name c = Bool.true
    · have h1 : ¬ hasName other (f c) = Bool.true := by simp [hasName_other hne (hf c h)]
      have h2 : ¬ hasName other c = Bool.true := by simp [hasName_other hne h]
      rw [if_pos h, List.filter_cons_of_neg h1, List.filter_cons_of_neg h2]
    · rw [if_neg h, List.filter_cons, List.filter_cons, filter_modifyFirst_other hne hf cs]

theorem named_modify_self (f : Node D → Node D) :
    (n.modify name f).named name = (n.named name).modifyHead f := by
  unfold named
  rw [modify, children_mk, filter_modifyFirst_self (f := fun c => (c.1, f c.2)) fun _ h => h]
  cases n.children.filter (hasName name) <;> rfl

theorem named_modify_other (f : Node D → Node D) (hne : sameName other name = Bool.false) :
    (n.modify name f).named other = n.named other := by
  unfold named
  rw [modify, children_mk,
    filter_modifyFirst_other (f := fun c => (c.1, f c.2)) hne fun _ h => h]

theorem named_replace_self (child : Node D) :
    (n.replace name child).named name = (n.named name).modifyHead fun _ => child := by
  unfold named
  rw [replace, children_mk,
    filter_modifyFirst_self (f := fun _ => (some name, child)) fun _ _ => sameName_refl name]
  cases n.children.filter (hasName name) <;> rfl

theorem named_replace_other (child : Node D) (hne : sameName other name = Bool.false) :
    (n.replace name child).named other = n.named other := by
  unfold named
  rw [replace, children_mk,
    filter_modifyFirst_other (f := fun _ => (some name, child)) hne fun _ _ => sameName_refl name]

theorem named_erase_self : (n.erase name).named name = (n.named name).tail := by
  have hfilter : ∀ cs : List (Option String × Node D),
      (cs.eraseP (hasName name)).filter (hasName name) = (cs.filter (hasName name)).tail := by
    intro cs
    induction cs with
    | nil => rfl
    | cons c cs ih =>
      by_cases h : hasName name c = Bool.true
      · rw [List.eraseP_cons_of_pos h, List.filter_cons_of_pos h]
        rfl
      · rw [List.eraseP_cons_of_neg h, List.filter_cons_of_neg h, List.filter_cons_of_neg h, ih]
  unfold named
  rw [erase, children_mk, hfilter, List.map_tail]

theorem named_erase_other (hne : sameName other name = Bool.false) :
    (n.erase name).named other = n.named other := by
  have hfilter : ∀ cs : List (Option String × Node D),
      (cs.eraseP (hasName name)).filter (hasName other) = cs.filter (hasName other) := by
    intro cs
    induction cs with
    | nil => rfl
    | cons c cs ih =>
      by_cases h : hasName name c = Bool.true
      · have h2 : ¬ hasName other c = Bool.true := by simp [hasName_other hne h]
        rw [List.eraseP_cons_of_pos h, List.filter_cons_of_neg h2]
      · rw [List.eraseP_cons_of_neg h, List.filter_cons, List.filter_cons, ih]
  unfold named
  rw [erase, children_mk, hfilter]

theorem named_exchange_self {child : Option String × Node D}
    (hchild : hasName name child = Bool.true) :
    (n.exchange name child).named name = (n.named name).modifyHead fun _ => child.2 := by
  unfold named
  rw [exchange, children_mk, filter_modifyFirst_self (f := fun _ => child) fun _ _ => hchild]
  cases n.children.filter (hasName name) <;> rfl

theorem named_within_self (f : Node D → Node D) :
    (n.within name f).named name = f ((n.get name).getD emptyObject) :: (n.named name).tail := by
  unfold within
  rw [get_eq_named]
  cases hnamed : n.named name with
  | nil => rw [List.head?_nil, Option.isSome_none, if_neg Bool.false_ne_true, named_add_self,
      hnamed]; rfl
  | cons child rest =>
    rw [List.head?_cons, Option.isSome_some, if_pos rfl, named_modify_self, hnamed]
    rfl

/-! ## The children under other names after a change -/

/-- Children that agree outside some names agree outside more. -/
theorem others_mono {m : Node D} {names more : List String} (hsub : names ⊆ more)
    (h : m.others names = n.others names) : m.others more = n.others more := by
  have hfilter : ∀ n : Node D,
      n.others more = (n.others names).filter fun c => !more.any fun name => hasName name c := by
    intro n
    unfold others
    rw [List.filter_filter]
    refine List.filter_congr fun c _ => ?_
    cases hmore : more.any fun name => hasName name c with
    | true => rfl
    | false =>
      have hnames : (names.any fun name => hasName name c) = Bool.false := by
        rw [List.any_eq_false] at hmore ⊢
        exact fun name hname => hmore name (hsub hname)
      rw [hnames]
      rfl
  rw [hfilter m, hfilter n, h]

/-- The children under a name are among those outside other names. -/
theorem named_of_others {m : Node D} (names : List String)
    (hne : ∀ name ∈ names, sameName name other = Bool.false)
    (h : m.others names = n.others names) : m.named other = n.named other := by
  have hfilter : ∀ n : Node D,
      n.named other = ((n.others names).filter (hasName other)).map (·.2) := by
    intro n
    unfold named others
    rw [List.filter_filter]
    congr 1
    refine List.filter_congr fun c _ => ?_
    cases hc : hasName other c with
    | false => rfl
    | true =>
      have hnames : (names.any fun name => hasName name c) = Bool.false := by
        rw [List.any_eq_false]
        intro name hname
        rw [hasName_other (hne name hname) hc]
        exact Bool.false_ne_true
      rw [hnames]
      rfl
  rw [hfilter m, hfilter n, h]

theorem not_others {names : List String} (hname : name ∈ names) {c : Option String × Node D}
    (hc : hasName name c = Bool.true) : (!names.any fun name => hasName name c) = Bool.false := by
  rw [List.any_eq_true.mpr ⟨name, hname, hc⟩]
  rfl

theorem others_add {names : List String} (hname : name ∈ names) (child : Node D) :
    (n.add name child).others names = n.others names := by
  have hc := not_others hname (hasName_key name name child ▸ sameName_refl name)
  unfold others
  rw [add, children_mk, List.filter_append, List.filter_cons_of_neg (by rw [hc]; decide)]
  exact List.append_nil _

theorem filter_modifyFirst_out {p : Option String × Node D → Bool}
    {f : Option String × Node D → Option String × Node D}
    (hp : ∀ c, hasName name c = Bool.true → p c = Bool.false)
    (hf : ∀ c, hasName name c = Bool.true → p (f c) = Bool.false) :
    ∀ cs, (modifyFirst name f cs).filter p = cs.filter p
  | [] => rfl
  | c :: cs => by
    rw [modifyFirst]
    by_cases h : hasName name c = Bool.true
    · rw [if_pos h, List.filter_cons_of_neg (by simp [hf c h]),
        List.filter_cons_of_neg (by simp [hp c h])]
    · rw [if_neg h, List.filter_cons, List.filter_cons, filter_modifyFirst_out hp hf cs]

theorem others_exchange {names : List String} (hname : name ∈ names)
    {child : Option String × Node D} (hchild : hasName name child = Bool.true) :
    (n.exchange name child).others names = n.others names := by
  unfold others
  rw [exchange, children_mk]
  exact filter_modifyFirst_out (fun _ => not_others hname) (fun _ _ => not_others hname hchild) _

theorem others_modify {names : List String} (hname : name ∈ names) (f : Node D → Node D) :
    (n.modify name f).others names = n.others names := by
  unfold others
  rw [modify, children_mk]
  exact filter_modifyFirst_out (f := fun c => (c.1, f c.2)) (fun _ => not_others hname)
    (fun _ h => not_others hname h) _

theorem others_within {names : List String} (hname : name ∈ names) (f : Node D → Node D) :
    (n.within name f).others names = n.others names := by
  unfold within
  split
  · exact others_modify hname f
  · exact others_add hname _

theorem others_erase {names : List String} (hname : name ∈ names) :
    (n.erase name).others names = n.others names := by
  have hfilter : ∀ {p : Option String × Node D → Bool},
      (∀ c, hasName name c = Bool.true → p c = Bool.false) →
      ∀ cs : List (Option String × Node D), (cs.eraseP (hasName name)).filter p = cs.filter p := by
    intro p hp cs
    induction cs with
    | nil => rfl
    | cons c cs ih =>
      by_cases h : hasName name c = Bool.true
      · rw [List.eraseP_cons_of_pos h, List.filter_cons_of_neg (by simp [hp c h])]
      · rw [List.eraseP_cons_of_neg h, List.filter_cons, List.filter_cons, ih]
  unfold others
  rw [erase, children_mk]
  exact hfilter (fun _ => not_others hname) _

/-- A child that stays the same when it is changed. -/
theorem within_fixed {f : Node D → Node D} {child : Node D} (h : n.get name = some child)
    (hfixed : f child = child) : n.within name f = n := by
  have hcs : ∀ cs : List (Option String × Node D),
      (cs.find? (hasName name)).map (·.2) = some child →
      modifyFirst name (fun c => (c.1, f c.2)) cs = cs := by
    intro cs
    induction cs with
    | nil => exact fun _ => rfl
    | cons c cs ih =>
      intro hfind
      rw [modifyFirst]
      by_cases hc : hasName name c = Bool.true
      · rw [List.find?_cons_of_pos hc, Option.map_some, Option.some_inj] at hfind
        rw [if_pos hc, hfind, hfixed, ← hfind]
      · rw [List.find?_cons_of_neg hc] at hfind
        rw [if_neg hc, ih hfind]
  unfold within
  rw [h, Option.isSome_some, if_pos rfl, modify, hcs _ h]
  cases n
  rfl

/-! ## Reading after a change -/

@[simp] theorem get_emptyObject (name : String) : (emptyObject : Node D).get name = none := rfl

theorem get_add_self (child : Node D) (h : n.get name = none) :
    (n.add name child).get name = some child := by
  rw [get_eq_named] at h ⊢
  rw [named_add_self, List.head?_eq_none_iff.mp h]
  rfl

theorem get_add_other (child : Node D) (hne : sameName other name = Bool.false) :
    (n.add name child).get other = n.get other := by
  rw [get_eq_named, get_eq_named, named_add_other child hne]

theorem get_modify_self (f : Node D → Node D) :
    (n.modify name f).get name = (n.get name).map f := by
  rw [get_eq_named, get_eq_named, named_modify_self]
  cases n.named name <;> rfl

theorem get_modify_other (f : Node D → Node D) (hne : sameName other name = Bool.false) :
    (n.modify name f).get other = n.get other := by
  rw [get_eq_named, get_eq_named, named_modify_other f hne]

theorem get_erase_other (hne : sameName other name = Bool.false) :
    (n.erase name).get other = n.get other := by
  rw [get_eq_named, get_eq_named, named_erase_other hne]

theorem get_within_self (f : Node D → Node D) :
    (n.within name f).get name = some (f ((n.get name).getD emptyObject)) := by
  unfold within
  cases h : n.get name with
  | none => simp [get_add_self _ h]
  | some child => simp [get_modify_self, h]

theorem get_within_other (f : Node D → Node D) (hne : sameName other name = Bool.false) :
    (n.within name f).get other = n.get other := by
  unfold within
  split
  · exact get_modify_other f hne
  · exact get_add_other _ hne

/-- Children added one after the other, those that meet a condition. -/
theorem get_foldl_add {α : Type} {c : α → Bool} {f : α → String} {g : α → Node D} {b : α}
    [DecidableEq α]
    (hne : ∀ a, c a = Bool.true → a ≠ b → sameName (f b) (f a) = Bool.false) :
    ∀ (l : List α) (n : Node D), l.Nodup → (b ∈ l → n.get (f b) = none) →
      (l.foldl (fun n a => if c a then n.add (f a) (g a) else n) n).get (f b) =
        if b ∈ l ∧ c b = Bool.true then some (g b) else n.get (f b)
  | [], n, _, _ => by simp
  | a :: l, n, hnodup, hnone => by
    rw [List.nodup_cons] at hnodup
    by_cases hab : a = b
    · subst hab
      have hn := hnone List.mem_cons_self
      rw [List.foldl_cons, get_foldl_add hne l _ hnodup.2 fun hmem => absurd hmem hnodup.1,
        if_neg fun h => hnodup.1 h.1]
      cases hc : c a with
      | false => simp
      | true => simp [get_add_self _ hn]
    · have hget : (if c a then n.add (f a) (g a) else n).get (f b) = n.get (f b) := by
        split
        · rename_i hc
          exact get_add_other _ (hne a hc hab)
        · rfl
      rw [List.foldl_cons, get_foldl_add hne l _ hnodup.2 fun hmem => by
        rw [hget, hnone (List.mem_cons_of_mem _ hmem)], hget]
      simp [Ne.symm hab]

end Node
end Json
