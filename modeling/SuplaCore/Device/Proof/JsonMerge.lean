import SuplaCore.Device.JsonMerge
import SuplaCore.Device.Proof.JsonField

/-!
# A merge overrides field by field

After one turn of the loop the destination has the source's value under that name (`Takes`), up to
`cJSON_Compare`, and a name that has it is left alone (`mergeItem_fixed`). So the walks that repeat
the fields of a sub-tree change nothing after the first one (`mergeRoot_user`, `mergeRoot_home`),
and neither does a second merge. Everything that is not under a name of the source stays where it is
(`mergeNode_others`).
-/

namespace Device.JsonConfig

open Json

variable {N : Doubles} {D : Type}

/-! ## One tree into another -/

section
variable {same : Node D → Node D → Bool} {src : Node D}

/-- The value of the source is there, up to the comparison. -/
def Takes (same : Node D → Node D → Bool) (src dst : Node D) (name : String) : Prop :=
  ∀ value, src.get name = some value →
    ∃ value', dst.get name = some value' ∧ same value value' = true

/-- The names that the source has. -/
def present (src : Node D) (names : List String) : List String :=
  names.filter fun name => (src.get name).isSome

theorem hasName_member {name : String} {item : Option String × Node D}
    (h : src.member name = some item) : hasName name item = true := by
  have := List.find?_some h
  exact this

theorem get_of_member {name : String} {item : Option String × Node D}
    (h : src.member name = some item) : src.get name = some item.2 := by
  unfold Node.get
  rw [show src.children.find? (hasName name) = some item from h]
  rfl

theorem get_of_member_none {name : String} (h : src.member name = none) : src.get name = none := by
  unfold Node.get
  rw [show src.children.find? (hasName name) = none from h]
  rfl

theorem takes_of_named {dst dst' : Node D} {name : String} (h : dst'.named name = dst.named name) :
    Takes same src dst' name ↔ Takes same src dst name := by
  unfold Takes
  rw [Node.get_eq_named (n := dst'), h, ← Node.get_eq_named]

theorem mergeItem_takes (hsame : ∀ v, same v v = true) (dst : Node D × Bool) (name : String) :
    Takes same src (mergeItem same false src dst name).1 name := by
  intro value hvalue
  unfold mergeItem
  cases hmember : src.member name with
  | none =>
    rw [get_of_member_none hmember] at hvalue
    cases hvalue
  | some srcItem =>
    rw [get_of_member hmember, Option.some_inj] at hvalue
    subst hvalue
    dsimp only
    cases hdst : dst.1.get name with
    | none => exact ⟨srcItem.2, Node.get_add_self _ hdst, hsame _⟩
    | some dstItem =>
      dsimp only
      cases hcompare : same srcItem.2 dstItem with
      | true => exact ⟨dstItem, by rw [if_pos rfl, hdst], hcompare⟩
      | false =>
        refine ⟨srcItem.2, ?_, hsame _⟩
        rw [Node.get_eq_named] at hdst
        obtain ⟨rest, hnamed⟩ := List.head?_eq_some_iff.mp hdst
        rw [if_neg Bool.false_ne_true, Node.get_eq_named,
          Node.named_exchange_self (hasName_member hmember), hnamed]
        rfl

/-- **A name that has the value is left alone.** -/
theorem mergeItem_fixed {dst : Node D × Bool} {name : String} (h : Takes same src dst.1 name) :
    mergeItem same false src dst name = dst := by
  unfold mergeItem
  cases hmember : src.member name with
  | none =>
    dsimp only
    rw [Bool.and_false, if_neg Bool.false_ne_true]
  | some srcItem =>
    obtain ⟨value', hget, hcompare⟩ := h srcItem.2 (get_of_member hmember)
    dsimp only
    rw [hget]
    dsimp only
    rw [if_pos hcompare]

theorem mergeItem_others {names : List String} (dst : Node D × Bool) {name : String}
    (h : (src.get name).isSome → name ∈ names) :
    (mergeItem same false src dst name).1.others names = dst.1.others names := by
  unfold mergeItem
  cases hmember : src.member name with
  | none =>
    dsimp only
    rw [Bool.and_false, if_neg Bool.false_ne_true]
  | some srcItem =>
    have hname : name ∈ names := h (by rw [get_of_member hmember]; rfl)
    dsimp only
    split
    · exact Node.others_add hname _
    · split
      · rfl
      · exact Node.others_exchange hname (hasName_member hmember)

theorem mergeItem_kind (dst : Node D × Bool) (name : String) :
    (mergeItem same false src dst name).1.kind = dst.1.kind := by
  unfold mergeItem
  split
  · rw [Bool.and_false, if_neg Bool.false_ne_true]
  · split
    · rfl
    · split
      · rfl
      · rfl

/-- Names no two of which differ in letter case alone. -/
abbrev Apart (names : List String) : Prop := names.Pairwise fun a b => sameName a b = false

theorem mergeItem_named {dst : Node D × Bool} {name other : String}
    (hne : sameName name other = false) :
    (mergeItem same false src dst name).1.named other = dst.1.named other := by
  refine Node.named_of_others [name] ?_
    (mergeItem_others dst fun _ => List.mem_singleton_self name)
  intro a ha
  rw [List.mem_singleton.mp ha]
  exact hne

theorem foldl_named {other : String} : ∀ (names : List String) (dst : Node D × Bool),
    (∀ name ∈ names, sameName name other = false) →
    (names.foldl (mergeItem same false src) dst).1.named other = dst.1.named other
  | [], _, _ => rfl
  | name :: names, dst, h => by
    rw [List.foldl_cons, foldl_named names _ fun a ha => h a (List.mem_cons_of_mem name ha),
      mergeItem_named (h name List.mem_cons_self)]

theorem foldl_takes (hsame : ∀ v, same v v = true) : ∀ (names : List String) (dst : Node D × Bool),
    Apart names → ∀ name ∈ names,
      Takes same src (names.foldl (mergeItem same false src) dst).1 name
  | [], _, _, _, h => absurd h List.not_mem_nil
  | a :: names, dst, hapart, name, h => by
    rw [Apart, List.pairwise_cons] at hapart
    rw [List.foldl_cons]
    rcases List.mem_cons.mp h with rfl | hmem
    · rw [takes_of_named (foldl_named names _ fun b hb => by
        rw [sameName_comm]
        exact hapart.1 b hb)]
      exact mergeItem_takes hsame dst name
    · exact foldl_takes hsame names _ hapart.2 name hmem

theorem foldl_others {names : List String} : ∀ (l : List String) (dst : Node D × Bool),
    (∀ name ∈ l, (src.get name).isSome → name ∈ names) →
    (l.foldl (mergeItem same false src) dst).1.others names = dst.1.others names
  | [], _, _ => rfl
  | name :: l, dst, h => by
    rw [List.foldl_cons, foldl_others l _ fun a ha => h a (List.mem_cons_of_mem name ha),
      mergeItem_others dst (h name List.mem_cons_self)]

theorem foldl_kind : ∀ (l : List String) (dst : Node D × Bool),
    (l.foldl (mergeItem same false src) dst).1.kind = dst.1.kind
  | [], _ => rfl
  | name :: l, dst => by rw [List.foldl_cons, foldl_kind l, mergeItem_kind]

theorem foldl_fixed : ∀ (l : List String) (dst : Node D × Bool),
    (∀ name ∈ l, Takes same src dst.1 name) → l.foldl (mergeItem same false src) dst = dst
  | [], _, _ => rfl
  | name :: l, dst, h => by
    rw [List.foldl_cons, mergeItem_fixed (h name List.mem_cons_self),
      foldl_fixed l dst fun a ha => h a (List.mem_cons_of_mem name ha)]

variable {dst : Node D} {names : List String}

theorem mergeNode_takes (hsame : ∀ v, same v v = true) (hapart : Apart names) {name : String}
    (h : name ∈ names) : Takes same src (mergeNode same src dst names false).1 name :=
  foldl_takes hsame names (dst, false) hapart name h

/-- **What the source does not have stays**, in order. -/
theorem mergeNode_others : (mergeNode same src dst names false).1.others (present src names) =
    dst.others (present src names) :=
  foldl_others names (dst, false) fun _ hname hsome => List.mem_filter.mpr ⟨hname, hsome⟩

theorem mergeNode_named {other : String} (h : ∀ name ∈ names, sameName name other = false) :
    (mergeNode same src dst names false).1.named other = dst.named other :=
  foldl_named names (dst, false) h

theorem mergeNode_kind : (mergeNode same src dst names false).1.kind = dst.kind :=
  foldl_kind names (dst, false)

theorem mergeNode_fixed (h : ∀ name ∈ names, Takes same src dst name) :
    mergeNode same src dst names false = (dst, false) :=
  foldl_fixed names (dst, false) h

end

/-! ## The sub-trees -/

theorem apart_root : Apart (rootFields.map Field.name) := by decide

theorem apart_home : Apart (homeFields.map Field.name) := by decide

theorem apart_properties : Apart [contentAvailable, Field.name .modbus] := by decide

theorem root_apart_home : ∀ name ∈ rootFields.map Field.name, sameName name homeScreen = false := by
  decide

theorem mem_rootFields {f : Field} : f ∈ rootFields ↔ f.inHomeScreen = false := by
  cases f <;> decide

theorem mem_homeFields {f : Field} : f ∈ homeFields ↔ f.inHomeScreen = true := by
  cases f <;> decide

/-- A step repeated after it has settled. -/
theorem foldl_settled {α β : Type} {step : α → β → α} {g : α → α} (hsettled : ∀ a, g (g a) = g a) :
    ∀ (l : List β) (a : α), (∀ b ∈ l, ∀ a, step a b = g a) → l ≠ [] → l.foldl step a = g a
  | [], _, _, h => absurd rfl h
  | [b], a, hstep, _ => hstep b List.mem_cons_self a
  | b :: c :: l, a, hstep, _ => by
    rw [List.foldl_cons, hstep b List.mem_cons_self,
      foldl_settled hsettled (c :: l) _ (fun d hd => hstep d (List.mem_cons_of_mem b hd))
        (List.cons_ne_nil c l), hsettled]

variable {same : Node N.D → Node N.D → Bool}

/-- **The fields of the tree itself are merged as if once.** -/
theorem mergeRoot_user (hsame : ∀ v, same v v = true) (src : Node N.D) (dst : Config N) :
    mergeRoot same src rootFields dst =
      { dst with user := (mergeNode same src dst.user (rootFields.map Field.name) false).1 } := by
  refine foldl_settled (g := fun dst : Config N =>
    { dst with user := (mergeNode same src dst.user (rootFields.map Field.name) false).1 })
    (fun dst => ?_) rootFields dst (fun f hf dst => ?_) (by decide)
  · simp only
    rw [mergeNode_fixed fun name hname => mergeNode_takes hsame apart_root hname]
  · rw [Config.within, mem_rootFields.mp hf, if_neg Bool.false_ne_true]

/-- **The fields under `homeScreen` are merged as if once.** -/
theorem mergeRoot_home (hsame : ∀ v, same v v = true) (home : Node N.D) (dst : Config N) :
    mergeRoot same home homeFields dst =
      { dst with
        user := dst.user.within homeScreen fun root =>
          (mergeNode same home root (homeFields.map Field.name) false).1 } := by
  refine foldl_settled (g := fun dst : Config N =>
    { dst with
      user := dst.user.within homeScreen fun root =>
        (mergeNode same home root (homeFields.map Field.name) false).1 })
    (fun dst => ?_) homeFields dst (fun f hf dst => ?_) (by decide)
  · simp only
    rw [Node.within_fixed (Node.get_within_self _)]
    rw [mergeNode_fixed fun name hname => mergeNode_takes hsame apart_home hname]
  · rw [Config.within, mem_homeFields.mp hf, if_pos rfl]

/-! ## Pruning -/

/-- An empty `homeScreen` taken out. -/
def prune (c : Config N) : Config N :=
  match c.user.get homeScreen with
  | some item => if item.children.isEmpty then { c with user := c.user.erase homeScreen } else c
  | none => c

theorem removeEmptySubRoot_eq (c : Config N) (f : Field) :
    removeEmptySubRoot c f = if f.inHomeScreen then prune c else c := by
  unfold removeEmptySubRoot Config.root prune
  cases hhome : f.inHomeScreen with
  | false => rfl
  | true => rfl

/-- Only one `homeScreen`. -/
def SingleHome (c : Config N) : Prop := (c.user.named homeScreen).length ≤ 1

/-- What `homeScreen` is after pruning. -/
theorem get_prune {c : Config N} (h : SingleHome c) :
    (prune c).user.get homeScreen =
      (c.user.get homeScreen).filter fun item => !item.children.isEmpty := by
  have hnone : (c.user.erase homeScreen).get homeScreen = none := by
    rw [Node.get_eq_named, Node.named_erase_self, List.head?_eq_none_iff,
      ← List.length_eq_zero_iff, List.length_tail]
    unfold SingleHome at h
    omega
  unfold prune
  cases hget : c.user.get homeScreen with
  | none => exact hget
  | some item =>
    dsimp only
    cases hitem : item.children.isEmpty with
    | true =>
      rw [if_pos rfl, Option.filter_some_neg (by rw [hitem]; decide)]
      exact hnone
    | false =>
      rw [if_neg Bool.false_ne_true, hget, Option.filter_some_pos (by rw [hitem]; rfl)]

theorem prune_fixed {c : Config N}
    (h : ∀ item, c.user.get homeScreen = some item → item.children.isEmpty = false) :
    prune c = c := by
  unfold prune
  split
  · rename_i item hget
    rw [h item hget, if_neg Bool.false_ne_true]
  · rfl

theorem prune_prune {c : Config N} (h : SingleHome c) : prune (prune c) = prune c := by
  refine prune_fixed fun item hget => ?_
  rw [get_prune h] at hget
  have hfull := (Option.filter_eq_some_iff.mp hget).2
  rw [Bool.not_eq_true'] at hfull
  exact hfull

theorem removeEmptySubRoots_eq {c : Config N} (h : SingleHome c) :
    removeEmptySubRoots c = prune c := by
  unfold removeEmptySubRoots Field.all
  simp only [List.foldl_cons, List.foldl_nil, removeEmptySubRoot_eq, Field.inHomeScreen, if_true,
    Bool.false_eq_true, if_false]
  rw [prune_prune h, prune_prune h]

theorem prune_others (c : Config N) {names : List String} (h : homeScreen ∈ names) :
    (prune c).user.others names = c.user.others names := by
  unfold prune
  split
  · split
    · exact Node.others_erase h
    · rfl
  · rfl

theorem prune_properties (c : Config N) : (prune c).properties = c.properties := by
  unfold prune
  split
  · split
    · rfl
    · rfl
  · rfl

theorem SingleHome.prune {c : Config N} (h : SingleHome c) : SingleHome (prune c) := by
  unfold JsonConfig.prune
  unfold SingleHome at *
  split
  · split
    · dsimp only
      rw [Node.named_erase_self, List.length_tail]
      omega
    · exact h
  · exact h

/-! ## Merging -/

/-- The user's tree with the fields of the source that stand in the tree itself. -/
def overUser (same : Node N.D → Node N.D → Bool) (src : Config N) (user : Node N.D) : Node N.D :=
  (mergeNode same src.user user (rootFields.map Field.name) false).1

/-- The user's tree with the fields of the source under `homeScreen`. -/
def overHome (same : Node N.D → Node N.D → Bool) (src : Config N) (user : Node N.D) : Node N.D :=
  match src.user.get homeScreen with
  | some home => user.within homeScreen fun root =>
      (mergeNode same home root (homeFields.map Field.name) false).1
  | none => user

/-- The properties with those of the source. -/
def overProperties (same : Node N.D → Node N.D → Bool) (src : Config N) (properties : Node N.D) :
    Node N.D :=
  (mergeNode same src.properties properties [contentAvailable, Field.name .modbus] false).1

theorem merge_eq (hsame : ∀ v, same v v = true) (homeFirst : Bool) (src dst : Config N) :
    merge same homeFirst src dst = (removeEmptySubRoots src,
      { user := if homeFirst then overUser same src (overHome same src dst.user)
          else overHome same src (overUser same src dst.user)
        properties := overProperties same src dst.properties }) := by
  unfold merge overUser overHome overProperties
  cases src.user.get homeScreen with
  | none =>
    simp only [mergeRoot_user hsame]
    cases homeFirst with
    | true => rfl
    | false => rfl
  | some home =>
    simp only [mergeRoot_user hsame, mergeRoot_home hsame]
    cases homeFirst with
    | true => rfl
    | false => rfl

/-- The names of the user's tree that a source overrides or creates. -/
def overridden (src : Config N) : List String :=
  present src.user (rootFields.map Field.name) ++
    if (src.user.get homeScreen).isSome then [homeScreen] else []

/-- What the user's tree `user` is after the fields of the source came over it. -/
structure Over (same : Node N.D → Node N.D → Bool) (src : Config N) (user user' : Node N.D) :
    Prop where
  kind : user'.kind = user.kind
  others : user'.others (overridden src) = user.others (overridden src)
  takes : ∀ name ∈ rootFields.map Field.name, Takes same src.user user' name
  home : ∀ home, src.user.get homeScreen = some home →
    user'.named homeScreen = (mergeNode same home ((user.get homeScreen).getD .emptyObject)
      (homeFields.map Field.name) false).1 :: (user.named homeScreen).tail

theorem within_kind (user : Node D) (name : String) (f : Node D → Node D) :
    (user.within name f).kind = user.kind := by
  unfold Node.within
  split
  · rfl
  · rfl

theorem overUser_home (src : Config N) (user : Node N.D) :
    (overUser same src user).named homeScreen = user.named homeScreen :=
  mergeNode_named root_apart_home

theorem overUser_others (src : Config N) (user : Node N.D) :
    (overUser same src user).others (overridden src) = user.others (overridden src) :=
  Node.others_mono (List.subset_append_left _ _) mergeNode_others

theorem overHome_others (src : Config N) (user : Node N.D) :
    (overHome same src user).others (overridden src) = user.others (overridden src) := by
  unfold overHome overridden
  cases src.user.get homeScreen with
  | none => rfl
  | some home =>
    refine Node.others_within ?_ _
    rw [Option.isSome_some, if_pos rfl]
    exact List.mem_append_right _ (List.mem_singleton_self _)

theorem overHome_kind (src : Config N) (user : Node N.D) :
    (overHome same src user).kind = user.kind := by
  unfold overHome
  cases src.user.get homeScreen with
  | none => rfl
  | some home => exact within_kind user homeScreen _

theorem overHome_takes {src : Config N} {user : Node N.D} {name : String}
    (hname : name ∈ rootFields.map Field.name) (h : Takes same src.user user name) :
    Takes same src.user (overHome same src user) name := by
  unfold overHome
  cases src.user.get homeScreen with
  | none => exact h
  | some home =>
    intro value hvalue
    obtain ⟨value', hget, hcompare⟩ := h value hvalue
    refine ⟨value', ?_, hcompare⟩
    show (user.within homeScreen _).get name = _
    rw [Node.get_within_other _ (root_apart_home name hname), hget]

theorem merge_over (hsame : ∀ v, same v v = true) (homeFirst : Bool) (src dst : Config N) :
    Over same src dst.user (merge same homeFirst src dst).2.user := by
  rw [merge_eq hsame]
  have htakes : ∀ user, ∀ name ∈ rootFields.map Field.name,
      Takes same src.user (overUser same src user) name := fun user name hname =>
    mergeNode_takes hsame apart_root hname
  cases homeFirst with
  | true =>
    simp only [if_true]
    refine ⟨?_, ?_, htakes _, fun home hhome => ?_⟩
    · rw [overUser, mergeNode_kind, overHome_kind]
    · rw [overUser_others, overHome_others]
    · rw [overUser_home, overHome, hhome]
      exact Node.named_within_self _
  | false =>
    simp only [Bool.false_eq_true, if_false]
    refine ⟨?_, ?_, fun name hname => overHome_takes hname (htakes _ name hname),
      fun home hhome => ?_⟩
    · rw [overHome_kind, overUser, mergeNode_kind]
    · rw [overHome_others, overUser_others]
    · rw [overHome, hhome]
      dsimp only
      rw [Node.named_within_self, overUser_home, Node.get_eq_named, overUser_home,
        ← Node.get_eq_named]

/-- The fields under `homeScreen` are there, too. -/
theorem Over.home_takes {src : Config N} {user user' home : Node N.D}
    (hsame : ∀ v, same v v = true) (h : Over same src user user')
    (hhome : src.user.get homeScreen = some home) : ∃ home', user'.get homeScreen = some home' ∧
      ∀ name ∈ homeFields.map Field.name, Takes same home home' name := by
  have hget : user'.get homeScreen = some (mergeNode same home
      ((user.get homeScreen).getD .emptyObject) (homeFields.map Field.name) false).1 := by
    rw [Node.get_eq_named, h.home home hhome]
    rfl
  exact ⟨_, hget, fun name hname => mergeNode_takes hsame apart_home hname⟩

/-- **Where the values are, a merge changes nothing.** -/
theorem merge_settled (hsame : ∀ v, same v v = true) {src dst : Config N} (homeFirst : Bool)
    (hroot : ∀ name ∈ rootFields.map Field.name, Takes same src.user dst.user name)
    (hhome : ∀ home, src.user.get homeScreen = some home →
      ∃ home', dst.user.get homeScreen = some home' ∧
        ∀ name ∈ homeFields.map Field.name, Takes same home home' name)
    (hproperties : ∀ name ∈ [contentAvailable, Field.name .modbus],
      Takes same src.properties dst.properties name) :
    merge same homeFirst src dst = (removeEmptySubRoots src, dst) := by
  have huser : overUser same src dst.user = dst.user := by
    rw [overUser, mergeNode_fixed hroot]
  have hsub : overHome same src dst.user = dst.user := by
    unfold overHome
    cases hget : src.user.get homeScreen with
    | none => rfl
    | some home =>
      obtain ⟨home', hget', htakes⟩ := hhome home hget
      exact Node.within_fixed hget' (by rw [mergeNode_fixed htakes])
  have hprops : overProperties same src dst.properties = dst.properties := by
    rw [overProperties, mergeNode_fixed hproperties]
  rw [merge_eq hsame, hprops]
  cases homeFirst with
  | true =>
    simp only [if_true]
    rw [hsub, huser]
  | false =>
    simp only [Bool.false_eq_true, if_false]
    rw [huser, hsub]

/-! ## Taking fields out -/

/-- The members that stand where a field is read from, under its name. -/
def itemsOf (c : Config N) (f : Field) : List (Node N.D) :=
  ((c.root f).map (·.named f.name)).getD []

theorem item_eq_itemsOf (c : Config N) (f : Field) : item c f = (itemsOf c f).head? := by
  unfold item itemsOf
  cases c.root f with
  | none => rfl
  | some root => exact Node.get_eq_named

/-- What `homeScreen` holds under a name. -/
def under (c : Config N) (name : String) : List (Node N.D) :=
  ((c.user.get homeScreen).map (·.named name)).getD []

theorem itemsOf_home {c : Config N} {f : Field} (h : f.inHomeScreen = true) :
    itemsOf c f = under c f.name := by
  unfold itemsOf under Config.root
  rw [if_pos h]

theorem itemsOf_root {c : Config N} {f : Field} (h : f.inHomeScreen = false) :
    itemsOf c f = c.user.named f.name := by
  unfold itemsOf Config.root
  rw [h, if_neg Bool.false_ne_true]
  rfl

theorem under_erase_other {c : Config N} {f : Field} {name : String} (hf : f.inHomeScreen = true)
    (hne : sameName name f.name = false) : under (eraseField c f) name = under c name := by
  unfold under eraseField
  rw [if_pos hf, Node.get_modify_self, Option.map_map]
  cases c.user.get homeScreen with
  | none => rfl
  | some home => exact Node.named_erase_other hne

/-- A field outside `homeScreen` leaves it alone. -/
theorem named_home_erase_root {c : Config N} {f : Field} (hf : f.inHomeScreen = false) :
    (eraseField c f).user.named homeScreen = c.user.named homeScreen := by
  unfold eraseField
  rw [hf, if_neg Bool.false_ne_true]
  exact Node.named_erase_other f.sameName_homeScreen.2

theorem under_erase_root {c : Config N} {f : Field} (hf : f.inHomeScreen = false) (name : String) :
    under (eraseField c f) name = under c name := by
  unfold under
  rw [Node.get_eq_named, named_home_erase_root hf, ← Node.get_eq_named]

theorem SingleHome.eraseField {c : Config N} (h : SingleHome c) (f : Field) :
    SingleHome (eraseField c f) := by
  unfold SingleHome at *
  cases hf : f.inHomeScreen with
  | false => rw [named_home_erase_root hf]; exact h
  | true =>
    unfold JsonConfig.eraseField
    rw [hf, if_pos rfl]
    dsimp only
    rw [Node.named_modify_self, List.length_modifyHead]
    exact h

/-- The first member of a field goes. -/
theorem itemsOf_erase_self (c : Config N) (f : Field) :
    itemsOf (eraseField c f) f = (itemsOf c f).tail := by
  cases hf : f.inHomeScreen with
  | false =>
    rw [itemsOf_root hf, itemsOf_root hf, eraseField, hf, if_neg Bool.false_ne_true]
    exact Node.named_erase_self
  | true =>
    rw [itemsOf_home hf, itemsOf_home hf]
    unfold under eraseField
    rw [hf, if_pos rfl, Node.get_modify_self, Option.map_map]
    cases c.user.get homeScreen with
    | none => rfl
    | some home => exact Node.named_erase_self

/-- The members of the other fields stay. -/
theorem itemsOf_erase_other {c : Config N} {f g : Field} (hne : g ≠ f) :
    itemsOf (eraseField c f) g = itemsOf c g := by
  have hnames := Field.sameName_name hne
  cases hg : g.inHomeScreen with
  | true =>
    rw [itemsOf_home hg, itemsOf_home hg]
    cases hf : f.inHomeScreen with
    | true => exact under_erase_other hf hnames
    | false => exact under_erase_root hf g.name
  | false =>
    rw [itemsOf_root hg, itemsOf_root hg, eraseField]
    cases hf : f.inHomeScreen with
    | true =>
      rw [if_pos rfl]
      dsimp only
      exact Node.named_of_others [homeScreen]
        (fun a ha => by rw [List.mem_singleton.mp ha]; exact g.sameName_homeScreen.2)
        (Node.others_modify (List.mem_singleton_self _) _)
    | false =>
      rw [if_neg Bool.false_ne_true]
      exact Node.named_erase_other hnames

/-- Every name that the user's tree has for a configuration. -/
def userNames : List String := rootFields.map Field.name ++ [homeScreen]

theorem others_erase_field (c : Config N) (f : Field) :
    (eraseField c f).user.others userNames = c.user.others userNames := by
  unfold eraseField
  cases hf : f.inHomeScreen with
  | true =>
    rw [if_pos rfl]
    dsimp only
    exact Node.others_modify (List.mem_append_right _ (List.mem_singleton_self _)) _
  | false =>
    rw [if_neg Bool.false_ne_true]
    exact Node.others_erase
      (List.mem_append_left _ (List.mem_map_of_mem (mem_rootFields.mpr hf)))

/-- A configuration whose objects have names that differ in more than letter case. -/
structure Distinct (c : Config N) : Prop where
  user : ∀ name, (c.user.named name).length ≤ 1
  home : ∀ home, c.user.get homeScreen = some home → ∀ name, (home.named name).length ≤ 1

theorem Distinct.single {c : Config N} (h : Distinct c) : SingleHome c := h.user homeScreen

theorem Distinct.itemsOf {c : Config N} (h : Distinct c) (f : Field) :
    (itemsOf c f).length ≤ 1 := by
  cases hf : f.inHomeScreen with
  | false => rw [itemsOf_root hf]; exact h.user f.name
  | true =>
    rw [itemsOf_home hf, under]
    cases hget : c.user.get homeScreen with
    | none => exact Nat.zero_le 1
    | some home => exact h.home home hget f.name

/-- What is left of a configuration after the fields that meet `gone` were taken out. -/
structure Left (gone : Field → Bool) (c c' : Config N) : Prop where
  single : SingleHome c'
  items : ∀ f, itemsOf c' f = if gone f then [] else itemsOf c f
  user : c'.user.others userNames = c.user.others userNames
  home : ∀ name, (∀ f ∈ homeFields, sameName name f.name = false) → under c' name = under c name

theorem Left.refl {c : Config N} (h : SingleHome c) : Left (fun _ => false) c c where
  single := h
  items _ := rfl
  user := rfl
  home _ _ := rfl

theorem Left.trans {gone gone' : Field → Bool} {c c' c'' : Config N} (h : Left gone c c')
    (h' : Left gone' c' c'') : Left (fun f => gone f || gone' f) c c'' where
  single := h'.single
  items f := by
    rw [h'.items, h.items]
    cases gone f with
    | true => simp
    | false => simp
  user := h'.user.trans h.user
  home name hname := (h'.home name hname).trans (h.home name hname)

theorem Left.congr {gone gone' : Field → Bool} {c c' : Config N} (h : Left gone c c')
    (heq : ∀ f, gone f = gone' f) : Left gone' c c' := by
  rw [show gone = gone' from funext heq] at h
  exact h

theorem left_eraseField {c : Config N} (hsingle : SingleHome c) {f : Field}
    (hlen : (itemsOf c f).length ≤ 1) : Left (fun g => g = f) c (eraseField c f) where
  single := hsingle.eraseField f
  items g := by
    by_cases hgf : g = f
    · subst hgf
      rw [itemsOf_erase_self, if_pos (decide_eq_true rfl), ← List.length_eq_zero_iff,
        List.length_tail]
      omega
    · rw [itemsOf_erase_other hgf, if_neg (by simp [hgf])]
  user := others_erase_field c f
  home name hname := by
    cases hf : f.inHomeScreen with
    | true => exact under_erase_other hf (hname f (mem_homeFields.mpr hf))
    | false => exact under_erase_root hf name

/-- The loops over `field_map` take out the fields that meet their condition. -/
theorem left_foldl {p : Field → Bool} : ∀ (l : List Field) (c : Config N), SingleHome c →
    (∀ f, (itemsOf c f).length ≤ 1) →
    Left (fun f => p f && l.contains f) c
      (l.foldl (fun c f => if p f then eraseField c f else c) c)
  | [], c, h, _ => (Left.refl h).congr fun f => (Bool.and_false (p f)).symm
  | f :: l, c, h, hlen => by
    rw [List.foldl_cons]
    have hstep : Left (fun g => p f && g = f) c (if p f then eraseField c f else c) := by
      cases p f with
      | true => exact (left_eraseField h (hlen f)).congr fun g => rfl
      | false => exact (Left.refl h).congr fun g => rfl
    have hrest := left_foldl (p := p) l _ hstep.single fun g => by
      rw [hstep.items]
      split
      · exact Nat.zero_le 1
      · exact hlen g
    refine (hstep.trans hrest).congr fun g => ?_
    rw [List.contains_cons]
    by_cases hgf : g = f
    · subst hgf
      cases p g with
      | true => simp
      | false => simp
    · have hne : (g == f) = false := beq_eq_false_iff_ne.mpr hgf
      simp [hgf, hne]

theorem left_prune {c : Config N} (h : SingleHome c) : Left (fun _ => false) c (prune c) := by
  have hunder : ∀ name, under (prune c) name = under c name := by
    intro name
    unfold under
    rw [get_prune h]
    cases c.user.get homeScreen with
    | none => rfl
    | some item =>
      cases hitem : item.children.isEmpty with
      | false => rw [Option.filter_some_pos (by rw [hitem]; rfl)]
      | true =>
        rw [Option.filter_some_neg (by rw [hitem]; decide)]
        show [] = item.named name
        unfold Node.named
        rw [List.isEmpty_iff.mp hitem]
        rfl
  refine ⟨h.prune, fun f => ?_, prune_others c ?_, fun name _ => hunder name⟩
  · rw [if_neg Bool.false_ne_true]
    cases hf : f.inHomeScreen with
    | true => rw [itemsOf_home hf, itemsOf_home hf, hunder]
    | false =>
      rw [itemsOf_root hf, itemsOf_root hf]
      exact Node.named_of_others [homeScreen]
        (fun a ha => by rw [List.mem_singleton.mp ha]; exact f.sameName_homeScreen.2)
        (prune_others c (List.mem_singleton_self _))
  · exact List.mem_append_right _ (List.mem_singleton_self _)

/-- The field is in one mask and not in the other. -/
def stays (m k : BitVec 64) (f : Field) : Bool := has m f && !has k f

/-- What is left of a configuration after all but the fields in `m`, and then those in `k`, were
taken out. -/
structure Remains (m k : BitVec 64) (c c' : Config N) : Prop where
  fields : ∀ f, item c' f = if stays m k f then item c f else none
  user : c'.user.others userNames = c.user.others userNames
  home : ∀ name, (∀ f ∈ homeFields, sameName name f.name = false) → under c' name = under c name
  properties : c'.properties =
    if has m .homeScreenContent then c.properties else c.properties.erase contentAvailable

theorem foldl_properties (p : Field → Bool) : ∀ (l : List Field) (c : Config N),
    (l.foldl (fun c f => if p f then eraseField c f else c) c).properties = c.properties
  | [], _ => rfl
  | f :: l, c => by
    rw [List.foldl_cons, foldl_properties p l]
    split
    · rfl
    · rfl

theorem left_leaveOnly {c : Config N} (h : Distinct c) (m : BitVec 64) :
    Left (fun f => !has m f) c (leaveOnlyThiseFields c m) ∧
      (leaveOnlyThiseFields c m).properties =
        if has m .homeScreenContent then c.properties
        else c.properties.erase contentAvailable := by
  have hloop := left_foldl (p := fun f => !has m f) Field.all c h.single h.itemsOf
  have hprops := foldl_properties (fun f => !has m f) Field.all c
  let loop := Field.all.foldl (fun c f => if !has m f then eraseField c f else c) c
  let properties :=
    if has m .homeScreenContent then c.properties else c.properties.erase contentAvailable
  have heq : leaveOnlyThiseFields c m = removeEmptySubRoots { loop with properties } := by
    unfold leaveOnlyThiseFields
    show removeEmptySubRoots (if !has m .homeScreenContent then
      { loop with properties := loop.properties.erase contentAvailable } else loop) = _
    rw [show loop.properties = c.properties from hprops]
    congr 1
    show _ = { loop with
      properties := if has m .homeScreenContent then c.properties
        else c.properties.erase contentAvailable }
    cases has m .homeScreenContent with
    | true =>
      rw [if_pos rfl, ← hprops]
      rfl
    | false => rfl
  -- the property that may go is no part of the user's tree
  have hleft : Left (fun f => !has m f && Field.all.contains f) c { loop with properties } :=
    ⟨hloop.single, hloop.items, hloop.user, hloop.home⟩
  rw [heq, removeEmptySubRoots_eq hleft.single, prune_properties]
  refine ⟨(hleft.trans (left_prune hleft.single)).congr fun f => ?_, rfl⟩
  rw [Bool.or_false, List.contains_iff_mem.mpr f.mem_all, Bool.and_true]

theorem left_remove {c : Config N} (hsingle : SingleHome c)
    (hlen : ∀ f, (itemsOf c f).length ≤ 1) (k : BitVec 64) :
    Left (has k) c (removeFields c k) ∧ (removeFields c k).properties = c.properties := by
  have hloop := left_foldl (p := has k) Field.all c hsingle hlen
  have hprops := foldl_properties (has k) Field.all c
  unfold removeFields
  rw [removeEmptySubRoots_eq hloop.single, prune_properties, hprops]
  refine ⟨(hloop.trans (left_prune hloop.single)).congr fun f => ?_, rfl⟩
  rw [Bool.or_false, List.contains_iff_mem.mpr f.mem_all, Bool.and_true]

theorem remains {c : Config N} (h : Distinct c) (m k : BitVec 64) :
    Remains m k c (removeFields (leaveOnlyThiseFields c m) k) := by
  obtain ⟨hleave, hproperties⟩ := left_leaveOnly h m
  have hlen : ∀ f, (itemsOf (leaveOnlyThiseFields c m) f).length ≤ 1 := by
    intro f
    rw [hleave.items]
    split
    · exact Nat.zero_le 1
    · exact h.itemsOf f
  obtain ⟨hremove, hkeep⟩ := left_remove hleave.single hlen k
  have hleft := hleave.trans hremove
  refine ⟨fun f => ?_, hleft.user, hleft.home, by rw [hkeep, hproperties]⟩
  rw [item_eq_itemsOf, hleft.items, item_eq_itemsOf, stays]
  cases has m f with
  | true =>
    cases has k f with
    | true => rfl
    | false => rfl
  | false => rfl

/-! ## All together -/

/-- What a merge leaves of the destination. -/
structure Overrides (same : Node N.D → Node N.D → Bool) (src dst dst' : Config N) : Prop where
  fields : ∀ f value, item src f = some value →
    ∃ value', item dst' f = some value' ∧ same value value' = true
  userKind : dst'.user.kind = dst.user.kind
  user : dst'.user.others (overridden src) = dst.user.others (overridden src)
  home : ∀ home, src.user.get homeScreen = some home →
    let old := (dst.user.get homeScreen).getD .emptyObject
    let names := present home (homeFields.map Field.name)
    ∃ home', dst'.user.named homeScreen = home' :: (dst.user.named homeScreen).tail ∧
      home'.kind = old.kind ∧ home'.others names = old.others names
  propertiesKind : dst'.properties.kind = dst.properties.kind
  properties :
    let names := present src.properties [contentAvailable, Field.name .modbus]
    dst'.properties.others names = dst.properties.others names
  available : ∀ name ∈ [contentAvailable, Field.name .modbus],
    Takes same src.properties dst'.properties name

theorem overrides_merge (hsame : ∀ v, same v v = true) (homeFirst : Bool) (src dst : Config N) :
    Overrides same src dst (merge same homeFirst src dst).2 := by
  have hover := merge_over hsame homeFirst src dst
  have hprops : (merge same homeFirst src dst).2.properties =
      overProperties same src dst.properties := by rw [merge_eq hsame]
  refine ⟨fun f value hvalue => ?_, hover.kind, hover.others, fun home hhome => ?_, ?_, ?_, ?_⟩
  · unfold item Config.root at *
    cases hf : f.inHomeScreen with
    | false =>
      rw [hf, if_neg Bool.false_ne_true] at hvalue
      exact hover.takes f.name (List.mem_map_of_mem (mem_rootFields.mpr hf)) value hvalue
    | true =>
      rw [hf, if_pos rfl] at hvalue
      obtain ⟨home, hhome, hget⟩ := Option.bind_eq_some_iff.mp hvalue
      obtain ⟨home', hhome', htakes⟩ := hover.home_takes hsame hhome
      rw [if_pos rfl, hhome', Option.bind_some]
      exact htakes f.name (List.mem_map_of_mem (mem_homeFields.mpr hf)) value hget
  · exact ⟨_, hover.home home hhome, mergeNode_kind, mergeNode_others⟩
  · rw [hprops, overProperties, mergeNode_kind]
  · rw [hprops]
    exact mergeNode_others
  · rw [hprops]
    exact fun name hname => mergeNode_takes hsame apart_properties hname

/-- A second merge leaves both configurations as they are. -/
theorem merge_twice (hsame : ∀ v, same v v = true) {src : Config N} (hsrc : SingleHome src)
    (dst : Config N) (first second : Bool) :
    merge same second (merge same first src dst).1 (merge same first src dst).2 =
      merge same first src dst := by
  have hover := merge_over hsame first src dst
  have hpruned : (merge same first src dst).1 = prune src := by
    rw [merge_eq hsame, removeEmptySubRoots_eq hsrc]
  have hroot : ∀ name ∈ rootFields.map Field.name,
      (prune src).user.get name = src.user.get name := by
    intro name hname
    have hnamed : (prune src).user.named name = src.user.named name := by
      refine Node.named_of_others [homeScreen] (fun a ha => ?_)
        (prune_others src (List.mem_singleton_self _))
      rw [List.mem_singleton.mp ha, sameName_comm]
      exact root_apart_home name hname
    rw [Node.get_eq_named, hnamed, ← Node.get_eq_named]
  have hproperties : (merge same first src dst).2.properties =
      overProperties same src dst.properties := by rw [merge_eq hsame]
  rw [merge_settled hsame second]
  · rw [hpruned, removeEmptySubRoots_eq hsrc.prune, prune_prune hsrc, ← hpruned]
  · intro name hname value hvalue
    rw [hpruned, hroot name hname] at hvalue
    exact hover.takes name hname value hvalue
  · intro home hhome
    rw [hpruned, get_prune hsrc] at hhome
    exact hover.home_takes hsame (Option.filter_eq_some_iff.mp hhome).1
  · intro name hname
    rw [hpruned, prune_properties, hproperties]
    exact mergeNode_takes hsame apart_properties hname

/-- **A merge overrides field by field**, and what it does not override stays; a second one changes
nothing; and of a configuration that is pruned exactly the fields asked for remain. -/
theorem merge_overrides (hsame : ∀ v, same v v = true) {src : Config N} (hsrc : Distinct src)
    (dst : Config N) (first second : Bool) :
    let r := merge same first src dst
    Overrides same src dst r.2 ∧ merge same second r.1 r.2 = r ∧
      ∀ c : Config N, Distinct c → ∀ m k : BitVec 64,
        Remains m k c (removeFields (leaveOnlyThiseFields c m) k) :=
  ⟨overrides_merge hsame first src dst, merge_twice hsame hsrc.single dst first second,
    fun _ h m k => remains h m k⟩

theorem isPercent_natCast (n : Nat) (h : n ≤ 100) :
    decide (0 ≤ (n : Int) ∧ (n : Int) ≤ 100) = true := by
  refine decide_eq_true ⟨Int.natCast_nonneg n, ?_⟩
  omega

/-- Numbers as integers. -/
def integers : Doubles where
  D := Int
  ofInt n := n
  convert w _ n := (n % 256 ^ w).toNat
  percent n := decide (0 ≤ n ∧ n ≤ 100)
  convert_ofInt _ _ := rfl
  percent_ofInt := isPercent_natCast
  convert_percent n h := by
    obtain ⟨h0, h100⟩ := of_decide_eq_true h
    omega

instance : DecidableEq integers.D := inferInstanceAs (DecidableEq Int)

/-- `{"homeScreen":{"content":"TIME"}}`. -/
def timeOnHomeScreen : Config integers where
  user := .mk .object [(some "homeScreen", .mk .object [(some "content", .leaf (.string "TIME"))])]
  properties := .emptyObject

/-- Merged into a configuration with a member that no field has. -/
theorem merge_overrides_time :
    let same (a b : Node integers.D) : Bool := decide (a.kind = b.kind)
    let dst : Config integers := ⟨.mk .object [(some "a", .leaf .true)], .emptyObject⟩
    let r := merge same true timeOnHomeScreen dst
    Overrides same timeOnHomeScreen dst r.2 ∧ merge same false r.1 r.2 = r ∧
      Remains (mask .homeScreenContent) 0 timeOnHomeScreen
        (removeFields (leaveOnlyThiseFields timeOnHomeScreen (mask .homeScreenContent)) 0) := by
  intro same dst
  have hdistinct : Distinct timeOnHomeScreen := by
    refine ⟨fun name => ?_, fun home hhome name => ?_⟩
    · rw [Node.named, List.length_map]
      exact List.length_filter_le _ _
    · cases hhome
      rw [Node.named, List.length_map]
      exact List.length_filter_le _ _
  have hsame : ∀ v, same v v = true := fun _ => decide_eq_true rfl
  obtain ⟨hover, htwice, hremains⟩ := merge_overrides hsame hdistinct dst true false
  exact ⟨hover, htwice, hremains timeOnHomeScreen hdistinct _ _⟩

end Device.JsonConfig
