import SuplaCore.Device.JsonConfig
import Mathlib.Tactic.SplitIfs

/-!
# The fields of a device configuration, one by one

What setting an item does to the items under its name (`Item.put`) and when the item set is the one
read (`Kept`); what a field is read from (`item`, `props`), that setting one field leaves the others
alone (`setField_other`), and that a field that was read, set in a configuration without it and read
again gives the same structure (`setField_roundtrip`).
-/

namespace Device.JsonConfig

open Json Bytes

variable {N : Doubles} {D : Type}

/-! ## Setting an item -/

/-- An item that was not there is added. -/
theorem get_setItemValue_new {p : Node D} {name : String} (item : Item D) (hname : name ≠ "")
    (h : p.get name = none) : (setItemValue p name item true).get name = some item.node := by
  simp only [setItemValue, if_neg hname, h]
  exact Node.get_add_self _ h

/-- The first item under a name when its type is the one asked for. -/
def Item.update (item : Item D) (old : Node D) : Node D :=
  match item with
  | .number d => .mk (.number d) old.children
  | .string s => .mk (.string s) old.children
  | .object obj => obj
  | _ => old

/-- What setting an item does to the items under its name. -/
def Item.put (item : Item D) : List (Node D) → List (Node D)
  | [] => [item.node]
  | old :: rest =>
    if old.kind.sameType item.type then item.update old :: rest else rest ++ [item.node]

theorem named_setItemValue_self {p : Node D} {name : String} (item : Item D) (hname : name ≠ "") :
    (setItemValue p name item true).named name = item.put (p.named name) := by
  unfold setItemValue
  rw [if_neg hname, Node.get_eq_named]
  cases hnamed : p.named name with
  | nil =>
    rw [List.head?_nil]
    dsimp only
    rw [if_pos rfl, Node.named_add_self, hnamed]
    rfl
  | cons old rest =>
    rw [List.head?_cons]
    dsimp only
    rw [Bool.not_true, Bool.false_and, if_neg Bool.false_ne_true, Item.put]
    by_cases hsame : old.kind.sameType item.type = true
    · rw [if_pos hsame, if_pos hsame]
      cases item with
      | number d => rw [Node.named_modify_self, hnamed]; rfl
      | string s => rw [Node.named_modify_self, hnamed]; rfl
      | object obj => rw [Node.named_replace_self, hnamed]; rfl
      | _ => exact hnamed
    · rw [if_neg hsame, if_neg hsame, Node.named_add_self, Node.named_erase_self, hnamed]
      rfl

/-- The other items stay. -/
theorem named_setItemValue_other {p : Node D} {name other : String} (item : Item D) (force : Bool)
    (hne : sameName other name = false) :
    (setItemValue p name item force).named other = p.named other := by
  unfold setItemValue
  split
  · rfl
  · split
    · split
      · exact Node.named_add_other _ hne
      · rfl
    · split
      · rfl
      · split
        · split
          · exact Node.named_modify_other _ hne
          · exact Node.named_modify_other _ hne
          · exact Node.named_replace_other _ hne
          · rfl
        · rw [Node.named_add_other _ hne, Node.named_erase_other hne]

theorem get_setItemValue_other {p : Node D} {name other : String} (item : Item D) (force : Bool)
    (hne : sameName other name = false) :
    (setItemValue p name item force).get other = p.get other := by
  rw [Node.get_eq_named, Node.get_eq_named, named_setItemValue_other item force hne]

/-! ## Setting several items -/

/-- Items set one after the other. -/
def setItems (root : Node D) (l : List (String × Item D)) : Node D :=
  l.foldl (fun root p => setItemValue root p.1 p.2 true) root

theorem named_setItems_other {name : String} : ∀ (l : List (String × Item D)) (root : Node D),
    (∀ p ∈ l, sameName name p.1 = false) → (setItems root l).named name = root.named name
  | [], _, _ => rfl
  | q :: l, root, h => by
    have hrest := named_setItems_other l (setItemValue root q.1 q.2 true) fun p hp =>
      h p (List.mem_cons_of_mem q hp)
    exact hrest.trans (named_setItemValue_other q.2 true (h q List.mem_cons_self))

theorem named_setItems {p : String × Item D} : ∀ (l : List (String × Item D)) (root : Node D),
    (l.map Prod.fst).Pairwise (fun a b => sameName b a = false) → (∀ q ∈ l, q.1 ≠ "") → p ∈ l →
    (setItems root l).named p.1 = p.2.put (root.named p.1)
  | [], _, _, _, hp => absurd hp List.not_mem_nil
  | q :: l, root, hnames, hne, hp => by
    rw [List.map_cons, List.pairwise_cons] at hnames
    rcases List.mem_cons.mp hp with rfl | hmem
    · have hother : ∀ q ∈ l, sameName p.1 q.1 = false := by
        intro q hq
        rw [sameName_comm]
        exact hnames.1 q.1 (List.mem_map_of_mem hq)
      have hrest := named_setItems_other l (setItemValue root p.1 p.2 true) hother
      exact hrest.trans (named_setItemValue_self p.2 (hne p List.mem_cons_self))
    · have hrest := named_setItems l (setItemValue root q.1 q.2 true) hnames.2
        (fun q' hq' => hne q' (List.mem_cons_of_mem q hq')) hmem
      rw [named_setItemValue_other q.2 true (hnames.1 p.1 (List.mem_map_of_mem hmem))] at hrest
      exact hrest

/-- The members under a name keep what is set there: when the first one has another type and goes,
a second one that comes to the front reads the same. -/
def Kept {α : Type} (read : Option (Node D) → α) (item : Item D) : List (Node D) → Prop
  | old :: second :: _ =>
    old.kind.sameType item.type = false → read (some second) = read (some item.node)
  | _ => True

theorem Kept.single {α : Type} {read : Option (Node D) → α} {item : Item D} {l : List (Node D)}
    (h : l.length ≤ 1) : Kept read item l :=
  match l, h with
  | [], _ => trivial
  | [_], _ => trivial

theorem length_put_le {item : Item D} {l : List (Node D)} (h : l.length ≤ 1) :
    (item.put l).length ≤ 1 := by
  match l, h with
  | [], _ => exact Nat.le_refl 1
  | [old], _ =>
    rw [Item.put]
    split
    · exact Nat.le_refl 1
    · exact Nat.le_refl 1

theorem read_put_iff {α : Type} {read : Option (Node D) → α} {item : Item D} {x : α}
    (hitem : read (some item.node) = x)
    (hupdate : ∀ old : Node D, old.kind.sameType item.type = true →
      read (some (item.update old)) = read (some item.node)) (l : List (Node D)) :
    read (item.put l).head? = x ↔ Kept read item l := by
  subst hitem
  match l with
  | [] => exact iff_of_true rfl trivial
  | old :: rest =>
    rw [Item.put]
    cases hsame : old.kind.sameType item.type with
    | true =>
      rw [if_pos rfl, List.head?_cons]
      refine iff_of_true (hupdate old hsame) ?_
      match rest with
      | [] => trivial
      | second :: _ => exact fun hfalse => absurd (hsame.symm.trans hfalse) (by decide)
    | false =>
      rw [if_neg Bool.false_ne_true]
      match rest with
      | [] => exact iff_of_true rfl trivial
      | second :: _ => exact ⟨fun h _ => h, fun h => h hsame⟩

/-- A member changed in place has the kind of the item. -/
theorem kind_update {item : Item D} (hitem : ∀ obj, item ≠ .object obj) {old : Node D}
    (h : old.kind.sameType item.type = true) : (item.update old).kind = item.node.kind := by
  cases item with
  | number d => rfl
  | string s => rfl
  | object obj => exact absurd rfl (hitem obj)
  | _ =>
    show old.kind = _
    revert h
    cases old.kind with
    | _ => simp [Item.type, Kind.sameType, Item.node, Node.leaf, Node.kind]

/-! ## Where a field stands -/

theorem Field.mem_all (f : Field) : f ∈ Field.all := by cases f <;> decide

theorem Field.names_nodup : (Field.all.map fun f => lower f.name).Nodup := by decide

theorem Field.sameName_name {f g : Field} (h : g ≠ f) : sameName g.name f.name = false :=
  sameName_of_nodup Field.names_nodup g.mem_all f.mem_all h

theorem Field.sameName_homeScreen (f : Field) :
    sameName f.name homeScreen = false ∧ sameName homeScreen f.name = false := by
  have table : ∀ f ∈ Field.all,
      sameName f.name homeScreen = false ∧ sameName homeScreen f.name = false := by decide
  exact table f f.mem_all

theorem Field.name_ne (f : Field) : f.name ≠ "" := by cases f <;> decide

/-- The item of the user's configuration that a field is read from. -/
def item (c : Config N) (f : Field) : Option (Node N.D) := (c.root f).bind (·.get f.name)

/-- The item of the properties that a field is read from. -/
def props (c : Config N) : Field → Option (Node N.D)
  | .homeScreenContent => c.properties.get contentAvailable
  | .modbus => c.properties.get (Field.name .modbus)
  | _ => none

/-- A field that nothing is stored for. -/
def Absent (c : Config N) (f : Field) : Prop := item c f = none ∧ props c f = none

theorem absent_empty (f : Field) : Absent (Config.empty : Config N) f := by
  cases f <;> exact ⟨rfl, rfl⟩

theorem item_setItem_self {c : Config N} {f : Field} (it : Item N.D) (h : item c f = none) :
    item (c.setItem f it) f = some it.node := by
  unfold item Config.root Config.setItem at *
  split at h
  · rename_i hhome
    simp only [hhome, if_true, Node.get_within_self, Option.bind_some]
    apply get_setItemValue_new it f.name_ne
    cases hg : c.user.get homeScreen with
    | none => rfl
    | some root => simpa [hg] using h
  · rename_i hhome
    simp only [hhome, Bool.false_eq_true, if_false, Option.bind_some] at h ⊢
    exact get_setItemValue_new it f.name_ne h

theorem item_setItem_other {c : Config N} {f g : Field} (it : Item N.D) (hne : g ≠ f) :
    item (c.setItem f it) g = item c g := by
  have hnames := Field.sameName_name hne
  unfold item Config.root Config.setItem
  by_cases hf : f.inHomeScreen = true <;> by_cases hg : g.inHomeScreen = true
  · simp only [hf, hg, if_true, Node.get_within_self, Option.bind_some]
    rw [get_setItemValue_other it true hnames]
    cases c.user.get homeScreen <;> rfl
  · simp only [hf, hg, Bool.false_eq_true, if_true, if_false, Option.bind_some]
    exact Node.get_within_other _ g.sameName_homeScreen.1
  · simp only [hf, hg, Bool.false_eq_true, if_true, if_false]
    rw [get_setItemValue_other it true f.sameName_homeScreen.2]
  · simp only [hf, hg, Bool.false_eq_true, if_false, Option.bind_some]
    exact get_setItemValue_other it true hnames

theorem props_setItem {c : Config N} {f : Field} (it : Item N.D) (g : Field) :
    props (c.setItem f it) g = props c g := by
  cases g <;> rfl

/-! ## What a field is read from -/

/-- A field is read from its items and from nothing else. -/
theorem getField_congr {c d : Config N} {f : Field} (hi : item c f = item d f)
    (hp : props c f = props d f) : getField c f = getField d f := by
  cases f
  case modbus =>
    simp only [item, Config.root, Field.inHomeScreen, Bool.false_eq_true, if_false,
      Option.bind_some] at hi
    simp only [props] at hp
    simp only [getField, getModbusConfig, hi, hp]
  case homeScreenContent =>
    simp only [item, Config.root, Field.inHomeScreen, if_true] at hi
    simp only [props] at hp
    simp only [getField, getHomeScreenContent, getString, Config.root, Field.inHomeScreen, if_true,
      hi, hp]
  case screenBrightness =>
    simp only [item, Config.root, Field.inHomeScreen, Bool.false_eq_true, if_false,
      Option.bind_some] at hi
    simp only [getField, getScreenBrightness, hi]
  case disableUserInterface =>
    simp only [item, Config.root, Field.inHomeScreen, Bool.false_eq_true, if_false,
      Option.bind_some] at hi
    simp only [getField, getUserInterfaceDisabled, hi]
  all_goals
    simp only [item] at hi
    simp only [getField, getStatusLed, getPowerStatusLed, getButtonVolume, getAutomaticTimeSync,
      getHomeScreenOffDelay, getHomeScreenOffDelayType, getFirmwareUpdateConfig, readText,
      readNumber, getString, getDouble, getBool, hi]

/-! ## Setting a field leaves the others -/

/-- Nothing but what `f` is read from differs. -/
def SameBut (f : Field) (c d : Config N) : Prop :=
  ∀ g, g ≠ f → item d g = item c g ∧ props d g = props c g

theorem SameBut.refl (f : Field) (c : Config N) : SameBut f c c := fun _ _ => ⟨rfl, rfl⟩

theorem SameBut.setItem (f : Field) (c : Config N) (it : Item N.D) :
    SameBut f c (c.setItem f it) :=
  fun g hne => ⟨item_setItem_other it hne, props_setItem it g⟩

theorem SameBut.setModbus (c : Config N) (b : List UInt8) :
    SameBut .modbus c (setModbusConfig c b) := by
  intro g hne
  have hname : sameName g.name (Field.name .modbus) = false := Field.sameName_name hne
  have hhome : sameName homeScreen (Field.name .modbus) = false := by decide
  have hcontent : sameName contentAvailable (Field.name .modbus) = false := by decide
  constructor
  · unfold item Config.root setModbusConfig
    split
    · rw [Node.get_within_other _ hhome]
    · simp only [Option.bind_some]
      exact Node.get_within_other _ hname
  · cases g
    case homeScreenContent =>
      simp only [props, setModbusConfig]
      exact Node.get_within_other _ hcontent
    case modbus => exact absurd rfl hne
    all_goals rfl

/-- Making sure that `homeScreen` is there changes no field. -/
theorem item_rooted (c : Config N) (g : Field) :
    item { c with user := c.user.within homeScreen id } g = item c g := by
  unfold item Config.root
  split
  · simp only [Node.get_within_self, id, Option.bind_some]
    cases c.user.get homeScreen <;> rfl
  · exact Node.get_within_other _ g.sameName_homeScreen.1

theorem SameBut.setContent (c : Config N) (b : List UInt8) :
    SameBut .homeScreenContent c (setHomeScreenContent c b) := by
  intro g hne
  have hmodbus : sameName (Field.name .modbus) contentAvailable = false := by decide
  constructor
  · unfold setHomeScreenContent
    simp only
    split
    · exact item_rooted c g
    · exact (item_setItem_other _ hne).trans (item_rooted c g)
  · cases g
    case modbus =>
      simp only [props, setHomeScreenContent]
      rw [Node.get_add_other _ hmodbus]
      split <;> split <;> first | rfl | exact Node.get_erase_other hmodbus
    case homeScreenContent => exact absurd rfl hne
    all_goals rfl

/-- A setter that only takes values that it knows. -/
theorem SameBut.guarded {f : Field} {c d : Config N} (p : Prop) [Decidable p]
    (h : SameBut f c d) : SameBut f c (if p then d else c) := by
  split
  · exact h
  · exact .refl f c

/-- **Setting a field leaves the others.** -/
theorem setField_other (c : Config N) (b : List UInt8) (f : Field) :
    SameBut f c (setField c b f) := by
  cases f with
  | statusLed => exact .guarded _ (.setItem _ _ _)
  | screenBrightness => exact .setItem _ _ _
  | buttonVolume => exact .guarded _ (.setItem _ _ _)
  | disableUserInterface => exact .guarded _ (.setItem _ _ _)
  | automaticTimeSync => exact .guarded _ (.setItem _ _ _)
  | homeScreenOffDelay => exact .setItem _ _ _
  | homeScreenContent => exact .setContent c b
  | homeScreenOffDelayType => exact .setItem _ _ _
  | powerStatusLed => exact .guarded _ (.setItem _ _ _)
  | modbus => exact .setModbus c b
  | firmwareUpdate => exact .setItem _ _ _

/-! ## Memory -/

theorem poke_append (m : List UInt8) (base : Nat) (ws vs : List Write) :
    poke m base (ws ++ vs) = poke (poke m base ws) base vs := List.foldl_append

theorem poke_cons (m : List UInt8) (base : Nat) (w : Write) (ws : List Write) :
    poke m base (w :: ws) = poke (memcpy m (base + w.off) w.bytes w.bytes.length) base ws := rfl

/-- Every write stays inside the first `n` bytes. -/
def Fits (n : Nat) (ws : List Write) : Prop := ∀ w ∈ ws, w.off + w.bytes.length ≤ n

theorem Fits.nil (n : Nat) : Fits n [] := fun _ h => nomatch h

theorem Fits.cons {n off : Nat} {bs : List UInt8} {ws : List Write} (h : off + bs.length ≤ n)
    (hs : Fits n ws) : Fits n (⟨off, bs⟩ :: ws) := by
  intro w hw
  rcases List.mem_cons.mp hw with rfl | hw
  · exact h
  · exact hs w hw

theorem Fits.append {n : Nat} {ws vs : List Write} (h : Fits n ws) (h' : Fits n vs) :
    Fits n (ws ++ vs) := by
  intro w hw
  rcases List.mem_append.mp hw with hw | hw
  · exact h w hw
  · exact h' w hw

theorem Fits.shift {n k : Nat} {g : Got} (h : Fits n g.2) : Fits (k + n) (g.shift k).2 := by
  intro w hw
  obtain ⟨v, hv, rfl⟩ := List.mem_map.mp hw
  have := h v hv
  show k + v.off + v.bytes.length ≤ k + n
  omega

theorem Fits.mono {n m : Nat} {ws : List Write} (h : Fits n ws) (hnm : n ≤ m) : Fits m ws :=
  fun w hw => Nat.le_trans (h w hw) hnm

/-- Writes to a structure behind `pre` do not touch `pre`. -/
theorem poke_behind (pre : List UInt8) (ws : List Write) :
    ∀ m, poke (pre ++ m) pre.length ws = pre ++ poke m 0 ws := by
  induction ws with
  | nil => intro m; rfl
  | cons w ws ih =>
    intro m
    have hw : memcpy (pre ++ m) (pre.length + w.off) w.bytes w.bytes.length =
        pre ++ memcpy m (0 + w.off) w.bytes w.bytes.length := by
      simp only [memcpy, Nat.zero_add, Nat.min_self, List.take_length, Nat.add_assoc,
        List.take_length_add_append, List.drop_length_add_append, List.append_assoc]
    rw [poke_cons, poke_cons, hw, ih]

/-- Writes that fit a structure do not touch what follows it. -/
theorem poke_before (ws : List Write) (rest : List UInt8) : ∀ m, Fits m.length ws →
    poke (m ++ rest) 0 ws = poke m 0 ws ++ rest ∧ (poke m 0 ws).length = m.length := by
  induction ws with
  | nil => intro m _; exact ⟨rfl, rfl⟩
  | cons w ws ih =>
    intro m h
    have hw := h w List.mem_cons_self
    have hlen : (memcpy m w.off w.bytes w.bytes.length).length = m.length :=
      length_memcpy w.bytes hw
    have hstep : memcpy (m ++ rest) w.off w.bytes w.bytes.length =
        memcpy m w.off w.bytes w.bytes.length ++ rest := by
      simp only [memcpy, Nat.min_self, List.take_length, List.append_assoc]
      rw [List.take_append_of_le_length (by omega), List.drop_append_of_le_length hw]
    obtain ⟨h1, h2⟩ := ih (memcpy m w.off w.bytes w.bytes.length)
      (by rw [hlen]; exact fun v hv => h v (List.mem_cons_of_mem _ hv))
    rw [poke_cons, poke_cons, Nat.zero_add, hstep, h1, h2, hlen]
    exact ⟨rfl, rfl⟩

/-- The structure of a field as its getter leaves it in zeroed memory. -/
def image (f : Field) (ws : List Write) : List UInt8 := poke (List.replicate f.size 0) 0 ws

theorem length_image {f : Field} {ws : List Write} (h : Fits f.size ws) :
    (image f ws).length = f.size := by
  have h' := (poke_before ws [] (List.replicate f.size 0) (by simpa using h)).2
  simpa [image] using h'

/-! ## Numbers and texts -/

theorem toLE_mod (w x : Nat) : toLE w (x % 256 ^ w) = toLE w x := by
  have h := toLE_ofLE (toLE w x)
  rwa [length_toLE, ofLE_toLE] at h

theorem readLE_drop (b : List UInt8) (k off w : Nat) :
    readLE (b.drop k) off w = readLE b (k + off) w := by
  unfold readLE
  rw [List.drop_drop]

/-- **A stored integer is read back.** -/
theorem convert_readInt (w off : Nat) (signed : Bool) (b : List UInt8) (h1 : 1 ≤ w) (h4 : w ≤ 4) :
    N.convert w signed (N.ofInt (readInt w signed b off)) = readLE b off w := by
  have hlt := readLE_lt b off w
  have hrange : inRange w signed (readInt w signed b off) ∧
      (readInt w signed b off % 256 ^ w).toNat = readLE b off w := by
    unfold inRange readInt
    obtain rfl | rfl | rfl | rfl : w = 1 ∨ w = 2 ∨ w = 3 ∨ w = 4 := by omega
    all_goals
      cases signed
      · simp only [Bool.false_eq_true, false_and, if_false]
        omega
      · simp only [true_and, if_true]
        split <;> omega
  rw [N.convert_ofInt h4 hrange.1, hrange.2]

/-- A code between bytes up to `top` and texts. -/
structure TextCode (value : String → Nat) (text : Nat → String) (top : Nat) : Prop where
  le : ∀ s, value s ≤ top
  small : top < 256
  back : ∀ x ≤ top, value (text x) = x

theorem statusLed_code : TextCode stringToStatusLed statusLedToString 2 where
  le s := by unfold stringToStatusLed; split_ifs <;> omega
  small := by decide
  back := by decide

theorem powerStatusLed_code : TextCode stringToPowerStatusLed powerStatusLedToString 1 where
  le s := by unfold stringToPowerStatusLed; split_ifs <;> omega
  small := by decide
  back := by decide

theorem offDelayType_code :
    TextCode stringToHomeScreenOffDelayType homeScreenOffDelayTypeToString 1 where
  le s := by unfold stringToHomeScreenOffDelayType; split_ifs <;> omega
  small := by decide
  back := by decide

theorem modbusRole_code : TextCode stringToModbusRole modbusRoleToString 2 where
  le s := by unfold stringToModbusRole; split_ifs <;> omega
  small := by decide
  back := by decide

theorem modbusSerialMode_code : TextCode stringToModbusSerialMode modbusSerialModeToString 2 where
  le s := by unfold stringToModbusSerialMode; split_ifs <;> omega
  small := by decide
  back := by decide

theorem modbusNetworkMode_code :
    TextCode stringToModbusNetworkMode modbusNetworkModeToString 2 where
  le s := by unfold stringToModbusNetworkMode; split_ifs <;> omega
  small := by decide
  back := by decide

theorem modbusStopBits_code : TextCode stringToModbusStopBits modbusStopBitsToString 2 where
  le s := by unfold stringToModbusStopBits; split_ifs <;> omega
  small := by decide
  back := by decide

theorem fwUpdatePolicy_code : TextCode stringToFwUpdatePolicy fwUpdatePolicyToString 3 where
  le s := by unfold stringToFwUpdatePolicy; split_ifs <;> omega
  small := by decide
  back := by decide

/-! ## Flags -/

theorem testBit_readFlags (flag : Node D → Nat) (i : Nat) (items : List (Node D)) :
    (readFlags flag items).testBit i = items.any fun it => (flag it).testBit i := by
  have run : ∀ (items : List (Node D)) (acc : Nat),
      (items.foldl (fun flags it => flags ||| flag it) acc).testBit i =
        (acc.testBit i || items.any fun it => (flag it).testBit i) := by
    intro items
    induction items with
    | nil => intro acc; simp
    | cons it items ih =>
      intro acc
      rw [List.foldl_cons, ih, Nat.testBit_or, List.any_cons, Bool.or_assoc]
  rw [readFlags, run, Nat.zero_testBit, Bool.false_or]

/-- **Flags listed are read back**: every bit has an item that sets it alone. -/
theorem readFlags_flagItems {flag : Node D → Nat} {order : List Nat}
    {item : Nat → Option (Node D)} {flags : Nat}
    (hflag : ∀ i it, item i = some it → flag it = 2 ^ i)
    (hall : ∀ i, flags.testBit i = true → i ∈ order ∧ (item i).isSome = true) :
    readFlags flag (flagItems order item flags) = flags := by
  apply Nat.eq_of_testBit_eq
  intro i
  rw [testBit_readFlags, Bool.eq_iff_iff, List.any_eq_true]
  constructor
  · rintro ⟨it, hit, hbit⟩
    obtain ⟨j, -, hj⟩ := List.mem_filterMap.mp hit
    by_cases hset : flags.testBit j = true
    · rw [if_pos hset] at hj
      rw [hflag j it hj, Nat.testBit_two_pow, decide_eq_true_eq] at hbit
      rwa [← hbit]
    · rw [if_neg hset] at hj
      cases hj
  · intro hset
    obtain ⟨hmem, hsome⟩ := hall i hset
    obtain ⟨it, hit⟩ := Option.isSome_iff_exists.mp hsome
    refine ⟨it, List.mem_filterMap.mpr ⟨i, hmem, by rw [if_pos hset, hit]⟩, ?_⟩
    rw [hflag i it hit, Nat.testBit_two_pow_self]

/-- Flags below `2 ^ n` whatever is listed. -/
theorem readFlags_lt {flag : Node D → Nat} {n : Nat} (h : ∀ it, flag it < 2 ^ n)
    (items : List (Node D)) : readFlags flag items < 2 ^ n := by
  have run : ∀ (items : List (Node D)) (acc : Nat), acc < 2 ^ n →
      items.foldl (fun flags it => flags ||| flag it) acc < 2 ^ n := by
    intro items
    induction items with
    | nil => intro acc hacc; exact hacc
    | cons it items ih => intro acc hacc; exact ih _ (Nat.or_lt_two_pow hacc (h it))
  exact run items 0 (Nat.two_pow_pos n)

/-- The bits of a number below `2 ^ n`. -/
theorem lt_of_testBit {flags n i : Nat} (h : flags < 2 ^ n) (hset : flags.testBit i = true) :
    i < n := by
  by_contra hle
  have : flags.testBit i = false :=
    Nat.testBit_lt_two_pow (Nat.lt_of_lt_of_le h (Nat.pow_le_pow_right (by decide) (by omega)))
  rw [this] at hset
  cases hset

/-- A list of flags that is written from and read into a bit field without loss. -/
structure FlagCode (flag : Node D → Nat) (order : List Nat) (item : Nat → Option (Node D))
    (n : Nat) : Prop where
  lt : ∀ it, flag it < 2 ^ n
  alone : ∀ i it, item i = some it → flag it = 2 ^ i
  listed : ∀ i < n, i ∈ order ∧ (item i).isSome = true

theorem FlagCode.back {flag : Node D → Nat} {order : List Nat} {item : Nat → Option (Node D)}
    {n : Nat} (code : FlagCode flag order item n) {flags : Nat} (h : flags < 2 ^ n) :
    readFlags flag (flagItems order item flags) = flags :=
  readFlags_flagItems code.alone fun i hset => code.listed i (lt_of_testBit h hset)

theorem protocol_code :
    FlagCode (protocolFlag (D := D)) [0, 1, 2, 3, 4, 5] protocolItem 6 where
  lt it := by
    unfold protocolFlag
    split
    · split_ifs <;> decide
    · decide
  alone i it h := by
    unfold protocolItem at h
    split at h
    case h_7 => cases h
    all_goals cases h; rfl
  listed i h := by
    obtain rfl | rfl | rfl | rfl | rfl | rfl :
      i = 0 ∨ i = 1 ∨ i = 2 ∨ i = 3 ∨ i = 4 ∨ i = 5 := by omega
    all_goals exact ⟨by decide, rfl⟩

theorem baudrate_code (N : Doubles) :
    FlagCode (baudrateFlag N) [0, 1, 2, 3, 4, 5] (baudrateItem N) 6 where
  lt it := by
    unfold baudrateFlag
    split
    · split <;> decide
    · decide
  alone i it h := by
    have hconv : ∀ n : Int, 0 ≤ n → n < 2 ^ 31 → N.convert 4 true (N.ofInt n) = n.toNat := by
      intro n h0 hn
      rw [N.convert_ofInt (by decide) (by unfold inRange; simp; omega)]
      omega
    unfold baudrateItem at h
    split at h
    case h_7 => cases h
    all_goals
      cases h
      simp [baudrateFlag, Node.leaf, Node.kind, hconv]
  listed i h := by
    obtain rfl | rfl | rfl | rfl | rfl | rfl :
      i = 0 ∨ i = 1 ∨ i = 2 ∨ i = 3 ∨ i = 4 ∨ i = 5 := by omega
    all_goals exact ⟨by decide, rfl⟩

theorem stopBits_code : FlagCode (stopBitsFlag (D := D)) [0, 2, 1] stopBitsItem 3 where
  lt it := by
    unfold stopBitsFlag
    split
    · split_ifs <;> decide
    · decide
  alone i it h := by
    unfold stopBitsItem at h
    split at h
    case h_4 => cases h
    all_goals cases h; rfl
  listed i h := by
    obtain rfl | rfl | rfl : i = 0 ∨ i = 1 ∨ i = 2 := by omega
    all_goals exact ⟨by decide, rfl⟩

/-- A content past the eighth has no text: the loop passes it as an `unsigned char`. -/
theorem contentItem_above {a : Nat} (h : 8 ≤ a) : (contentItem a : Option (Node D)) = none := by
  have hmod : 2 ^ a % 256 = 0 := by
    obtain ⟨k, rfl⟩ := Nat.exists_eq_add_of_le h
    rw [Nat.pow_add]
    omega
  simp [contentItem, homeScreenContentToString, hmod, homeScreenContentMap]

theorem content_code : FlagCode (contentFlag (D := D)) (List.range 64) contentItem 8 where
  lt it := by
    unfold contentFlag
    split
    · unfold stringToHomeScreenContent
      split
      · rename_i e he
        have hmem := List.mem_of_find?_eq_some he
        have table : ∀ e ∈ homeScreenContentMap, e.1 < 2 ^ 8 := by decide
        exact table e hmem
      · decide
    · decide
  alone i it h := by
    by_cases hi : 8 ≤ i
    · rw [contentItem_above hi] at h
      cases h
    · obtain rfl | rfl | rfl | rfl | rfl | rfl | rfl | rfl :
        i = 0 ∨ i = 1 ∨ i = 2 ∨ i = 3 ∨ i = 4 ∨ i = 5 ∨ i = 6 ∨ i = 7 := by omega
      all_goals cases h; rfl
  listed i h := by
    obtain rfl | rfl | rfl | rfl | rfl | rfl | rfl | rfl :
      i = 0 ∨ i = 1 ∨ i = 2 ∨ i = 3 ∨ i = 4 ∨ i = 5 ∨ i = 6 ∨ i = 7 := by omega
    all_goals exact ⟨by decide, rfl⟩

/-! ## Fields read back

Each field that was read is set in a configuration without it from a block that starts with its
structure, and read again. -/

/-- `b` starts with the structure that the getter of `f` left. -/
structure Starts (f : Field) (ws : List Write) (b : List UInt8) : Prop where
  take : b.take f.size = image f ws

theorem Starts.readLE {f : Field} {ws : List Write} {b : List UInt8} (h : Starts f ws b)
    (off w : Nat) (hfit : off + w ≤ f.size) :
    readLE b off w = Bytes.readLE (image f ws) off w := by
  rw [← h.take, readLE_take hfit]

/-- The field `f` of `d` reads as the writes `ws` did. -/
def ReadsAs (d : Config N) (f : Field) (ws : List Write) : Prop :=
  ∃ ws', getField d f = (true, ws') ∧ image f ws' = image f ws

theorem readText_eq {parent : Option (Node N.D)} {key : String} {off : Nat}
    {value : String → Nat} {s : String} (h : getString parent key = some s) :
    readText parent key off value = (true, [⟨off, toLE 1 (value s)⟩]) := by
  simp only [readText, h]

theorem readNumber_eq {parent : Option (Node N.D)} {key : String} {off w : Nat} {signed : Bool}
    {d : N.D} (h : getDouble parent key = some d) :
    readNumber parent key off w signed = (true, [⟨off, toLE w (N.convert w signed d)⟩]) := by
  simp only [readNumber, h]

theorem readText_true {parent : Option (Node N.D)} {key : String} {off : Nat}
    {value : String → Nat} {ws : List Write} (h : readText parent key off value = (true, ws)) :
    ∃ s, ws = [⟨off, toLE 1 (value s)⟩] := by
  unfold readText at h
  split at h
  · cases h; exact ⟨_, rfl⟩
  · cases h

theorem readNumber_true {parent : Option (Node N.D)} {key : String} {off w : Nat} {signed : Bool}
    {ws : List Write} (h : readNumber parent key off w signed = (true, ws)) :
    ∃ d, ws = [⟨off, toLE w (N.convert w signed d)⟩] := by
  unfold readNumber at h
  split at h
  · cases h; exact ⟨_, rfl⟩
  · cases h

/-- A structure whose first byte is written. -/
theorem image_first (f : Field) (x : Nat) :
    image f [⟨0, toLE 1 x⟩] = UInt8.ofNat x :: List.replicate (f.size - 1) 0 := by
  cases f <;> rfl

theorem readLE_first (x : UInt8) (bs : List UInt8) : readLE (x :: bs) 0 1 = x.toNat := rfl

theorem one_le_size (f : Field) : 1 ≤ f.size := by cases f <;> decide

/-- The fields that are one text. -/
theorem text_readsAs {f : Field} {value : String → Nat} {text : Nat → String} {top : Nat}
    (code : TextCode value text top)
    (hget : ∀ c : Config N, getField c f = readText (c.root f) f.name 0 value)
    (hset : ∀ (c : Config N) b, readLE b 0 1 ≤ top →
      setField c b f = c.setItem f (.string (text (readLE b 0 1))))
    {c d : Config N} {ws : List Write} {b : List UInt8} (h : getField c f = (true, ws))
    (hd : Absent d f) (hb : Starts f ws b) : ReadsAs (setField d b f) f ws := by
  rw [hget] at h
  obtain ⟨s, rfl⟩ := readText_true h
  have hle := code.le s
  have hsmall := code.small
  have hbyte : readLE b 0 1 = value s := by
    rw [hb.readLE 0 1 (one_le_size f), image_first, readLE_first, UInt8.toNat_ofNat']
    omega
  refine ⟨_, (hget _).trans (readText_eq (s := text (value s)) ?_), ?_⟩
  · rw [hset _ _ (by omega), hbyte]
    have hitem := item_setItem_self (.string (text (value s))) hd.1
    rw [getString, ← item, hitem]
    rfl
  · rw [code.back _ hle]

/-- The home screen delay, a number. -/
theorem offDelay_readsAs {c d : Config N} {ws : List Write} {b : List UInt8}
    (h : getField c .homeScreenOffDelay = (true, ws)) (hd : Absent d .homeScreenOffDelay)
    (hb : Starts .homeScreenOffDelay ws b) :
    ReadsAs (setField d b .homeScreenOffDelay) .homeScreenOffDelay ws := by
  obtain ⟨x, rfl⟩ := readNumber_true h
  have hread : readLE b 0 2 = N.convert 2 false x % 256 ^ 2 := by
    rw [hb.readLE 0 2 (by decide), ← ofLE_toLE]
    rfl
  refine ⟨_, readNumber_eq (d := N.ofInt (readInt 2 false b 0)) ?_, ?_⟩
  · have hitem := item_setItem_self (.number (N.ofInt (readInt 2 false b 0))) hd.1
    rw [getDouble, ← item, setField, setHomeScreenOffDelay, hitem]
    rfl
  · rw [convert_readInt 2 0 false b (by decide) (by decide), hread, toLE_mod]

/-- A percentage that was stored reads as a percentage. -/
theorem filter_percent {b : List UInt8} {off : Nat} (h : readLE b off 1 ≤ 100) :
    (some (N.ofInt (readInt 1 false b off))).filter N.percent =
      some (N.ofInt (readInt 1 false b off)) := by
  have hint : readInt 1 false b off = (readLE b off 1 : Nat) := by simp [readInt]
  rw [hint, Option.filter_some_pos (N.percent_ofInt _ h)]

theorem volume_readsAs {c d : Config N} {ws : List Write} {b : List UInt8}
    (h : getField c .buttonVolume = (true, ws)) (hd : Absent d .buttonVolume)
    (hb : Starts .buttonVolume ws b) : ReadsAs (setField d b .buttonVolume) .buttonVolume ws := by
  simp only [getField, getButtonVolume] at h
  split at h
  · rename_i value hvalue
    cases h
    have hle := N.convert_percent value (Option.filter_eq_some_iff.mp hvalue).2
    have hbyte : readLE b 0 1 = N.convert 1 false value := by
      rw [hb.readLE 0 1 (by decide), image_first, readLE_first, UInt8.toNat_ofNat']
      omega
    have hset : setField d b .buttonVolume =
        d.setItem .buttonVolume (.number (N.ofInt (readInt 1 false b 0))) := by
      rw [setField, setButtonVolume, if_pos (by omega)]
    have hnumber : getDouble ((setField d b .buttonVolume).root .buttonVolume)
        (Field.name .buttonVolume) = some (N.ofInt (readInt 1 false b 0)) := by
      have hitem := item_setItem_self (.number (N.ofInt (readInt 1 false b 0))) hd.1
      rw [getDouble, ← item, hset, hitem]
      rfl
    refine ⟨[⟨0, toLE 1 (N.convert 1 false (N.ofInt (readInt 1 false b 0)))⟩], ?_, ?_⟩
    · simp only [getField, getButtonVolume, hnumber, filter_percent (by omega : readLE b 0 1 ≤ 100)]
    · rw [convert_readInt 1 0 false b (by decide) (by decide), hbyte]
  · cases h

/-- The two ways a screen brightness is read: a level, or automatic with an adjustment. -/
theorem getScreenBrightness_true {c : Config N} {ws : List Write}
    (h : getField c .screenBrightness = (true, ws)) :
    (∃ v ≤ 100, image .screenBrightness ws = [UInt8.ofNat v, 0, 0]) ∨
    (∃ x : UInt8, image .screenBrightness ws = [0, 1, x]) := by
  simp only [getField, getScreenBrightness] at h
  split at h
  · cases h
  · split at h
    · rename_i value hvalue
      cases h
      exact .inl ⟨_, N.convert_percent value (Option.filter_eq_some_iff.mp hvalue).2, rfl⟩
    · split at h
      · cases h
        right
        unfold readNumber
        split
        · exact ⟨_, rfl⟩
        · exact ⟨0, rfl⟩
      · cases h

theorem brightness_readsAs {c d : Config N} {ws : List Write} {b : List UInt8}
    (h : getField c .screenBrightness = (true, ws)) (hd : Absent d .screenBrightness)
    (hb : Starts .screenBrightness ws b) :
    ReadsAs (setField d b .screenBrightness) .screenBrightness ws := by
  have hstored : ∀ br, setField d b .screenBrightness = d.setItem .screenBrightness (.object br) →
      (setField d b .screenBrightness).user.get (Field.name .screenBrightness) = some br := by
    intro br hset
    have hitem := item_setItem_self (.object br) hd.1
    rw [hset]
    exact hitem
  have hr0 := hb.readLE 0 1 (by decide)
  have hr1 := hb.readLE 1 1 (by decide)
  have hr2 := hb.readLE 2 1 (by decide)
  rcases getScreenBrightness_true h with ⟨v, hv, himage⟩ | ⟨x, himage⟩
  · rw [himage] at hr0 hr1 hr2
    have h0 : readLE b 0 1 = v := by
      rw [hr0, readLE_first, UInt8.toNat_ofNat']
      omega
    have h1 : readLE b 1 1 = 0 := hr1
    have hget := hstored
      (setItemValue .emptyObject "level" (.number (N.ofInt (readInt 1 false b 0))) true)
      (by simp only [setField, setScreenBrightness, h1, h0, if_pos hv, Nat.zero_ne_one, if_false])
    refine ⟨[⟨1, [0]⟩, ⟨0, toLE 1 (N.convert 1 false (N.ofInt (readInt 1 false b 0)))⟩], ?_, ?_⟩
    · have hlevel : getDouble (some (setItemValue (.emptyObject : Node N.D) "level"
          (.number (N.ofInt (readInt 1 false b 0))) true)) "level" =
          some (N.ofInt (readInt 1 false b 0)) := by
        rw [getDouble, Option.bind_some, get_setItemValue_new _ (by decide) rfl]
        rfl
      simp only [getField, getScreenBrightness, hget, hlevel]
      rw [filter_percent (by omega)]
    · rw [himage, convert_readInt 1 0 false b (by decide) (by decide), h0]
      rfl
  · rw [himage] at hr0 hr1 hr2
    have h1 : readLE b 1 1 = 1 := hr1
    have h2 : readLE b 2 1 = x.toNat := hr2
    have hget := hstored (setItemValue (setItemValue .emptyObject "level" (.string "auto") true)
      "adjustment" (.number (N.ofInt (readInt 1 true b 2))) true)
      (by simp only [setField, setScreenBrightness, h1, if_true])
    have hlevel : (setItemValue (setItemValue (.emptyObject : Node N.D) "level" (.string "auto")
        true) "adjustment" (.number (N.ofInt (readInt 1 true b 2))) true).get "level" =
        some (.leaf (.string "auto")) := by
      rw [get_setItemValue_other _ _ (by decide), get_setItemValue_new _ (by decide) rfl]
      rfl
    have hadj : getDouble (some (setItemValue (setItemValue (.emptyObject : Node N.D) "level"
        (.string "auto") true) "adjustment" (.number (N.ofInt (readInt 1 true b 2))) true))
        "adjustment" = some (N.ofInt (readInt 1 true b 2)) := by
      rw [getDouble, Option.bind_some, get_setItemValue_new _ (by decide)
        (by rw [get_setItemValue_other _ _ (by decide)]; rfl)]
      rfl
    refine ⟨[⟨1, [1]⟩, ⟨0, [0]⟩] ++
      [⟨2, toLE 1 (N.convert 1 true (N.ofInt (readInt 1 true b 2)))⟩], ?_, ?_⟩
    · simp only [getField, getScreenBrightness, hget, getDouble, getString, Option.bind_some,
        hlevel]
      rw [readNumber_eq hadj]
      rfl
    · rw [himage, convert_readInt 1 2 true b (by decide) (by decide), h2]
      show [0, 1, UInt8.ofNat x.toNat] = _
      rw [UInt8.ofNat_toNat]

theorem timeSync_readsAs {c d : Config N} {ws : List Write} {b : List UInt8}
    (h : getField c .automaticTimeSync = (true, ws)) (hd : Absent d .automaticTimeSync)
    (hb : Starts .automaticTimeSync ws b) :
    ReadsAs (setField d b .automaticTimeSync) .automaticTimeSync ws := by
  simp only [getField, getAutomaticTimeSync] at h
  split at h
  · rename_i value hvalue
    cases h
    have hbyte : readLE b 0 1 = if value then 1 else 0 := by
      rw [hb.readLE 0 1 (by decide)]
      cases value <;> rfl
    have hset : setField d b .automaticTimeSync =
        d.setItem .automaticTimeSync (if value then .true else .false) := by
      rw [setField, setAutomaticTimeSync, hbyte]
      cases value <;> rfl
    refine ⟨[⟨0, [if value then 1 else 0]⟩], ?_, rfl⟩
    have hitem := item_setItem_self (if value then .true else .false) hd.1
    simp only [getField, getAutomaticTimeSync, getBool]
    rw [← item, hset, hitem]
    cases value <;> rfl
  · cases h

/-- The two ways the user interface is read: a truth value, or partial with two temperatures. -/
theorem getUserInterface_true {c : Config N} {ws : List Write}
    (h : getField c .disableUserInterface = (true, ws)) :
    (∃ value : Bool, image .disableUserInterface ws = [if value then 1 else 0, 0, 0, 0, 0]) ∨
    (∃ min max : Nat, image .disableUserInterface ws = 2 :: (toLE 2 min ++ toLE 2 max)) := by
  simp only [getField, getUserInterfaceDisabled] at h
  split at h
  · rename_i value hvalue
    cases h
    exact .inl ⟨value, rfl⟩
  · split at h
    · split at h
      · rename_i min max _ _
        cases h
        exact .inr ⟨N.convert 2 false min, N.convert 2 false max, rfl⟩
      · cases h
    · cases h

theorem get_partial (x y z : Node D) :
    let ui := (((Node.emptyObject).add "disabled" x).add
      "minAllowedTemperatureSetpointFromLocalUI" y).add "maxAllowedTemperatureSetpointFromLocalUI" z
    ui.get "disabled" = some x ∧ ui.get "minAllowedTemperatureSetpointFromLocalUI" = some y ∧
      ui.get "maxAllowedTemperatureSetpointFromLocalUI" = some z := ⟨rfl, rfl, rfl⟩

theorem userInterface_readsAs {c d : Config N} {ws : List Write} {b : List UInt8}
    (h : getField c .disableUserInterface = (true, ws)) (hd : Absent d .disableUserInterface)
    (hb : Starts .disableUserInterface ws b) :
    ReadsAs (setField d b .disableUserInterface) .disableUserInterface ws := by
  have hstored : ∀ ui, setField d b .disableUserInterface =
      d.setItem .disableUserInterface (.object ui) →
      (setField d b .disableUserInterface).user.get (Field.name .disableUserInterface) =
        some ui := by
    intro ui hset
    have hitem := item_setItem_self (.object ui) hd.1
    rw [hset]
    exact hitem
  have hr0 := hb.readLE 0 1 (by decide)
  have hr1 := hb.readLE 1 2 (by decide)
  have hr3 := hb.readLE 3 2 (by decide)
  rcases getUserInterface_true h with ⟨value, himage⟩ | ⟨min, max, himage⟩
  · rw [himage] at hr0
    have h0 : readLE b 0 1 = if value then 1 else 0 := by
      rw [hr0]
      cases value <;> rfl
    have hget := hstored
      ((Node.emptyObject).add "disabled" (.leaf (if value then .true else .false)))
      (by
        simp only [setField, setUserInterfaceDisabled, h0]
        cases value <;> rfl)
    refine ⟨[⟨1, toLE 2 0⟩, ⟨3, toLE 2 0⟩] ++ [⟨0, [if value then 1 else 0]⟩], ?_, ?_⟩
    · simp only [getField, getUserInterfaceDisabled, hget, getBool, Option.bind_some]
      rw [Node.get_add_self _ rfl]
      cases value <;> rfl
    · rw [himage]
      rfl
  · rw [himage] at hr0 hr1 hr3
    have h0 : readLE b 0 1 = 2 := hr0
    have h1 : readLE b 1 2 = min % 256 ^ 2 := by rw [hr1, ← ofLE_toLE]; rfl
    have h3 : readLE b 3 2 = max % 256 ^ 2 := by rw [hr3, ← ofLE_toLE]; rfl
    have hget := hstored ((((Node.emptyObject).add "disabled" (.leaf (.string "partial"))).add
      "minAllowedTemperatureSetpointFromLocalUI"
      (.leaf (.number (N.ofInt (readInt 2 false b 1))))).add
      "maxAllowedTemperatureSetpointFromLocalUI"
      (.leaf (.number (N.ofInt (readInt 2 false b 3)))))
      (by simp only [setField, setUserInterfaceDisabled, h0, if_true, Nat.le_refl])
    refine ⟨[⟨1, toLE 2 0⟩, ⟨3, toLE 2 0⟩] ++ [⟨0, [2]⟩,
      ⟨1, toLE 2 (N.convert 2 false (N.ofInt (readInt 2 false b 1)))⟩,
      ⟨3, toLE 2 (N.convert 2 false (N.ofInt (readInt 2 false b 3)))⟩], ?_, ?_⟩
    · obtain ⟨hdisabled, hmin, hmax⟩ := get_partial (.leaf (.string "partial"))
        (.leaf (.number (N.ofInt (readInt 2 false b 1))))
        (.leaf (.number (N.ofInt (readInt 2 false b 3))))
      simp only [getField, getUserInterfaceDisabled, hget, getBool, getString, getDouble,
        Option.bind_some, hdisabled, hmin, hmax]
      rfl
    · rw [himage, convert_readInt 2 1 false b (by decide) (by decide),
        convert_readInt 2 3 false b (by decide) (by decide), h1, h3, toLE_mod, toLE_mod]
      rfl

/-- The values of the home screen content that are stored as a text. -/
theorem content_back (s : String) :
    stringToHomeScreenContent s < 256 ∧
    homeScreenContentToString (stringToHomeScreenContent s) ≠ "" ∧
    stringToHomeScreenContent (homeScreenContentToString (stringToHomeScreenContent s)) =
      stringToHomeScreenContent s := by
  have table : ∀ e ∈ homeScreenContentMap, e.1 < 256 ∧ homeScreenContentToString e.1 ≠ "" ∧
      stringToHomeScreenContent (homeScreenContentToString e.1) = e.1 := by decide
  have hmem : ∃ e ∈ homeScreenContentMap, stringToHomeScreenContent s = e.1 := by
    unfold stringToHomeScreenContent
    split
    · rename_i e he
      exact ⟨e, List.mem_of_find?_eq_some he, rfl⟩
    · exact ⟨(1, "NONE"), by decide, rfl⟩
  obtain ⟨e, he, heq⟩ := hmem
  rw [heq]
  exact table e he

/-- What the home screen content is read as: the available contents, and the content if any. -/
theorem getContent_image (c : Config N) :
    ∃ flags < 2 ^ 8, ∃ v, (v = 0 ∨ ∃ s, v = stringToHomeScreenContent s) ∧
      image .homeScreenContent (getField c .homeScreenContent).2 = toLE 8 flags ++ toLE 8 v := by
  simp only [getField, getHomeScreenContent]
  cases getString (c.root .homeScreenOffDelay) (Field.name .homeScreenContent) with
  | some s =>
    cases c.properties.get contentAvailable with
    | some modes =>
      by_cases harray : modes.kind.sameType .array = true
      · simp only [harray, if_true]
        exact ⟨_, readFlags_lt content_code.lt _, _, .inr ⟨s, rfl⟩, rfl⟩
      · simp only [harray]
        exact ⟨0, by decide, _, .inr ⟨s, rfl⟩, rfl⟩
    | none => exact ⟨0, by decide, _, .inr ⟨s, rfl⟩, rfl⟩
  | none =>
    cases c.properties.get contentAvailable with
    | some modes =>
      by_cases harray : modes.kind.sameType .array = true
      · simp only [harray, if_true]
        exact ⟨_, readFlags_lt content_code.lt _, 0, .inl rfl, rfl⟩
      · simp only [harray]
        exact ⟨0, by decide, 0, .inl rfl, rfl⟩
    | none => exact ⟨0, by decide, 0, .inl rfl, rfl⟩

theorem content_readsAs {c d : Config N} {ws : List Write} {b : List UInt8}
    (h : getField c .homeScreenContent = (true, ws)) (hd : Absent d .homeScreenContent)
    (hb : Starts .homeScreenContent ws b) :
    ReadsAs (setField d b .homeScreenContent) .homeScreenContent ws := by
  obtain ⟨flags, hflags, v, hv, himage⟩ := getContent_image c
  rw [h] at himage
  simp only at himage
  have hlt : v < 256 := by
    rcases hv with rfl | ⟨s, rfl⟩
    · decide
    · exact (content_back s).1
  have h0 : readLE b 0 8 = flags := by
    have hread : readLE (toLE 8 flags ++ toLE 8 v) 0 8 = ofLE (toLE 8 flags) := rfl
    rw [hb.readLE 0 8 (by decide), himage, hread, ofLE_toLE]
    omega
  have h8 : readLE b 8 8 = v := by
    have hread : readLE (toLE 8 flags ++ toLE 8 v) 8 8 = ofLE (toLE 8 v) := rfl
    rw [hb.readLE 8 8 (by decide), himage, hread, ofLE_toLE]
    omega
  have hprops : (setField d b .homeScreenContent).properties.get contentAvailable =
      some (.ofItems (flagItems (List.range 64) contentItem flags)) := by
    have hnone : d.properties.get contentAvailable = none := hd.2
    simp only [setField, setHomeScreenContent, h0]
    split
    all_goals
      simp only [Config.setItem, hnone, Option.isSome_none, Bool.false_eq_true, if_false]
      exact Node.get_add_self _ hnone
  have hitem : getString ((setField d b .homeScreenContent).root .homeScreenOffDelay)
      (Field.name .homeScreenContent) =
      if v = 0 then none else some (homeScreenContentToString v) := by
    have hrooted := (item_rooted d .homeScreenContent).trans hd.1
    show stringOf (item (setHomeScreenContent d b) .homeScreenContent) = _
    rcases hv with rfl | ⟨s, rfl⟩
    · have hempty : homeScreenContentToString 0 = "" := by decide
      simp only [setHomeScreenContent, h8, hempty, if_true]
      exact congrArg stringOf hrooted
    · have hne := (content_back s).2.1
      have hzero : stringToHomeScreenContent s ≠ 0 := by
        intro hz
        rw [hz] at hne
        exact hne (by decide)
      simp only [setHomeScreenContent, h8, if_neg hne, if_neg hzero]
      exact congrArg stringOf (item_setItem_self (.string _) hrooted)
  have hback := content_code.back hflags (D := N.D)
  refine ⟨(if v = 0 then [] else [⟨8, toLE 8 v⟩]) ++ [⟨0, toLE 8 0⟩, ⟨0, toLE 8 flags⟩], ?_, ?_⟩
  · simp only [getField, getHomeScreenContent, hprops, hitem]
    rcases hv with rfl | ⟨s, rfl⟩
    · simp only [if_true, Node.items_ofItems, hback]
      rfl
    · by_cases hz : stringToHomeScreenContent s = 0
      · simp only [hz, if_true, Node.items_ofItems, hback]
        rfl
      · simp only [if_neg hz, (content_back s).2.2, Node.items_ofItems, hback]
        rfl
  · rw [himage]
    split
    · rename_i hz
      rw [hz]
      rfl
    · rfl

end Device.JsonConfig
