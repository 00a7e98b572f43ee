import Mathlib.Data.List.Dedup
import Mathlib.Data.Finset.Card
import Mathlib.Data.List.Pairwise

/-!
# Tables with one entry per key

An array whose entries are used from the front: `pad` is the array that begins with a list of
entries, `write` a write that stays inside. A table is filled with elements one by one (`fill`): an
element that hits an entry changes it, any other takes the next free place, until none is left. Its
keys stay distinct exactly while no element that cannot hit takes a place with a key that is there
already (`fill_nodup_iff`).

`lastPer` and `firstPer` keep one element of a list for each key.
-/

namespace Slots

/-! ## One element per key -/

section
variable {α κ : Type} [DecidableEq κ] {key : α → κ}

/-- The last element with each key, in order. -/
def lastPer (key : α → κ) (l : List α) : List α := l.pwFilter fun a b => key a ≠ key b

/-- The first element with each key, in order. -/
def firstPer (key : α → κ) (l : List α) : List α := (lastPer key l.reverse).reverse

theorem lastPer_nodup (key : α → κ) (l : List α) : ((lastPer key l).map key).Nodup :=
  List.pairwise_map.mpr (List.pairwise_pwFilter l)

theorem lastPer_length_le (key : α → κ) (l : List α) : (lastPer key l).length ≤ l.length :=
  (List.pwFilter_sublist l).length_le

theorem mem_of_mem_lastPer {l : List α} {a : α} (h : a ∈ lastPer key l) : a ∈ l :=
  (List.pwFilter_sublist l).subset h

theorem lastPer_of_nodup {l : List α} (h : (l.map key).Nodup) : lastPer key l = l :=
  List.pwFilter_eq_self.mpr (List.pairwise_map.mp h)

theorem key_mem_lastPer {l : List α} {a : α} (h : a ∈ l) : key a ∈ (lastPer key l).map key := by
  induction l with
  | nil => exact absurd h List.not_mem_nil
  | cons b l ih =>
    by_cases hb : ∀ c ∈ lastPer key l, key b ≠ key c
    · rw [lastPer, List.pwFilter_cons_of_pos hb, List.map_cons]
      rcases List.mem_cons.mp h with rfl | h
      · exact List.mem_cons_self
      · exact List.mem_cons_of_mem _ (ih h)
    · rw [lastPer, List.pwFilter_cons_of_neg hb]
      rcases List.mem_cons.mp h with rfl | h
      · push Not at hb
        obtain ⟨c, hc, heq⟩ := hb
        exact List.mem_map.mpr ⟨c, hc, heq.symm⟩
      · exact ih h

/-- One element more at the end takes the place of the one with its key. -/
theorem lastPer_concat (l : List α) (a : α) :
    lastPer key (l ++ [a]) = (lastPer key l).filter (fun b => key b ≠ key a) ++ [a] := by
  induction l with
  | nil => rfl
  | cons b l ih =>
    rw [List.cons_append]
    unfold lastPer at ih ⊢
    by_cases hb : ∀ c ∈ l.pwFilter fun a b => key a ≠ key b, key b ≠ key c
    · rw [List.pwFilter_cons_of_pos hb]
      by_cases hba : key b = key a
      · rw [List.pwFilter_cons_of_neg, ih, List.filter_cons_of_neg (by simp [hba])]
        rw [ih]
        exact fun hall => hall a (by simp) hba
      · rw [List.pwFilter_cons_of_pos, ih, List.filter_cons_of_pos (by simp [hba])]
        · rfl
        · rw [ih]
          intro c hc
          rcases List.mem_append.mp hc with hc | hc
          · exact hb c (List.mem_filter.mp hc).1
          · rw [List.mem_singleton.mp hc]
            exact hba
    · rw [List.pwFilter_cons_of_neg hb, List.pwFilter_cons_of_neg, ih]
      rw [ih]
      push Not at hb
      obtain ⟨c, hc, heq⟩ := hb
      intro hall
      by_cases hca : key c = key a
      · exact hall a (by simp) (heq.trans hca)
      · exact hall c (by simp [hc, hca]) heq

/-- Where no key comes twice the one element with a key is all that is taken out. -/
theorem eraseP_key {l : List α} (h : (l.map key).Nodup) (k : κ) :
    l.eraseP (fun a => key a == k) = l.filter fun a => key a ≠ k := by
  induction l with
  | nil => rfl
  | cons a l ih =>
    rw [List.map_cons, List.nodup_cons] at h
    by_cases hk : key a = k
    · rw [List.eraseP_cons_of_pos (by simp [hk]), List.filter_cons_of_neg (by simp [hk])]
      symm
      rw [List.filter_eq_self]
      intro b hb
      have hne : key b ≠ k := fun hbk => h.1 (List.mem_map.mpr ⟨b, hb, hbk.trans hk.symm⟩)
      exact decide_eq_true hne
    · rw [List.eraseP_cons_of_neg (by simp [hk]), List.filter_cons_of_pos (by simp [hk]), ih h.2]

theorem firstPer_nodup (key : α → κ) (l : List α) : ((firstPer key l).map key).Nodup := by
  rw [firstPer, List.map_reverse, List.nodup_reverse]
  exact lastPer_nodup key _

theorem firstPer_length_le (key : α → κ) (l : List α) : (firstPer key l).length ≤ l.length := by
  have h := lastPer_length_le key l.reverse
  rw [List.length_reverse] at h
  rw [firstPer, List.length_reverse]
  exact h

theorem firstPer_of_nodup {l : List α} (h : (l.map key).Nodup) : firstPer key l = l := by
  rw [firstPer, lastPer_of_nodup, List.reverse_reverse]
  rw [List.map_reverse, List.nodup_reverse]
  exact h

/-- One element more at the end is kept if its key is new. -/
theorem firstPer_concat (l : List α) (a : α) :
    firstPer key (l ++ [a]) =
      if key a ∈ l.map key then firstPer key l else firstPer key l ++ [a] := by
  have hkeys : (∀ b ∈ lastPer key l.reverse, key a ≠ key b) ↔ key a ∉ l.map key := by
    constructor
    · intro h hmem
      obtain ⟨b, hb, heq⟩ := List.mem_map.mp hmem
      have hkey : key b ∈ (lastPer key l.reverse).map key :=
        key_mem_lastPer (List.mem_reverse.mpr hb)
      obtain ⟨c, hc, hcb⟩ := List.mem_map.mp hkey
      exact h c hc (heq.symm.trans hcb.symm)
    · intro h b hb heq
      exact h (List.mem_map.mpr ⟨b, List.mem_reverse.mp (mem_of_mem_lastPer hb), heq.symm⟩)
  unfold firstPer
  rw [List.reverse_append, List.reverse_singleton, List.singleton_append]
  by_cases h : key a ∈ l.map key
  · rw [if_pos h, lastPer, List.pwFilter_cons_of_neg fun hall => hkeys.mp hall h]
    rfl
  · rw [if_neg h, lastPer, List.pwFilter_cons_of_pos (hkeys.mpr h), List.reverse_cons]
    rfl

end

/-! ## The array -/

section
variable {E : Type} {blank : E} {N : Nat}

/-- The array that begins with the entries of a list, blank behind them. -/
def pad (blank : E) (N : Nat) (l : List E) : Vector E N := Vector.ofFn fun i => l[i.val]?.getD blank

/-- A write to entry `n`, if there is one. -/
def write (s : Vector E N) (n : Nat) (f : E → E) : Option (Vector E N) :=
  if h : n < N then some (s.set n (f s[n])) else none

theorem getElem_pad (l : List E) (i : Nat) (h : i < N) : (pad blank N l)[i] = l[i]?.getD blank := by
  simp [pad]

theorem pad_nil : pad blank N [] = Vector.replicate N blank := by
  apply Vector.ext
  intro i h
  rw [getElem_pad, Vector.getElem_replicate]
  rfl

theorem write_pad_inside {l : List E} {n : Nat} (f : E → E) (hn : n < l.length)
    (hl : l.length ≤ N) :
    write (pad blank N l) n f = some (pad blank N (l.modify n f)) := by
  unfold write
  rw [dif_pos (Nat.lt_of_lt_of_le hn hl), Option.some.injEq]
  apply Vector.ext
  intro i hi
  rw [Vector.getElem_set, getElem_pad, getElem_pad, getElem_pad, List.getElem?_modify]
  by_cases h : n = i
  · subst h
    rw [if_pos rfl, List.getElem?_eq_getElem hn]
    simp
  · rw [if_neg h]
    simp [h]

theorem write_pad_behind {l : List E} (f : E → E) (hl : l.length < N) :
    write (pad blank N l) l.length f = some (pad blank N (l ++ [f blank])) := by
  unfold write
  rw [dif_pos hl, Option.some.injEq]
  apply Vector.ext
  intro i hi
  rw [Vector.getElem_set, getElem_pad, getElem_pad, getElem_pad]
  by_cases h : l.length = i
  · subst h
    simp
  · rw [if_neg h]
    rcases Nat.lt_or_gt_of_ne h with hlt | hgt
    · rw [List.getElem?_eq_none (by omega), List.getElem?_eq_none (by simp; omega)]
    · rw [List.getElem?_append_left hgt]

theorem toList_pad {l : List E} (hl : l.length ≤ N) :
    (pad blank N l).toList = l ++ List.replicate (N - l.length) blank := by
  apply List.ext_getElem
  · simp [hl]
  · intro i h1 h2
    rw [Vector.getElem_toList, getElem_pad]
    by_cases h : i < l.length
    · rw [List.getElem_append_left h, List.getElem?_eq_getElem h]
      rfl
    · rw [List.getElem_append_right (by omega), List.getElem_replicate,
        List.getElem?_eq_none (by omega)]
      rfl

theorem findIdx_congr {l : List E} {p q : E → Bool} (h : ∀ e ∈ l, p e = q e) :
    l.findIdx? p = l.findIdx? q := by
  induction l with
  | nil => rfl
  | cons e l ih =>
    rw [List.findIdx?_cons, List.findIdx?_cons, h e List.mem_cons_self,
      ih fun e' he' => h e' (List.mem_cons_of_mem e he')]

/-- A search that no blank entry ends stays among the others. -/
theorem findIdx_pad {l : List E} {p : E → Bool} (hblank : p blank = false) (hl : l.length ≤ N) :
    (pad blank N l).toList.findIdx? p = l.findIdx? p := by
  have hnone : (List.replicate (N - l.length) blank).findIdx? p = none := by
    rw [List.findIdx?_eq_none_iff]
    intro e he
    rw [List.eq_of_mem_replicate he]
    exact hblank
  rw [toList_pad hl, List.findIdx?_append, hnone, Option.map_none, Option.or_none]

theorem any_pad {l : List E} {p : E → Bool} (hblank : p blank = false) (hl : l.length ≤ N) :
    (pad blank N l).toList.any p = l.any p := by
  rw [toList_pad hl, List.any_append, List.any_replicate, hblank]
  simp

theorem filter_pad {l : List E} {p : E → Bool} (hblank : p blank = false)
    (hall : ∀ e ∈ l, p e = true) (hl : l.length ≤ N) :
    (pad blank N l).toList.filter p = l := by
  rw [toList_pad hl, List.filter_append, List.filter_eq_self.mpr hall, List.filter_replicate]
  simp [hblank]

/-- The entries that meet `p` stand in front of all others. -/
def Front (p : E → Bool) (s : Vector E N) : Prop :=
  ∃ k ≤ N, ∀ i (h : i < N), p s[i] = true ↔ i < k

theorem front_pad {l : List E} {p : E → Bool} (hblank : p blank = false)
    (hall : ∀ e ∈ l, p e = true) (hl : l.length ≤ N) : Front p (pad blank N l) := by
  refine ⟨l.length, hl, fun i hi => ?_⟩
  rw [getElem_pad]
  by_cases h : i < l.length
  · rw [List.getElem?_eq_getElem h, Option.getD_some]
    exact ⟨fun _ => h, fun _ => hall _ (List.getElem_mem h)⟩
  · rw [List.getElem?_eq_none (by omega), Option.getD_none, hblank]
    exact ⟨fun hfalse => absurd hfalse Bool.false_ne_true, fun hlt => absurd hlt h⟩

end

/-! ## Filling -/

section
variable {E X κ : Type} [DecidableEq κ]

/-- How elements go into a table: the key of an element and of an entry, whether an element can hit
an entry with its key, the entry changed by an element that hits it, the entry made for one that
hits none. -/
structure Rule (E X κ : Type) where
  key : E → κ
  keyOf : X → κ
  sharp : X → Bool
  again : X → E → E
  new : X → E
  key_again : ∀ x e, key e = keyOf x → key (again x e) = keyOf x
  key_new : ∀ x, key (new x) = keyOf x

variable (r : Rule E X κ) {N : Nat}

def Rule.hit (x : X) (e : E) : Bool := r.sharp x && r.key e == r.keyOf x

def absorb (l : List E) (x : X) : List E :=
  match l.findIdx? (r.hit x) with
  | some i => l.modify i (r.again x)
  | none => l ++ [r.new x]

/-- The elements taken one by one, until `N` entries are there. -/
def fill (N : Nat) : List E → List X → List E
  | l, [] => l
  | l, x :: xs => if l.length < N then fill N (absorb r l x) xs else l

theorem fill_full {xs : List X} {l : List E} (h : N ≤ l.length) : fill r N l xs = l := by
  cases xs with
  | nil => rfl
  | cons x xs =>
    unfold fill
    exact if_neg (by omega)

theorem length_absorb_le (l : List E) (x : X) : (absorb r l x).length ≤ l.length + 1 := by
  unfold absorb
  split
  · rw [List.length_modify]
    omega
  · rw [List.length_append, List.length_singleton]

theorem fill_length_le : ∀ (xs : List X) (l : List E), l.length ≤ N → (fill r N l xs).length ≤ N
  | [], _, h => h
  | x :: xs, l, h => by
    unfold fill
    split
    · have := length_absorb_le r l x
      exact fill_length_le xs _ (by omega)
    · exact h

theorem mem_modify {l : List E} {f : E → E} {i : Nat} {e : E} (h : e ∈ l.modify i f) :
    e ∈ l ∨ ∃ e' ∈ l, e = f e' := by
  obtain ⟨j, hj⟩ := List.mem_iff_getElem?.mp h
  rw [List.getElem?_modify] at hj
  cases hl : l[j]? with
  | none => simp [hl] at hj
  | some e' =>
    have hmem := List.mem_of_getElem? hl
    rw [hl] at hj
    have hj : (if i = j then f e' else e') = e := Option.some.inj hj
    by_cases hij : i = j
    · rw [if_pos hij] at hj
      exact .inr ⟨e', hmem, hj.symm⟩
    · rw [if_neg hij] at hj
      exact .inl (hj ▸ hmem)

/-- A fact about all entries is kept by `fill` if an entry made has it and an entry changed keeps
it. -/
theorem fill_forall {P : E → Prop} (hagain : ∀ x e, P e → P (r.again x e))
    (hnew : ∀ x, P (r.new x)) :
    ∀ (xs : List X) (l : List E), (∀ e ∈ l, P e) → ∀ e ∈ fill r N l xs, P e
  | [], _, h => h
  | x :: xs, l, h => by
    unfold fill
    split
    · refine fill_forall hagain hnew xs _ fun e he => ?_
      unfold absorb at he
      split at he
      · rcases mem_modify he with hmem | ⟨e', hmem, rfl⟩
        · exact h e hmem
        · exact hagain x e' (h e' hmem)
      · rcases List.mem_append.mp he with hmem | hmem
        · exact h e hmem
        · rw [List.mem_singleton.mp hmem]
          exact hnew x
    · exact h

/-- A hit leaves the keys, anything else adds one. -/
theorem absorb_keys (l : List E) (x : X) :
    (r.sharp x = true ∧ r.keyOf x ∈ l.map r.key ∧ (absorb r l x).map r.key = l.map r.key) ∨
    ((r.sharp x = false ∨ r.keyOf x ∉ l.map r.key) ∧
      absorb r l x = l ++ [r.new x]) := by
  unfold absorb
  cases hfind : l.findIdx? (r.hit x) with
  | some i =>
    left
    obtain ⟨hi, hhit, -⟩ := List.findIdx?_eq_some_iff_getElem.mp hfind
    rw [Rule.hit, Bool.and_eq_true] at hhit
    have hkey : r.key l[i] = r.keyOf x := eq_of_beq hhit.2
    refine ⟨hhit.1, List.mem_map.mpr ⟨l[i], List.getElem_mem hi, hkey⟩, ?_⟩
    apply List.ext_getElem?
    intro j
    rw [List.getElem?_map, List.getElem?_map, List.getElem?_modify]
    by_cases hij : i = j
    · subst hij
      rw [List.getElem?_eq_getElem hi]
      simp [r.key_again x _ hkey, hkey]
    · simp [hij]
  | none =>
    right
    rw [List.findIdx?_eq_none_iff] at hfind
    refine ⟨?_, rfl⟩
    cases hsharp : r.sharp x with
    | false => exact .inl rfl
    | true =>
      right
      intro hmem
      obtain ⟨e, he, hkey⟩ := List.mem_map.mp hmem
      have hmiss := hfind e he
      simp [Rule.hit, hsharp, hkey] at hmiss

theorem fill_keys_start : ∀ (xs : List X) (l : List E),
    l.map r.key <+: (fill r N l xs).map r.key
  | [], l => List.prefix_rfl
  | x :: xs, l => by
    unfold fill
    split
    · refine List.IsPrefix.trans ?_ (fill_keys_start xs (absorb r l x))
      rcases absorb_keys r l x with ⟨-, -, hkeys⟩ | ⟨-, heq⟩
      · rw [hkeys]
      · rw [heq, List.map_append]
        exact List.prefix_append _ _
    · exact List.prefix_rfl

/-- An element that cannot hit comes when its key is there and a place is free. -/
def Collides (N : Nat) (keys : List κ) (xs : List X) : Prop :=
  ∃ before x after, xs = before ++ x :: after ∧ r.sharp x = false ∧
    r.keyOf x ∈ keys ++ before.map r.keyOf ∧ (keys ++ before.map r.keyOf).toFinset.card < N

/-- What comes after one element. -/
theorem collides_cons {r : Rule E X κ} {keys keys' : List κ} {x : X} {xs : List X}
    (hx : r.sharp x = true ∨ r.keyOf x ∉ keys)
    (hkeys : (∀ k, k ∈ keys' ↔ k ∈ keys ∨ k = r.keyOf x)) :
    Collides r N keys (x :: xs) ↔ Collides r N keys' xs := by
  have hset : ∀ before : List X, (∀ k, k ∈ keys ++ (x :: before).map r.keyOf ↔
      k ∈ keys' ++ before.map r.keyOf) := by
    intro before k
    simp only [List.mem_append, List.map_cons, List.mem_cons, hkeys]
    tauto
  have hcard : ∀ before : List X, (keys ++ (x :: before).map r.keyOf).toFinset =
      (keys' ++ before.map r.keyOf).toFinset := by
    intro before
    ext k
    rw [List.mem_toFinset, List.mem_toFinset, hset]
  constructor
  · intro h
    obtain ⟨before, y, after, heq, hsharp, hmem, hlt⟩ := h
    cases before with
    | nil =>
      rw [List.nil_append, List.cons.injEq] at heq
      obtain ⟨rfl, -⟩ := heq
      rw [List.map_nil, List.append_nil] at hmem
      rcases hx with hx | hx
      · rw [hx] at hsharp
        exact absurd hsharp (by decide)
      · exact absurd hmem hx
    | cons z before =>
      rw [List.cons_append, List.cons.injEq] at heq
      obtain ⟨rfl, rfl⟩ := heq
      exact ⟨before, y, after, rfl, hsharp, (hset before _).mp hmem, hcard before ▸ hlt⟩
  · intro h
    obtain ⟨before, y, after, rfl, hsharp, hmem, hlt⟩ := h
    exact ⟨x :: before, y, after, rfl, hsharp, (hset before _).mpr hmem, (hcard before).symm ▸ hlt⟩

/-- **The keys stay distinct exactly if no element collides.** -/
theorem fill_nodup_iff : ∀ (xs : List X) (l : List E), (l.map r.key).Nodup →
    (((fill r N l xs).map r.key).Nodup ↔ ¬ Collides r N (l.map r.key) xs)
  | [], l, hl => by
    refine ⟨fun _ h => ?_, fun _ => hl⟩
    obtain ⟨before, x, after, heq, -⟩ := h
    exact absurd heq (by simp)
  | x :: xs, l, hl => by
    unfold fill
    by_cases hlen : l.length < N
    · rw [if_pos hlen]
      rcases absorb_keys r l x with ⟨hsharp, hmem, hkeys⟩ | ⟨hnew, heq⟩
      · rw [fill_nodup_iff xs _ (hkeys ▸ hl), hkeys, ← collides_cons (.inl hsharp)]
        intro k
        exact ⟨.inl, fun h => h.elim id fun h => h ▸ hmem⟩
      · have hmap : (absorb r l x).map r.key = l.map r.key ++ [r.keyOf x] := by
          rw [heq, List.map_append, List.map_singleton, r.key_new]
        by_cases hmem : r.keyOf x ∈ l.map r.key
        · -- the key takes a second place
          have hsharp : r.sharp x = false := hnew.resolve_right fun h => h hmem
          have htwice : ¬ (l.map r.key ++ [r.keyOf x]).Nodup := by
            intro h
            exact (List.disjoint_of_nodup_append h) hmem List.mem_cons_self
          have hstart := fill_keys_start (N := N) r xs (absorb r l x)
          rw [hmap] at hstart
          refine ⟨fun h => absurd (h.sublist hstart.sublist) htwice, fun h => absurd ?_ h⟩
          refine ⟨[], x, xs, rfl, hsharp, by simpa using hmem, ?_⟩
          rw [List.map_nil, List.append_nil, List.toFinset_card_of_nodup hl, List.length_map]
          exact hlen
        · have hnodup : (l.map r.key ++ [r.keyOf x]).Nodup := by
            rw [List.nodup_append]
            refine ⟨hl, List.nodup_singleton _, fun a ha b hb => ?_⟩
            rw [List.mem_singleton.mp hb]
            exact fun hab => hmem (hab ▸ ha)
          rw [fill_nodup_iff xs _ (hmap ▸ hnodup), hmap, ← collides_cons (.inr hmem)]
          intro k
          rw [List.mem_append, List.mem_singleton]
    · rw [if_neg hlen]
      refine ⟨fun _ h => ?_, fun _ => hl⟩
      obtain ⟨before, y, after, -, -, -, hlt⟩ := h
      have hle : (l.map r.key).toFinset.card ≤
          (l.map r.key ++ before.map r.keyOf).toFinset.card := by
        apply Finset.card_le_card
        intro k hk
        rw [List.mem_toFinset] at hk ⊢
        exact List.mem_append_left _ hk
      rw [List.toFinset_card_of_nodup hl, List.length_map] at hle
      omega

/-- Elements with different keys are all taken as long as there are places. -/
theorem fill_of_nodup : ∀ (xs : List X) (l : List E),
    (l.map r.key ++ xs.map r.keyOf).Nodup → l.length + xs.length ≤ N →
    fill r N l xs = l ++ xs.map r.new
  | [], l, _, _ => by rw [List.map_nil, List.append_nil]; rfl
  | x :: xs, l, hnodup, hlen => by
    rw [List.length_cons] at hlen
    have hmem : r.keyOf x ∉ l.map r.key := by
      intro h
      exact (List.disjoint_of_nodup_append hnodup) h List.mem_cons_self
    unfold fill
    rw [if_pos (by omega)]
    rcases absorb_keys r l x with ⟨-, h, -⟩ | ⟨-, heq⟩
    · exact absurd h hmem
    · rw [heq, fill_of_nodup xs (l ++ [r.new x]), List.append_assoc, List.map_cons,
        List.singleton_append]
      · rw [List.map_append, List.map_singleton, r.key_new, List.append_assoc,
          List.singleton_append]
        exact hnodup
      · rw [List.length_append, List.length_singleton]
        omega

end
end Slots
