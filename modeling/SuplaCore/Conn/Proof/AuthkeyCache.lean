import SuplaCore.Conn.AuthkeyCache
import Mathlib.Data.List.Perm.Basic

/-!
# The cache of authentications is transparent

What every item says is what the database says of the item's own fields (`Item.Sound`), since an
item is only ever filled as a whole (`Item.Sound.fill`); a hit compares all of these fields, so its
answer is that of the database for the credentials of the call. The items are counted in the
section in which one is added, so no interleaving exceeds the limit (`length_insert`).
-/

namespace AuthkeyCache

open CString Sys

/-! ## E-mails -/

theorem tolower_ne_zero {c : UInt8} (hc : c ≠ 0) : tolower c ≠ 0 := by
  unfold tolower
  split
  · rename_i hupper
    have hlow : c.toNat ≤ 90 := UInt8.le_iff_toNat_le.mp hupper.2
    intro hzero
    have hnat := congrArg UInt8.toNat hzero
    rw [UInt8.toNat_add, Nat.mod_eq_of_lt] at hnat
    · cases hnat
    · exact Nat.lt_of_le_of_lt (Nat.add_le_add_right hlow 32) (by decide)
  · exact hc

theorem zero_not_mem_map_tolower {t : List UInt8} (ht : 0 ∉ t) : 0 ∉ t.map tolower := by
  intro hmem
  obtain ⟨c, hc, hzero⟩ := List.mem_map.mp hmem
  exact tolower_ne_zero (fun h => ht (h ▸ hc)) hzero

namespace Credentials

variable (c : Credentials)

theorem length_text : (text c.email).length < SUPLA_EMAIL_MAXSIZE := by
  rw [← c.length_email]
  exact length_text_lt c.terminated

/-- The array `lc_email` holds the lower-cased e-mail. -/
theorem lcEmail_eq : ∃ rest, lcEmail c.email = (text c.email).map tolower ++ 0 :: rest := by
  have hlen := c.length_text
  obtain ⟨rest, heq⟩ := split c.terminated
  have htake : c.email.take (text c.email).length = text c.email :=
    calc c.email.take (text c.email).length
      _ = (text c.email ++ 0 :: rest).take (text c.email).length := by rw [← heq]
      _ = text c.email := List.take_left
  refine ⟨List.replicate (SUPLA_EMAIL_MAXSIZE - (text c.email).length - 1) 0, ?_⟩
  rw [lcEmail, strnlen_eq hlen, htake, ← List.replicate_succ]
  congr 2
  omega

theorem text_lcEmail : text (lcEmail c.email) = (text c.email).map tolower := by
  obtain ⟨rest, heq⟩ := c.lcEmail_eq
  rw [heq, text_append (zero_not_mem_map_tolower zero_not_mem_text)]

theorem length_text_lcEmail : (text (lcEmail c.email)).length < SUPLA_EMAIL_MAXSIZE := by
  rw [c.text_lcEmail, List.length_map]
  exact c.length_text

end Credentials

/-! ## Items -/

/-- The e-mail of an item, with its zero, and the answer of the database for the item. -/
structure Item.Sound (db : Db) (i : Item) : Prop where
  stored : ∃ email, i.email = some email ∧ 0 ∈ email ∧
    (text email).length < SUPLA_EMAIL_MAXSIZE ∧
    (i.result, i.userId) = db i.guid (text email) i.authkey

/-- The block has room for what is written, and holds the new e-mail only. -/
theorem fillEmail_spec (c : Credentials) (garbage : List UInt8) {old : Option (List UInt8)}
    (hold : ∀ email, old = some email →
      0 ∈ email ∧ (text email).length < SUPLA_EMAIL_MAXSIZE) :
    0 ∈ fillEmail garbage (lcEmail c.email) old ∧
      text (fillEmail garbage (lcEmail c.email) old) = text (lcEmail c.email) := by
  have hlen := c.length_text_lcEmail
  cases old with
  | none => exact ⟨zero_mem_strndup, by rw [fillEmail, text_strndup, text_take hlen]⟩
  | some email =>
    rw [fillEmail, strnlen_eq hlen, snprintf_eq (Nat.lt_succ_self _)]
    exact ⟨List.mem_append_right _ List.mem_cons_self, text_append zero_not_mem_text⟩

/-- `snprintf` stays within the block. -/
theorem fillEmail_fits (c : Credentials) (garbage : List UInt8) {email : List UInt8}
    (hzero : 0 ∈ email) (hlen : (text email).length < SUPLA_EMAIL_MAXSIZE) :
    strnlen (lcEmail c.email) SUPLA_EMAIL_MAXSIZE + 1 ≤
      (if strnlen (lcEmail c.email) SUPLA_EMAIL_MAXSIZE > strnlen email SUPLA_EMAIL_MAXSIZE then
        realloc garbage email (strnlen (lcEmail c.email) SUPLA_EMAIL_MAXSIZE + 1)
      else email).length := by
  split
  · rw [realloc, List.length_take, List.length_append, List.length_replicate]
    omega
  · rename_i hle
    have hroom := length_text_lt hzero
    rw [strnlen_eq hlen] at hle
    omega

theorem Item.Sound.fill {db : Db} {c : Credentials} {result : Bool} {userId : Int} {i : Item}
    (garbage : List UInt8) (hdb : (result, userId) = db.auth c)
    (hold : ∀ email, i.email = some email →
      0 ∈ email ∧ (text email).length < SUPLA_EMAIL_MAXSIZE) :
    (i.fill garbage c result userId).Sound db := by
  obtain ⟨hzero, htext⟩ := fillEmail_spec c garbage hold
  refine ⟨_, rfl, hzero, ?_, ?_⟩
  · rw [htext]
    exact c.length_text_lcEmail
  · rw [htext, c.text_lcEmail]
    exact hdb

/-- **A hit answers for the credentials of the call**. -/
theorem Item.Sound.hit {db : Db} {c : Credentials} {i : Item} (h : i.Sound db)
    (hmatch : i.matches c = true) : (i.result, i.userId) = db.auth c := by
  obtain ⟨email, hemail, -, hlen, hanswer⟩ := h.stored
  rw [Item.matches, hemail, Option.any_some, Bool.and_eq_true, Bool.and_eq_true,
    decide_eq_true_iff, decide_eq_true_iff, strnEq_iff_text hlen c.length_text_lcEmail,
    c.text_lcEmail] at hmatch
  obtain ⟨⟨htext, hguid⟩, hkey⟩ := hmatch
  rw [hanswer, Db.auth, htext, hguid, hkey]

/-! ## The array -/

section

variable {α : Type}

@[simp] theorem length_shift (a : Nat) : ∀ arr : List α, (shift a arr).length = arr.length := by
  induction a with
  | zero => exact fun arr => rfl
  | succ a ih =>
    intro arr
    rw [shift]
    split
    · rw [ih, List.length_set]
    · rfl

/-- Each of the first `a` entries goes one place up; the first place keeps its entry. -/
theorem getElem?_shift (a : Nat) : ∀ (arr : List α) (k : Nat), a < arr.length →
    (shift a arr)[k]? = if 0 < k ∧ k ≤ a then arr[k - 1]? else arr[k]? := by
  induction a with
  | zero =>
    intro arr k _
    rw [if_neg (by omega)]
    rfl
  | succ a ih =>
    intro arr k ha
    have hx : arr[a]? = some arr[a] := List.getElem?_eq_getElem (by omega)
    simp only [shift, hx]
    rw [ih _ _ (by rw [List.length_set]; omega)]
    by_cases hk : k = a + 1
    · subst hk
      rw [if_neg (by omega), if_pos (by omega), List.getElem?_set_self ha, Nat.add_sub_cancel, hx]
    · by_cases hin : 0 < k ∧ k ≤ a
      · rw [if_pos hin, if_pos (by omega), List.getElem?_set_ne (by omega)]
      · rw [if_neg hin, if_neg (by omega), List.getElem?_set_ne (Ne.symm hk)]

/-- The entry is put first, the others keep their order. -/
theorem moveToBegin_eq {idx : Nat} {arr : List α} {x : α} (hx : arr[idx]? = some x) :
    moveToBegin idx arr = x :: arr.eraseIdx idx := by
  have hidx : idx < arr.length := (List.getElem?_eq_some_iff.mp hx).1
  simp only [moveToBegin, hx]
  split
  · rename_i hzero
    obtain rfl : idx = 0 := by omega
    cases arr with
    | nil => cases hx
    | cons y arr =>
      cases hx
      rfl
  · rename_i hpos
    refine List.ext_getElem? fun k => ?_
    cases k with
    | zero => rw [List.getElem?_set_self (by rw [length_shift]; omega), List.getElem?_cons_zero]
    | succ k =>
      rw [List.getElem?_set_ne (by omega), getElem?_shift _ _ _ hidx, List.getElem?_cons_succ,
        List.getElem?_eraseIdx]
      by_cases hk : k < idx
      · rw [if_pos hk, if_pos (by omega), Nat.add_sub_cancel]
      · rw [if_neg hk, if_neg (by omega)]

theorem moveToBegin_perm {idx : Nat} {arr : List α} {x : α} (hx : arr[idx]? = some x) :
    (moveToBegin idx arr).Perm arr := by
  obtain ⟨hidx, rfl⟩ := List.getElem?_eq_some_iff.mp hx
  rw [moveToBegin_eq hx]
  exact List.getElem_cons_eraseIdx_perm hidx

end

/-- The item that is given up is one of the array. -/
theorem victim_lt {count : Nat} (hcount : 0 < count) (usec : Nat) : victim count usec < count := by
  unfold victim
  simp only
  split
  · omega
  · omega

/-! ## The invariant -/

/-- The limit of every call. -/
def Cache.limit (cfg : Int) (s : Cache) : Int := (s.getCacheSizeLimit cfg).1

/-- What a caller knows: the limit, and the answer of the database. -/
def Caller.Sound (db : Db) (limit : Int) : Caller → Prop
  | .idle => True
  | .called _ => True
  | .lookup _ l => l = limit ∧ 0 < limit
  | .missed _ l => l = limit ∧ 0 < limit
  | .asked c l result userId => l = limit ∧ 0 < limit ∧ (result, userId) = db.auth c
  | .direct _ => True
  | .returned c result userId => (result, userId) = db.auth c

structure CacheInv (cfg : Int) (db : Db) (s : Cache) : Prop where
  items : ∀ i ∈ s.items, i.Sound db
  size : (s.items.length : Int) ≤ s.limit cfg
  callers : ∀ k, (s.callers k).Sound db (s.limit cfg)

variable {cfg : Int} {db : Db} {s s' : Cache}

theorem Cache.limit_nonneg : 0 ≤ s.limit cfg := by
  simp only [Cache.limit, Cache.getCacheSizeLimit]
  generalize (if s.cacheSizeLimit = -1 then cfg else s.cacheSizeLimit) = limit
  split
  · assumption
  · exact Int.le_refl 0

/-- What a caller remembers of the limit does not change it. -/
theorem Cache.limit_remembered :
    Cache.limit cfg { s with cacheSizeLimit := (s.getCacheSizeLimit cfg).2 } = s.limit cfg := by
  simp only [Cache.limit, Cache.getCacheSizeLimit]
  by_cases hunset : s.cacheSizeLimit = -1
  · simp only [hunset, if_true]
    split
    · rename_i hcfg
      rw [hcfg]
    · rfl
  · simp only [hunset, if_false]

theorem CacheInv.setCaller (h : CacheInv cfg db s) {k : Nat} {p : Caller}
    (hp : p.Sound db (s.limit cfg)) : CacheInv cfg db (s.setCaller k p) := by
  refine ⟨h.items, h.size, fun j => ?_⟩
  by_cases hj : j = k
  · simp only [Cache.setCaller, hj, if_true]
    exact hp
  · simp only [Cache.setCaller, if_neg hj]
    exact h.callers j

/-- The items are rearranged, replaced or added to. -/
theorem CacheInv.setItems (h : CacheInv cfg db s) {items : List Item}
    (hitems : ∀ i ∈ items, i.Sound db) (hsize : (items.length : Int) ≤ s.limit cfg) :
    CacheInv cfg db { s with items := items } := ⟨hitems, hsize, h.callers⟩

theorem CacheInv.lookup (h : CacheInv cfg db s) (k : Nat) {c : Credentials} {limit : Int}
    (hp : (Caller.missed c limit).Sound db (s.limit cfg)) :
    CacheInv cfg db (s.lookup k c limit) := by
  unfold Cache.lookup
  split
  · rename_i a hfind
    split
    · rename_i i hi
      have hmem : i ∈ s.items := List.mem_of_getElem? hi
      obtain ⟨ha, hmatch, -⟩ := List.findIdx?_eq_some_iff_getElem.mp hfind
      rw [(List.getElem?_eq_some_iff.mp hi).2] at hmatch
      have hperm := moveToBegin_perm hi
      refine (h.setItems (fun j hj => h.items j (hperm.mem_iff.mp hj)) ?_).setCaller ?_
      · rw [hperm.length_eq]
        exact h.size
      · exact (h.items i hmem).hit hmatch
    · exact h.setCaller hp
  · exact h.setCaller hp

theorem insert_sound {limit : Int} {c : Credentials} {result : Bool} {userId : Int}
    (hdb : (result, userId) = db.auth c) (ch : Chance) {items : List Item}
    (hitems : ∀ i ∈ items, i.Sound db) :
    ∀ i ∈ insert limit c result userId ch items, i.Sound db := by
  unfold insert
  split
  · simp only
    split
    · rename_i i hi
      intro j hj
      rcases List.mem_or_eq_of_mem_set hj with hmem | rfl
      · exact hitems j hmem
      · obtain ⟨email, hemail, hzero, hlen, -⟩ := (hitems i (List.mem_of_getElem? hi)).stored
        refine Item.Sound.fill ch.garbage hdb fun email' hemail' => ?_
        cases hemail.symm.trans hemail'
        exact ⟨hzero, hlen⟩
    · exact hitems
  · split
    · intro j hj
      rcases List.mem_append.mp hj with hmem | hnew
      · exact hitems j hmem
      · rw [List.mem_singleton.mp hnew]
        refine Item.Sound.fill ch.garbage hdb fun email hemail => ?_
        cases hemail
    · exact hitems

theorem length_insert {limit : Int} {c : Credentials} {result : Bool} {userId : Int} {ch : Chance}
    {items : List Item} (hsize : (items.length : Int) ≤ limit) :
    ((insert limit c result userId ch items).length : Int) ≤ limit := by
  unfold insert
  split
  · simp only
    split
    · rw [List.length_set]
      exact hsize
    · exact hsize
  · split
    · rw [List.length_append, List.length_singleton]
      omega
    · exact hsize

theorem CacheInv.next (h : CacheInv cfg db s) {k : Nat} {ch : Chance}
    (hs : s.next cfg db k ch = some s') : CacheInv cfg db s' := by
  have hk := h.callers k
  unfold Cache.next at hs
  split at hs
  · cases hs
  · rename_i c _
    cases hs
    have hremembered : CacheInv cfg db
        { s with cacheSizeLimit := (s.getCacheSizeLimit cfg).2 } := by
      refine ⟨h.items, ?_, ?_⟩
      · rw [Cache.limit_remembered]
        exact h.size
      · rw [Cache.limit_remembered]
        exact h.callers
    refine hremembered.setCaller ?_
    rw [Cache.limit_remembered]
    split
    · rename_i hpos
      exact ⟨rfl, hpos⟩
    · trivial
  · rename_i c limit hcaller
    cases hs
    rw [hcaller] at hk
    exact h.lookup k hk
  · rename_i c limit hcaller
    cases hs
    rw [hcaller] at hk
    exact h.setCaller ⟨hk.1, hk.2, rfl⟩
  · rename_i c limit result userId hcaller
    cases hs
    rw [hcaller] at hk
    obtain ⟨rfl, -, hdb⟩ := hk
    exact (h.setItems (insert_sound hdb ch h.items) (length_insert h.size)).setCaller hdb
  · rename_i c _
    cases hs
    exact h.setCaller (p := .returned c (db.auth c).1 (db.auth c).2) rfl
  · cases hs

theorem CacheInv.step (h : CacheInv cfg db s) {a : Act}
    (hs : (cache cfg db).step s a = some s') : CacheInv cfg db s' := by
  cases a with
  | call k c =>
    simp only [cache, Cache.step] at hs
    split at hs
    · cases hs
      exact h.setCaller trivial
    · cases hs
      exact h.setCaller trivial
    · cases hs
  | next k ch => exact h.next hs

theorem reach_inv (h : Reach (cache cfg db) Any s) : CacheInv cfg db s := by
  refine h.invariant (fun s hinit => ?_) fun _ hinv hs => hinv.step hs
  obtain ⟨hitems, hcallers⟩ := hinit
  refine ⟨?_, ?_, fun k => ?_⟩
  · exact hitems ▸ fun i hi => absurd hi List.not_mem_nil
  · rw [hitems]
    exact Cache.limit_nonneg
  · rw [hcallers k]
    trivial

/-! ## Every call returns, and what it returns -/

/-- The sections a caller has still to run. -/
def Caller.sections : Caller → Nat
  | .idle => 0
  | .called _ => 4
  | .lookup _ _ => 3
  | .missed _ _ => 2
  | .asked _ _ _ _ => 1
  | .direct _ => 1
  | .returned _ _ _ => 0

theorem Cache.callers_setCaller (k : Nat) (p : Caller) (s : Cache) :
    (s.setCaller k p).callers k = p := if_pos rfl

theorem Cache.sections_lookup (k : Nat) (c : Credentials) (limit : Int) (s : Cache) :
    ((s.lookup k c limit).callers k).sections < 3 := by
  unfold Cache.lookup
  split
  · split
    · rw [Cache.callers_setCaller]
      exact Nat.zero_lt_succ 2
    · rw [Cache.callers_setCaller]
      exact Nat.lt_succ_self 2
  · rw [Cache.callers_setCaller]
    exact Nat.lt_succ_self 2

/-- A call is never stuck, and its next section brings it nearer to its end. -/
theorem Cache.next_sections {k : Nat} (hk : 0 < (s.callers k).sections) (ch : Chance) :
    ∃ s', s.next cfg db k ch = some s' ∧
      (s'.callers k).sections < (s.callers k).sections := by
  unfold Cache.next
  cases hcaller : s.callers k with
  | idle =>
    rw [hcaller] at hk
    cases hk
  | called c =>
    refine ⟨_, rfl, ?_⟩
    rw [Cache.callers_setCaller]
    split
    · exact Nat.lt_succ_self 3
    · exact Nat.succ_lt_succ (Nat.zero_lt_succ 2)
  | lookup c limit => exact ⟨_, rfl, Cache.sections_lookup k c limit s⟩
  | missed c limit =>
    refine ⟨_, rfl, ?_⟩
    rw [Cache.callers_setCaller]
    exact Nat.lt_succ_self 1
  | asked c limit result userId =>
    refine ⟨_, rfl, ?_⟩
    rw [Cache.callers_setCaller]
    exact Nat.lt_succ_self 0
  | direct c =>
    refine ⟨_, rfl, ?_⟩
    rw [Cache.callers_setCaller]
    exact Nat.lt_succ_self 0
  | returned c result userId =>
    rw [hcaller] at hk
    cases hk

theorem Cache.limit_step {a : Act} (hs : (cache cfg db).step s a = some s') :
    s'.limit cfg = s.limit cfg := by
  cases a with
  | call k c =>
    simp only [cache, Cache.step] at hs
    split at hs
    · cases hs
      rfl
    · cases hs
      rfl
    · cases hs
  | next k ch =>
    simp only [cache, Cache.step, Cache.next] at hs
    split at hs
    · cases hs
    · cases hs
      exact Cache.limit_remembered
    · cases hs
      unfold Cache.lookup
      split
      · split <;> rfl
      · rfl
    · cases hs
      rfl
    · cases hs
      rfl
    · cases hs
      rfl
    · cases hs

/-- **The cache is transparent**: what a call returns is what the database says of its credentials,
and there are never more items than the limit, in whatever order the sections of the callers run.
Every call returns, after four sections at most. -/
theorem transparent {s₀ : Cache} (hinit : (cache cfg db).init s₀)
    (h : Reach ((cache cfg db).startingAt s₀) Any s) :
    (∀ k c result userId, s.callers k = .returned c result userId →
      (result, userId) = db.auth c) ∧
    (s.items.length : Int) ≤ s₀.limit cfg ∧
    ∀ k ch, 0 < (s.callers k).sections →
      ∃ s', (cache cfg db).step s (.next k ch) = some s' ∧
        (s'.callers k).sections < (s.callers k).sections := by
  have hinv := reach_inv (Reach.trans (fun _ _ => id) (.init hinit) h)
  have hlimit : s.limit cfg = s₀.limit cfg := by
    refine h.invariant (P := fun s => s.limit cfg = s₀.limit cfg) ?_ fun _ ih hs => ?_
    · rintro s rfl
      rfl
    · exact (Cache.limit_step hs).trans ih
  refine ⟨fun k c result userId hret => ?_, hlimit ▸ hinv.size, fun k ch hk => ?_⟩
  · have hcaller := hinv.callers k
    rw [hret] at hcaller
    exact hcaller
  · exact Cache.next_sections hk ch

/-! ## A scenario -/

/-- The user of `a`, whatever the device and the key. -/
def oneUser : Db := fun _ email _ => if email = [97] then (true, 7) else (false, 0)

def credentials (guid : Vector UInt8 16) (email : UInt8) : Credentials where
  guid := guid
  email := email :: List.replicate (SUPLA_EMAIL_MAXSIZE - 1) 0
  authkey := Vector.replicate 16 1
  length_email := by
    rw [List.length_cons, List.length_replicate]
    rfl
  terminated := List.mem_cons_of_mem _ (List.mem_replicate.mpr ⟨by decide, rfl⟩)

def emptyCache (limit : Int) : Cache := ⟨limit, [], fun _ => .idle⟩

/-- Two callers miss on the same credentials and both store them, in a cache for one item. -/
def bothMiss : List Act :=
  let a := credentials (Vector.replicate 16 5) 65
  [.call 0 a, .call 1 a] ++
    (List.replicate 4 [Act.next 0 ⟨3, true, []⟩, .next 1 ⟨4, true, []⟩]).flatten

theorem transparent_bothMiss : ∃ s, Reach ((cache 1 oneUser).startingAt (emptyCache (-1))) Any s ∧
    s.callers 1 = .returned (credentials (Vector.replicate 16 5) 65) true 7 ∧
    (∀ k c result userId, s.callers k = .returned c result userId →
      (result, userId) = oneUser.auth c) ∧
    (s.items.length : Int) ≤ (emptyCache (-1)).limit 1 ∧
    ∀ k ch, 0 < (s.callers k).sections →
      ∃ s', (cache 1 oneUser).step s (.next k ch) = some s' ∧
        (s'.callers k).sections < (s.callers k).sections := by
  have hinit : (cache 1 oneUser).init (emptyCache (-1)) := ⟨rfl, fun _ => rfl⟩
  have hrun : ((cache 1 oneUser).startingAt (emptyCache (-1))).run (emptyCache (-1)) bothMiss =
      some _ := rfl
  have hreach := Reach.run (.init rfl) hrun
  exact ⟨_, hreach, rfl, transparent hinit hreach⟩

end AuthkeyCache
