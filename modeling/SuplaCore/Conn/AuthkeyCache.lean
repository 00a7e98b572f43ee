import SuplaCore.Lib.Sys
import SuplaCore.Lib.CString

/-!
# The cache of authentications

`supla_authkey_cache` (`supla-server/src/conn/authkey_cache.cpp`) in front of the slow check of the
database, for any number of callers. A step is a section under the lock of the items, or the call of
`db_authkey_auth` between two of them. The memory for an item and for its e-mail is always granted;
`safe_array_add` may fail, and then the item is filled but not kept.
-/

namespace AuthkeyCache

open CString Sys

def SUPLA_EMAIL_MAXSIZE : Nat := 256

/-- What a call authenticates; the array of the e-mail has a zero. -/
structure Credentials where
  guid : Vector UInt8 16
  email : List UInt8
  authkey : Vector UInt8 16
  length_email : email.length = SUPLA_EMAIL_MAXSIZE
  terminated : 0 ∈ email

/-- `tolower` of the C locale. -/
def tolower (c : UInt8) : UInt8 := if 65 ≤ c ∧ c ≤ 90 then c + 32 else c

/-- The array `lc_email`. -/
def lcEmail (email : List UInt8) : List UInt8 :=
  let len := strnlen email SUPLA_EMAIL_MAXSIZE
  (email.take len).map tolower ++ List.replicate (SUPLA_EMAIL_MAXSIZE - len) 0

/-- `db_authkey_auth`: whether the credentials are good, and the user, as the GUID, the lower-cased
e-mail and the key determine them. -/
abbrev Db := Vector UInt8 16 → List UInt8 → Vector UInt8 16 → Bool × Int

def Db.auth (db : Db) (c : Credentials) : Bool × Int :=
  db c.guid ((text c.email).map tolower) c.authkey

/-- `authkey_cache_item_t`; the block of the e-mail, if there is one. -/
structure Item where
  guid : Vector UInt8 16
  email : Option (List UInt8)
  authkey : Vector UInt8 16
  userId : Int
  result : Bool

/-- After `memset`. -/
def Item.zero : Item := ⟨Vector.replicate 16 0, none, Vector.replicate 16 0, 0, false⟩

/-- The comparison of the lookup. -/
def Item.matches (c : Credentials) (i : Item) : Bool :=
  i.email.any (fun email => strnEq SUPLA_EMAIL_MAXSIZE email (lcEmail c.email)) &&
    decide (i.guid = c.guid) && decide (i.authkey = c.authkey)

/-- `realloc`; the bytes that are new may be anything. -/
def realloc (garbage : List UInt8) (block : List UInt8) (n : Nat) : List UInt8 :=
  (block ++ garbage ++ List.replicate n 0).take n

/-- The e-mail of an item that is filled. -/
def fillEmail (garbage lc : List UInt8) : Option (List UInt8) → List UInt8
  | none => strndup lc SUPLA_EMAIL_MAXSIZE
  | some email =>
    let len1 := strnlen lc SUPLA_EMAIL_MAXSIZE
    let len2 := strnlen email SUPLA_EMAIL_MAXSIZE
    let email := if len1 > len2 then realloc garbage email (len1 + 1) else email
    snprintf email (len1 + 1) lc

def Item.fill (garbage : List UInt8) (c : Credentials) (result : Bool) (userId : Int) (i : Item) :
    Item where
  guid := c.guid
  email := some (fillEmail garbage (lcEmail c.email) i.email)
  authkey := c.authkey
  userId := userId
  result := result

/-- The loop of `safe_array_move_to_begin`, from `a - 1` down to zero. -/
def shift {α : Type} : Nat → List α → List α
  | 0, arr => arr
  | a + 1, arr =>
    match arr[a]? with
    | some x => shift a (arr.set (a + 1) x)
    | none => arr

/-- `safe_array_move_to_begin`. -/
def moveToBegin {α : Type} (idx : Nat) (arr : List α) : List α :=
  match arr[idx]? with
  | some item => if idx < 1 then arr else (shift idx arr).set 0 item
  | none => arr

/-- What the clock and the memory choose in an insert section: the microseconds, whether
`safe_array_add` succeeds, and what `realloc` returns. -/
structure Chance where
  usec : Nat
  added : Bool
  garbage : List UInt8

/-- The item that is given up. -/
def victim (count usec : Nat) : Nat :=
  let idx := count / 2
  if idx > 0 then count - 1 - usec % idx else idx

/-- The insert section. -/
def insert (limit : Int) (c : Credentials) (result : Bool) (userId : Int) (ch : Chance)
    (items : List Item) : List Item :=
  if (items.length : Int) ≥ limit then
    let idx := victim items.length ch.usec
    match items[idx]? with
    | some i => items.set idx (i.fill ch.garbage c result userId)
    | none => items
  else if ch.added then items ++ [Item.zero.fill ch.garbage c result userId]
  else items

/-- Where a caller of `authkey_auth` stands. -/
inductive Caller
  | idle
  /-- before `get_cache_size_limit` -/
  | called (c : Credentials)
  /-- before the lookup section -/
  | lookup (c : Credentials) (limit : Int)
  /-- before `db_authkey_auth` -/
  | missed (c : Credentials) (limit : Int)
  /-- before the insert section -/
  | asked (c : Credentials) (limit : Int) (result : Bool) (userId : Int)
  /-- before `db_authkey_auth`, without a cache -/
  | direct (c : Credentials)
  | returned (c : Credentials) (result : Bool) (userId : Int)

structure Cache where
  cacheSizeLimit : Int
  items : List Item
  callers : Nat → Caller

inductive Act
  | call (k : Nat) (c : Credentials)
  /-- The next section of a caller. -/
  | next (k : Nat) (ch : Chance)

namespace Cache

/-- `get_cache_size_limit`, where `cfg` is configured: the answer and what is remembered. -/
def getCacheSizeLimit (cfg : Int) (s : Cache) : Int × Int :=
  let limit := if s.cacheSizeLimit = -1 then cfg else s.cacheSizeLimit
  (if limit ≥ 0 then limit else 0, limit)

def setCaller (k : Nat) (p : Caller) (s : Cache) : Cache :=
  { s with callers := fun j => if j = k then p else s.callers j }

/-- The lookup section. -/
def lookup (k : Nat) (c : Credentials) (limit : Int) (s : Cache) : Cache :=
  match s.items.findIdx? (Item.matches c) with
  | some a =>
    match s.items[a]? with
    | some i =>
      { s with items := moveToBegin a s.items }.setCaller k (.returned c i.result i.userId)
    | none => s.setCaller k (.missed c limit)
  | none => s.setCaller k (.missed c limit)

/-- The section a caller is in front of. -/
def next (cfg : Int) (db : Db) (k : Nat) (ch : Chance) (s : Cache) : Option Cache :=
  match s.callers k with
  | .idle => none
  | .called c =>
    let limit := s.getCacheSizeLimit cfg
    some ({ s with cacheSizeLimit := limit.2 }.setCaller k
      (if limit.1 > 0 then .lookup c limit.1 else .direct c))
  | .lookup c limit => some (s.lookup k c limit)
  | .missed c limit => some (s.setCaller k (.asked c limit (db.auth c).1 (db.auth c).2))
  | .asked c limit result userId =>
    some ({ s with items := insert limit c result userId ch s.items }.setCaller k
      (.returned c result userId))
  | .direct c => some (s.setCaller k (.returned c (db.auth c).1 (db.auth c).2))
  | .returned _ _ _ => none

def step (cfg : Int) (db : Db) (s : Cache) : Act → Option Cache
  | .call k c =>
    match s.callers k with
    | .idle => some (s.setCaller k (.called c))
    | .returned _ _ _ => some (s.setCaller k (.called c))
    | _ => none
  | .next k ch => s.next cfg db k ch

end Cache

/-- A cache without items, and callers that have not called. -/
def cache (cfg : Int) (db : Db) : Machine Cache Act where
  init s := s.items = [] ∧ ∀ k, s.callers k = .idle
  step := Cache.step cfg db

end AuthkeyCache
