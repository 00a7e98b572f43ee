import Mathlib.Data.List.Basic

/-!
# Clients and access identifiers in the database

The tables that the registration of a client reads (`sql/TestDatabaseStructureAndData.sql`) and the
queries of `supla_client_dao` (`supla-server/src/client/client_dao.cpp`),
`supla_connection_dao::get_user_id_by_email` and `database::superuser_authorization` as lookups in
them. `same` is the comparison of texts that the columns' collation makes. Where a query takes one
row of several (`LIMIT 1`), it is the first.

Left out: the columns that no query of a registration reads back (names, addresses, versions).
-/

namespace Client

/-- A row of `supla_v_accessid_active`. -/
structure AccessIdRow where
  id : Int
  userId : Int
  password : String
  enabled : Bool
  isNowActive : Bool

/-- A row of `supla_client`. `authKey` is a hash. -/
structure ClientRow where
  id : Int
  userId : Int
  guid : List UInt8
  authKey : Option String
  enabled : Bool
  accessId : Option Int

/-- A row of `supla_user`. `password` is a hash; `clientRegEnabled` says that the column is set to a
time that has not passed. -/
structure UserRow where
  id : Int
  email : String
  password : Option String
  clientRegEnabled : Bool
  limitClient : Option Int

/-- The three tables with their keys. -/
structure Tables where
  users : List UserRow
  accessIds : List AccessIdRow
  clients : List ClientRow
  accessIds_key : accessIds.Pairwise (·.id ≠ ·.id)
  accessIds_pos : ∀ a ∈ accessIds, 0 < a.id
  clients_key : clients.Pairwise (·.id ≠ ·.id)
  clients_pos : ∀ c ∈ clients, 0 < c.id
  clients_unique : clients.Pairwise fun c d => (c.userId, c.guid) ≠ (d.userId, d.guid)
  clients_accessId : ∀ c ∈ clients, ∀ id, c.accessId = some id → ∃ a ∈ accessIds, a.id = id

/-- What `get_client_variables` reads. -/
structure ClientVariables where
  clientEnabled : Bool
  accessId : Int
  accessIdEnabled : Bool
  accessIdActive : Bool
  deriving DecidableEq

namespace Tables

variable (db : Tables)

def accessIdRow (id : Int) : Option AccessIdRow := db.accessIds.find? (·.id = id)

def clientRow (id : Int) : Option ClientRow := db.clients.find? (·.id = id)

/-! ## Queries -/

def accessIdAuth (same : String → String → Bool) (accessId : Int) (pwd : String) :
    Option AccessIdRow :=
  if accessId = 0 ∨ pwd = "" then none
  else db.accessIds.find? fun a => a.id = accessId ∧ same a.password pwd

/-- `MIN(id)` of the rows with this user and GUID, of which the keys allow one. -/
def getClientId (userId : Int) (guid : List UInt8) : Int :=
  match db.clients.find? fun c => c.userId = userId ∧ c.guid = guid with
  | some c => c.id
  | none => 0

/-- `none` for no row, `some none` for a row without a hash. -/
def getAuthkeyHash (id : Int) : Option (Option String) := (db.clientRow id).map (·.authKey)

/-- The access identifier is joined from the left. -/
def getClientVariables (id : Int) : Option ClientVariables :=
  if id = 0 then none
  else (db.clientRow id).map fun c =>
    let a := c.accessId.bind db.accessIdRow
    ⟨c.enabled, c.accessId.getD 0, (a.map (·.enabled)).getD false,
      (a.map (·.isNowActive)).getD false⟩

def getClientAccessId (id : Int) : Option AccessIdRow :=
  (db.clientRow id).bind fun c => c.accessId.bind db.accessIdRow

def getClientRegEnabled (userId : Int) : Bool :=
  db.users.any fun u => u.id = userId ∧ u.clientRegEnabled

def getClientCount (userId : Int) : Nat := db.clients.countP (·.userId = userId)

def getClientLimitLeft (userId : Int) : Int :=
  match db.users.find? (·.id = userId) with
  | some u => u.limitClient.getD 0 - db.getClientCount userId
  | none => 0

def getAccessId (userId : Int) (enabled active : Bool) : Int :=
  match db.accessIds.find? fun a =>
      a.userId = userId ∧ a.enabled = enabled ∧ a.isNowActive = active with
  | some a => a.id
  | none => 0

def getUserIdByEmail (same : String → String → Bool) (email : String) : Int :=
  if email = "" then 0
  else
    match db.users.find? fun u => same u.email email with
    | some u => u.id
    | none => 0

def superuserAuthorization (same check : String → String → Bool) (userId : Int)
    (email password : String) : Bool :=
  match db.users.find? fun u => u.id = userId ∧ same u.email email with
  | some u => u.password.any (check password)
  | none => false

/-! ## Writing -/

/-- No key stands against the row. -/
def Insertable (c : ClientRow) : Prop :=
  0 < c.id ∧ (∀ d ∈ db.clients, d.id ≠ c.id ∧ (d.userId, d.guid) ≠ (c.userId, c.guid)) ∧
    (c.accessId.all fun id => (db.accessIdRow id).isSome) = true

instance (c : ClientRow) : Decidable (db.Insertable c) := by
  unfold Insertable; infer_instance

variable {db}

theorem mem_of_accessIdRow {id : Int} {a : AccessIdRow} (h : db.accessIdRow id = some a) :
    a ∈ db.accessIds ∧ a.id = id := by
  have hid := List.find?_some h
  exact ⟨List.mem_of_find?_eq_some h, of_decide_eq_true hid⟩

theorem exists_of_all {o : Option Int}
    (h : (o.all fun id => (db.accessIdRow id).isSome) = true) (id : Int) (ho : o = some id) :
    ∃ a ∈ db.accessIds, a.id = id := by
  subst ho
  obtain ⟨a, ha⟩ := Option.isSome_iff_exists.mp h
  exact ⟨a, mem_of_accessIdRow ha⟩

theorem Insertable.accessId {c : ClientRow} (h : db.Insertable c) :
    ∀ d ∈ c :: db.clients, ∀ id, d.accessId = some id → ∃ a ∈ db.accessIds, a.id = id := by
  intro d hd id hid
  rcases List.mem_cons.mp hd with rfl | hd
  · exact exists_of_all h.2.2 id hid
  · exact db.clients_accessId d hd id hid

theorem Insertable.pos {c : ClientRow} (h : db.Insertable c) : ∀ d ∈ c :: db.clients, 0 < d.id :=
  List.forall_mem_cons.mpr ⟨h.1, db.clients_pos⟩

theorem Insertable.key {c : ClientRow} (h : db.Insertable c) :
    (c :: db.clients).Pairwise (·.id ≠ ·.id) :=
  List.pairwise_cons.mpr ⟨fun d hd => (h.2.1 d hd).1.symm, db.clients_key⟩

theorem Insertable.unique {c : ClientRow} (h : db.Insertable c) :
    (c :: db.clients).Pairwise fun c d => (c.userId, c.guid) ≠ (d.userId, d.guid) :=
  List.pairwise_cons.mpr ⟨fun d hd => (h.2.1 d hd).2.symm, db.clients_unique⟩

/-- `INSERT INTO supla_client`; `none` where a key stands against it. -/
def insertClient (db : Tables) (c : ClientRow) : Option Tables :=
  if h : db.Insertable c then
    some { db with
      clients := c :: db.clients
      clients_key := h.key
      clients_pos := h.pos
      clients_unique := h.unique
      clients_accessId := h.accessId }
  else none

/-- `supla_update_client` on a row: an authkey is kept once it is set. -/
def updatedRow (id : Int) (accessId : Option Int) (authKey : Option String) (c : ClientRow) :
    ClientRow :=
  if c.id = id then { c with accessId := accessId, authKey := c.authKey <|> authKey } else c

@[simp] theorem updatedRow_id {id : Int} {accessId : Option Int} {authKey : Option String}
    {c : ClientRow} : (updatedRow id accessId authKey c).id = c.id := by
  unfold updatedRow; split <;> rfl

theorem updatedRow_owner {id : Int} {accessId : Option Int} {authKey : Option String}
    {c : ClientRow} : ((updatedRow id accessId authKey c).userId,
      (updatedRow id accessId authKey c).guid) = (c.userId, c.guid) := by
  unfold updatedRow; split <;> rfl

@[simp] theorem updatedRow_enabled {id : Int} {accessId : Option Int} {authKey : Option String}
    {c : ClientRow} : (updatedRow id accessId authKey c).enabled = c.enabled := by
  unfold updatedRow; split <;> rfl

theorem updated_key (id : Int) (accessId : Option Int) (authKey : Option String) :
    (db.clients.map (updatedRow id accessId authKey)).Pairwise (·.id ≠ ·.id) := by
  rw [List.pairwise_map]
  simpa only [updatedRow_id] using db.clients_key

theorem updated_pos (id : Int) (accessId : Option Int) (authKey : Option String) :
    ∀ c ∈ db.clients.map (updatedRow id accessId authKey), 0 < c.id := by
  rw [List.forall_mem_map]
  simpa only [updatedRow_id] using db.clients_pos

theorem updated_unique (id : Int) (accessId : Option Int) (authKey : Option String) :
    (db.clients.map (updatedRow id accessId authKey)).Pairwise
      fun c d => (c.userId, c.guid) ≠ (d.userId, d.guid) := by
  rw [List.pairwise_map]
  simpa only [updatedRow_owner] using db.clients_unique

theorem updated_accessId {id : Int} {accessId : Option Int} {authKey : Option String}
    (h : (accessId.all fun id => (db.accessIdRow id).isSome) = true) :
    ∀ c ∈ db.clients.map (updatedRow id accessId authKey), ∀ a, c.accessId = some a →
      ∃ r ∈ db.accessIds, r.id = a := by
  rw [List.forall_mem_map]
  intro c hc a ha
  unfold updatedRow at ha
  split at ha
  · exact exists_of_all h a ha
  · exact db.clients_accessId c hc a ha

/-- `supla_update_client`; `none` where the access identifier is not in its table. -/
def updateClient (db : Tables) (id : Int) (accessId : Option Int) (authKey : Option String) :
    Option Tables :=
  if h : (accessId.all fun id => (db.accessIdRow id).isSome) = true then
    some { db with
      clients := db.clients.map (updatedRow id accessId authKey)
      clients_key := updated_key id accessId authKey
      clients_pos := updated_pos id accessId authKey
      clients_unique := updated_unique id accessId authKey
      clients_accessId := updated_accessId h }
  else none

end Tables

end Client
