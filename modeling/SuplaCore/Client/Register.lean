import SuplaCore.Client.Database

/-!
# Client registration

`supla_abstract_register_client::register_client` and `authenticate`
(`supla-server/src/client/call_handler/abstract_register_client.cpp`), for an object made for this
call, as the call handlers make it. The DAO queries are lookups in `Tables`; each may also fail with
an error of the database (`Server.fails`), and then has the result that the DAO gives for it.

Left out: the arguments of the DAO calls that no answer depends on (name, software version,
address, protocol version), the name of the client that `get_client_variables` also returns, the
pause after a failure, and the fields of the result message besides its variant, its code and the
client id.
-/

namespace Client

/-- The `SUPLA_RESULTCODE_*` that a registration can end with. -/
inductive ResultCode
  | none
  | true
  | temporarilyUnavailable
  | badCredentials
  | accessIdDisabled
  | clientDisabled
  | clientLimitExceeded
  | guidError
  | registrationDisabled
  | accessIdNotAssigned
  | authkeyError
  | inactive
  | clientNotExists
  deriving Repr, DecidableEq

/-- `TCS_SuplaRegisterClient_B` -/
structure RegisterClientB where
  guid : List UInt8
  accessId : Int
  accessIdPwd : String

/-- `TCS_SuplaRegisterClient_D` -/
structure RegisterClientD where
  guid : List UInt8
  authKey : List UInt8
  email : String
  password : String

/-- The two arguments of `register_client` of which one is a null pointer. -/
inductive Request
  | b (m : RegisterClientB)
  | d (m : RegisterClientD)

/-- `TCS_ClientAuthorizationDetails` -/
structure ClientAuthorizationDetails where
  accessId : Int
  accessIdPwd : String
  email : String
  authKey : List UInt8
  guid : List UInt8

/-- The message that `authenticate` fills in. -/
def ClientAuthorizationDetails.request (auth : ClientAuthorizationDetails) : Request :=
  if auth.email ≠ "" then .d ⟨auth.guid, auth.authKey, auth.email, ""⟩
  else .b ⟨auth.guid, auth.accessId, auth.accessIdPwd⟩

def Request.guid : Request → List UInt8
  | .b m => m.guid
  | .d m => m.guid

/-- `memcmp` with zeros, as in `is_valid_guid` and `is_valid_authkey`. -/
def isValid (key : List UInt8) : Bool := key.any (· ≠ 0)

def Request.isValidAuthkey : Request → Bool
  | .b _ => true
  | .d m => isValid m.authKey

/-- `register_client_d->Password` is not empty. -/
def Request.hasPassword : Request → Bool
  | .b _ => false
  | .d m => m.password ≠ ""

/-- The statements that a registration has executed. -/
inductive Query
  | accessIdAuth
  | getUserIdByEmail
  | getObjectId
  | getAuthkeyHash
  | getClientId
  | getClientVariables
  | getClientRegEnabled
  | getClientLimitLeft
  | getClientCount
  | getAccessId (enabled active : Bool)
  | addClient
  | getClientAccessId
  | updateClient
  | superuserAuthorization
  deriving DecidableEq

/-- What the registration depends on besides the tables. -/
structure Server where
  protoVersion : Nat
  connect : Bool
  /-- the statement ends with an error -/
  fails : Query → Bool
  /-- the collation of the text columns -/
  same : String → String → Bool
  /-- `st_bcrypt_check`, of an authkey in hexadecimal or of a password -/
  authkeyCheck : List UInt8 → String → Bool
  passwordCheck : String → String → Bool
  /-- `st_get_authkey_hash_hex`, none where it has no memory -/
  authkeyHash : List UInt8 → Option String
  /-- what `supla_authkey_cache` holds for the request: result and user id -/
  cached : Option (Bool × Int)
  /-- `AUTO_INCREMENT` of `supla_client` -/
  autoIncrement : Int
  /-- the access identifier that `supla_on_newclient` assigns; the procedure in `sql/` is empty -/
  onNewclient : Option Int

/-- A connection: the tables as committed and as the statements see them. -/
structure Session where
  connected : Bool
  inTransaction : Bool
  durable : Tables
  working : Tables

namespace Session

def write (db : Tables) (s : Session) : Session :=
  { s with working := db, durable := if s.inTransaction then s.durable else db }

def startTransaction (s : Session) : Session := { s with inTransaction := true }

def commit (s : Session) : Session := { s with inTransaction := false, durable := s.working }

def rollback (s : Session) : Session := { s with inTransaction := false, working := s.durable }

/-- The server rolls an open transaction back when its connection ends. -/
def disconnect (s : Session) : Session := { s.rollback with connected := false }

end Session

/-- The messages `sc_async_registerclient_result`, `_b`, `_c` and `_d`. -/
inductive ResultVariant
  | a
  | b
  | c
  | d
  deriving DecidableEq

inductive Event
  | startTransaction
  | commit
  | rollback
  | result (variant : ResultVariant) (code : ResultCode) (clientId : Int)
  | onRegistractionSuccess
  | remoteUpdateLists
  deriving DecidableEq

/-- The members of `supla_abstract_register_client`, the connection and what has been done. -/
structure Reg where
  restrictToAuthentication : Bool
  stayConnected : Bool
  dontSendResult : Bool
  authkey : Option (List UInt8)
  userId : Int
  accessId : Int
  clientId : Int
  accessIdEnabled : Bool
  accessIdActive : Bool
  clientEnabled : Bool
  pwdIsSet : Bool
  shouldRollback : Bool
  /-- `superuser_authorized` of the client -/
  superuserAuthorized : Bool
  resultCode : ResultCode
  db : Session
  trace : List Event

namespace Reg

def emit (e : Event) (s : Reg) : Reg := { s with trace := s.trace ++ [e] }

def write (db : Tables) (s : Reg) : Reg := { s with db := s.db.write db }

def startTransaction (s : Reg) : Reg :=
  { s with db := s.db.startTransaction, shouldRollback := true }.emit .startTransaction

def commit (s : Reg) : Reg := { s with db := s.db.commit, shouldRollback := false }.emit .commit

/-- The flags are only ever raised. -/
def raise (enabled active : Bool) (s : Reg) : Reg :=
  { s with
    accessIdEnabled := if enabled then true else s.accessIdEnabled
    accessIdActive := if active then true else s.accessIdActive }

section
variable (req : Request) (srv : Server)

/-- The part of `send_result` before the message. -/
def closeDb (s : Reg) : Reg :=
  if s.db.connected then
    let s := if s.shouldRollback then { s with db := s.db.rollback }.emit .rollback else s
    if s.stayConnected then s else { s with db := s.db.disconnect }
  else s

def resultVariant : ResultVariant :=
  if srv.protoVersion ≥ 19 then .d
  else if srv.protoVersion ≥ 17 then .c
  else if srv.protoVersion ≥ 9 then .b
  else .a

def sendResult (code : ResultCode) (s : Reg) : Reg :=
  let s := { s with resultCode := code, superuserAuthorized := false }.closeDb
  if s.dontSendResult then s
  else if code = .true then
    (s.emit (.result (resultVariant srv) code s.clientId)).emit .remoteUpdateLists
  else s.emit (.result (resultVariant srv) code 0)

/-! ## Credentials -/

/-- The lookup of `authkey_auth` behind the cache: the user whose e-mail it is, unless the client
has another authkey. -/
def dbAuthkeyAuth (m : RegisterClientD) (db : Tables) : Option Int :=
  let userId := if srv.fails .getUserIdByEmail then 0 else db.getUserIdByEmail srv.same m.email
  if userId = 0 ∨ srv.fails .getObjectId then none
  else
    let id := db.getClientId userId m.guid
    if id = 0 then some userId
    else
      match if srv.fails .getAuthkeyHash then none else db.getAuthkeyHash id with
      | none => none
      | some none => some userId
      | some (some hash) => if srv.authkeyCheck m.authKey hash then some userId else none

/-- `authkey_auth`: the user, where the credentials are accepted. -/
def authkeyAuth (m : RegisterClientD) (db : Tables) : Option Int :=
  match srv.cached with
  | some (result, userId) => if result then some userId else none
  | none => dbAuthkeyAuth srv m db

def accessIdAuth (m : RegisterClientB) (db : Tables) : Option AccessIdRow :=
  if srv.fails .accessIdAuth then none else db.accessIdAuth srv.same m.accessId m.accessIdPwd

def clientAuth (s : Reg) : Bool × Reg :=
  match req with
  | .b m =>
    match accessIdAuth srv m s.db.working with
    | none => (false, s.sendResult srv .badCredentials)
    | some a =>
      let s := { s with
        userId := a.userId, accessIdEnabled := a.enabled, accessIdActive := a.isNowActive }
      if a.userId = 0 then (false, s.sendResult srv .badCredentials) else (true, s)
  | .d m =>
    match authkeyAuth srv m s.db.working with
    | none => (false, s.sendResult srv .badCredentials)
    | some userId =>
      if userId = 0 then (false, { s with userId := userId }.sendResult srv .badCredentials)
      else (true, { s with userId := userId })

/-- `superuser_authorize` with the e-mail and the password of structure D. -/
def superuserAuthorize (s : Reg) : Reg :=
  match req with
  | .b _ => s
  | .d m => { s with
      superuserAuthorized := s.userId ≠ 0 ∧ m.email ≠ "" ∧ m.password ≠ "" ∧
        srv.fails .superuserAuthorization = false ∧
        s.db.durable.superuserAuthorization srv.same srv.passwordCheck s.userId m.email
          m.password }

/-! ## Queries that may fail -/

def getClientRegEnabled (s : Reg) : Bool :=
  !srv.fails .getClientRegEnabled && s.db.working.getClientRegEnabled s.userId

def getClientLimitLeft (s : Reg) : Int :=
  if srv.fails .getClientLimitLeft then 0 else s.db.working.getClientLimitLeft s.userId

def getClientCount (s : Reg) : Nat :=
  if srv.fails .getClientCount then 0 else s.db.working.getClientCount s.userId

def getAccessId (enabled active : Bool) (s : Reg) : Int :=
  if srv.fails (.getAccessId enabled active) then 0
  else s.db.working.getAccessId s.userId enabled active

def getClientId (s : Reg) : Int :=
  if srv.fails .getClientId then 0 else s.db.working.getClientId s.userId req.guid

def getClientVariables (s : Reg) : Option ClientVariables :=
  if srv.fails .getClientVariables then none else s.db.working.getClientVariables s.clientId

def getClientAccessId (s : Reg) : Option AccessIdRow :=
  if srv.fails .getClientAccessId then none else s.db.working.getClientAccessId s.clientId

/-- A parameter that is bound as `NULL` for 0. -/
def nullable (id : Int) : Option Int := if id = 0 then none else some id

/-- The parameter for the authkey: `NULL` where there is none; the DAO gives up where it has no
hash. -/
def authkeyParam (s : Reg) : Option (Option String) :=
  match s.authkey with
  | none => some none
  | some key => (srv.authkeyHash key).map some

/-- The row of `supla_add_client`. -/
def newRow (hash : Option String) (s : Reg) : ClientRow :=
  ⟨srv.autoIncrement, s.userId, req.guid, hash, true, nullable s.accessId⟩

/-- `supla_client_dao::add_client` with its `on_newclient`: the id, and the tables after it. -/
def daoAddClient (s : Reg) : Int × Reg :=
  match if srv.fails .addClient then none
      else (s.authkeyParam srv).bind fun hash =>
        s.db.working.insertClient (s.newRow req srv hash) with
  | none => (0, s)
  | some db =>
    match srv.onNewclient with
    | none => (srv.autoIncrement, s.write db)
    | some a =>
      (srv.autoIncrement, s.write ((db.updateClient srv.autoIncrement (some a) none).getD db))

/-- `supla_client_dao::update_client` -/
def daoUpdateClient (s : Reg) : Bool × Reg :=
  match if srv.fails .updateClient then none
      else (s.authkeyParam srv).bind
        (s.db.working.updateClient s.clientId (nullable s.accessId)) with
  | none => (false, s)
  | some db => (true, s.write db)

/-! ## New and known clients -/

/-- The choice of an access identifier for a client that comes without one. -/
def chooseAccessId (s : Reg) : Reg :=
  if s.getAccessId srv true true > 0 then
    { s with
      accessId := s.getAccessId srv true true, accessIdEnabled := true, accessIdActive := true }
  else if s.getAccessId srv false true > 0 then
    { s with
      accessId := s.getAccessId srv false true, accessIdEnabled := false, accessIdActive := true }
  else
    { s with
      accessId := s.getAccessId srv false false, accessIdEnabled := false, accessIdActive := false }

def hasStructureD : Bool :=
  match req with
  | .b _ => false
  | .d _ => true

/-- The end of `add_client`: the access identifier that the database has given the client. -/
def readAccessId (s : Reg) : Reg :=
  if s.accessId = 0 then
    match s.getClientAccessId srv with
    | none => s
    | some a => { s with accessId := a.id }.raise a.enabled a.isNowActive
  else s

def addClient (s : Reg) : Bool × Reg :=
  let s := if s.pwdIsSet then s.superuserAuthorize req srv else s
  if s.getClientRegEnabled srv = false ∧ s.superuserAuthorized = false then
    (false, s.sendResult srv (if s.pwdIsSet then .badCredentials else .registrationDisabled))
  else if s.getClientLimitLeft srv ≤ 0 then (false, s.sendResult srv .clientLimitExceeded)
  else
    let s := if s.accessId = 0 ∧ hasStructureD req ∧
        (s.getClientCount srv = 0 ∨ s.superuserAuthorized) then s.chooseAccessId srv else s
    match s.daoAddClient req srv with
    | (id, s) =>
      let s := { s with clientId := id }
      if id = 0 then (false, s.sendResult srv .temporarilyUnavailable)
      else (true, { s with clientEnabled := true }.readAccessId srv)

/-- The superuser gets an access identifier for a client that has none. -/
def superuserAccessId (s : Reg) : Reg :=
  if s.accessId = 0 ∧ s.pwdIsSet then
    let s := if s.superuserAuthorized then s else s.superuserAuthorize req srv
    if s.superuserAuthorized then
      if s.getAccessId srv true true ≠ 0 then
        { s with
          accessId := s.getAccessId srv true true, accessIdEnabled := true, accessIdActive := true }
      else { s with accessId := 0, pwdIsSet := false }
    else s
  else s

def updateClient (s : Reg) : Bool × Reg :=
  match (s.superuserAccessId req srv).daoUpdateClient srv with
  | (false, s) => (false, s.sendResult srv .temporarilyUnavailable)
  | (true, s) => (true, s)

/-! ## The call -/

/-- The end of `register_client`. -/
def finish (s : Reg) : Reg :=
  let s := if s.restrictToAuthentication then s else s.commit
  if s.accessId = 0 then
    s.sendResult srv (if s.pwdIsSet then .badCredentials else .accessIdNotAssigned)
  else if s.accessIdEnabled = false then s.sendResult srv .accessIdDisabled
  else if s.accessIdActive = false then s.sendResult srv .inactive
  else
    (if s.restrictToAuthentication then s else s.emit .onRegistractionSuccess).sendResult srv .true

def registerNew (s : Reg) : Reg :=
  if s.restrictToAuthentication then s.sendResult srv .clientNotExists
  else
    match s.addClient req srv with
    | (false, s) => s
    | (true, s) => s.finish srv

/-- `stored` is `_access_id`. -/
def registerKnown (stored : Int) (s : Reg) : Reg :=
  let s := if stored > 0 ∧ hasStructureD req then { s with accessId := stored } else s
  if s.clientEnabled = false then s.sendResult srv .clientDisabled
  else if s.restrictToAuthentication then s.finish srv
  else
    match s.updateClient req srv with
    | (false, s) => s
    | (true, s) => s.finish srv

def startUnlessRestricted (s : Reg) : Reg :=
  if s.restrictToAuthentication then s else s.startTransaction

/-- `register_client` after `client_auth`. -/
def registerAuthorised (s : Reg) : Reg :=
  let s := { s with clientId := s.getClientId req srv }
  if s.clientId = 0 then s.startUnlessRestricted.registerNew req srv
  else
    match s.getClientVariables srv with
    | none => s.sendResult srv .temporarilyUnavailable
    | some v =>
      ({ s with clientEnabled := v.clientEnabled }.raise v.accessIdEnabled
        v.accessIdActive).startUnlessRestricted.registerKnown req srv v.accessId

/-- What `register_client` takes from the request. -/
def enter (s : Reg) : Reg :=
  match req with
  | .b m => { s with accessId := m.accessId }
  | .d m => { s with authkey := some m.authKey }

def connect (s : Reg) : Reg :=
  { s with
    db := { s.db with connected := true }
    pwdIsSet := !s.restrictToAuthentication && req.hasPassword }

def registerClient (s : Reg) : Reg :=
  let s := s.enter req
  if isValid req.guid = false then s.sendResult srv .guidError
  else if req.isValidAuthkey = false then s.sendResult srv .authkeyError
  else if srv.connect = false then s.sendResult srv .temporarilyUnavailable
  else
    match (s.connect req).clientAuth req srv with
    | (false, s) => s
    | (true, s) => s.registerAuthorised req srv

end

end Reg

/-- `register_client` for a message from the client, or `authenticate` with its `stay_connected`. -/
inductive Call
  | registerClient (req : Request)
  | authenticate (auth : ClientAuthorizationDetails) (stayConnected : Bool)

namespace Call

def request : Call → Request
  | .registerClient req => req
  | .authenticate auth _ => auth.request

def restricted : Call → Bool
  | .registerClient _ => false
  | .authenticate _ _ => true

def stayConnected : Call → Bool
  | .registerClient _ => false
  | .authenticate _ stay => stay

/-- The object as constructed, with the three flags as the call sets them, for a client that may
have been authorised as a superuser before, and a connection. -/
def object (c : Call) (superuserAuthorized connected : Bool) (db : Tables) : Reg :=
  ⟨c.restricted, c.stayConnected, c.restricted, none, 0, 0, 0, false, false, true, false, false,
    superuserAuthorized, .none, ⟨connected, false, db, db⟩, []⟩

/-- The call, up to the reset of the three flags. -/
def run (c : Call) (srv : Server) (superuserAuthorized connected : Bool) (db : Tables) : Reg :=
  (c.object superuserAuthorized connected db).registerClient c.request srv

end Call

end Client
