import Mathlib.Data.List.Basic

/-!
# Device registration

`supla_abstract_register_device::register_device`
(`supla-server/src/device/call_handler/abstract_register_device.cpp`). What the database and the
rest of the server answer is in `Dao`, one answer for every query; what the call does is recorded
in `trace`, and `Db` keeps the rows written apart by whether they have been committed. A write
counts as done also where the DAO reports a failure.

Left out: the arguments of the DAO calls that no answer depends on (name, software version,
address, channel defaults) and the fields of the result message besides its code and the channel
report.
-/

namespace Device

/-- The `SUPLA_RESULTCODE_*` that a registration can end with. -/
inductive ResultCode
  | true
  | temporarilyUnavailable
  | badCredentials
  | locationConflict
  | channelConflict
  | deviceDisabled
  | locationDisabled
  | deviceLimitexceeded
  | guidError
  | deviceLocked
  | registrationDisabled
  | authkeyError
  | noLocationAvailable
  | cfgModeRequested
  | restartRequested
  | identifyRequested
  deriving Repr, DecidableEq

def suplaChannelmaxcount : Nat := 128
def channelReportMaxsize : Nat := 256
def channeltypeImpulseCounter : Int := 5010
def channelfncElectricityMeter : Int := 310
def channelfncIcElectricityMeter : Int := 315
def deviceFlagSleepModeEnabled : BitVec 32 := 0x0020
def deviceFlagDeviceLocked : BitVec 32 := 0x0100
def calcfgCmdEnterCfgMode : Int := 9000
def calcfgCmdIdentifyDevice : Int := 9300
def calcfgCmdRestartDevice : Int := 9400

/-- `TDS_SuplaDeviceChannel_B` and `TDS_SuplaDeviceChannel_E`, which adds the flags. -/
structure DevChannel where
  number : UInt8
  type : Int
  funcList : BitVec 32
  default : Int
  flags : BitVec 64

/-- An impulse counter that asks for the function of an electricity meter gets its own. -/
def DevChannel.defaultFunc (ch : DevChannel) : Int :=
  if ch.type = channeltypeImpulseCounter ∧ ch.default = channelfncElectricityMeter then
    channelfncIcElectricityMeter
  else ch.default

/-- What structure C has and structure G has not, and the other way round. -/
inductive Credentials
  | c (locationId : Int)
  | g (authKey : List UInt8) (flags : BitVec 32)

/-- A registration message. -/
structure Message where
  guid : List UInt8
  credentials : Credentials
  channelCount : UInt8
  channels : Nat → DevChannel

def Message.isG (m : Message) : Bool :=
  match m.credentials with
  | .c _ => false
  | .g _ _ => true

/-- `memcmp` with zeros, as in `is_valid_guid` and `is_valid_authkey`. -/
def isValid (key : List UInt8) : Bool := key.any (· ≠ 0)

/-- Only structure G has an authkey. -/
def Message.isValidAuthkey (m : Message) : Bool :=
  match m.credentials with
  | .c _ => true
  | .g authKey _ => isValid authKey

/-- The JSON of a channel conflict. -/
structure ConflictDetails where
  type : Option Int
  missing : Bool
  deriving Repr, DecidableEq

/-- The rows that DAO calls write. -/
inductive Write
  | addDevice (locationId : Int)
  | addChannel (number : UInt8) (type defaultFunc : Int) (funcList : BitVec 32)
  | onChannelAdded (channelId : Int)
  | updateChannelFunctions (channelId : Int) (funcList : BitVec 32)
  | onNewDevice
  | updateDevice (originalLocationId : Int) (flags : BitVec 32)
  | updateChannelConflictDetails (number : UInt8) (details : ConflictDetails)
  deriving DecidableEq

/-- A connection: the rows of the open transaction and the rows that stay. A row is tagged with
whether it was written inside a transaction. -/
structure Db where
  connected : Bool
  inTransaction : Bool
  pending : List (Write × Bool)
  durable : List (Write × Bool)
  deriving DecidableEq

namespace Db

def write (w : Write) (db : Db) : Db :=
  if db.inTransaction then { db with pending := db.pending ++ [(w, true)] }
  else { db with durable := db.durable ++ [(w, false)] }

def startTransaction (db : Db) : Db := { db with inTransaction := true }

def commit (db : Db) : Db :=
  { db with inTransaction := false, pending := [], durable := db.durable ++ db.pending }

def rollback (db : Db) : Db := { db with inTransaction := false, pending := [] }

/-- The server rolls an open transaction back when its connection ends. -/
def disconnect (db : Db) : Db :=
  { db with connected := false, inTransaction := false, pending := [] }

end Db

inductive Event
  | startTransaction
  | commit
  | rollback
  /-- `sd_async_registerdevice_result`, or the `_b` variant with its channel report -/
  | result (code : ResultCode) (report : Option (List UInt8))
  | onRegistrationSuccess
  | afterRegistrationSuccess
  deriving DecidableEq

/-- The answers of one registration. -/
structure Dao where
  protoVersion : Nat
  connect : Bool
  /-- result, user id, location enabled -/
  locationAuth : Int → Bool × Int × Bool
  authkeyAuth : Bool × Int
  getDeviceId : Int
  /-- device enabled, original location, location, location enabled, flags, channel addition
  blocked -/
  getDeviceVariables : Option (Bool × Int × Int × Bool × BitVec 32 × Bool)
  getDeviceRegEnabled : Bool
  getDeviceLimitLeft : Int
  getLocationId : Bool → Int
  addDevice : Int
  /-- channel id, type, function list, for the channel at an index -/
  getChannelProperties : Nat → Int × Int × BitVec 32
  addChannel : Nat → Int
  getDeviceChannelCount : Int
  updateDevice : Bool
  /-- number and type of the channels found for the report -/
  getChannelFragments : List (UInt8 × Int)
  /-- the connection made for the details of a conflict -/
  conflictConnect : UInt8 → Bool
  lastCalcfgCommand : Int

/-- `db_channel_type`: 0 for a channel that is not in the database. -/
def Dao.dbChannelType (dao : Dao) (a : Nat) : Int :=
  if (dao.getChannelProperties a).1 = 0 then 0 else (dao.getChannelProperties a).2.1

/-- The members of `supla_abstract_register_device`, the connection and what has been done. -/
structure Reg where
  shouldRollback : Bool
  userId : Int
  locationEnabled : Bool
  newDevice : Bool
  deviceEnabled : Bool
  channelAdded : Bool
  channelAdditionBlocked : Bool
  locationId : Int
  /-- `_location_id` -/
  storedLocationId : Int
  originalLocationId : Int
  deviceId : Int
  deviceFlags : BitVec 32
  /-- `_device_flags` -/
  storedFlags : BitVec 32
  db : Db
  trace : List Event

namespace Reg

def emit (e : Event) (s : Reg) : Reg := { s with trace := s.trace ++ [e] }

def write (w : Write) (s : Reg) : Reg := { s with db := s.db.write w }

def connect (s : Reg) : Reg := { s with db := { s.db with connected := true } }

def startTransaction (s : Reg) : Reg :=
  { s with db := s.db.startTransaction, trace := s.trace ++ [.startTransaction] }

/-- `commit`, after which nothing is rolled back. -/
def commit (s : Reg) : Reg :=
  { s with db := s.db.commit, trace := s.trace ++ [.commit], shouldRollback := false }

section
variable (m : Message) (dao : Dao)

/-- The channels of the message, as many as the loops visit. -/
def channelIndices : List Nat := List.range (min suplaChannelmaxcount m.channelCount.toNat)

/-- One fragment in `prepare_channel_report`: the flags, the size so far and the details. -/
def reportFragment (f : UInt8 × Int) (report : List UInt8 × Nat) :
    (List UInt8 × Nat) × ConflictDetails :=
  let found := (channelIndices m).find? fun a => (m.channels a).number = f.1
  let wrongType := match found with
    | some a => if (m.channels a).type ≠ f.2 then some (m.channels a).type else none
    | none => none
  ((report.1.modify f.1.toNat fun flags =>
      (flags ||| 1) ||| (if wrongType.isSome then 2 else 0),
    if f.1.toNat ≥ report.2 then f.1.toNat + 1 else report.2),
    ⟨wrongType, found.isNone⟩)

def prepareChannelReport : List (UInt8 × Int) → List UInt8 × Nat → Reg →
    (List UInt8 × Nat) × Reg
  | [], report, s => (report, s)
  | f :: fs, report, s =>
    let (report', details) := reportFragment m f report
    let s' := if (details.type.isSome || details.missing) && dao.conflictConnect f.1 then
        s.write (.updateChannelConflictDetails f.1 details)
      else s
    prepareChannelReport fs report' s'

/-- The part of `send_result` before the message. -/
def closeDb (s : Reg) : Reg :=
  if s.db.connected then
    let s' := if s.shouldRollback then { s with db := s.db.rollback }.emit .rollback else s
    { s' with db := s'.db.disconnect }
  else s

def sendResult (code : ResultCode) (s : Reg) : Reg :=
  let s' := s.closeDb
  if code = .channelConflict then
    let (report, s'') := prepareChannelReport m dao dao.getChannelFragments
      (List.replicate channelReportMaxsize 0, 0) s'
    if dao.protoVersion ≥ 25 then s''.emit (.result code (some (report.1.take report.2)))
    else s''.emit (.result code none)
  else s'.emit (.result code none)

def deviceAuth (s : Reg) : Bool × Reg :=
  let (auth, s') := match m.credentials with
    | .c _ =>
      ((dao.locationAuth s.locationId).1, { s with
        userId := (dao.locationAuth s.locationId).2.1
        locationEnabled := (dao.locationAuth s.locationId).2.2 })
    | .g _ _ => (dao.authkeyAuth.1, { s with userId := dao.authkeyAuth.2 })
  if auth = false then (false, s'.sendResult m dao .badCredentials)
  else if s'.userId = 0 then (false, s'.sendResult m dao .badCredentials)
  else (true, s')

/-- The second half of `add_device`, with the location settled. -/
def addDeviceAt (s : Reg) : Bool × Reg :=
  if s.locationId ≠ 0 then
    let s' := { s with
      newDevice := true
      storedLocationId := s.locationId
      deviceId := dao.addDevice }.write (.addDevice s.locationId)
    if dao.addDevice = 0 then (false, s'.sendResult m dao .temporarilyUnavailable)
    else (true, s')
  else (false, s)

def addDevice (s : Reg) : Bool × Reg :=
  if dao.getDeviceRegEnabled = false then (false, s.sendResult m dao .registrationDisabled)
  else if dao.getDeviceLimitLeft ≤ 0 then (false, s.sendResult m dao .deviceLimitexceeded)
  else if s.locationId = 0 ∧ m.isG then
    if dao.getLocationId true ≠ 0 then
      { s with locationId := dao.getLocationId true, locationEnabled := true }.addDeviceAt m dao
    else if dao.getLocationId false ≠ 0 then
      { s with locationId := dao.getLocationId false, locationEnabled := false }.addDeviceAt m dao
    else (false, { s with locationId := 0 }.sendResult m dao .noLocationAvailable)
  else s.addDeviceAt m dao

/-- One channel in `add_channels`; `false` where the loop is left with `processed_count = -1`. -/
def addChannel (a : Nat) (s : Reg) : Bool × Reg :=
  let ch := m.channels a
  let (id, _, funcList) := dao.getChannelProperties a
  if dao.dbChannelType a = 0 then
    if s.channelAdditionBlocked then (false, s)
    else
      let s' := s.write (.addChannel ch.number ch.type ch.defaultFunc ch.funcList)
      if dao.addChannel a = 0 then (false, s')
      else (true, { s' with channelAdded := true }.write (.onChannelAdded (dao.addChannel a)))
  else if dao.dbChannelType a ≠ ch.type then (false, s)
  else if (funcList ||| ch.funcList) ≠ funcList then
    (true, s.write (.updateChannelFunctions id (funcList ||| ch.funcList)))
  else (true, s)

/-- The loop of `add_channels`: `processed_count`, or `none` for -1. -/
def addChannelsLoop : List Nat → Nat → Reg → Option Nat × Reg
  | [], n, s => (some n, s)
  | a :: as, n, s =>
    if (m.channels a).type = 0 then (some (n + 1), s)
    else
      match s.addChannel m dao a with
      | (false, s') => (none, s')
      | (true, s') => addChannelsLoop as (n + 1) s'

def addChannels (s : Reg) : Bool × Reg :=
  match s.addChannelsLoop m dao (channelIndices m) 0 with
  | (none, s') => (false, s'.sendResult m dao .channelConflict)
  | (some n, s') =>
    if dao.getDeviceChannelCount ≠ n then (false, s'.sendResult m dao .channelConflict)
    else (true, s')

/-- The row of a known device. -/
def updateKnown (s : Reg) : Reg :=
  let original := if m.isG then 0
    else if s.locationId = s.storedLocationId then s.locationId else s.originalLocationId
  let flags := if s.storedFlags &&& deviceFlagDeviceLocked ≠ 0 then
      s.deviceFlags ||| deviceFlagDeviceLocked
    else s.deviceFlags ^^^ (s.deviceFlags &&& deviceFlagDeviceLocked)
  { s with originalLocationId := original, deviceFlags := flags }.write
    (.updateDevice original flags)

def resultCode (s : Reg) : ResultCode :=
  if s.deviceFlags &&& deviceFlagSleepModeEnabled ≠ 0 then
    if dao.lastCalcfgCommand = calcfgCmdEnterCfgMode then .cfgModeRequested
    else if dao.lastCalcfgCommand = calcfgCmdRestartDevice then .restartRequested
    else if dao.lastCalcfgCommand = calcfgCmdIdentifyDevice then .identifyRequested
    else .true
  else .true

/-- The end of `register_device`, after the commit. -/
def afterCommit (s : Reg) : Reg :=
  if s.deviceFlags &&& deviceFlagDeviceLocked ≠ 0 ∧
      (s.newDevice ∨ s.storedFlags &&& deviceFlagDeviceLocked ≠ 0) then
    s.sendResult m dao .deviceLocked
  else
    ((s.emit .onRegistrationSuccess).sendResult m dao (s.resultCode dao)).emit
      .afterRegistrationSuccess

/-- The part of `register_device` inside the transaction, once there is a device. -/
def registerChannels (s : Reg) : Reg :=
  if s.deviceEnabled = false then s.sendResult m dao .deviceDisabled
  else if s.locationEnabled = false then s.sendResult m dao .locationDisabled
  else if s.locationId = 0 ∨
      (s.locationId ≠ s.storedLocationId ∧ s.locationId ≠ s.originalLocationId) then
    s.sendResult m dao .locationConflict
  else
    match s.addChannels m dao with
    | (false, s) => s
    | (true, s) =>
      if s.newDevice then (s.write .onNewDevice).commit.afterCommit m dao
      else if dao.updateDevice = false then
        (s.updateKnown m).sendResult m dao .temporarilyUnavailable
      else (s.updateKnown m).commit.afterCommit m dao

/-- What `get_device_variables` stores for a known device. -/
def setVariables (s : Reg) : Reg :=
  match dao.getDeviceVariables with
  | some (enabled, original, location, locationEnabled, flags, blocked) =>
    if dao.getDeviceId ≠ 0 then { s with
      deviceEnabled := enabled
      originalLocationId := original
      storedLocationId := location
      locationEnabled := locationEnabled
      storedFlags := flags
      channelAdditionBlocked := blocked }
    else s
  | none => s

def defaultLocation (s : Reg) : Reg :=
  if s.locationId = 0 then { s with locationId := s.storedLocationId } else s

/-- `register_device` after `device_auth`. -/
def registerAuthorised (s : Reg) : Reg :=
  let s := { s with deviceId := dao.getDeviceId }
  if dao.getDeviceId ≠ 0 ∧ dao.getDeviceVariables.isNone then
    s.sendResult m dao .temporarilyUnavailable
  else
    let s := (s.setVariables dao).defaultLocation.startTransaction
    if dao.getDeviceId = 0 then
      match s.addDevice m dao with
      | (false, s) => s
      | (true, s) => s.registerChannels m dao
    else s.registerChannels m dao

/-- What `register_device` sets at its start; the other members are as an earlier call left
them. The connection is new. -/
def enter (s : Reg) : Reg :=
  let s := { s with
    userId := 0
    locationEnabled := false
    newDevice := false
    deviceEnabled := true
    channelAdded := false
    storedLocationId := 0
    originalLocationId := 0
    storedFlags := 0
    shouldRollback := true
    db := ⟨false, false, [], []⟩
    trace := [] }
  match m.credentials with
  | .c locationId => { s with locationId := locationId }
  | .g _ flags => { s with deviceFlags := flags }

def registerDevice (s : Reg) : Reg :=
  let s := s.enter m
  if isValid m.guid = false then s.sendResult m dao .guidError
  else
    if m.isValidAuthkey = false then s.sendResult m dao .authkeyError
    else if dao.connect = false then s.sendResult m dao .temporarilyUnavailable
    else
      match s.connect.deviceAuth m dao with
      | (false, s) => s
      | (true, s) => s.registerAuthorised m dao

end

end Reg

end Device
