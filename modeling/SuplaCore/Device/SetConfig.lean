import SuplaCore.Device.JsonConfig
import SuplaCore.Lib.Sys

/-!
# Configurations in several parts

`supla_ch_set_device_config` (`supla-server/src/device/call_handler/set_device_config.cpp`) with
the store of its calls (`supla-server/src/srpc/multipart_call_store.cpp`, `multipart_call.cpp`,
`set_device_config_multipart_call.cpp`): the parts of a device's configuration are copied into a
call until one has `EndOfDataFlag`; then the call is taken from the store and its parts are set one
after another. Times are microseconds.

A pointer to a call in the store is its place there. Left out: what is sent to the device and to
the clients after the result.
-/

namespace Device.SetConfig

open Bytes Json Device.JsonConfig

/-! ## Parts -/

/-- `sizeof(TSDS_SetDeviceConfig) - SUPLA_DEVICE_CONFIG_MAXSIZE`. -/
def headerSize : Nat := 27

/-- `TSDS_SetDeviceConfig`, a packed structure. -/
structure SetDeviceConfig where
  bytes : List UInt8
  size : bytes.length = headerSize + deviceConfigMaxsize
  deriving DecidableEq

namespace SetDeviceConfig

def endOfDataFlag (p : SetDeviceConfig) : Nat := readLE p.bytes 0 1
def availableFields (p : SetDeviceConfig) : BitVec 64 := .ofNat 64 (readLE p.bytes 9 8)
def fields (p : SetDeviceConfig) : BitVec 64 := .ofNat 64 (readLE p.bytes 17 8)
def configSize (p : SetDeviceConfig) : Nat := readLE p.bytes 25 2
def config (p : SetDeviceConfig) : List UInt8 := p.bytes.drop headerSize

/-- `if (EndOfDataFlag)`. -/
def isLast (p : SetDeviceConfig) : Bool := p.endOfDataFlag != 0

/-- What `set_config` reads. -/
def chunk (p : SetDeviceConfig) : Chunk := ⟨p.fields, p.configSize, p.config⟩

theorem length_setConfigSize (bytes : List UInt8) (n : Nat)
    (h : bytes.length = headerSize + deviceConfigMaxsize) :
    (memcpy bytes 25 (toLE 2 n) 2).length = headerSize + deviceConfigMaxsize := by
  rw [length_memcpy _ (by rw [h]; decide), h]

/-- `ConfigSize = SUPLA_DEVICE_CONFIG_MAXSIZE` where it is greater. -/
def clamp (p : SetDeviceConfig) : SetDeviceConfig :=
  if p.configSize > deviceConfigMaxsize then
    ⟨memcpy p.bytes 25 (toLE 2 deviceConfigMaxsize) 2, length_setConfigSize _ _ p.size⟩
  else p

end SetDeviceConfig

/-! ## Calls -/

def setDeviceConfigCallId : Nat := 684

/-- `supla_multipart_call`. -/
structure MultipartCall where
  callId : Nat
  expiresAt : Nat
  parts : List (List UInt8)
  deriving DecidableEq

namespace MultipartCall

/-- `supla_multipart_call(call_id, expire_in_msec)`. -/
def new (callId expireInMsec now : Nat) : MultipartCall := ⟨callId, now + expireInMsec * 1000, []⟩

def isExpired (now : Nat) (call : MultipartCall) : Bool := now ≥ call.expiresAt

def partPush (data : List UInt8) (call : MultipartCall) : MultipartCall :=
  if data = [] then call else { call with parts := call.parts ++ [data] }

end MultipartCall

/-- `supla_set_device_multipart_call::part_push`. -/
def partPush (p : SetDeviceConfig) (call : MultipartCall) : MultipartCall :=
  let dataSize := headerSize + p.configSize
  let dataSize := if dataSize > headerSize + deviceConfigMaxsize then
    headerSize + deviceConfigMaxsize else dataSize
  call.partPush (p.bytes.take dataSize)

theorem length_zeroed {data : List UInt8} (h : data.length ≤ headerSize + deviceConfigMaxsize) :
    (memcpy (List.replicate (headerSize + deviceConfigMaxsize) 0) 0 data data.length).length =
      headerSize + deviceConfigMaxsize := by
  rw [length_memcpy _ (by rw [List.length_replicate]; omega), List.length_replicate]

/-- `supla_set_device_multipart_call::part_pop` of a block. -/
def partPop (data : List UInt8) : Option SetDeviceConfig :=
  if h : headerSize ≤ data.length ∧ data.length ≤ headerSize + deviceConfigMaxsize then
    some (SetDeviceConfig.clamp ⟨memcpy (List.replicate _ 0) 0 data data.length,
      length_zeroed h.2⟩)
  else none

/-! ## The store -/

/-- `supla_multipart_call_store::get`. -/
def get (callId now : Nat) (calls : List MultipartCall) : Option Nat × List MultipartCall :=
  match calls.findIdx? fun call => call.callId == callId with
  | none => (none, calls)
  | some i =>
    if (calls[i]?).any (·.isExpired now) then (none, calls.eraseIdx i) else (some i, calls)

def release (callId : Nat) (calls : List MultipartCall) : List MultipartCall :=
  calls.eraseP fun call => call.callId == callId

/-- `add`, with the place of the call. -/
def add (call : MultipartCall) (calls : List MultipartCall) : Nat × List MultipartCall :=
  let calls := release call.callId calls
  (calls.length, calls ++ [call])

/-! ## `leave_only_thise_fields` -/

variable {N : Doubles}

def removeField (c : Config N) (f : Field) : Config N :=
  if f.inHomeScreen then { c with user := c.user.modify homeScreen (·.erase f.name) }
  else { c with user := c.user.erase f.name }

def removeEmptySubRoots (c : Config N) : Config N :=
  Field.all.foldl (fun c f =>
    if f.inHomeScreen ∧ (c.root f).any (·.children.isEmpty) = true then
      { c with user := c.user.erase homeScreen }
    else c) c

def leaveOnlyThiseFields (fields : BitVec 64) (c : Config N) : Config N :=
  let c := Field.all.foldl (fun c f => if has fields f then c else removeField c f) c
  let c := if has fields .homeScreenContent then c
    else { c with properties := c.properties.erase contentAvailable }
  removeEmptySubRoots c

/-! ## The handler -/

/-- The arguments of `set_device_config`. -/
structure Stored (N : Doubles) where
  config : Config N
  availableFields : BitVec 16

/-- The loop of `handle_multipart_call`; `fields` and `available_fields` have 16 bits. -/
def popAll : List (List UInt8) → Config N → BitVec 16 → BitVec 16 → Option (Stored N)
  | [], _, _, _ => none
  | data :: parts, c, fields, available =>
    match partPop data with
    | none => none
    | some p =>
      let c := setConfig c p.chunk
      let fields := fields ||| p.fields.setWidth 16
      let available := available ||| p.availableFields.setWidth 16
      if p.isLast then some ⟨leaveOnlyThiseFields (fields.setWidth 64) c, available⟩
      else popAll parts c fields available

/-- What a part brings about: the call of `set_device_config` and the results sent to the device,
which say whether it was successful. -/
structure Reaction (N : Doubles) where
  part : SetDeviceConfig
  stored : Option (Stored N)
  results : List Bool

/-- `handle_multipart_call`; `saved` is what `set_device_config` answers. -/
def handleMultipartCall (p : SetDeviceConfig) (call : MultipartCall) (saved : Bool) : Reaction N :=
  let stored := popAll call.parts .empty 0 0
  ⟨p, stored, [stored.isSome && saved]⟩

/-- What `handle_call` does with the store: the call that is complete, and the store. -/
def access (now : Nat) (p : SetDeviceConfig) (calls : List MultipartCall) :
    Option MultipartCall × List MultipartCall :=
  let found := get setDeviceConfigCallId now calls
  let (i, calls) :=
    match found.1 with
    | some i => (i, found.2)
    | none => add (.new setDeviceConfigCallId 3000 now) found.2
  let calls := calls.modify i (partPush p)
  if p.isLast then (calls[i]?, calls.eraseIdx i) else (none, calls)

/-- The store of a device and what its parts have brought about, newest first. -/
structure Handler (N : Doubles) where
  calls : List MultipartCall
  log : List (Reaction N)

/-- `handle_call`. -/
def handleCall (now : Nat) (p : SetDeviceConfig) (saved : Bool) (s : Handler N) : Handler N :=
  match access now p s.calls with
  | (none, calls) => ⟨calls, ⟨p, none, []⟩ :: s.log⟩
  | (some call, calls) => ⟨calls, handleMultipartCall p call saved :: s.log⟩

/-- A part arrives. -/
structure Arrival where
  now : Nat
  part : SetDeviceConfig
  saved : Bool

/-- The parts of one device. -/
def handler (N : Doubles) : Sys.Machine (Handler N) Arrival where
  init s := s.calls = [] ∧ s.log = []
  step s a := some (handleCall a.now a.part a.saved s)

end Device.SetConfig
