import SuplaCore.Srpc.Getdata

/-!
# Sending structures of variable size (`srpc_*_async_*`)

A structure that ends in an array is sent up to the last element in use. Most senders check the
numbers of elements before they compute the size of the message; some only compare the size, a
`_supla_int_t`, with the size of the structure.
-/

namespace Srpc

open Proto

/-- One of the functions that send a structure with an array at its end. -/
structure Encoder where
  call : Call
  /-- The structure it gets. -/
  struct : VarStruct
  /-- The fields that count the elements, each with the maximum that is taken from the size of the
  structure. -/
  counts : List (Nat × Nat)
  /-- `sizeof` an element. -/
  item : Nat := 1
  /-- Other fields that are checked, each with its maximum. -/
  others : List (Nat × Nat) := []
  /-- The fields are checked against their maxima, and this is the least value they may have. -/
  least : Option Nat := some 0
  /-- The size of the message is compared with the size of the structure. -/
  late : Bool := false

namespace Encoder

variable (e : Encoder) (s : List UInt8)

/-- The number of elements in use, as the structure says. -/
def used : Int := (e.counts.map fun c => e.struct.field s c.1).sum

/-- The size of the message before it is made a 32-bit number. -/
def fullSize : Int :=
  e.struct.sizeof - e.item * (e.counts.map Prod.snd).sum + e.item * e.used s

/-- `size`. -/
def size : Nat := (e.fullSize s % 2 ^ 32).toNat

/-- The checks of the fields. -/
def InLimits : Prop :=
  ∀ least ∈ e.least, ∀ c ∈ e.counts ++ e.others,
    least ≤ e.struct.field s c.1 ∧ e.struct.field s c.1 ≤ c.2

/-- The check of the size; `sizeof` is a `size_t`, and so is the size that is compared with it. -/
def SizeFits : Prop := e.late = true → toInt32 (e.size s) % 2 ^ 64 ≤ e.struct.sizeof

instance : Decidable (e.InLimits s) := inferInstanceAs (Decidable (∀ least ∈ e.least, _))

instance : Decidable (e.SizeFits s) := inferInstanceAs (Decidable (_ → _))

/-- What the function does; `m` is the answer of `malloc` in the queue. -/
def send (m : Option Nat) (srpc : Tsrpc) : UInt32 × Tsrpc :=
  if e.InLimits s ∧ e.SizeFits s then
    if srpcCallAllowed srpc.proto e.call.id then
      srpcAsyncCall m srpc ⟨e.call.id, some s, .ofNat (e.size s), none⟩
    else (0, srpc)
  else (0, srpc)

end Encoder

open VarStruct

/-! ## Devices and clients -/

def srpcSdcAsyncGetUserLocaltimeResult : Encoder where
  call := .dcsGetUserLocaltimeResult
  struct := tsdcUserLocalTimeResult
  counts := [(7, 51)]

/-- `srpc_dcs_async_set_caption`. -/
def srpcDcsAsyncSetCaption (call : Call) : Encoder where
  call := call
  struct := tdcsSetCaption
  counts := [(1, 401)]
  least := none
  late := true

def srpcDcsAsyncSetChannelCaption : Encoder := srpcDcsAsyncSetCaption .dcsSetChannelCaption

def srpcCsAsyncSetChannelGroupCaption : Encoder := srpcDcsAsyncSetCaption .csSetChannelGroupCaption

def srpcCsAsyncSetLocationCaption : Encoder := srpcDcsAsyncSetCaption .csSetLocationCaption

def srpcCsAsyncSetSceneCaption : Encoder := srpcDcsAsyncSetCaption .csSetSceneCaption

/-- `srpc_sc_async_set_caption_result`. -/
def srpcScAsyncSetCaptionResult (call : Call) : Encoder where
  call := call
  struct := tscdSetCaptionResult
  counts := [(2, 401)]
  least := none
  late := true

def srpcScdAsyncSetChannelCaptionResult : Encoder :=
  srpcScAsyncSetCaptionResult .scdSetChannelCaptionResult

def srpcScAsyncSetChannelGroupCaptionResult : Encoder :=
  srpcScAsyncSetCaptionResult .scSetChannelGroupCaptionResult

def srpcScAsyncSetLocationCaptionResult : Encoder :=
  srpcScAsyncSetCaptionResult .scSetLocationCaptionResult

def srpcScAsyncSetSceneCaptionResult : Encoder :=
  srpcScAsyncSetCaptionResult .scSetSceneCaptionResult

/-! ## Devices -/

/-- `srpc_ds_async_registerdevice`. -/
def srpcDsAsyncRegisterdeviceA : Encoder where
  call := .dsRegisterDevice
  struct := tdsSuplaRegisterDevice
  counts := [(5, 128)]
  item := 13
  least := none
  late := true

def srpcDsAsyncRegisterdeviceB : Encoder where
  call := .dsRegisterDeviceB
  struct := tdsSuplaRegisterDeviceB
  counts := [(5, 128)]
  item := 21
  least := none
  late := true

def srpcDsAsyncRegisterdeviceC : Encoder where
  call := .dsRegisterDeviceC
  struct := tdsSuplaRegisterDeviceC
  counts := [(6, 128)]
  item := 21
  least := none
  late := true

def srpcDsAsyncRegisterdeviceD : Encoder where
  call := .dsRegisterDeviceD
  struct := tdsSuplaRegisterDeviceD
  counts := [(6, 128)]
  item := 21
  least := none
  late := true

def srpcDsAsyncRegisterdeviceE : Encoder where
  call := .dsRegisterDeviceE
  struct := tdsSuplaRegisterDeviceE
  counts := [(9, 128)]
  item := 25
  least := none
  late := true

def srpcDsAsyncRegisterdeviceF : Encoder where
  call := .dsRegisterDeviceF
  struct := tdsSuplaRegisterDeviceF
  counts := [(9, 128)]
  item := 35
  least := none
  late := true

def srpcDsAsyncRegisterdeviceG : Encoder where
  call := .dsRegisterDeviceG
  struct := tdsSuplaRegisterDeviceG
  counts := [(9, 128)]
  item := 36
  least := none
  late := true

def srpcSdAsyncRegisterdeviceResultB : Encoder where
  call := .sdRegisterDeviceResultB
  struct := tsdSuplaRegisterDeviceResultB
  counts := [(4, 256)]

/-- The structure is the number of the channel and the value that the function gets. -/
def srpcDsAsyncChannelExtendedvalueChanged : Encoder where
  call := .dsDeviceChannelExtendedvalueChanged
  struct := tdsSuplaDeviceChannelExtendedValue
  counts := [(2, 1024)]
  least := some 1

def srpcSdAsyncDeviceCalcfgRequest : Encoder where
  call := .sdDeviceCalcfgRequest
  struct := tsdDeviceCalCfgRequest
  counts := [(5, 128)]

def srpcDsAsyncDeviceCalcfgResult : Encoder where
  call := .dsDeviceCalcfgResult
  struct := tdsDeviceCalCfgResult
  counts := [(4, 128)]

def srpcSdAsyncGetChannelFunctionsResult : Encoder where
  call := .sdGetChannelFunctionsResult
  struct := tsdChannelFunctions
  counts := [(0, 128)]
  item := 4
  late := true

def srpcSdAsyncGetChannelConfigResult : Encoder where
  call := .sdGetChannelConfigResult
  struct := tsdChannelConfig
  counts := [(3, 512)]

def srpcSdAsyncSetChannelConfigRequest : Encoder where
  call := .sdSetChannelConfig
  struct := tsdsSetChannelConfig
  counts := [(3, 512)]

def srpcDsAsyncSetChannelConfigRequest : Encoder where
  call := .dsSetChannelConfig
  struct := tsdsSetChannelConfig
  counts := [(3, 512)]

def srpcSdAsyncSetDeviceConfigRequest : Encoder where
  call := .sdSetDeviceConfig
  struct := tsdsSetDeviceConfig
  counts := [(4, 512)]

def srpcDsAsyncSetDeviceConfigRequest : Encoder where
  call := .dsSetDeviceConfig
  struct := tsdsSetDeviceConfig
  counts := [(4, 512)]

/-- The title and the body lie in one array. -/
def srpcDsAsyncSendPushNotification : Encoder where
  call := .dsSendPushNotification
  struct := tdsPushNotification
  counts := [(3, 101), (4, 256)]

/-! ## Clients -/

def srpcScAsyncLocationUpdate : Encoder where
  call := .scLocationUpdate
  struct := tscSuplaLocation
  counts := [(2, 401)]
  least := none
  late := true

def srpcScAsyncChannelgroupRelationPackUpdate : Encoder where
  call := .scChannelgroupRelationPackUpdate
  struct := tscSuplaChannelGroupRelationPack
  counts := [(0, 100)]
  item := 9
  least := some 1

def srpcScAsyncChannelRelationPackUpdate : Encoder where
  call := .scChannelRelationPackUpdate
  struct := tscSuplaChannelRelationPack
  counts := [(0, 100)]
  item := 11
  least := some 1

def srpcScAsyncChannelvaluePackUpdate : Encoder where
  call := .scChannelvaluePackUpdate
  struct := tscSuplaChannelValuePack
  counts := [(0, 20)]
  item := 22
  least := some 1

def srpcScAsyncChannelvaluePackUpdateB : Encoder where
  call := .scChannelvaluePackUpdateB
  struct := tscSuplaChannelValuePackB
  counts := [(0, 20)]
  item := 23
  least := some 1

/-- `pack_size` counts bytes; `count` is the number of values in them. -/
def srpcScAsyncChannelextendedvaluePackUpdate : Encoder where
  call := .scChannelextendedvaluePackUpdate
  struct := tscSuplaChannelExtendedValuePack
  counts := [(2, 10190)]
  others := [(0, 5)]
  least := some 1

def srpcScAsyncChannelStatePackUpdate : Encoder where
  call := .scChannelStatePackUpdate
  struct := tscSuplaChannelStatePack
  counts := [(0, 20)]
  item := 50
  least := some 1

def srpcScAsyncEvent : Encoder where
  call := .scEvent
  struct := tscSuplaEvent
  counts := [(4, 201)]
  least := none
  late := true

def srpcCsAsyncOauthTokenRequestResult : Encoder where
  call := .scOauthTokenRequestResult
  struct := tscOAuthTokenRequestResult
  counts := [(2, 256)]

def srpcCsAsyncDeviceCalcfgRequest : Encoder where
  call := .csDeviceCalcfgRequest
  struct := tcsDeviceCalCfgRequest
  counts := [(3, 128)]

def srpcCsAsyncDeviceCalcfgRequestB : Encoder where
  call := .csDeviceCalcfgRequestB
  struct := tcsDeviceCalCfgRequestB
  counts := [(4, 128)]

def srpcScAsyncDeviceCalcfgResult : Encoder where
  call := .scDeviceCalcfgResult
  struct := tscDeviceCalCfgResult
  counts := [(3, 128)]

def srpcScAsyncChannelBasicCfgResult : Encoder where
  call := .scChannelBasicCfgResult
  struct := tscChannelBasicCfg
  counts := [(12, 401)]
  least := none
  late := true

def srpcCsAsyncExecuteAction : Encoder where
  call := .csExecuteAction
  struct := tcsAction
  counts := [(3, 500)]
  least := none
  late := true

def srpcCsAsyncExecuteActionWithAuth : Encoder where
  call := .csExecuteActionWithAuth
  struct := tcsActionWithAuth
  counts := [(4, 500)]
  least := none
  late := true

def srpcScAsyncGetChannelValueResult : Encoder where
  call := .scGetChannelValueResult
  struct := tscGetChannelValueResult
  counts := [(5, 1024)]
  least := none
  late := true

def srpcCsAsyncRegisterPnClientToken : Encoder where
  call := .csRegisterPnClientToken
  struct := tcsRegisterPnClientToken
  counts := [(6, 256)]

def srpcScAsyncChannelConfigUpdateOrResult : Encoder where
  call := .scChannelConfigUpdateOrResult
  struct := tscChannelConfigUpdateOrResult
  counts := [(4, 512)]

def srpcCsAsyncSetChannelConfigRequest : Encoder where
  call := .csSetChannelConfig
  struct := tscsChannelConfig
  counts := [(3, 512)]

def srpcScAsyncDeviceConfigUpdateOrResult : Encoder where
  call := .scDeviceConfigUpdateOrResult
  struct := tscDeviceConfigUpdateOrResult
  counts := [(6, 512)]

def encoders : List Encoder :=
  [srpcSdcAsyncGetUserLocaltimeResult, srpcDcsAsyncSetChannelCaption,
   srpcCsAsyncSetChannelGroupCaption, srpcCsAsyncSetLocationCaption, srpcCsAsyncSetSceneCaption,
   srpcScdAsyncSetChannelCaptionResult, srpcScAsyncSetChannelGroupCaptionResult,
   srpcScAsyncSetLocationCaptionResult, srpcScAsyncSetSceneCaptionResult,
   srpcDsAsyncRegisterdeviceA, srpcDsAsyncRegisterdeviceB, srpcDsAsyncRegisterdeviceC,
   srpcDsAsyncRegisterdeviceD, srpcDsAsyncRegisterdeviceE, srpcDsAsyncRegisterdeviceF,
   srpcDsAsyncRegisterdeviceG, srpcSdAsyncRegisterdeviceResultB,
   srpcDsAsyncChannelExtendedvalueChanged, srpcSdAsyncDeviceCalcfgRequest,
   srpcDsAsyncDeviceCalcfgResult, srpcSdAsyncGetChannelFunctionsResult,
   srpcSdAsyncGetChannelConfigResult, srpcSdAsyncSetChannelConfigRequest,
   srpcDsAsyncSetChannelConfigRequest, srpcSdAsyncSetDeviceConfigRequest,
   srpcDsAsyncSetDeviceConfigRequest, srpcDsAsyncSendPushNotification, srpcScAsyncLocationUpdate,
   srpcScAsyncChannelgroupRelationPackUpdate, srpcScAsyncChannelRelationPackUpdate,
   srpcScAsyncChannelvaluePackUpdate, srpcScAsyncChannelvaluePackUpdateB,
   srpcScAsyncChannelextendedvaluePackUpdate, srpcScAsyncChannelStatePackUpdate, srpcScAsyncEvent,
   srpcCsAsyncOauthTokenRequestResult, srpcCsAsyncDeviceCalcfgRequest,
   srpcCsAsyncDeviceCalcfgRequestB, srpcScAsyncDeviceCalcfgResult,
   srpcScAsyncChannelBasicCfgResult, srpcCsAsyncExecuteAction, srpcCsAsyncExecuteActionWithAuth,
   srpcScAsyncGetChannelValueResult, srpcCsAsyncRegisterPnClientToken,
   srpcScAsyncChannelConfigUpdateOrResult, srpcCsAsyncSetChannelConfigRequest,
   srpcScAsyncDeviceConfigUpdateOrResult]

end Srpc
