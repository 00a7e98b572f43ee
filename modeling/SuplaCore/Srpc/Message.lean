import SuplaCore.Srpc.Call

/-!
# Messages (`proto.h`, `srpc_getdata`)

The structures of the messages by the sizes of their packed fields, and for every call what
`srpc_getdata` expects and how it allocates the structure (`Call.decode`).
-/

namespace Srpc

/-! ## Structures that end in an array of which only a part travels -/

structure VarStruct where
  /-- Sizes of the fields before the array. -/
  header : List Nat
  /-- Size of an element of the array. -/
  item : Nat
  /-- Declared number of elements. -/
  max : Nat
  /-- Positions of the fields whose sum is the number of elements in use. -/
  count : List Nat
  /-- Those fields are signed. -/
  signed : Bool
deriving DecidableEq

namespace VarStruct

def headerSize (t : VarStruct) : Nat := t.header.sum

def sizeof (t : VarStruct) : Nat := t.headerSize + t.item * t.max

-- year, month, day, dayOfWeek, hour, min, sec, timezoneSize; timezone
def tsdcUserLocalTimeResult : VarStruct :=
  { header := [2, 1, 1, 1, 1, 1, 1, 4], item := 1, max := 51, count := [7], signed := false }

-- ChannelNumber/ID, ResultCode, CaptionSize; Caption
def tscdSetCaptionResult : VarStruct :=
  { header := [4, 1, 4], item := 1, max := 401, count := [2], signed := false }

-- LocationID, LocationPWD, GUID, Name, SoftVer, channel_count; channels
def tdsSuplaRegisterDevice : VarStruct :=
  { header := [4, 33, 16, 201, 21, 1], item := 13, max := 128, count := [5], signed := false }

-- LocationID, LocationPWD, GUID, Name, SoftVer, channel_count; channels
def tdsSuplaRegisterDeviceB : VarStruct :=
  { header := [4, 33, 16, 201, 21, 1], item := 21, max := 128, count := [5], signed := false }

-- LocationID, LocationPWD, GUID, Name, SoftVer, ServerName, channel_count; channels
def tdsSuplaRegisterDeviceC : VarStruct :=
  { header := [4, 33, 16, 201, 21, 65, 1], item := 21, max := 128, count := [6], signed := false }

-- Email, AuthKey, GUID, Name, SoftVer, ServerName, channel_count; channels
def tdsSuplaRegisterDeviceD : VarStruct :=
  { header := [256, 16, 16, 201, 21, 65, 1],
    item := 21, max := 128, count := [6], signed := false }

-- Email, AuthKey, GUID, Name, SoftVer, ServerName, Flags, ManufacturerID, ProductID,
-- channel_count; channels
def tdsSuplaRegisterDeviceE : VarStruct :=
  { header := [256, 16, 16, 201, 21, 65, 4, 2, 2, 1],
    item := 25, max := 128, count := [9], signed := false }

-- Email, AuthKey, GUID, Name, SoftVer, ServerName, Flags, ManufacturerID, ProductID,
-- channel_count; channels
def tdsSuplaRegisterDeviceF : VarStruct :=
  { header := [256, 16, 16, 201, 21, 65, 4, 2, 2, 1],
    item := 35, max := 128, count := [9], signed := false }

-- Email, AuthKey, GUID, Name, SoftVer, ServerName, Flags, ManufacturerID, ProductID,
-- channel_count; channels
def tdsSuplaRegisterDeviceG : VarStruct :=
  { header := [256, 16, 16, 201, 21, 65, 4, 2, 2, 1],
    item := 36, max := 128, count := [9], signed := false }

-- result_code, activity_timeout, version, version_min, channel_report_size; channel_report
def tsdSuplaRegisterDeviceResultB : VarStruct :=
  { header := [4, 1, 1, 1, 2], item := 1, max := 256, count := [4], signed := false }

-- ChannelNumber, value.type, value.size; value.value
def tdsSuplaDeviceChannelExtendedValue : VarStruct :=
  { header := [1, 1, 4], item := 1, max := 1024, count := [2], signed := false }

-- SenderID, ChannelNumber, Command, SuperUserAuthorized, DataType, DataSize; Data
def tsdDeviceCalCfgRequest : VarStruct :=
  { header := [4, 4, 4, 1, 4, 4], item := 1, max := 128, count := [5], signed := false }

-- ReceiverID, ChannelNumber, Command, Result, DataSize; Data
def tdsDeviceCalCfgResult : VarStruct :=
  { header := [4, 4, 4, 4, 4], item := 1, max := 128, count := [4], signed := false }

-- ChannelCount; Functions
def tsdChannelFunctions : VarStruct :=
  { header := [1], item := 4, max := 128, count := [0], signed := false }

-- ChannelNumber, Func, ConfigType, ConfigSize; Config
def tsdChannelConfig : VarStruct :=
  { header := [1, 4, 1, 2], item := 1, max := 512, count := [3], signed := false }

-- Context, Reserved, SoundId, TitleSize, BodySize; TitleAndBody
def tdsPushNotification : VarStruct :=
  { header := [2, 32, 4, 2, 2], item := 1, max := 357, count := [3, 4], signed := false }

-- ChannelNumber, Func, ConfigType, ConfigSize; Config
def tsdsSetChannelConfig : VarStruct :=
  { header := [1, 4, 1, 2], item := 1, max := 512, count := [3], signed := false }

-- EndOfDataFlag, zero, AvailableFields, Fields, ConfigSize; Config
def tsdsSetDeviceConfig : VarStruct :=
  { header := [1, 8, 8, 8, 2], item := 1, max := 512, count := [4], signed := false }

-- EOL, Id, CaptionSize; Caption
def tscSuplaLocation : VarStruct :=
  { header := [1, 4, 4], item := 1, max := 401, count := [2], signed := false }

-- count, total_left; items
def tscSuplaChannelGroupRelationPack : VarStruct :=
  { header := [4, 4], item := 9, max := 100, count := [0], signed := true }

-- count, total_left; items
def tscSuplaChannelRelationPack : VarStruct :=
  { header := [4, 4], item := 11, max := 100, count := [0], signed := true }

-- count, total_left; items
def tscSuplaChannelValuePack : VarStruct :=
  { header := [4, 4], item := 22, max := 20, count := [0], signed := true }

-- count, total_left; items
def tscSuplaChannelValuePackB : VarStruct :=
  { header := [4, 4], item := 23, max := 20, count := [0], signed := true }

-- count, total_left, pack_size; pack
def tscSuplaChannelExtendedValuePack : VarStruct :=
  { header := [4, 4, 4], item := 1, max := 10190, count := [2], signed := false }

-- count, total_left; items
def tscSuplaChannelStatePack : VarStruct :=
  { header := [4, 4], item := 50, max := 20, count := [0], signed := true }

-- Event, ChannelID, DurationMS, SenderID, SenderNameSize; SenderName
def tscSuplaEvent : VarStruct :=
  { header := [4, 4, 4, 4, 4], item := 1, max := 201, count := [4], signed := false }

-- ResultCode, Token.ExpiresIn, Token.TokenSize; Token.Token
def tscOAuthTokenRequestResult : VarStruct :=
  { header := [1, 4, 4], item := 1, max := 256, count := [2], signed := false }

-- ChannelID, Command, DataType, DataSize; Data
def tcsDeviceCalCfgRequest : VarStruct :=
  { header := [4, 4, 4, 4], item := 1, max := 128, count := [3], signed := false }

-- Id, Target, Command, DataType, DataSize; Data
def tcsDeviceCalCfgRequestB : VarStruct :=
  { header := [4, 1, 4, 4, 4], item := 1, max := 128, count := [4], signed := false }

-- ChannelID, Command, Result, DataSize; Data
def tscDeviceCalCfgResult : VarStruct :=
  { header := [4, 4, 4, 4], item := 1, max := 128, count := [3], signed := false }

-- DeviceName, DeviceSoftVer, DeviceID, DeviceFlags, ManufacturerID, ProductID, ID, Number, Type,
-- Func, FuncList, ChannelFlags, CaptionSize; Caption
def tscChannelBasicCfg : VarStruct :=
  { header := [201, 21, 4, 4, 2, 2, 4, 1, 4, 4, 4, 4, 4],
    item := 1, max := 401, count := [12], signed := false }

-- ChannelNumber/ID, CaptionSize; Caption
def tdcsSetCaption : VarStruct :=
  { header := [4, 4], item := 1, max := 401, count := [1], signed := false }

-- ActionId, SubjectId, SubjectType, ParamSize; Param
def tcsAction : VarStruct :=
  { header := [4, 4, 1, 2], item := 1, max := 500, count := [3], signed := false }

-- Auth, Action.ActionId, Action.SubjectId, Action.SubjectType, Action.ParamSize; Action.Param
def tcsActionWithAuth : VarStruct :=
  { header := [390, 4, 4, 1, 2], item := 1, max := 500, count := [4], signed := false }

-- ResultCode, ChannelId, Function, Value, ExtendedValue.type, ExtendedValue.size;
-- ExtendedValue.value
def tscGetChannelValueResult : VarStruct :=
  { header := [1, 4, 4, 17, 1, 4], item := 1, max := 1024, count := [5], signed := false }

-- Auth, Token.DevelopmentEnv, Token.Platform, Token.AppId, Token.ProfileName,
-- Token.RealTokenSize, Token.TokenSize; Token.Token
def tcsRegisterPnClientToken : VarStruct :=
  { header := [390, 1, 4, 4, 51, 2, 2], item := 1, max := 256, count := [6], signed := false }

-- ChannelId, Func, ConfigType, ConfigSize; Config
def tscsChannelConfig : VarStruct :=
  { header := [4, 4, 1, 2], item := 1, max := 512, count := [3], signed := false }

-- Result, Config.ChannelId, Config.Func, Config.ConfigType, Config.ConfigSize; Config.Config
def tscChannelConfigUpdateOrResult : VarStruct :=
  { header := [1, 4, 4, 1, 2], item := 1, max := 512, count := [4], signed := false }

-- Result, Config.DeviceId, Config.EndOfDataFlag, Config.zero, Config.AvailableFields,
-- Config.Fields, Config.ConfigSize; Config.Config
def tscDeviceConfigUpdateOrResult : VarStruct :=
  { header := [1, 4, 1, 8, 8, 8, 2], item := 1, max := 512, count := [6], signed := false }

-- EOL, Id, LocationID, Func, online, value, CaptionSize; Caption
def tscSuplaChannel : VarStruct :=
  { header := [1, 4, 4, 4, 1, 16, 4], item := 1, max := 401, count := [6], signed := false }

-- EOL, Id, LocationID, Func, AltIcon, Flags, ProtocolVersion, online, value, CaptionSize;
-- Caption
def tscSuplaChannelB : VarStruct :=
  { header := [1, 4, 4, 4, 4, 4, 1, 1, 16, 4],
    item := 1, max := 401, count := [9], signed := false }

-- EOL, Id, DeviceID, LocationID, Type, Func, AltIcon, UserIcon, ManufacturerID, ProductID,
-- Flags, ProtocolVersion, online, value, CaptionSize; Caption
def tscSuplaChannelC : VarStruct :=
  { header := [1, 4, 4, 4, 4, 4, 4, 4, 2, 2, 4, 1, 1, 16, 4],
    item := 1, max := 401, count := [14], signed := false }

-- EOL, Id, DeviceID, LocationID, Type, Func, AltIcon, UserIcon, ManufacturerID, ProductID,
-- Flags, ProtocolVersion, online, value, CaptionSize; Caption
def tscSuplaChannelD : VarStruct :=
  { header := [1, 4, 4, 4, 4, 4, 4, 4, 2, 2, 4, 1, 1, 17, 4],
    item := 1, max := 401, count := [14], signed := false }

-- EOL, Id, DeviceID, LocationID, Type, Func, AltIcon, UserIcon, ManufacturerID, ProductID,
-- DefaultConfigCRC32, Flags, ProtocolVersion, online, value, CaptionSize; Caption
def tscSuplaChannelE : VarStruct :=
  { header := [1, 4, 4, 4, 4, 4, 4, 4, 2, 2, 4, 8, 1, 1, 17, 4],
    item := 1, max := 401, count := [15], signed := false }

-- EOL, Id, LocationID, Func, AltIcon, Flags, CaptionSize; Caption
def tscSuplaChannelGroup : VarStruct :=
  { header := [1, 4, 4, 4, 4, 4, 4], item := 1, max := 401, count := [6], signed := false }

-- EOL, Id, LocationID, Func, AltIcon, UserIcon, Flags, CaptionSize; Caption
def tscSuplaChannelGroupB : VarStruct :=
  { header := [1, 4, 4, 4, 4, 4, 4, 4], item := 1, max := 401, count := [7], signed := false }

-- EOL, Id, LocationId, AltIcon, UserIcon, CaptionSize; Caption
def tscSuplaScene : VarStruct :=
  { header := [1, 4, 4, 4, 4, 2], item := 1, max := 401, count := [5], signed := false }

-- EOL, SceneId, MillisecondsFromStart, MillisecondsLeft, InitiatorId, InitiatorNameSize;
-- InitiatorName
def tscSuplaSceneState : VarStruct :=
  { header := [1, 4, 4, 4, 4, 2], item := 1, max := 201, count := [5], signed := false }

end VarStruct

open VarStruct

/-! ## What `srpc_getdata` does with a call -/

inductive Alloc where
  | calloc
  | malloc
deriving DecidableEq

/-- The arguments of `srpc_getpack`: the structure of an item, which ends in its caption, and the
largest number of items. Every pack starts with `count` and `total_left`. -/
structure PackSpec where
  record : VarStruct
  maxCount : Nat

inductive Decode where
  /-- `call_with_no_data`. -/
  | noData
  /-- The data must be the structure with these fields. -/
  | exact (fields : List Nat) (alloc : Alloc)
  /-- `VALID_SIZE`. -/
  | sized (t : VarStruct) (alloc : Alloc)
  /-- `TDCS_SuplaPingServer` or its older form with 32-bit times. -/
  | ping
  /-- `TSD_FirmwareUpdate_UrlResult` or a single byte. -/
  | firmwareUrl
  | pack (p : PackSpec)

def Call.decode : Call → Decode
  | .dcsGetversion | .csGetNext | .dcsGetRegistrationEnabled => .noData
  | .sdcGetversionResult => .exact [1, 1, 21] .calloc
  | .sdcVersionerror => .exact [1, 1] .calloc
  | .dcsPingServer => .ping
  | .sdcPingServerResult => .exact [16] .calloc
  | .dcsSetActivityTimeout => .exact [1] .calloc
  | .sdcSetActivityTimeoutResult => .exact [1, 1, 1] .calloc
  | .sdcGetRegistrationEnabledResult => .exact [4, 4] .calloc
  | .dcsGetUserLocaltime => .noData
  | .dcsGetUserLocaltimeResult => .sized tsdcUserLocalTimeResult .calloc
  | .csdGetChannelState => .exact [4, 4] .calloc
  | .dscChannelStateResult =>
      .exact [4, 4, 4, 4, 4, 6, 1, 1, 1, 1, 1, 1, 4, 4, 1, 1, 2, 4, 1, 1] .calloc
  | .scdSetChannelCaptionResult => .sized tscdSetCaptionResult .calloc
  | .dsRegisterDevice => .sized tdsSuplaRegisterDevice .calloc
  | .dsRegisterDeviceB => .sized tdsSuplaRegisterDeviceB .calloc
  | .dsRegisterDeviceC => .sized tdsSuplaRegisterDeviceC .calloc
  | .dsRegisterDeviceD => .sized tdsSuplaRegisterDeviceD .calloc
  | .dsRegisterDeviceE => .sized tdsSuplaRegisterDeviceE .calloc
  | .dsRegisterDeviceF => .sized tdsSuplaRegisterDeviceF .calloc
  | .dsRegisterDeviceG => .sized tdsSuplaRegisterDeviceG .calloc
  | .sdRegisterDeviceResult => .exact [4, 1, 1, 1] .calloc
  | .sdRegisterDeviceResultB => .sized tsdSuplaRegisterDeviceResultB .calloc
  | .dsDeviceChannelValueChanged => .exact [1, 8] .calloc
  | .dsDeviceChannelValueChangedB => .exact [1, 1, 8] .calloc
  | .dsDeviceChannelValueChangedC => .exact [1, 1, 4, 8] .calloc
  | .dsDeviceChannelExtendedvalueChanged => .sized tdsSuplaDeviceChannelExtendedValue .calloc
  | .sdChannelSetValue => .exact [4, 1, 4, 8] .calloc
  | .sdChannelgroupSetValue => .exact [4, 4, 1, 1, 4, 8] .calloc
  | .dsChannelSetValueResult => .exact [1, 4, 1] .calloc
  | .dsGetFirmwareUpdateUrl => .exact [1, 4, 4, 4, 4] .calloc
  | .sdGetFirmwareUpdateUrlResult => .firmwareUrl
  | .sdDeviceCalcfgRequest => .sized tsdDeviceCalCfgRequest .calloc
  | .dsDeviceCalcfgResult => .sized tdsDeviceCalCfgResult .calloc
  | .dsGetChannelFunctions => .noData
  | .sdGetChannelFunctionsResult => .sized tsdChannelFunctions .calloc
  | .dsGetChannelConfig => .exact [1, 1, 4] .calloc
  | .sdGetChannelConfigResult => .sized tsdChannelConfig .calloc
  | .dsActiontrigger => .exact [1, 4, 10] .calloc
  | .dsRegisterPushNotification => .exact [1, 2, 8] .calloc
  | .dsSendPushNotification => .sized tdsPushNotification .calloc
  | .dsSetChannelConfig | .sdSetChannelConfig => .sized tsdsSetChannelConfig .malloc
  | .dsSetChannelConfigResult | .sdSetChannelConfigResult => .exact [1, 1, 1] .malloc
  | .sdChannelConfigFinished => .exact [1] .malloc
  | .dsSetDeviceConfig | .sdSetDeviceConfig => .sized tsdsSetDeviceConfig .malloc
  | .sdSetDeviceConfigResult | .dsSetDeviceConfigResult => .exact [1, 9] .malloc
  | .dsSetSubdeviceDetails => .exact [1, 201, 21, 51, 51] .malloc
  | .csRegisterClient => .exact [4, 33, 16, 201, 21] .calloc
  | .csRegisterClientB => .exact [4, 33, 16, 201, 21, 65] .calloc
  | .csRegisterClientC => .exact [256, 16, 16, 201, 21, 65] .calloc
  | .csRegisterClientD => .exact [256, 64, 16, 16, 201, 21, 65] .calloc
  | .scRegisterClientResult => .exact [4, 4, 4, 4, 1, 1, 1] .calloc
  | .scRegisterClientResultB => .exact [4, 4, 4, 4, 4, 4, 1, 1, 1] .calloc
  | .scRegisterClientResultC => .exact [4, 4, 4, 4, 4, 4, 1, 1, 1, 4] .calloc
  | .scRegisterClientResultD => .exact [4, 4, 2, 2, 2, 2, 4, 1, 1, 1, 4] .calloc
  | .scLocationUpdate => .sized tscSuplaLocation .calloc
  | .scLocationpackUpdate => .pack ⟨tscSuplaLocation, 20⟩
  | .scChannelpackUpdate => .pack ⟨tscSuplaChannel, 20⟩
  | .scChannelpackUpdateB => .pack ⟨tscSuplaChannelB, 20⟩
  | .scChannelpackUpdateC => .pack ⟨tscSuplaChannelC, 20⟩
  | .scChannelpackUpdateD => .pack ⟨tscSuplaChannelD, 20⟩
  | .scChannelpackUpdateE => .pack ⟨tscSuplaChannelE, 20⟩
  | .scChannelValueUpdate => .exact [1, 4, 1, 16] .calloc
  | .scChannelValueUpdateB => .exact [1, 4, 1, 17] .calloc
  | .scChannelgroupPackUpdate => .pack ⟨tscSuplaChannelGroup, 20⟩
  | .scChannelgroupPackUpdateB => .pack ⟨tscSuplaChannelGroupB, 20⟩
  | .scChannelgroupRelationPackUpdate => .sized tscSuplaChannelGroupRelationPack .calloc
  | .scChannelRelationPackUpdate => .sized tscSuplaChannelRelationPack .calloc
  | .scChannelvaluePackUpdate => .sized tscSuplaChannelValuePack .calloc
  | .scChannelvaluePackUpdateB => .sized tscSuplaChannelValuePackB .calloc
  | .scChannelextendedvaluePackUpdate => .sized tscSuplaChannelExtendedValuePack .calloc
  | .scChannelStatePackUpdate => .sized tscSuplaChannelStatePack .calloc
  | .csChannelSetValue => .exact [1, 8] .calloc
  | .csSetValue => .exact [4, 1, 8] .calloc
  | .csChannelSetValueB => .exact [4, 8] .calloc
  | .scEvent => .sized tscSuplaEvent .calloc
  | .csOauthTokenRequest => .noData
  | .scOauthTokenRequestResult => .sized tscOAuthTokenRequestResult .calloc
  | .csSuperuserAuthorizationRequest => .exact [256, 64] .calloc
  | .csGetSuperuserAuthorizationResult => .noData
  | .scSuperuserAuthorizationResult => .exact [4] .calloc
  | .csDeviceCalcfgRequest => .sized tcsDeviceCalCfgRequest .calloc
  | .csDeviceCalcfgRequestB => .sized tcsDeviceCalCfgRequestB .calloc
  | .scDeviceCalcfgResult => .sized tscDeviceCalCfgResult .calloc
  | .csGetChannelBasicCfg => .exact [4] .calloc
  | .scChannelBasicCfgResult => .sized tscChannelBasicCfg .calloc
  | .csSetChannelFunction => .exact [4, 4] .calloc
  | .scSetChannelFunctionResult => .exact [4, 4, 1] .calloc
  | .dcsSetChannelCaption | .csSetChannelGroupCaption | .csSetLocationCaption
  | .csSetSceneCaption => .sized tdcsSetCaption .calloc
  | .scSetChannelGroupCaptionResult | .scSetLocationCaptionResult | .scSetSceneCaptionResult =>
      .sized tscdSetCaptionResult .calloc
  | .csClientsReconnectRequest => .noData
  | .scClientsReconnectRequestResult => .exact [1] .calloc
  | .csSetRegistrationEnabled => .exact [4, 4] .calloc
  | .scSetRegistrationEnabledResult => .exact [1] .calloc
  | .csDeviceReconnectRequest => .exact [4] .calloc
  | .scDeviceReconnectRequestResult => .exact [4, 1] .calloc
  | .csTimerArm => .exact [4, 4, 1] .calloc
  | .scScenePackUpdate => .pack ⟨tscSuplaScene, 20⟩
  | .scSceneStatePackUpdate => .pack ⟨tscSuplaSceneState, 20⟩
  | .csExecuteAction => .sized tcsAction .calloc
  | .csExecuteActionWithAuth => .sized tcsActionWithAuth .calloc
  | .scActionExecutionResult => .exact [1, 4, 4, 4] .calloc
  | .csGetChannelValueWithAuth => .exact [390, 4] .calloc
  | .scGetChannelValueResult => .sized tscGetChannelValueResult .calloc
  | .csRegisterPnClientToken => .sized tcsRegisterPnClientToken .calloc
  | .scRegisterPnClientTokenResult => .exact [4] .calloc
  | .csSetChannelConfig => .sized tscsChannelConfig .malloc
  | .csGetChannelConfig => .exact [4, 1, 4] .calloc
  | .scChannelConfigUpdateOrResult => .sized tscChannelConfigUpdateOrResult .calloc
  | .csGetDeviceConfig => .exact [4, 8, 8] .malloc
  | .scDeviceConfigUpdateOrResult => .sized tscDeviceConfigUpdateOrResult .malloc

end Srpc
