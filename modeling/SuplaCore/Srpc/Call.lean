import SuplaCore.Proto.Buffer

/-!
# Calls (`proto.h`, `srpc.c`)

The remote calls with their numbers (`SUPLA_*_CALL_*`) and the protocol version each of them
needs (`srpc_call_min_version_required`). A call number that no call has is possible on the wire
(`Call.ofId` is partial).
-/

namespace Srpc

open Proto

/-- `SUPLA_<direction>_CALL_<name>`. -/
inductive Call where
  | dcsGetversion | sdcGetversionResult | sdcVersionerror | dcsPingServer | sdcPingServerResult
  | dsRegisterDevice | dsRegisterDeviceB | dsRegisterDeviceC | dsRegisterDeviceD
  | dsRegisterDeviceE | sdRegisterDeviceResult | sdRegisterDeviceResultB | dsRegisterDeviceF
  | dsRegisterDeviceG | csRegisterClient | csRegisterClientB | csRegisterClientC
  | csRegisterClientD | scRegisterClientResult | scRegisterClientResultB
  | scRegisterClientResultC | scRegisterClientResultD | dsDeviceChannelValueChanged
  | dsDeviceChannelValueChangedB | dsDeviceChannelValueChangedC
  | dsDeviceChannelExtendedvalueChanged | sdChannelSetValue | sdChannelgroupSetValue
  | dsChannelSetValueResult | scLocationUpdate | scLocationpackUpdate | scChannelpackUpdate
  | scChannelValueUpdate | scChannelValueUpdateB | csGetNext | scEvent | csChannelSetValue
  | csChannelSetValueB | dcsSetActivityTimeout | sdcSetActivityTimeoutResult
  | dsGetFirmwareUpdateUrl | sdGetFirmwareUpdateUrlResult | dcsGetRegistrationEnabled
  | sdcGetRegistrationEnabledResult | csOauthTokenRequest | scOauthTokenRequestResult
  | scChannelpackUpdateB | scChannelpackUpdateC | scChannelpackUpdateD | scChannelpackUpdateE
  | scChannelgroupPackUpdate | scChannelgroupPackUpdateB | scChannelgroupRelationPackUpdate
  | scChannelRelationPackUpdate | scChannelvaluePackUpdate | scChannelvaluePackUpdateB
  | scChannelextendedvaluePackUpdate | scChannelStatePackUpdate | csSetValue
  | csSuperuserAuthorizationRequest | csGetSuperuserAuthorizationResult
  | scSuperuserAuthorizationResult | csDeviceCalcfgRequest | csDeviceCalcfgRequestB
  | scDeviceCalcfgResult | sdDeviceCalcfgRequest | dsDeviceCalcfgResult | dcsGetUserLocaltime
  | dcsGetUserLocaltimeResult | csdGetChannelState | dscChannelStateResult | csGetChannelBasicCfg
  | scChannelBasicCfgResult | csSetChannelFunction | scSetChannelFunctionResult
  | csClientsReconnectRequest | scClientsReconnectRequestResult | csSetRegistrationEnabled
  | scSetRegistrationEnabledResult | csDeviceReconnectRequest | scDeviceReconnectRequestResult
  | dsGetChannelFunctions | sdGetChannelFunctionsResult | dcsSetChannelCaption
  | scdSetChannelCaptionResult | csSetChannelGroupCaption | scSetChannelGroupCaptionResult
  | csSetLocationCaption | scSetLocationCaptionResult | dsGetChannelConfig
  | sdGetChannelConfigResult | dsSetChannelConfig | sdSetChannelConfigResult | sdSetChannelConfig
  | dsSetChannelConfigResult | sdChannelConfigFinished | dsSetDeviceConfig
  | sdSetDeviceConfigResult | sdSetDeviceConfig | dsSetDeviceConfigResult | dsActiontrigger
  | csTimerArm | scScenePackUpdate | scSceneStatePackUpdate | csExecuteAction
  | csExecuteActionWithAuth | scActionExecutionResult | csGetChannelValueWithAuth
  | scGetChannelValueResult | csSetSceneCaption | scSetSceneCaptionResult
  | dsRegisterPushNotification | dsSendPushNotification | csRegisterPnClientToken
  | scRegisterPnClientTokenResult | csGetChannelConfig | scChannelConfigUpdateOrResult
  | csSetChannelConfig | csGetDeviceConfig | scDeviceConfigUpdateOrResult | dsSetSubdeviceDetails
deriving DecidableEq, Repr

namespace Call

def id : Call → UInt32
  | dcsGetversion => 10
  | sdcGetversionResult => 20
  | sdcVersionerror => 30
  | dcsPingServer => 40
  | sdcPingServerResult => 50
  | dsRegisterDevice => 60
  | dsRegisterDeviceB => 65
  | dsRegisterDeviceC => 67
  | dsRegisterDeviceD => 68
  | dsRegisterDeviceE => 69
  | sdRegisterDeviceResult => 70
  | sdRegisterDeviceResultB => 71
  | dsRegisterDeviceF => 75
  | dsRegisterDeviceG => 76
  | csRegisterClient => 80
  | csRegisterClientB => 85
  | csRegisterClientC => 86
  | csRegisterClientD => 87
  | scRegisterClientResult => 90
  | scRegisterClientResultB => 92
  | scRegisterClientResultC => 94
  | scRegisterClientResultD => 96
  | dsDeviceChannelValueChanged => 100
  | dsDeviceChannelValueChangedB => 102
  | dsDeviceChannelValueChangedC => 103
  | dsDeviceChannelExtendedvalueChanged => 105
  | sdChannelSetValue => 110
  | sdChannelgroupSetValue => 115
  | dsChannelSetValueResult => 120
  | scLocationUpdate => 130
  | scLocationpackUpdate => 140
  | scChannelpackUpdate => 160
  | scChannelValueUpdate => 170
  | scChannelValueUpdateB => 171
  | csGetNext => 180
  | scEvent => 190
  | csChannelSetValue => 200
  | csChannelSetValueB => 205
  | dcsSetActivityTimeout => 210
  | sdcSetActivityTimeoutResult => 220
  | dsGetFirmwareUpdateUrl => 300
  | sdGetFirmwareUpdateUrlResult => 310
  | dcsGetRegistrationEnabled => 320
  | sdcGetRegistrationEnabledResult => 330
  | csOauthTokenRequest => 340
  | scOauthTokenRequestResult => 350
  | scChannelpackUpdateB => 360
  | scChannelpackUpdateC => 361
  | scChannelpackUpdateD => 362
  | scChannelpackUpdateE => 363
  | scChannelgroupPackUpdate => 380
  | scChannelgroupPackUpdateB => 381
  | scChannelgroupRelationPackUpdate => 390
  | scChannelRelationPackUpdate => 395
  | scChannelvaluePackUpdate => 400
  | scChannelvaluePackUpdateB => 401
  | scChannelextendedvaluePackUpdate => 405
  | scChannelStatePackUpdate => 408
  | csSetValue => 410
  | csSuperuserAuthorizationRequest => 420
  | csGetSuperuserAuthorizationResult => 425
  | scSuperuserAuthorizationResult => 430
  | csDeviceCalcfgRequest => 440
  | csDeviceCalcfgRequestB => 445
  | scDeviceCalcfgResult => 450
  | sdDeviceCalcfgRequest => 460
  | dsDeviceCalcfgResult => 470
  | dcsGetUserLocaltime => 480
  | dcsGetUserLocaltimeResult => 490
  | csdGetChannelState => 500
  | dscChannelStateResult => 510
  | csGetChannelBasicCfg => 520
  | scChannelBasicCfgResult => 530
  | csSetChannelFunction => 540
  | scSetChannelFunctionResult => 550
  | csClientsReconnectRequest => 560
  | scClientsReconnectRequestResult => 570
  | csSetRegistrationEnabled => 580
  | scSetRegistrationEnabledResult => 590
  | csDeviceReconnectRequest => 600
  | scDeviceReconnectRequestResult => 610
  | dsGetChannelFunctions => 620
  | sdGetChannelFunctionsResult => 630
  | dcsSetChannelCaption => 640
  | scdSetChannelCaptionResult => 650
  | csSetChannelGroupCaption => 642
  | scSetChannelGroupCaptionResult => 652
  | csSetLocationCaption => 645
  | scSetLocationCaptionResult => 655
  | dsGetChannelConfig => 680
  | sdGetChannelConfigResult => 690
  | dsSetChannelConfig => 681
  | sdSetChannelConfigResult => 691
  | sdSetChannelConfig => 682
  | dsSetChannelConfigResult => 692
  | sdChannelConfigFinished => 683
  | dsSetDeviceConfig => 684
  | sdSetDeviceConfigResult => 694
  | sdSetDeviceConfig => 685
  | dsSetDeviceConfigResult => 695
  | dsActiontrigger => 700
  | csTimerArm => 800
  | scScenePackUpdate => 900
  | scSceneStatePackUpdate => 910
  | csExecuteAction => 1000
  | csExecuteActionWithAuth => 1010
  | scActionExecutionResult => 1020
  | csGetChannelValueWithAuth => 1030
  | scGetChannelValueResult => 1040
  | csSetSceneCaption => 1045
  | scSetSceneCaptionResult => 1055
  | dsRegisterPushNotification => 1100
  | dsSendPushNotification => 1110
  | csRegisterPnClientToken => 1120
  | scRegisterPnClientTokenResult => 1121
  | csGetChannelConfig => 1200
  | scChannelConfigUpdateOrResult => 1210
  | csSetChannelConfig => 1220
  | csGetDeviceConfig => 1240
  | scDeviceConfigUpdateOrResult => 1250
  | dsSetSubdeviceDetails => 1260

def all : List Call :=
  [.dcsGetversion, .sdcGetversionResult, .sdcVersionerror, .dcsPingServer, .sdcPingServerResult,
   .dsRegisterDevice, .dsRegisterDeviceB, .dsRegisterDeviceC, .dsRegisterDeviceD,
   .dsRegisterDeviceE, .sdRegisterDeviceResult, .sdRegisterDeviceResultB, .dsRegisterDeviceF,
   .dsRegisterDeviceG, .csRegisterClient, .csRegisterClientB, .csRegisterClientC,
   .csRegisterClientD, .scRegisterClientResult, .scRegisterClientResultB,
   .scRegisterClientResultC, .scRegisterClientResultD, .dsDeviceChannelValueChanged,
   .dsDeviceChannelValueChangedB, .dsDeviceChannelValueChangedC,
   .dsDeviceChannelExtendedvalueChanged, .sdChannelSetValue, .sdChannelgroupSetValue,
   .dsChannelSetValueResult, .scLocationUpdate, .scLocationpackUpdate, .scChannelpackUpdate,
   .scChannelValueUpdate, .scChannelValueUpdateB, .csGetNext, .scEvent, .csChannelSetValue,
   .csChannelSetValueB, .dcsSetActivityTimeout, .sdcSetActivityTimeoutResult,
   .dsGetFirmwareUpdateUrl, .sdGetFirmwareUpdateUrlResult, .dcsGetRegistrationEnabled,
   .sdcGetRegistrationEnabledResult, .csOauthTokenRequest, .scOauthTokenRequestResult,
   .scChannelpackUpdateB, .scChannelpackUpdateC, .scChannelpackUpdateD, .scChannelpackUpdateE,
   .scChannelgroupPackUpdate, .scChannelgroupPackUpdateB, .scChannelgroupRelationPackUpdate,
   .scChannelRelationPackUpdate, .scChannelvaluePackUpdate, .scChannelvaluePackUpdateB,
   .scChannelextendedvaluePackUpdate, .scChannelStatePackUpdate, .csSetValue,
   .csSuperuserAuthorizationRequest, .csGetSuperuserAuthorizationResult,
   .scSuperuserAuthorizationResult, .csDeviceCalcfgRequest, .csDeviceCalcfgRequestB,
   .scDeviceCalcfgResult, .sdDeviceCalcfgRequest, .dsDeviceCalcfgResult, .dcsGetUserLocaltime,
   .dcsGetUserLocaltimeResult, .csdGetChannelState, .dscChannelStateResult,
   .csGetChannelBasicCfg, .scChannelBasicCfgResult, .csSetChannelFunction,
   .scSetChannelFunctionResult, .csClientsReconnectRequest, .scClientsReconnectRequestResult,
   .csSetRegistrationEnabled, .scSetRegistrationEnabledResult, .csDeviceReconnectRequest,
   .scDeviceReconnectRequestResult, .dsGetChannelFunctions, .sdGetChannelFunctionsResult,
   .dcsSetChannelCaption, .scdSetChannelCaptionResult, .csSetChannelGroupCaption,
   .scSetChannelGroupCaptionResult, .csSetLocationCaption, .scSetLocationCaptionResult,
   .dsGetChannelConfig, .sdGetChannelConfigResult, .dsSetChannelConfig,
   .sdSetChannelConfigResult, .sdSetChannelConfig, .dsSetChannelConfigResult,
   .sdChannelConfigFinished, .dsSetDeviceConfig, .sdSetDeviceConfigResult, .sdSetDeviceConfig,
   .dsSetDeviceConfigResult, .dsActiontrigger, .csTimerArm, .scScenePackUpdate,
   .scSceneStatePackUpdate, .csExecuteAction, .csExecuteActionWithAuth, .scActionExecutionResult,
   .csGetChannelValueWithAuth, .scGetChannelValueResult, .csSetSceneCaption,
   .scSetSceneCaptionResult, .dsRegisterPushNotification, .dsSendPushNotification,
   .csRegisterPnClientToken, .scRegisterPnClientTokenResult, .csGetChannelConfig,
   .scChannelConfigUpdateOrResult, .csSetChannelConfig, .csGetDeviceConfig,
   .scDeviceConfigUpdateOrResult, .dsSetSubdeviceDetails]

def ofId (callId : UInt32) : Option Call := all.find? fun c => c.id == callId

/-- The version a known call needs. -/
def minVersion : Call → Nat
  | .dcsGetversion | .sdcGetversionResult | .sdcVersionerror | .dcsPingServer
  | .sdcPingServerResult | .dsRegisterDevice | .sdRegisterDeviceResult | .csRegisterClient
  | .scRegisterClientResult | .dsDeviceChannelValueChanged | .sdChannelSetValue
  | .dsChannelSetValueResult | .scLocationUpdate | .scLocationpackUpdate | .scChannelpackUpdate
  | .scChannelValueUpdate | .csGetNext | .scEvent | .csChannelSetValue => 1
  | .dsRegisterDeviceB | .dcsSetActivityTimeout | .sdcSetActivityTimeoutResult => 2
  | .csChannelSetValueB => 3
  | .dsGetFirmwareUpdateUrl | .sdGetFirmwareUpdateUrlResult => 5
  | .dsRegisterDeviceC | .csRegisterClientB => 6
  | .csRegisterClientC | .dsRegisterDeviceD | .dcsGetRegistrationEnabled
  | .sdcGetRegistrationEnabledResult => 7
  | .scChannelpackUpdateB => 8
  | .scRegisterClientResultB | .scChannelgroupPackUpdate | .scChannelgroupRelationPackUpdate
  | .scChannelvaluePackUpdate | .csSetValue => 9
  | .dsDeviceChannelExtendedvalueChanged | .scChannelextendedvaluePackUpdate
  | .csOauthTokenRequest | .scOauthTokenRequestResult | .dsRegisterDeviceE
  | .csSuperuserAuthorizationRequest | .scSuperuserAuthorizationResult | .csDeviceCalcfgRequest
  | .scDeviceCalcfgResult | .sdDeviceCalcfgRequest | .dsDeviceCalcfgResult
  | .scChannelgroupPackUpdateB | .scChannelpackUpdateC => 10
  | .dcsGetUserLocaltime | .dcsGetUserLocaltimeResult | .csDeviceCalcfgRequestB => 11
  | .csRegisterClientD | .csdGetChannelState | .dscChannelStateResult | .csGetChannelBasicCfg
  | .scChannelBasicCfgResult | .csSetChannelFunction | .scSetChannelFunctionResult
  | .dcsSetChannelCaption | .scdSetChannelCaptionResult | .csClientsReconnectRequest
  | .scClientsReconnectRequestResult | .csSetRegistrationEnabled
  | .scSetRegistrationEnabledResult | .csDeviceReconnectRequest | .scDeviceReconnectRequestResult
  | .dsDeviceChannelValueChangedB | .dsDeviceChannelValueChangedC | .dsGetChannelFunctions
  | .sdGetChannelFunctionsResult | .csGetSuperuserAuthorizationResult => 12
  | .sdChannelgroupSetValue => 13
  | .csSetLocationCaption | .scSetLocationCaptionResult => 14
  | .scChannelpackUpdateD | .scChannelValueUpdateB | .scChannelvaluePackUpdateB => 15
  | .dsGetChannelConfig | .sdGetChannelConfigResult | .dsActiontrigger => 16
  | .scRegisterClientResultC | .csTimerArm => 17
  | .scScenePackUpdate | .scSceneStatePackUpdate => 18
  | .csExecuteAction | .csExecuteActionWithAuth | .scActionExecutionResult
  | .scRegisterClientResultD | .csGetChannelValueWithAuth | .scGetChannelValueResult
  | .csSetSceneCaption | .scSetSceneCaptionResult => 19
  | .dsRegisterPushNotification | .dsSendPushNotification | .csRegisterPnClientToken
  | .scRegisterPnClientTokenResult | .csSetChannelGroupCaption | .scSetChannelGroupCaptionResult
  => 20
  | .dsSetChannelConfig | .sdSetChannelConfigResult | .sdSetChannelConfig
  | .dsSetChannelConfigResult | .dsSetDeviceConfig | .sdSetDeviceConfigResult
  | .sdSetDeviceConfig | .dsSetDeviceConfigResult | .scChannelRelationPackUpdate
  | .csGetChannelConfig | .scChannelConfigUpdateOrResult | .csSetChannelConfig
  | .csGetDeviceConfig | .scDeviceConfigUpdateOrResult | .sdChannelConfigFinished => 21
  | .scChannelpackUpdateE | .dsRegisterDeviceF => 23
  | .dsRegisterDeviceG | .sdRegisterDeviceResultB | .dsSetSubdeviceDetails => 25
  | .scChannelStatePackUpdate => 26

theorem ofId_id (c : Call) : ofId c.id = some c := by cases c <;> decide

end Call

def srpcCallMinVersionRequired (callId : UInt32) : Nat :=
  match Call.ofId callId with
  | some c => c.minVersion
  | none => 255

def srpcCallAllowed (proto : TSuplaProtoData) (callId : UInt32) : Bool :=
  let minVer := srpcCallMinVersionRequired callId
  minVer = 0 ∨ (sprotoGetVersion proto).toNat ≥ minVer

end Srpc
