import SuplaCore.Lib.Sys

/-!
# The control socket

The commands of `supla_ipc_ctrl` (`supla-server/src/ipc/ipc_ctrl.cpp`) in the order in which they
are added, with their names, `process_command` (`abstract_ipc_command.cpp`), and the loop that
reads the lines of one connection (`abstract_ipc_ctrl.cpp`). The characters of a text are its
bytes. How a token is decoded from base64 is a parameter.
-/

namespace Ipc

open Sys

/-- The `ACTION_` constants that have commands. -/
inductive Action
  | openIt
  | close
  | turnOn
  | turnOff
  | toggle
  | stop
  | copy
  | upOrStop
  | downOrStop
  | stepByStep
  | shutPartially
  | hvacSetParameters
  | hvacSwitchToManualMode
  | hvacSwitchToProgramMode
  | hvacSetTemperature
  | hvacSetTemperatures
  deriving DecidableEq

/-- `get_command_name` of `supla_abstract_action_command`. -/
def Action.commandName : Action → String
  | .openIt => "ACTION-OPEN:"
  | .close => "ACTION-CLOSE:"
  | .turnOn => "ACTION-TURN-ON:"
  | .turnOff => "ACTION-TURN-OFF:"
  | .toggle => "ACTION-TOGGLE:"
  | .stop => "ACTION-STOP:"
  | .copy => "ACTION-COPY:"
  | .upOrStop => "ACTION-UP-OR-STOP:"
  | .downOrStop => "ACTION-DOWN-OR-STOP:"
  | .stepByStep => "ACTION-SBS:"
  | .shutPartially => "ACTION-SHUT-PARTIALLY:"
  | .hvacSetParameters => "ACTION-HVAC-SET-PARAMETERS:"
  | .hvacSwitchToManualMode => "ACTION-HVAC-SWITCH-TO-MANUAL-MODE:"
  | .hvacSwitchToProgramMode => "ACTION-HVAC-SWITCH-TO-PROGRAM-MODE:"
  | .hvacSetTemperature => "ACTION-HVAC-SET-TEMPERATURE:"
  | .hvacSetTemperatures => "ACTION-HVAC-SET-TEMPERATURES:"

/-- `get_command_name` of `supla_abstract_action_cg_command`. -/
def Action.cgCommandName : Action → String
  | .openIt => "ACTION-CG-OPEN:"
  | .close => "ACTION-CG-CLOSE:"
  | .turnOn => "ACTION-CG-TURN-ON:"
  | .turnOff => "ACTION-CG-TURN-OFF:"
  | .toggle => "ACTION-CG-TOGGLE:"
  | .stop => "ACTION-CG-STOP:"
  | .copy => "ACTION-CG-COPY:"
  | .upOrStop => "ACTION-CG-UP-OR-STOP:"
  | .downOrStop => "ACTION-CG-DOWN-OR-STOP:"
  | .stepByStep => "ACTION-CG-SBS:"
  | .shutPartially => "ACTION-CG-SHUT-PARTIALLY:"
  | .hvacSetParameters => "ACTION-CG-HVAC-SET-PARAMETERS:"
  | .hvacSwitchToManualMode => "ACTION-CG-HVAC-SWITCH-TO-MANUAL-MODE:"
  | .hvacSwitchToProgramMode => "ACTION-CG-HVAC-SWITCH-TO-PROGRAM-MODE:"
  | .hvacSetTemperature => "ACTION-CG-HVAC-SET-TEMPERATURE:"
  | .hvacSetTemperatures => "ACTION-CG-HVAC-SET-TEMPERATURES:"

inductive Command
  | isClientConnected
  | isDeviceConnected
  | isChannelConnected
  | userReconnect
  | clientReconnect
  | getDouble
  | getTemperature
  | getHumidity
  | getChar
  | getContainerValue
  | getRgbw
  | getEmValue
  | getIcValue
  | getValveValue
  | getRelayValue
  | getHvacValue
  | getGpmValue
  | getFacadeBlindValue
  | getRollerShutterValue
  | setChar
  | setCgChar
  | setDigiglassValue
  | getDigiglassValue
  | resetCounters
  | recalibrate
  | pairSubdevice
  | getStatus
  | enterCfgMode
  | executeScene
  | interruptScene
  | interruptAndExecuteScene
  | alexaCredChanged
  | ghCredChanged
  | onSceneAdded
  | onSceneChanged
  | onSceneRemoved
  | onStateWebhookChanged
  | getSceneSummary
  | onDeviceDeleted
  | onChannelAdded
  | onChannelDeleted
  | onMqttSettingsChanged
  | beforeDeviceDelete
  | onChannelConfigChanged
  | onDeviceConfigChanged
  | onUserSettingsChanged
  | beforeChannelFunctionChange
  | getPnLimit
  | onVbtChanged
  | deviceSetTime
  | sendPush
  | takeOcrPhoto
  | muteAlarmSound
  | identifyDevice
  | identifySubdevice
  | restartDevice
  | restartSubdevice
  | updateChannelState
  | otaCheckUpdates
  | otaPerformUpdate
  | factoryReset
  | setCfgModePassword
  | setRgbw (colorRandom group : Bool)
  | action (a : Action)
  | actionCg (a : Action)
  deriving DecidableEq

/-- `get_command_name` -/
def Command.getCommandName : Command → String
  | .isClientConnected => "IS-CLIENT-CONNECTED:"
  | .isDeviceConnected => "IS-IODEV-CONNECTED:"
  | .isChannelConnected => "IS-CHANNEL-CONNECTED:"
  | .userReconnect => "USER-RECONNECT:"
  | .clientReconnect => "CLIENT-RECONNECT:"
  | .getDouble => "GET-DOUBLE-VALUE:"
  | .getTemperature => "GET-TEMPERATURE-VALUE:"
  | .getHumidity => "GET-HUMIDITY-VALUE:"
  | .getChar => "GET-CHAR-VALUE:"
  | .getContainerValue => "GET-CONTAINER-VALUE:"
  | .getRgbw => "GET-RGBW-VALUE:"
  | .getEmValue => "GET-EM-VALUE:"
  | .getIcValue => "GET-IC-VALUE:"
  | .getValveValue => "GET-VALVE-VALUE:"
  | .getRelayValue => "GET-RELAY-VALUE:"
  | .getHvacValue => "GET-HVAC-VALUE:"
  | .getGpmValue => "GET-GPM-VALUE:"
  | .getFacadeBlindValue => "GET-FACADE-BLIND-VALUE:"
  | .getRollerShutterValue => "GET-ROLLERSHUTTER-VALUE:"
  | .setChar => "SET-CHAR-VALUE:"
  | .setCgChar => "SET-CG-CHAR-VALUE:"
  | .setDigiglassValue => "SET-DIGIGLASS-VALUE:"
  | .getDigiglassValue => "GET-DIGIGLASS-VALUE:"
  | .resetCounters => "RESET-COUNTERS:"
  | .recalibrate => "RECALIBRATE:"
  | .pairSubdevice => "PAIR-SUBDEVICE:"
  | .getStatus => "GET-STATUS"
  | .enterCfgMode => "ENTER-CONFIGURATION-MODE:"
  | .executeScene => "EXECUTE-SCENE:"
  | .interruptScene => "INTERRUPT-SCENE:"
  | .interruptAndExecuteScene => "INTERRUPT-AND-EXECUTE-SCENE:"
  | .alexaCredChanged => "USER-ALEXA-CREDENTIALS-CHANGED:"
  | .ghCredChanged => "USER-GOOGLE-HOME-CREDENTIALS-CHANGED:"
  | .onSceneAdded => "USER-ON-SCENE-ADDED:"
  | .onSceneChanged => "USER-ON-SCENE-CHANGED:"
  | .onSceneRemoved => "USER-ON-SCENE-REMOVED:"
  | .onStateWebhookChanged => "USER-ON-STATE-WEBHOOK-CHANGED:"
  | .getSceneSummary => "GET-SCENE-SUMMARY:"
  | .onDeviceDeleted => "USER-ON-DEVICE-DELETED:"
  | .onChannelAdded => "USER-ON-CHANNEL-ADDED:"
  | .onChannelDeleted => "USER-ON-CHANNEL-DELETED:"
  | .onMqttSettingsChanged => "USER-ON-MQTT-SETTINGS-CHANGED:"
  | .beforeDeviceDelete => "USER-BEFORE-DEVICE-DELETE:"
  | .onChannelConfigChanged => "USER-ON-CHANNEL-CONFIG-CHANGED:"
  | .onDeviceConfigChanged => "USER-ON-DEVICE-CONFIG-CHANGED:"
  | .onUserSettingsChanged => "USER-ON-SETTINGS-CHANGED:"
  | .beforeChannelFunctionChange => "USER-BEFORE-CHANNEL-FUNCTION-CHANGE:"
  | .getPnLimit => "PN-GET-LIMIT:"
  | .onVbtChanged => "USER-ON-VBT-CHANGED:"
  | .deviceSetTime => "DEVICE-SET-TIME:"
  | .sendPush => "SEND-PUSH:"
  | .takeOcrPhoto => "TAKE-OCR-PHOTO:"
  | .muteAlarmSound => "MUTE-ALARM-SOUND:"
  | .identifyDevice => "IDENTIFY-DEVICE:"
  | .identifySubdevice => "IDENTIFY-SUBDEVICE:"
  | .restartDevice => "RESTART-DEVICE:"
  | .restartSubdevice => "RESTART-SUBDEVICE:"
  | .updateChannelState => "UPDATE-CHANNEL-STATE:"
  | .otaCheckUpdates => "OTA-CHECK-UPDATES:"
  | .otaPerformUpdate => "OTA-PERFORM-UPDATE:"
  | .factoryReset => "FACTORY-RESET:"
  | .setCfgModePassword => "SET-CFG-MODE-PASSWORD:"
  | .setRgbw false false => "SET-RGBW-VALUE:"
  | .setRgbw true false => "SET-RAND-RGBW-VALUE:"
  | .setRgbw false true => "SET-CG-RGBW-VALUE:"
  | .setRgbw true true => "SET-CG-RAND-RGBW-VALUE:"
  | .action a => a.commandName
  | .actionCg a => a.cgCommandName

/-- The commands as the constructor of `supla_ipc_ctrl` adds them. -/
def commands : List Command :=
  [.isClientConnected, .isDeviceConnected, .isChannelConnected, .userReconnect, .clientReconnect,
  .getDouble, .getTemperature, .getHumidity, .getChar, .getContainerValue, .getRgbw, .getEmValue,
  .getIcValue, .getValveValue, .getRelayValue, .getHvacValue, .getGpmValue, .getFacadeBlindValue,
  .getRollerShutterValue, .setChar, .setCgChar, .setRgbw true false, .setRgbw false false,
  .setRgbw true true, .setRgbw false true, .setDigiglassValue, .getDigiglassValue, .actionCg
  .openIt, .action .openIt, .actionCg .close, .action .close, .actionCg .turnOn, .action .turnOn,
  .actionCg .turnOff, .action .turnOff, .actionCg .toggle, .action .toggle, .actionCg .stop,
  .action .stop, .actionCg .copy, .action .copy, .actionCg .upOrStop, .action .upOrStop, .actionCg
  .downOrStop, .action .downOrStop, .actionCg .stepByStep, .action .stepByStep, .actionCg
  .shutPartially, .action .shutPartially, .actionCg .hvacSetParameters, .action
  .hvacSetParameters, .actionCg .hvacSwitchToManualMode, .action .hvacSwitchToManualMode,
  .actionCg .hvacSwitchToProgramMode, .action .hvacSwitchToProgramMode, .actionCg
  .hvacSetTemperature, .action .hvacSetTemperature, .actionCg .hvacSetTemperatures, .action
  .hvacSetTemperatures, .resetCounters, .recalibrate, .pairSubdevice, .getStatus, .enterCfgMode,
  .executeScene, .interruptScene, .interruptAndExecuteScene, .alexaCredChanged, .ghCredChanged,
  .onSceneAdded, .onSceneChanged, .onSceneRemoved, .onStateWebhookChanged, .getSceneSummary,
  .onDeviceDeleted, .onChannelAdded, .onChannelDeleted, .onMqttSettingsChanged,
  .beforeDeviceDelete, .onChannelConfigChanged, .onDeviceConfigChanged, .onUserSettingsChanged,
  .beforeChannelFunctionChange, .getPnLimit, .onVbtChanged, .deviceSetTime, .sendPush,
  .takeOcrPhoto, .muteAlarmSound, .identifyDevice, .identifySubdevice, .restartDevice,
  .restartSubdevice, .updateChannelState, .otaCheckUpdates, .otaPerformUpdate, .factoryReset,
  .setCfgModePassword]

/-! ## Matching a line -/

/-- What the code takes as a C string: the characters before the first zero. -/
def cString (s : List Char) : List Char := s.takeWhile (· ≠ '\x00')

/-- `strstr`: what comes before the first occurrence of the needle, and what comes behind it. -/
def strstr (needle : List Char) : List Char → Option (List Char × List Char)
  | [] => if needle = [] then some ([], []) else none
  | c :: text =>
    if needle <+: c :: text then some ([], (c :: text).drop needle.length)
    else (strstr needle text).map fun r => (c :: r.1, r.2)

/-- `base64_decode_cut`: the value behind the needle, and the text that is left. An empty value is
left where it is. -/
def base64DecodeCut (decode : List Char → Option (List Char)) (needle text : List Char) :
    Option (List Char) × List Char :=
  match strstr needle text with
  | none => (none, text)
  | some (before, value) =>
    if value = [] then (none, text) else ((decode value).filter (· ≠ []), before)

/-- What a command is given: its parameters, and the tokens that were cut from them. -/
structure Call where
  command : Command
  params : List Char
  alexaCorrelationToken : Option (List Char)
  googleRequestId : Option (List Char)
  deriving DecidableEq

/-- `process_command` for the bytes that were received, the last of which ends the line. -/
def processCommand (decode : List Char → Option (List Char)) (data : List Char) (c : Command) :
    Option Call :=
  let cmd := c.getCommandName.toList
  if data.length > cmd.length ∧ cmd <+: data ∧ data.getLast? = some '\n' then
    let alexa := base64DecodeCut decode ",ALEXA-CORRELATION-TOKEN=".toList (cString data.dropLast)
    let google := base64DecodeCut decode ",GOOGLE-REQUEST-ID=".toList alexa.2
    some ⟨c, google.2.drop cmd.length, alexa.1, google.1⟩
  else none

/-- The first command that matches. -/
def dispatch (decode : List Char → Option (List Char)) (data : List Char) : Option Call :=
  commands.findSome? (processCommand decode data)

/-! ## The loop -/

/-- `IPC_BUFFER_MAX_SIZE` -/
def bufferMaxSize : Nat := 4096

/-- `IPC_DEFAULT_TIMEOUT_SEC` -/
def defaultTimeoutSec : Int := 5

/-- The loop of `supla_abstract_ipc_ctrl::execute`: `buffer` has the bytes before `offset`,
`received` all bytes that were put there, and `handled` what became of the lines; `none` stands
for `COMMAND_UNKNOWN`. -/
structure Ctrl where
  buffer : List Char
  lastAction : Int
  running : Bool
  terminated : Bool
  timeout : Bool
  received : List Char
  handled : List (Option Call)

inductive CtrlAct
  /-- a byte was received at a time -/
  | recv (c : Char) (now : Int)
  /-- the inner loop ends -/
  | drained (error : Bool) (now : Int)
  /-- another thread terminates this one -/
  | terminate

namespace Ctrl

/-- The byte is put into the buffer, which starts again from the front when it is full. -/
def put (buffer : List Char) (c : Char) : List Char :=
  if buffer.length + 1 ≥ bufferMaxSize then [] else buffer ++ [c]

def recv (decode : List Char → Option (List Char)) (s : Ctrl) (c : Char) (now : Int) : Ctrl :=
  let data := put s.buffer c
  let s := { s with received := s.received ++ [c] }
  if c = '\n' then
    match dispatch decode data with
    | some call =>
      { s with buffer := [], lastAction := now, handled := s.handled ++ [some call] }
    | none => { s with buffer := [], terminated := true, handled := s.handled ++ [none] }
  else { s with buffer := data }

def step (decode : List Char → Option (List Char)) (s : Ctrl) : CtrlAct → Option Ctrl
  | .recv c now =>
    if s.running = false then none
    -- the byte is read, but the inner loop ends
    else if s.terminated then some s
    else some (recv decode s c now)
  | .drained error now =>
    if s.running = false then none
    else if error then some { s with terminated := true, running := false }
    else if now - s.lastAction ≥ defaultTimeoutSec then
      some { s with terminated := true, timeout := true, running := false }
    else some { s with running := !s.terminated }
  | .terminate => some { s with terminated := true }

end Ctrl

/-- One connection. -/
def ctrl (decode : List Char → Option (List Char)) : Machine Ctrl CtrlAct where
  init s := s.buffer = [] ∧ s.running = true ∧ s.terminated = false ∧ s.timeout = false ∧
    s.received = [] ∧ s.handled = []
  step := Ctrl.step decode

end Ipc
