import SuplaCore.Ipc.Ctrl
import SuplaCore.Lib.Scanf

/-!
# Requests over the control socket

What a worker of the scheduler asks of the server: the lines that `ipc_client` writes
(`supla-scheduler/src/ipcclient.cpp`), what `on_command_match` of their commands makes of them
(`supla-server/src/ipc`), and what the client makes of the replies. A reply is read whole and in
time.

`Server` stands for the users and their devices. Left out: the commands that the scheduler does not
send, the tokens that others send with theirs, and the two requests for numbers with a fraction
(`get_double_value`, `get_fb_value`).
-/

namespace Ipc

open Scanf

/-! ## Orders -/

/-- `TAction_RGBW_Parameters` -/
structure RgbwParameters where
  color : UInt32
  colorBrightness : Int8
  brightness : Int8
  colorRandom : Bool
  onOff : Int8
  command : Int8
  whiteTemperature : Int8
  deriving DecidableEq

/-- `set_params` of `supla_action_rgbw_parameters`. -/
def setParams (color : Int32) (colorRandom : Bool)
    (colorBrightness brightness turnOnoff command whiteTemperature : Int32) :
    Option RgbwParameters :=
  if colorBrightness < -1 ∨ colorBrightness > 100 ∨ brightness < -1 ∨ brightness > 100 ∨
      turnOnoff < -1 ∨ turnOnoff > 3 ∨ command < -1 ∨ command > 19 ∨
      whiteTemperature < -1 ∨ whiteTemperature > 100 then none
  else
    let color := if color = -1 ∨ colorRandom then 0 else color
    some ⟨color.toUInt32, colorBrightness.toInt8, brightness.toInt8, colorRandom, turnOnoff.toInt8,
      command.toInt8, whiteTemperature.toInt8⟩

/-- A channel of a device, or a group of channels. -/
inductive Subject
  | channel (device channel : Int32)
  | group (id : Int32)
  deriving DecidableEq

/-- What a user's devices and scenes are told to do. -/
inductive Order
  | setChar (user : Int32) (subject : Subject) (value : Int8)
  | setRgbw (user : Int32) (group : Bool) (id : Int32) (params : RgbwParameters)
  | setDigiglass (user device channel : Int32) (activeBits mask : UInt16)
  | copy (user : Int32) (subject : Subject) (sourceDevice sourceChannel : Int32)
  | shut (user : Int32) (subject : Subject) (percentage tilt : Int8)
    (percentageAsDelta tiltAsDelta : Bool)
  | action (a : Action) (user : Int32) (subject : Subject)
  | executeScene (user scene : Int32)
  | interruptScene (user scene : Int32)
  | interruptAndExecuteScene (user scene : Int32)
  deriving DecidableEq

structure RgbwValue where
  color : Int32
  colorBrightness : Int8
  brightness : Int8
  whiteTemperature : Int8
  deriving DecidableEq

/-- What is read of a `supla_channel_hvac_value_with_temphum`. -/
structure HvacValue where
  isOn : UInt8
  mode : UInt8
  setpointTemperatureHeat : Int16
  setpointTemperatureCool : Int16
  flags : UInt16
  temperature : Int16
  humidity : Int16

/-- `_sceneExecutionResult_e` -/
inductive SceneExecutionResult
  | notExists
  | ok
  | isDuringExecution
  | inactivePeriod
  deriving DecidableEq

/-- The users of the server: who is known, what channels have, and what becomes of an order. -/
structure Server where
  /-- `supla_user::find` -/
  findUser : Int32 → Bool
  isDeviceOnline : Int32 → Int32 → Bool
  charValue : Int32 → Int32 → Int32 → Option Int8
  rgbwValue : Int32 → Int32 → Int32 → Option RgbwValue
  /-- whether the valve is closed, and its flags -/
  valveValue : Int32 → Int32 → Int32 → Option (UInt8 × UInt8)
  digiglassValue : Int32 → Int32 → Int32 → Option UInt16
  hvacValue : Int32 → Int32 → Int32 → Option HvacValue
  execute : Int32 → Int32 → SceneExecutionResult
  carryOut : Order → Bool

/-! ## Commands -/

/-- The variables of so many conversions `%i`, as far as they were reached. -/
def scanArgs (k : Nat) (params : List Char) : List Int32 := (scanRow scanI k params).map .ofInt

/-- A variable, which is zero before. -/
def arg (n : List Int32) (i : Nat) : Int32 := n.getD i 0

/-- `send_result` with a number. -/
def sendNumber (result : String) (i : Int32) : List Char :=
  (result.toList ++ formatI i.toInt ++ ['\n']).take (result.toList.length + 19)

/-- What `supla_abstract_execute_scene_command` sends of a result. -/
def SceneExecutionResult.sendResult (sceneId : Int32) : SceneExecutionResult → List Char
  | .ok => sendNumber "OK:" sceneId
  | .isDuringExecution => sendNumber "IS-DURING-EXECUTION:" sceneId
  | .inactivePeriod => sendNumber "INACTIVE-PERIOD:" sceneId
  | .notExists => sendNumber "UNKNOWN:" sceneId

/-- `send_result` with a text only. -/
def sendText (result : List Char) : List Char := (result ++ ['\n']).take (result.length + 19)

/-- `VALUE:` with numbers, as it is put into a buffer of some size. -/
def sendValues (size : Nat) (vs : List Int) : List Char :=
  sendText (("VALUE:".toList ++ formatInts vs).take (size - 1))

/-- What the server does with a line, and what it replies. -/
structure Effect where
  order : Option Order
  reply : List Char

def unknown (id : Int32) : Effect := ⟨none, sendNumber "UNKNOWN:" id⟩

/-- The order is carried out (`_send_result`). -/
def Server.finish (server : Server) (o : Order) (id : Int32) : Effect :=
  ⟨some o, sendNumber (if server.carryOut o then "OK:" else "FAIL:") id⟩

def processParameters (params : List Char) (onIds : Int32 → Int32 → Int32 → Option Effect) :
    Effect :=
  let n := scanArgs 3 params
  if arg n 0 ≠ 0 ∧ arg n 1 ≠ 0 ∧ arg n 2 ≠ 0 then
    (onIds (arg n 0) (arg n 1) (arg n 2)).getD (unknown (arg n 2))
  else unknown (arg n 2)

namespace Server

variable (server : Server) (params : List Char)

/-- `supla_abstract_is_device_connected_command` -/
def onIsDeviceConnected : Effect :=
  let n := scanArgs 2 params
  if arg n 0 ≠ 0 ∧ arg n 1 ≠ 0 ∧ server.isDeviceOnline (arg n 0) (arg n 1) then
    ⟨none, sendNumber "CONNECTED:" (arg n 1)⟩
  else ⟨none, sendNumber "DISCONNECTED:" (arg n 1)⟩

/-- A command that replies with the value of a channel. -/
def onGet {V : Type} (value : Int32 → Int32 → Int32 → Option V) (reply : V → List Char) : Effect :=
  processParameters params fun user device channel =>
    (value user device channel).map fun v => ⟨none, reply v⟩

def replyRgbw (v : RgbwValue) : List Char :=
  sendValues 100
    [v.color.toInt, v.colorBrightness.toInt, v.brightness.toInt, v.whiteTemperature.toInt]

def replyValve (v : UInt8 × UInt8) : List Char := sendValues 100 [v.1.toNat, v.2.toNat]

def replyHvac (v : HvacValue) : List Char :=
  sendValues 50 [v.isOn.toNat, v.mode.toNat, v.setpointTemperatureHeat.toInt,
    v.setpointTemperatureCool.toInt, v.flags.toNat, v.temperature.toInt, v.humidity.toInt]

/-- `set_char_value` of a channel or a group, for the value that was sent. -/
def setCharValue (user : Int32) (subject : Subject) (id value : Int32) : Effect :=
  if value < 0 ∨ value > 255 then ⟨none, sendText "VALUE OUT OF RANGE".toList⟩
  else server.finish (.setChar user subject value.toInt8) id

/-- `supla_abstract_set_char_command` -/
def onSetChar : Effect :=
  let n := scanArgs 4 params
  if arg n 0 ≠ 0 ∧ arg n 1 ≠ 0 ∧ arg n 2 ≠ 0 ∧ server.findUser (arg n 0) then
    server.setCharValue (arg n 0) (.channel (arg n 1) (arg n 2)) (arg n 2) (arg n 3)
  else unknown (arg n 2)

/-- `supla_abstract_set_cg_char_command` -/
def onSetCgChar : Effect :=
  let n := scanArgs 3 params
  if arg n 0 ≠ 0 ∧ arg n 1 ≠ 0 ∧ server.findUser (arg n 0) then
    server.setCharValue (arg n 0) (.group (arg n 1)) (arg n 1) (arg n 2)
  else unknown (arg n 1)

/-- `supla_set_rgbw_command`; the identifier of the device is not used. -/
def onSetRgbw (colorRandom group : Bool) : Effect :=
  let expected := 7 + (if group then 0 else 1) + (if colorRandom then 0 else 1)
  let n := scanArgs expected params
  if n.length ≠ expected then ⟨none, sendText "INCORRECT NUMBERS OF PARAMETERS".toList⟩
  else
    let i := if group then 2 else 3
    let id := arg n (i - 1)
    let color := if colorRandom then 0 else arg n i
    let j := if colorRandom then i else i + 1
    if arg n 0 ≠ 0 ∧ id ≠ 0 then
      match setParams color colorRandom (arg n j) (arg n (j + 1)) (arg n (j + 2)) (arg n (j + 3))
        (arg n (j + 4)) with
      | none => ⟨none, sendText "VALUE OUT OF RANGE".toList⟩
      | some p => ⟨some (.setRgbw (arg n 0) group id p), sendNumber "OK:" id⟩
    else unknown id

/-- `supla_abstract_set_digiglass_value_command` -/
def onSetDigiglass : Effect :=
  let n := scanArgs 5 params
  if arg n 0 ≠ 0 ∧ arg n 1 ≠ 0 ∧ arg n 2 ≠ 0 then
    server.finish (.setDigiglass (arg n 0) (arg n 1) (arg n 2)
      (arg n 3 &&& 0xFFFF).toUInt32.toUInt16 (arg n 4 &&& 0xFFFF).toUInt32.toUInt16) (arg n 2)
  else unknown (arg n 2)

def onActionShutPartially : Effect :=
  let n := scanArgs 7 params
  if arg n 0 ≠ 0 ∧ arg n 1 ≠ 0 ∧ arg n 2 ≠ 0 then
    server.finish (.shut (arg n 0) (.channel (arg n 1) (arg n 2)) (arg n 3).toInt8 (arg n 5).toInt8
      (arg n 4 != 0) (arg n 6 != 0)) (arg n 2)
  else unknown (arg n 2)

def onActionCopy : Effect :=
  let n := scanArgs 5 params
  if arg n 0 ≠ 0 ∧ arg n 1 ≠ 0 ∧ arg n 2 ≠ 0 ∧ arg n 4 ≠ 0 then
    server.finish (.copy (arg n 0) (.channel (arg n 1) (arg n 2)) (arg n 3) (arg n 4)) (arg n 2)
  else unknown (arg n 2)

/-- The actions without parameters. -/
def onPlainAction (a : Action) : Effect :=
  processParameters params fun user device channel =>
    some (server.finish (.action a user (.channel device channel)) channel)

/-- `on_command_match` of `supla_abstract_action_command`. -/
def onAction : Action → Option Effect
  | .shutPartially => some (server.onActionShutPartially params)
  | .copy => some (server.onActionCopy params)
  | .hvacSetParameters => none
  | .hvacSetTemperature => none
  | .hvacSetTemperatures => none
  | a => some (server.onPlainAction params a)

def onActionCgShutPartially : Effect :=
  let n := scanArgs 6 params
  if arg n 0 ≠ 0 ∧ arg n 1 ≠ 0 ∧ server.findUser (arg n 0) then
    server.finish (.shut (arg n 0) (.group (arg n 1)) (arg n 2).toInt8 (arg n 4).toInt8
      (arg n 3 != 0) (arg n 5 != 0)) (arg n 1)
  else unknown (arg n 1)

def onActionCgCopy : Effect :=
  let n := scanArgs 4 params
  if arg n 0 ≠ 0 ∧ arg n 1 ≠ 0 ∧ arg n 3 ≠ 0 ∧ server.findUser (arg n 0) then
    server.finish (.copy (arg n 0) (.group (arg n 1)) (arg n 2) (arg n 3)) (arg n 1)
  else unknown (arg n 1)

def onPlainActionCg (a : Action) : Effect :=
  let n := scanArgs 2 params
  if arg n 0 ≠ 0 ∧ arg n 1 ≠ 0 ∧ server.findUser (arg n 0) then
    server.finish (.action a (arg n 0) (.group (arg n 1))) (arg n 1)
  else unknown (arg n 1)

/-- `on_command_match` of `supla_abstract_action_cg_command`. -/
def onActionCg : Action → Option Effect
  | .shutPartially => some (server.onActionCgShutPartially params)
  | .copy => some (server.onActionCgCopy params)
  | .hvacSetParameters => none
  | .hvacSetTemperature => none
  | .hvacSetTemperatures => none
  | a => some (server.onPlainActionCg params a)

/-- `supla_abstract_execute_scene_command` -/
def onExecuteScene : Effect :=
  let n := scanArgs 2 params
  if arg n 0 ≠ 0 ∧ arg n 1 ≠ 0 then
    ⟨some (.executeScene (arg n 0) (arg n 1)),
      (server.execute (arg n 0) (arg n 1)).sendResult (arg n 1)⟩
  else unknown (arg n 1)

/-- `supla_abstract_interrupt_scene_command` -/
def onInterruptScene : Effect :=
  let n := scanArgs 2 params
  if arg n 0 ≠ 0 ∧ arg n 1 ≠ 0 then
    ⟨some (.interruptScene (arg n 0) (arg n 1)), sendNumber "OK:" (arg n 1)⟩
  else unknown (arg n 1)

/-- `supla_abstract_interrupt_and_execute_scene_command` -/
def onInterruptAndExecuteScene : Effect :=
  let n := scanArgs 2 params
  if arg n 0 ≠ 0 ∧ arg n 1 ≠ 0 then
    let o := Order.interruptAndExecuteScene (arg n 0) (arg n 1)
    ⟨some o, sendNumber (if server.carryOut o then "OK:" else "UNKNOWN:") (arg n 1)⟩
  else unknown (arg n 1)

/-- The commands of the scheduler. -/
def onCommandMatch : Command → Option Effect
  | .isDeviceConnected => some (server.onIsDeviceConnected params)
  | .getChar => some (onGet params server.charValue fun v => sendNumber "VALUE:" v.toInt32)
  | .getRgbw => some (onGet params server.rgbwValue replyRgbw)
  | .getValveValue => some (onGet params server.valveValue replyValve)
  | .getDigiglassValue =>
    some (onGet params server.digiglassValue fun v =>
      sendNumber "VALUE:" v.toUInt32.toInt32)
  | .getHvacValue => some (onGet params server.hvacValue replyHvac)
  | .setChar => some (server.onSetChar params)
  | .setCgChar => some (server.onSetCgChar params)
  | .setRgbw colorRandom group => some (onSetRgbw params colorRandom group)
  | .setDigiglassValue => some (server.onSetDigiglass params)
  | .action a => server.onAction params a
  | .actionCg a => server.onActionCg params a
  | .executeScene => some (server.onExecuteScene params)
  | .interruptScene => some (onInterruptScene params)
  | .interruptAndExecuteScene => some (server.onInterruptAndExecuteScene params)
  | _ => none

/-- A line of the scheduler, with its end. -/
def serve (decode : List Char → Option (List Char)) (line : List Char) : Option Effect :=
  (dispatch decode line).bind fun call => server.onCommandMatch call.params call.command

end Server

/-! ## Requests -/

-- the names of the commands, as the client has them
def cmdIsIodevConnected : String := "IS-IODEV-CONNECTED"
def cmdGetCharValue : String := "GET-CHAR-VALUE"
def cmdGetRgbwValue : String := "GET-RGBW-VALUE"
def cmdGetValveValue : String := "GET-VALVE-VALUE"
def cmdGetDigiglassValue : String := "GET-DIGIGLASS-VALUE"
def cmdGetHvacValue : String := "GET-HVAC-VALUE"
def cmdSetCharValue : String := "SET-CHAR-VALUE"
def cmdSetRgbwValue : String := "SET-RGBW-VALUE"
def cmdSetRandRgbwValue : String := "SET-RAND-RGBW-VALUE"
def cmdSetCgCharValue : String := "SET-CG-CHAR-VALUE"
def cmdSetCgRgbwValue : String := "SET-CG-RGBW-VALUE"
def cmdSetCgRandRgbwValue : String := "SET-CG-RAND-RGBW-VALUE"
def cmdSetDigiglassValue : String := "SET-DIGIGLASS-VALUE"
def cmdActionShutPartially : String := "ACTION-SHUT-PARTIALLY"
def cmdActionCgShutPartially : String := "ACTION-CG-SHUT-PARTIALLY"
def cmdActionCopy : String := "ACTION-COPY"
def cmdActionCgCopy : String := "ACTION-CG-COPY"
def cmdExecuteScene : String := "EXECUTE-SCENE"
def cmdInterruptScene : String := "INTERRUPT-SCENE"
def cmdInterruptAndExecuteScene : String := "INTERRUPT-AND-EXECUTE-SCENE"
def cmdHvacSwitchToProgramMode : String := "ACTION-HVAC-SWITCH-TO-PROGRAM-MODE"
def cmdHvacSwitchToManualMode : String := "ACTION-HVAC-SWITCH-TO-MANUAL-MODE"
def cmdCgHvacSwitchToProgramMode : String := "ACTION-CG-HVAC-SWITCH-TO-MANUAL-MODE"
def cmdCgHvacSwitchToManualMode : String := "ACTION-CG-HVAC-SWITCH-TO-PROGRAM-MODE"
def cmdTurnOff : String := "ACTION-TURN-OFF"
def cmdTurnOn : String := "ACTION-TURN-ON"
def cmdCgTurnOff : String := "ACTION-CG-TURN-OFF"
def cmdCgTurnOn : String := "ACTION-CG-TURN-ON"

/-- Whom a worker acts for; a group that is not zero goes before the channel. -/
structure Target where
  user : Int32
  device : Int32
  channel : Int32
  group : Int32
  deriving DecidableEq

/-- The requests of `ipc_client`. -/
inductive Request
  | isConnected (user device : Int32)
  | getCharValue (user device channel : Int32)
  | getRgbwValue (user device channel : Int32)
  | getValveValue (user device channel : Int32)
  | getDigiglassValue (user device channel : Int32)
  | getHvacValue (user device channel : Int32)
  | setCharValue (t : Target) (value : Int8)
  | setRgbwValue (t : Target) (color : Int32) (colorBrightness brightness : Int8)
    (colorRandom : Bool) (command whiteTemperature : Int8)
  | setDigiglassValue (user device channel activeBits mask : Int32)
  | actionCopy (t : Target) (sourceDevice sourceChannel : Int32)
  | actionShutPartially (t : Target) (percentage : Int8) (percentageAsDelta : Bool) (tilt : Int8)
    (tiltAsDelta : Bool)
  | actionHvacSwitchToProgramMode (t : Target)
  | actionHvacSwitchToManualMode (t : Target)
  | actionTurnOn (t : Target)
  | actionTurnOff (t : Target)
  | executeScene (user scene : Int32)
  | interruptScene (user scene : Int32)
  | interruptAndExecuteScene (user scene : Int32)
  deriving DecidableEq

def ofBool (b : Bool) : Int32 := if b then 1 else 0

/-- `do_action` -/
def doAction (cmd cmdGroup : String) (t : Target) : String × List Int32 :=
  if t.group ≠ 0 then (cmdGroup, [t.user, t.group]) else (cmd, [t.user, t.device, t.channel])

/-- The command and its numbers. -/
def Request.command : Request → String × List Int32
  | .isConnected user device => (cmdIsIodevConnected, [user, device])
  | .getCharValue user device channel => (cmdGetCharValue, [user, device, channel])
  | .getRgbwValue user device channel => (cmdGetRgbwValue, [user, device, channel])
  | .getValveValue user device channel => (cmdGetValveValue, [user, device, channel])
  | .getDigiglassValue user device channel => (cmdGetDigiglassValue, [user, device, channel])
  | .getHvacValue user device channel => (cmdGetHvacValue, [user, device, channel])
  | .setCharValue t value =>
    if t.group ≠ 0 then (cmdSetCgCharValue, [t.user, t.group, value.toInt32])
    else (cmdSetCharValue, [t.user, t.device, t.channel, value.toInt32])
  | .setRgbwValue t color colorBrightness brightness colorRandom command whiteTemperature =>
    if t.group ≠ 0 then
      if colorRandom then
        (cmdSetCgRandRgbwValue, [t.user, t.group, colorBrightness.toInt32, brightness.toInt32, 0,
          command.toInt32, whiteTemperature.toInt32])
      else
        (cmdSetCgRgbwValue, [t.user, t.group, color, colorBrightness.toInt32, brightness.toInt32, 0,
          command.toInt32, whiteTemperature.toInt32])
    else
      if colorRandom then
        (cmdSetRandRgbwValue, [t.user, t.device, t.channel, colorBrightness.toInt32,
          brightness.toInt32, 0, command.toInt32, whiteTemperature.toInt32])
      else
        (cmdSetRgbwValue, [t.user, t.device, t.channel, color, colorBrightness.toInt32,
          brightness.toInt32, 0, command.toInt32, whiteTemperature.toInt32])
  | .setDigiglassValue user device channel activeBits mask =>
    (cmdSetDigiglassValue, [user, device, channel, activeBits, mask])
  | .actionCopy t sourceDevice sourceChannel =>
    if t.group ≠ 0 then (cmdActionCgCopy, [t.user, t.group, sourceDevice, sourceChannel])
    else (cmdActionCopy, [t.user, t.device, t.channel, sourceDevice, sourceChannel])
  | .actionShutPartially t percentage percentageAsDelta tilt tiltAsDelta =>
    if t.group ≠ 0 then
      (cmdActionCgShutPartially, [t.user, t.group, percentage.toInt32, ofBool percentageAsDelta,
        tilt.toInt32, ofBool tiltAsDelta])
    else
      (cmdActionShutPartially, [t.user, t.device, t.channel, percentage.toInt32,
        ofBool percentageAsDelta, tilt.toInt32, ofBool tiltAsDelta])
  | .actionHvacSwitchToProgramMode t =>
    doAction cmdHvacSwitchToProgramMode cmdCgHvacSwitchToProgramMode t
  | .actionHvacSwitchToManualMode t =>
    doAction cmdHvacSwitchToManualMode cmdCgHvacSwitchToManualMode t
  | .actionTurnOn t => doAction cmdTurnOn cmdCgTurnOn t
  | .actionTurnOff t => doAction cmdTurnOff cmdCgTurnOff t
  | .executeScene user scene => (cmdExecuteScene, [user, scene])
  | .interruptScene user scene => (cmdInterruptScene, [user, scene])
  | .interruptAndExecuteScene user scene => (cmdInterruptAndExecuteScene, [user, scene])

/-- `IPC_BUFFER_SIZE` of the client. -/
def ipcBufferSize : Nat := 256

/-- What is sent, as `snprintf` puts it into the buffer. -/
def Request.line (r : Request) : List Char :=
  (r.command.1.toList ++ ':' :: formatInts (r.command.2.map Int32.toInt) ++ ['\n']).take
    (ipcBufferSize - 1)

/-! ## Results -/

/-- What is read of a heating controller: whether it is on, and the rest as it is. -/
structure HvacReading where
  isOn : Bool
  mode : UInt8
  setpointTemperatureHeat : Int16
  setpointTemperatureCool : Int16
  flags : UInt16
  temperature : Int32
  humidity : Int32
  deriving DecidableEq

/-- What a request tells the worker. -/
inductive Result
  /-- `IPC_RESULT_` -/
  | connection (r : Int8)
  | char (v : Option Int8)
  | rgbw (v : Option RgbwValue)
  | valve (v : Option (UInt8 × UInt8))
  | digiglass (mask : Option Int32)
  | hvac (v : Option HvacReading)
  | done (success : Bool)
  deriving DecidableEq

/-- Whether the buffer begins with a text (`memcmp`). -/
def begins (result : String) (buffer : List Char) : Bool := result.toList.isPrefixOf buffer

/-- `get_value`, and as many numbers as are expected behind `VALUE:`. -/
def getValue (scan : List Char → Option (Int × List Char)) (k : Nat) (buffer : List Char) :
    Option (List Int) :=
  if begins "VALUE:" buffer then
    let n := scanRow scan k (buffer.drop 6)
    if n.length = k then some n else none
  else none

/-- A number that was stored in an `int`. -/
def int (n : List Int) (i : Nat) : Int32 := .ofInt (n.getD i 0)

def charResult (n : List Int) : Option Int8 :=
  if (int n 0).toUInt32 ≥ 255 then none else some (int n 0).toInt8

def rgbwResult (n : List Int) : Option RgbwValue :=
  if int n 1 < 0 ∨ int n 1 > 100 ∨ int n 2 < 0 ∨ int n 2 > 100 ∨ int n 3 < 0 ∨ int n 3 > 100 then
    none
  else some ⟨int n 0, (int n 1).toInt8, (int n 2).toInt8, (int n 3).toInt8⟩

def valveResult (n : List Int) : UInt8 × UInt8 :=
  (.ofNat (n.getD 0 0).toNat, .ofNat (n.getD 1 0).toNat)

def hvacResult (n : List Int) : HvacReading :=
  ⟨int n 0 > 0, (int n 1).toUInt32.toUInt8, (int n 2).toInt16, (int n 3).toInt16,
    (int n 4).toUInt32.toUInt16, int n 5, int n 6⟩

/-- What a request makes of the reply in its buffer. -/
def Request.result (buffer : List Char) : Request → Result
  | .isConnected _ _ =>
    if begins "CONNECTED:" buffer then .connection 1
    else if begins "DISCONNECTED:" buffer then .connection 0
    else .connection (-1)
  | .getCharValue _ _ _ => .char ((getValue scanI 1 buffer).bind charResult)
  | .getRgbwValue _ _ _ => .rgbw ((getValue scanI 4 buffer).bind rgbwResult)
  | .getValveValue _ _ _ => .valve ((getValue scanHhu 2 buffer).map valveResult)
  | .getDigiglassValue _ _ _ => .digiglass ((getValue scanI 1 buffer).map (int · 0))
  | .getHvacValue _ _ _ => .hvac ((getValue scanI 7 buffer).map hvacResult)
  | .executeScene _ _ => .done (begins "OK:" buffer || begins "IS-DURING-EXECUTION:" buffer)
  -- `check_set_result`
  | _ => .done (begins "OK:" buffer)

/-- A request from one program to the other and back: what the server did, and the result. -/
def Request.call (decode : List Char → Option (List Char)) (server : Server) (r : Request) :
    Option (Option Order × Result) :=
  (server.serve decode r.line).map fun e => (e.order, r.result (e.reply.take (ipcBufferSize - 1)))

/-! ## What the requests are for -/

def Target.subject (t : Target) : Subject :=
  if t.group ≠ 0 then .group t.group else .channel t.device t.channel

/-- Whether a target names somebody. Only a user that is known has groups. -/
def Target.Named (server : Server) (t : Target) : Prop :=
  t.user ≠ 0 ∧
    if t.group ≠ 0 then server.findUser t.user = true else t.device ≠ 0 ∧ t.channel ≠ 0

instance Target.decidableNamed (server : Server) (t : Target) : Decidable (t.Named server) :=
  inferInstanceAs (Decidable (t.user ≠ 0 ∧
    if t.group ≠ 0 then server.findUser t.user = true else t.device ≠ 0 ∧ t.channel ≠ 0))

namespace Server

variable (server : Server)

/-- The value of a channel that is named. -/
def value {V : Type} (value : Int32 → Int32 → Int32 → Option V) (user device channel : Int32) :
    Option V :=
  if user ≠ 0 ∧ device ≠ 0 ∧ channel ≠ 0 then value user device channel else none

end Server

end Ipc
