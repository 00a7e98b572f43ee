import SuplaCore.Device.OnState
import SuplaCore.User.ChannelGroups

/-!
# Toggling a group

`supla_user_channelgroups::action_toggle` (`supla-server/src/user/userchannelgroups.cpp`): the
channels of a group are asked for their on-state until one is on, and then all of them are set.
`Devices` are the devices that are connected, with their channels; a command is the value that
`set_on` hands on for a channel.
-/

namespace User

open Device

/-- The devices that `get` finds, by identifier. -/
abbrev Devices := Int → Option (List Chan)

/-- What `find_channel` finds on the device of a pair. -/
def Devices.channel (devices : Devices) (p : DCPair) : Option Chan :=
  (devices p.deviceId).bind fun channels =>
    if p.channelId = 0 then none else channels.find? fun c => c.id = p.channelId

/-- A value for the channel of a pair. -/
abbrev Command := DCPair × Raw

variable (devices : Devices) (beyond : Nat → DCPair) (groups : List ChannelGroup) (groupId : Int)

def isOn (p : DCPair) : Bool := (devices.channel p).any Chan.isOn

def setOn (on : Bool) (p : DCPair) : Option Raw := (devices.channel p).bind fun c => c.setOn on false

/-- A loop over the channels of the group; `f` is called where the device is connected. -/
def eachChannel (breakOnSuccess : Bool) (f : DCPair → Bool) : Run :=
  forEachChannel ⟨fun _ deviceId => (devices deviceId).isSome, fun call => f call.pair, beyond⟩
    groups groupId breakOnSuccess

def anyOn : Bool := (eachChannel devices beyond groups groupId true (isOn devices)).result

/-- The state that is commanded, what the commands are, and the result. -/
def actionToggle : Bool × List Command × Bool :=
  let on := !anyOn devices beyond groups groupId
  let run := eachChannel devices beyond groups groupId false fun p => (setOn devices on p).isSome
  (on, run.calls.filterMap fun call => (setOn devices on call.pair).map (call.pair, ·), run.result)

/-- A channel once its device has applied the commands. -/
def received (commands : List Command) (deviceId : Int) (c : Chan) : Chan :=
  match commands.lookup ⟨deviceId, c.id⟩ with
  | some v => { c with value := v }
  | none => c

/-- The devices once they have applied the commands; the identifiers of channels differ. -/
def Devices.apply (commands : List Command) : Devices := fun deviceId =>
  (devices deviceId).map fun channels => channels.map (received commands deviceId)

end User
