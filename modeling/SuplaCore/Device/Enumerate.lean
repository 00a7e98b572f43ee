import SuplaCore.Conn.Objects
import SuplaCore.Lib.Loop

/-!
# The channels of all devices

`supla_device_channel::for_each` (`supla-server/src/device/devicechannel.cpp`) with the loops it
consists of, `supla_device_channels::for_each` and `supla_connection_objects::for_each`. A device is
an object of the connections of its user; a channel is what its device knows of it, and its id.
-/

namespace ConnectionObjects

/-- `for_each` over the objects that are alive. -/
def Objects.forEach {G σ : Type} (s : Objects G) (onObject : Nat → σ → Bool × σ) : σ → σ :=
  Loop.forEach (fun obj st => if s.expired obj then (true, st) else onObject obj st) s.objects

end ConnectionObjects

namespace Device

open ConnectionObjects (Objects)

variable {G C σ : Type}

/-- `supla_device_channel::for_each`, of a channel with the given id and device. Nothing tells the
loop over the devices to stop. -/
def forEach (user : Option (Objects G)) (channels : Nat → List C) (device : Nat) (id : Int)
    (anyDevice : Bool) (onChannelProperties : C → σ → Bool × σ) (st : σ) : σ :=
  let st := Loop.forEach onChannelProperties (channels device) st
  match user with
  | some devices =>
    if anyDevice then
      devices.forEach (fun device st =>
        (true, if devices.id device ≠ id then Loop.forEach onChannelProperties (channels device) st
          else st)) st
    else st
  | none => st

end Device
