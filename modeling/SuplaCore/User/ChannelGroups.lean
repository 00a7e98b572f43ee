import Mathlib.Data.List.Sort
import SuplaCore.Lib.Loop

/-!
# The channels of a group

`supla_user_channelgroups::for_each_channel` (`supla-server/src/user/userchannelgroups.cpp`) over
the sorted list of `dcpair` (`dcpair.cpp`). A list iterator is a position: `cell` is what it points
to, and from the end of the list on that is whatever the memory holds (`beyond`). `Run` records the
calls of the function and the positions that were read.

Devices come and go while the loop runs, so `connected` and the function depend on the position that
is visited. Equal pairs cannot be told apart, so it does not matter how `std::list::sort` orders
them with a comparison that is not strict.
-/

namespace User

/-- `dcpair` -/
structure DCPair where
  deviceId : Int
  channelId : Int
  deriving Repr, DecidableEq

def DCPair.compare (p1 p2 : DCPair) : Bool :=
  p1.deviceId < p2.deviceId || (p1.deviceId = p2.deviceId && p1.channelId ≤ p2.channelId)

def sortByDeviceId (pairs : List DCPair) : List DCPair :=
  pairs.insertionSort fun p1 p2 => p1.compare p2 = true

/-- `supla_user_channelgroup` -/
structure ChannelGroup where
  groupId : Int
  channelId : Int
  deviceId : Int
  deriving Repr, DecidableEq

def findChannels (groups : List ChannelGroup) (groupId : Int) : List DCPair :=
  (groups.filter fun g => g.groupId = groupId).map fun g => ⟨g.deviceId, g.channelId⟩

/-- A call of the function, at the position that is visited. -/
structure Call where
  index : Nat
  pair : DCPair
  eol : Bool
  deriving Repr, DecidableEq

structure Env where
  connected : Nat → Int → Bool
  f : Call → Bool
  beyond : Nat → DCPair

structure Run where
  calls : List Call := []
  reads : List Nat := []
  result : Bool := false
  deriving Repr, DecidableEq

variable (e : Env) (pairs : List DCPair)

def cell (it : Nat) : DCPair := (pairs[it]?).getD (e.beyond it)

/-- `last_one`, with the positions it reads. -/
def lastOne (it : Nat) : Bool × List Nat :=
  if it = pairs.length then (true, [])
  else (decide ((cell e pairs it).deviceId ≠ (cell e pairs (it + 1)).deviceId), [it, it + 1])

/-- The body of the loop. The flag is an argument of the function, so it is computed only where the
device is connected. -/
def visit (it : Nat) (r : Run) : Run :=
  let p := cell e pairs it
  if e.connected it p.deviceId then
    let last := lastOne e pairs it
    let call : Call := ⟨it, p, last.1⟩
    { calls := r.calls ++ [call]
      reads := r.reads ++ it :: last.2
      result := r.result || e.f call }
  else { r with reads := r.reads ++ [it] }

def visitAll (breakOnSuccess : Bool) : Run :=
  Loop.forEach (fun it r => (!(breakOnSuccess && (visit e pairs it r).result), visit e pairs it r))
    (List.range pairs.length) {}

def forEachChannel (groups : List ChannelGroup) (groupId : Int) (breakOnSuccess : Bool) : Run :=
  visitAll e (sortByDeviceId (findChannels groups groupId)) breakOnSuccess

end User
