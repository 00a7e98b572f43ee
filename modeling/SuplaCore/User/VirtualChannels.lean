import SuplaCore.Lib.Sys

/-!
# Virtual channels

`supla_user_devices::update_virtual_channels` (`supla-server/src/user/userdevices.cpp`) with the
query of `supla_user_dao::get_virtual_channels` (`user_dao.cpp`), for one user: other processes
write the values of the channels into the database, and an update reads what was written since the
last one. The query, the merge and the time that is set at the end are three steps under one lock.

A clock of microseconds is read by everyone; the database keeps whole seconds. Left out: what the
other columns of a row say of a channel, and the events that a changed value raises.
-/

namespace User

open Sys

variable {V : Type}

/-- `supla_virtual_channel`. -/
structure VirtualChannel (V : Type) where
  channelId : Int
  value : V
  deriving DecidableEq

/-- A row of `supla_dev_channel_value`. -/
structure Row (V : Type) where
  channel : VirtualChannel V
  updateTime : Nat
  deriving DecidableEq

/-- `tv_sec`. -/
def tvSec (now : Nat) : Nat := now / 1000000

/-- `get_virtual_channels`, where the database can be reached. -/
def getVirtualChannels (since : Nat) (rows : List (Row V)) : List (VirtualChannel V) :=
  (rows.filter fun r => r.updateTime > since).map (·.channel)

/-- `*tit = *it` for the first cached channel with the same id. -/
def assign (it : VirtualChannel V) : List (VirtualChannel V) → Option (List (VirtualChannel V))
  | [] => none
  | tit :: cached =>
    if it.channelId = tit.channelId then some (it :: cached)
    else (assign it cached).map (tit :: ·)

/-- The first loop of `update_virtual_channels`: the channels that were not found, and the cache. -/
def assignAll : List (VirtualChannel V) → List (VirtualChannel V) →
    List (VirtualChannel V) × List (VirtualChannel V)
  | [], cached => ([], cached)
  | it :: channels, cached =>
    match assign it cached with
    | some cached => assignAll channels cached
    | none =>
      let rest := assignAll channels cached
      (it :: rest.1, rest.2)

/-- Both loops. -/
def merge (channels cached : List (VirtualChannel V)) : List (VirtualChannel V) :=
  let r := assignAll channels cached
  r.2 ++ r.1

/-- Where an update stands. -/
inductive Progress (V : Type)
  | none
  /-- before the merge, with the channels of the query -/
  | queried (channels : List (VirtualChannel V))
  /-- before `gettimeofday(&virtual_channels_update_time, …)` -/
  | merged

/-- The database and the devices of the user. -/
structure UserDevices (V : Type) where
  now : Nat
  rows : List (Row V)
  virtualChannels : List (VirtualChannel V)
  /-- `virtual_channels_update_time.tv_sec` -/
  updateTime : Nat
  progress : Progress V

/-- A write of another process to the row of a channel, which is added if there is none. -/
def writeRow (r : Row V) : List (Row V) → List (Row V)
  | [] => [r]
  | row :: rows =>
    if row.channel.channelId = r.channel.channelId then r :: rows else row :: writeRow r rows

inductive Act (V : Type)
  | tick (us : Nat)
  | write (channel : VirtualChannel V)
  /-- `update_virtual_channels` with its query; `reachable`: the database answers -/
  | update (reachable : Bool)
  /-- the same from `update_virtual_channels_if_never_updated` -/
  | updateIfNeverUpdated (reachable : Bool)
  | merge
  /-- `gettimeofday` at the end -/
  | stamp

namespace UserDevices

def query (reachable : Bool) (s : UserDevices V) : UserDevices V :=
  { s with progress := .queried (if reachable then getVirtualChannels s.updateTime s.rows else []) }

def step (s : UserDevices V) : Act V → Option (UserDevices V)
  | .tick us => some { s with now := s.now + us }
  | .write channel => some { s with rows := writeRow ⟨channel, tvSec s.now⟩ s.rows }
  | .update reachable =>
    match s.progress with
    | .none => some (s.query reachable)
    | _ => none
  | .updateIfNeverUpdated reachable =>
    match s.progress with
    | .none => some (if s.updateTime = 0 then s.query reachable else s)
    | _ => none
  | .merge =>
    match s.progress with
    | .queried channels =>
      some { s with virtualChannels := User.merge channels s.virtualChannels, progress := .merged }
    | _ => none
  | .stamp =>
    match s.progress with
    | .merged => some { s with updateTime := tvSec s.now, progress := .none }
    | _ => none

end UserDevices

/-- Updates and writes, from a user whose channels were never read. -/
def userDevices (V : Type) : Machine (UserDevices V) (Act V) where
  init s := (s.rows.map (·.channel.channelId)).Nodup ∧
    (∀ r ∈ s.rows, 0 < r.updateTime ∧ r.updateTime ≤ tvSec s.now) ∧ s.virtualChannels = [] ∧
      s.updateTime = 0 ∧ s.progress = .none
  step := UserDevices.step

end User
