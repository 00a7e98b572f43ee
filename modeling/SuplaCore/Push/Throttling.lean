import Mathlib.Data.Finset.Card
import SuplaCore.Lib.Sys

/-!
# Throttling of push notifications

`supla_pn_throttling` (`supla-server/src/push/pn_throttling.cpp`), the runs of
`supla_pn_delivery_task::make_request` that call it (`pn_delivery_task.cpp`) and the loop over the
recipients of a platform (`abstract_pn_gateway_client.cpp`).

A run is a state of its own, so the calls of several runs mix in any order. What the outside
answers is part of the action: the time, the recipients that `load_content` finds, and what comes
of a message to a recipient. `window` counts the windows that were started for a user; it is not
in the source and nothing is decided by it.
-/

namespace Push

/-- The values of an `unsigned int`. -/
def uintSize : Nat := 4294967296

def toUnsigned (x : Int) : Nat := (x % (uintSize : Int)).toNat

structure Config where
  timeWindowSec : Nat
  /-- `supla_pn_dao::get_limit` of a user. -/
  getLimit : Int → Int

/-! ## The counter of a user -/

structure Item where
  /-- `first_time.tv_sec` -/
  firstTime : Int
  limit : Nat
  counter : Nat
  window : Nat
  deriving DecidableEq

def Item.new : Item := ⟨0, 0, 0, 0⟩

/-- The part of `is_delivery_possible` that ends an old window and starts a new one. -/
def Item.refresh (cfg : Config) (user now : Int) (it : Item) : Item :=
  let it :=
    if it.firstTime ≠ 0 ∧ now - it.firstTime ≥ (cfg.timeWindowSec : Int) then
      { it with firstTime := 0 }
    else it
  if it.firstTime = 0 then ⟨now, toUnsigned (cfg.getLimit user), 0, it.window + 1⟩ else it

structure Possible where
  result : Bool
  firstTimeExceeded : Bool

/-- The answer of `is_delivery_possible` once the message is counted. -/
def Item.possible (it : Item) : Possible :=
  ⟨decide (it.counter ≤ it.limit),
    decide (¬ it.counter ≤ it.limit ∧ it.counter = (it.limit + 1) % uintSize)⟩

def Item.count (it : Item) : Item := { it with counter := (it.counter + 1) % uintSize }

def isDeliveryPossible (cfg : Config) (user now : Int) (item : Option Item) : Item × Possible :=
  let it := ((item.getD .new).refresh cfg user now).count
  (it, it.possible)

def onMessageNotSent (item : Option Item) : Option Item :=
  item.map fun it => if it.counter > 0 then { it with counter := it.counter - 1 } else it

/-! ## The runs of `make_request` -/

inductive Platform
  | android
  | ios
  deriving DecidableEq

/-- How many recipients there are, by platform; no client is there for those in `other`. -/
structure Recipients where
  android : Nat
  ios : Nat
  other : Nat
  deriving DecidableEq

def Recipients.count (rs : Recipients) : Platform → Nat
  | .android => rs.android
  | .ios => rs.ios

def Recipients.totalCount (rs : Recipients) : Nat := rs.android + rs.ios + rs.other

/-- What a run delivers: nothing where there are no recipients and throttling was not asked
(`empty`), or where the delivery was refused (`refused`). -/
inductive Kind
  | empty
  | original
  | limitExceeded
  | refused
  deriving DecidableEq

inductive Pc
  | fresh
  /-- In the loop of `send` of a platform, at a recipient. -/
  | sending (p : Platform) (a : Nat)
  | finishing
  | done
  deriving DecidableEq

structure Run where
  user : Int
  kind : Kind
  /-- The window in which the run was counted. -/
  window : Nat
  recipients : Recipients
  pc : Pc
  anySent : Bool
  anyError : Bool
  fcmResult : Bool
  apnsResult : Bool
  deriving DecidableEq

def Run.new : Run := ⟨0, .empty, 0, ⟨0, 0, 0⟩, .fresh, false, false, false, false⟩

/-- What came of a message to a recipient: there is none any more, no valid token or no success,
success, or an `abort_exception`. -/
inductive SendAnswer
  | skipped
  | failed
  | sent
  | aborted
  deriving DecidableEq

/-- One turn of the loop of `send`. -/
def Run.send (r : Run) (p : Platform) (a : Nat) : SendAnswer → Run
  | .skipped => { r with pc := .sending p (a + 1) }
  | .failed => { r with anyError := true, pc := .sending p (a + 1) }
  | .sent => { r with anySent := true, pc := .sending p (a + 1) }
  | .aborted => { r with anyError := true, pc := .sending p (r.recipients.count p) }

/-- The next client after the loop of `send`, or the end. A client that is asked starts with
`*any_sent = false`. -/
def Run.next (r : Run) : Platform → Run
  | .android => { r with
      fcmResult := r.anySent && !r.anyError
      anySent := if r.recipients.ios > 0 then false else r.anySent
      anyError := false
      pc := .sending .ios 0 }
  | .ios => { r with apnsResult := r.anySent && !r.anyError, pc := .finishing }

/-- What `make_request` returns. -/
def Run.result (r : Run) : Bool :=
  let fcmRecipients := decide (r.recipients.android > 0)
  let apnsRecipients := decide (r.recipients.ios > 0)
  (fcmRecipients || apnsRecipients) && (!fcmRecipients || r.fcmResult) &&
    (!apnsRecipients || r.apnsResult)

/-- A message that was sent to a recipient: the run, its user, the window of the user at that time,
and whether it is the notice that the limit is exceeded. -/
structure Sent where
  run : Nat
  user : Int
  window : Nat
  notice : Bool
  deriving DecidableEq

structure State where
  items : Int → Option Item
  runs : Nat → Run
  sent : List Sent

def State.init : State := ⟨fun _ => none, fun _ => .new, []⟩

def State.setItem (s : State) (user : Int) (item : Option Item) : State :=
  { s with items := fun u => if u = user then item else s.items u }

def State.setRun (s : State) (i : Nat) (r : Run) : State :=
  { s with runs := fun j => if j = i then r else s.runs j }

/-- The window of a user, 0 before the first one. -/
def State.window (s : State) (user : Int) : Nat := ((s.items user).getD .new).window

inductive Act
  /-- `make_request` up to the first client: the recipients that are loaded, the time, and the
  recipients that are loaded again for the notice. -/
  | request (i : Nat) (user : Int) (recipients : Recipients) (now : Int) (reloaded : Recipients)
  | send (i : Nat) (answer : SendAnswer)
  | next (i : Nat)
  | finish (i : Nat)

/-- The run once it knows what to deliver. -/
def Run.start (user : Int) (kind : Kind) (window : Nat) (recipients : Recipients) : Run :=
  ⟨user, kind, window, recipients, .sending .android 0, false, false, false, false⟩

/-- What the answer of `is_delivery_possible` makes of a run, and whom it is sent to. -/
def Possible.deliver (p : Possible) (recipients reloaded : Recipients) : Kind × Recipients :=
  if p.result then (.original, recipients)
  else if p.firstTimeExceeded then (.limitExceeded, reloaded)
  else (.refused, ⟨0, 0, 0⟩)

def request (cfg : Config) (s : State) (i : Nat) (user : Int) (recipients : Recipients)
    (now : Int) (reloaded : Recipients) : State :=
  if recipients.totalCount > 0 then
    let p := isDeliveryPossible cfg user now (s.items user)
    let d := p.2.deliver recipients reloaded
    (s.setItem user (some p.1)).setRun i (.start user d.1 p.1.window d.2)
  else s.setRun i (.start user .empty 0 recipients)

/-- The message that a run sends now. -/
def State.message (s : State) (i : Nat) : Sent :=
  let r := s.runs i
  ⟨i, r.user, s.window r.user, decide (r.kind = .limitExceeded)⟩

def send (s : State) (i : Nat) (p : Platform) (a : Nat) (answer : SendAnswer) : State :=
  let sent := if answer = .sent then s.message i :: s.sent else s.sent
  { s.setRun i ((s.runs i).send p a answer) with sent := sent }

def finish (s : State) (i : Nat) : State :=
  let r := s.runs i
  let s := if r.anySent then s else s.setItem r.user (onMessageNotSent (s.items r.user))
  s.setRun i { r with pc := .done }

def step (cfg : Config) (s : State) : Act → Option State
  | .request i user recipients now reloaded =>
    match (s.runs i).pc with
    | .fresh => some (request cfg s i user recipients now reloaded)
    | _ => none
  | .send i answer =>
    match (s.runs i).pc with
    | .sending p a =>
      if a < (s.runs i).recipients.count p then some (send s i p a answer) else none
    | _ => none
  | .next i =>
    match (s.runs i).pc with
    | .sending p a =>
      if a < (s.runs i).recipients.count p then none else some (s.setRun i ((s.runs i).next p))
    | _ => none
  | .finish i =>
    match (s.runs i).pc with
    | .finishing => some (finish s i)
    | _ => none

def machine (cfg : Config) : Sys.Machine State Act where
  init s := s = .init
  step := step cfg

end Push
