import SuplaCore.Lib.Sys
import SuplaCore.Device.DeviceChannel

/-!
# The validity of a value

A channel with the deadline that its calls of `set_value` should have left (`Tracked.deadline`), and
a log of what `set_value` and `get_availability_status` did. The deadline of the channel is always
that one, and it holds off a value without a validity time; but the answer of
`get_availability_status` never depends on it (`getAvailabilityStatus_eq`).
-/

namespace Device

open Analyzer Sys

/-- A deadline that lies in the future; zero is none. -/
def Ahead (deadline now : TimeVal) : Prop := deadline ≠ .zero ∧ now.usecs < deadline.usecs

instance (deadline now : TimeVal) : Decidable (Ahead deadline now) :=
  inferInstanceAs (Decidable (_ ∧ _))

/-- A call of `set_value` or `get_availability_status`, with the deadline in force. -/
inductive ValidityEntry (D : Type)
  | set (a : DeviceChannel.SetValue) (now deadline : TimeVal) (before after : DeviceChannel D)
  | query (now deadline : TimeVal) (stored answer : AvailabilityStatus)

structure Tracked (D : Type) where
  channel : DeviceChannel D
  /-- The one of the last `set_value` that was accepted, or of the constructor. -/
  deadline : TimeVal
  log : List (ValidityEntry D)

inductive TrackedAct (D : Type)
  | act (a : ChannelAct D)
  | getAvailabilityStatus (now : TimeVal)

namespace Tracked

variable {D : Type} [JsonDouble D]

/-- The deadline after a call of `set_value`. -/
def deadlineAfter (a : DeviceChannel.SetValue) (now : TimeVal) (s : Tracked D) : TimeVal :=
  if s.channel.refuses a now then s.deadline
  else
    match a.validityTimeSec with
    | some sec => now.addSec sec
    | none => .zero

/-- The clock is not before 1970. -/
def step (s : Tracked D) : TrackedAct D → Option (Tracked D)
  | .act (.setValue a now) =>
    if 0 ≤ now.sec then
      some {
        channel := (s.channel.setValue a now).2
        deadline := s.deadlineAfter a now
        log := s.log ++ [.set a now s.deadline s.channel (s.channel.setValue a now).2] }
    else none
  | .act a => some { s with channel := a.apply s.channel }
  | .getAvailabilityStatus now =>
    if 0 ≤ now.sec then
      some { s with
        log := s.log ++ [.query now s.deadline s.channel.availabilityStatus
          (s.channel.getAvailabilityStatus now)] }
    else none

/-- A channel as it is constructed. -/
def create (r : DeviceChannel.Row D) (now : TimeVal) : Tracked D where
  channel := .create r now
  deadline := if r.validityTimeSec > 0 then now.addSec r.validityTimeSec else .zero
  log := []

end Tracked

variable {D : Type} [JsonDouble D]

def tracked (D : Type) [JsonDouble D] : Machine (Tracked D) (TrackedAct D) where
  init s := ∃ r now, 0 ≤ now.sec ∧ s = .create r now
  step := Tracked.step

/-- What `get_availability_status` should answer. -/
def dueStatus (now deadline : TimeVal) (stored : AvailabilityStatus) : AvailabilityStatus :=
  if stored = .offline ∧ Ahead deadline now then .online else stored

/-- What the property asks of a call. -/
def ValidityEntry.Ok : ValidityEntry D → Prop
  | .set a now deadline before after => a.validityTimeSec = none → Ahead deadline now →
      after.value = before.value ∧ after.valueValidTo = before.valueValidTo
  | .query now deadline stored answer => answer = dueStatus now deadline stored

structure Tracked.Contract (s : Tracked D) : Prop where
  calls : ∀ e ∈ s.log, e.Ok
  inForce : s.channel.valueValidTo = s.deadline

/-- A channel that is stored as offline is asked while a deadline lies ahead. -/
def ValidityEntry.OfflineAhead : ValidityEntry D → Prop
  | .set _ _ _ _ _ => False
  | .query now deadline stored _ => stored = .offline ∧ Ahead deadline now

/-! ## The functions -/

namespace DeviceChannel

omit [JsonDouble D]

/-- The answer is the stored status: the negated clock is at most one. -/
theorem getAvailabilityStatus_eq (c : DeviceChannel D) (hdeadline : 0 ≤ c.valueValidTo.sec)
    (now : TimeVal) : c.getAvailabilityStatus now = c.availabilityStatus := by
  unfold getAvailabilityStatus
  split
  · rename_i hset
    apply if_neg
    intro hpos
    have hle : lnot now.usecs ≤ 1 := by
      unfold lnot
      split <;> omega
    unfold TimeVal.usecs at hpos hle
    omega
  · rfl

/-- A deadline that lies ahead holds off a value without a validity time. -/
theorem setValue_ahead (c : DeviceChannel D) {a : SetValue} {now : TimeVal}
    (ha : a.validityTimeSec = none) (hahead : Ahead c.valueValidTo now) :
    c.setValue a now = (false, c) := by
  obtain ⟨hset, hlt⟩ := hahead
  have hdeadline : c.valueValidTo.usec ≠ 0 ∨ c.valueValidTo.sec ≠ 0 := TimeVal.ne_zero_iff.mp hset
  have hleft : c.valueValidTo.usecs - now.usecs > 0 := by omega
  have hrefuse : c.refuses a now = true := by
    simp [refuses, ha, hdeadline, hlt]
  rw [setValue, if_pos hrefuse]

/-- The deadline after a call of `set_value`. -/
theorem setValue_validTo (c : DeviceChannel D) (a : SetValue) (now : TimeVal) :
    (c.setValue a now).2.valueValidTo =
      if c.refuses a now then c.valueValidTo
      else
        match a.validityTimeSec with
        | some sec => now.addSec sec
        | none => .zero := by
  unfold setValue
  split
  · rfl
  · obtain ⟨value, validity, status, differ⟩ := a
    cases validity <;> cases status <;> simp only [setAvailabilityStatus_snd]

end DeviceChannel

/-- Only `set_value` touches the deadline. -/
theorem ChannelAct.validTo (a : ChannelAct D) (ha : ∀ b now, a ≠ .setValue b now)
    (c : DeviceChannel D) : (a.apply c).valueValidTo = c.valueValidTo := by
  cases a with
  | setFunc func =>
    simp only [ChannelAct.apply, DeviceChannel.setFunc]
    split <;> rfl
  | registerFlags flags =>
    simp only [ChannelAct.apply, DeviceChannel.registerFlags, DeviceChannel.addInitFlags]
    split <;> rfl
  | setJsonConfig config => rfl
  | setExtendedValue ev now =>
    simp only [ChannelAct.apply, DeviceChannel.setExtendedValue]
    split <;> rfl
  | setAvailabilityStatus status =>
    simp only [ChannelAct.apply, DeviceChannel.setAvailabilityStatus_snd]
  | setValue b now => exact absurd rfl (ha b now)

/-! ## All runs -/

/-- What a call did, right or wrong. -/
def ValidityEntry.Did : ValidityEntry D → Prop
  | .set a now deadline before after => (ValidityEntry.set a now deadline before after).Ok
  | .query _ _ stored answer => answer = stored

structure Tracked.Inv (s : Tracked D) : Prop where
  nonneg : 0 ≤ s.deadline.sec
  inForce : s.channel.valueValidTo = s.deadline
  did : ∀ e ∈ s.log, e.Did

namespace Tracked

theorem inv_create (r : DeviceChannel.Row D) {now : TimeVal} (hnow : 0 ≤ now.sec) :
    (create r now).Inv where
  nonneg := by
    unfold create
    split
    · show 0 ≤ now.sec + _
      omega
    · exact Int.le_refl 0
  inForce := rfl
  did := by
    intro e he
    cases he

omit [JsonDouble D] in
theorem deadlineAfter_nonneg {s : Tracked D} (hs : 0 ≤ s.deadline.sec) (a : DeviceChannel.SetValue)
    {now : TimeVal} (hnow : 0 ≤ now.sec) : 0 ≤ (deadlineAfter a now s).sec := by
  unfold deadlineAfter
  split
  · exact hs
  · cases a.validityTimeSec with
    | some sec =>
      show 0 ≤ now.sec + _
      omega
    | none => exact Int.le_refl 0

omit [JsonDouble D] in
theorem did_append {log : List (ValidityEntry D)} (h : ∀ e ∈ log, e.Did) {e : ValidityEntry D}
    (he : e.Did) : ∀ e' ∈ log ++ [e], e'.Did := by
  intro e' hmem
  rw [List.mem_append, List.mem_singleton] at hmem
  obtain hold | rfl := hmem
  · exact h e' hold
  · exact he

omit [JsonDouble D] in
/-- A call of `set_value` keeps the deadline, and is refused while it lies ahead. -/
theorem inv_setValue {s : Tracked D} (hs : s.Inv) (a : DeviceChannel.SetValue) {now : TimeVal}
    (hnow : 0 ≤ now.sec) :
    Inv {
      channel := (s.channel.setValue a now).2
      deadline := s.deadlineAfter a now
      log := s.log ++ [.set a now s.deadline s.channel (s.channel.setValue a now).2] } where
  nonneg := deadlineAfter_nonneg hs.nonneg a hnow
  inForce := by
    show (s.channel.setValue a now).2.valueValidTo = s.deadlineAfter a now
    rw [DeviceChannel.setValue_validTo, deadlineAfter, hs.inForce]
  did := by
    apply did_append hs.did
    intro hnone hahead
    rw [← hs.inForce] at hahead
    rw [DeviceChannel.setValue_ahead _ hnone hahead]
    exact ⟨rfl, rfl⟩

omit [JsonDouble D] in
theorem inv_query {s : Tracked D} (hs : s.Inv) (now : TimeVal) :
    Inv { s with
      log := s.log ++ [.query now s.deadline s.channel.availabilityStatus
        (s.channel.getAvailabilityStatus now)] } where
  nonneg := hs.nonneg
  inForce := hs.inForce
  did := by
    apply did_append hs.did
    exact DeviceChannel.getAvailabilityStatus_eq _ (hs.inForce ▸ hs.nonneg) now

theorem inv_act {s : Tracked D} (hs : s.Inv) {a : ChannelAct D}
    (ha : ∀ b now, a ≠ .setValue b now) : Inv { s with channel := a.apply s.channel } where
  nonneg := hs.nonneg
  inForce := (a.validTo ha s.channel).trans hs.inForce
  did := hs.did

/-- A step other than a call of `set_value` or of `get_availability_status`. -/
theorem step_act (s : Tracked D) {a : ChannelAct D} (ha : ∀ b now, a ≠ .setValue b now) :
    step s (.act a) = some { s with channel := a.apply s.channel } := by
  cases a with
  | setValue b now => exact absurd rfl (ha b now)
  | _ => rfl

theorem inv_step {s s' : Tracked D} {a : TrackedAct D} (hs : s.Inv)
    (h : (tracked D).step s a = some s') : s'.Inv := by
  change step s a = some s' at h
  cases a with
  | getAvailabilityStatus now =>
    simp only [step, Option.ite_none_right_eq_some] at h
    obtain ⟨-, h⟩ := h
    cases h
    exact inv_query hs now
  | act a =>
    by_cases ha : ∀ b now, a ≠ .setValue b now
    · rw [step_act s ha] at h
      cases h
      exact inv_act hs ha
    · simp only [not_forall, not_not] at ha
      obtain ⟨b, now, rfl⟩ := ha
      simp only [step, Option.ite_none_right_eq_some] at h
      obtain ⟨hnow, h⟩ := h
      cases h
      exact inv_setValue hs b hnow

theorem inv_of_reach {s : Tracked D} (h : Reach (tracked D) Any s) : s.Inv := by
  apply h.invariant
  · rintro s ⟨r, now, hnow, rfl⟩
    exact inv_create r hnow
  · intro s s' a _ hs hstep
    exact inv_step hs hstep

omit [JsonDouble D] in
/-- The stored status is the right answer, but for one that is offline with time left. -/
theorem dueStatus_eq_iff {now deadline : TimeVal} {stored : AvailabilityStatus} :
    stored = dueStatus now deadline stored ↔ ¬ (stored = .offline ∧ Ahead deadline now) := by
  unfold dueStatus
  split
  · rename_i hdue
    rw [hdue.1]
    exact iff_of_false (by decide) (by simp [hdue.2])
  · rename_i hdue
    exact iff_of_true rfl hdue

omit [JsonDouble D] in
theorem ok_iff {e : ValidityEntry D} (he : e.Did) : e.Ok ↔ ¬ e.OfflineAhead := by
  cases e with
  | set a now deadline before after => exact iff_of_true he id
  | query now deadline stored answer =>
    change answer = stored at he
    subst he
    exact dueStatus_eq_iff

/-- **The contract of the validity** of values holds in a run exactly when no channel that is stored
as offline is asked for its status while a deadline lies ahead. -/
theorem contract_iff {s : Tracked D} (h : Reach (tracked D) Any s) :
    s.Contract ↔ ∀ e ∈ s.log, ¬ e.OfflineAhead := by
  have hinv := inv_of_reach h
  constructor
  · intro hc e he
    exact (ok_iff (hinv.did e he)).mp (hc.calls e he)
  · intro hnone
    refine ⟨?_, hinv.inForce⟩
    intro e he
    exact (ok_iff (hinv.did e he)).mpr (hnone e he)

/-! A channel that is offline during registration, with the value that the database has of it valid
for a minute. -/

private def epoch : TimeVal := { TimeVal.zero with sec := 1000 }

private def offlineChannel : Tracked Nat :=
  create
    ⟨0, 0, SUPLA_CHANNEL_FLAG_OFFLINE_DURING_REGISTRATION, .replicate 8 0, 60, .mk .null []⟩ epoch

theorem offlineChannel_init : (tracked Nat).init offlineChannel := ⟨_, epoch, by decide, rfl⟩

/-- It comes online with a value of its own. -/
private def wakes : List (TrackedAct Nat) :=
  [.act (.setValue ⟨.replicate 8 1, some 30, some .online, true⟩ epoch),
    .getAvailabilityStatus epoch]

theorem contract_iff_wakes :
    ∃ s : Tracked Nat, (tracked Nat).run offlineChannel wakes = some s ∧ s.Contract := by
  refine ⟨_, rfl, ?_⟩
  have hreach : Reach (tracked Nat) Any _ :=
    .run (.init offlineChannel_init) (rfl : (tracked Nat).run offlineChannel wakes = some _)
  refine (contract_iff hreach).mpr ?_
  intro e he
  change e ∈ [_, _] at he
  rw [List.mem_pair] at he
  obtain rfl | rfl := he
  · exact id
  · intro h
    exact absurd h.1 (by decide)

/-- It is offline in spite of the time that its value has left. -/
theorem offline_ahead_offline :
    ¬ ∀ s : Tracked Nat, Reach (tracked Nat) Any s → s.Contract := by
  intro hall
  have hrun : (tracked Nat).run offlineChannel [.getAvailabilityStatus epoch] =
      some { offlineChannel with
        log := [.query epoch ⟨1060, 0, by decide⟩ .offline .offline] } := rfl
  have hcontract := hall _ (Reach.run (.init offlineChannel_init) hrun)
  have hanswer : AvailabilityStatus.offline = dueStatus epoch ⟨1060, 0, by decide⟩ .offline :=
    hcontract.calls _ (List.mem_singleton_self _)
  exact absurd hanswer (by decide)

end Tracked

end Device
