import SuplaCore.Device.Register

/-!
# A registration is answered once and is atomic

Until it answers, a registration has done nothing but open its transaction (`Waiting`). Every way
out goes through `send_result`, which rolls back first (`sendResult_answer`), or through the commit
(`finish_answer`); `register_answers` is the case analysis over all of them.
-/

namespace Device

namespace ResultCode

/-- The codes after which the device counts as registered. -/
def succeeds : ResultCode → Bool
  | .true => Bool.true
  | .cfgModeRequested => Bool.true
  | .restartRequested => Bool.true
  | .identifyRequested => Bool.true
  | _ => false

/-- The codes that follow a commit. -/
def commits (code : ResultCode) : Bool := code.succeeds || decide (code = .deviceLocked)

end ResultCode

def Event.code : Event → Option ResultCode
  | .result code _ => some code
  | _ => none

namespace Reg

/-- A registration that was answered with `code`: one result message; committed if and only if the
code says so; otherwise rolled back before the message, with nothing left of the transaction. -/
structure Answer (code : ResultCode) (s : Reg) : Prop where
  once : s.trace.filterMap Event.code = [code]
  commit : Event.commit ∈ s.trace ↔ code.commits = true
  rolledBack : Event.startTransaction ∈ s.trace → code.commits = false →
    (∃ before after, s.trace = before ++ Event.rollback :: after ∧
      Event.startTransaction ∈ before ∧ before.filterMap Event.code = []) ∧
    ∀ w ∈ s.db.durable, w.2 = false
  success : Event.onRegistrationSuccess ∈ s.trace ↔ code.succeeds = true

/-- A registration that has not been answered. -/
structure Waiting (s : Reg) : Prop where
  rollback : s.shouldRollback = true
  durable : s.db.durable = []
  trace : (s.trace = [] ∧ s.db.inTransaction = false) ∨
    (s.trace = [.startTransaction] ∧ s.db.connected = true ∧ s.db.inTransaction = true)

/-- Inside the transaction. -/
structure Started (s : Reg) : Prop where
  rollback : s.shouldRollback = true
  durable : s.db.durable = []
  trace : s.trace = [.startTransaction]
  connected : s.db.connected = true
  open_ : s.db.inTransaction = true

theorem Started.waiting {s : Reg} (h : s.Started) : s.Waiting :=
  ⟨h.rollback, h.durable, .inr ⟨h.trace, h.connected, h.open_⟩⟩

section
variable (m : Message) (dao : Dao) {s : Reg}

/-- Only the connection, the trace and the flag matter. -/
theorem Started.congr {t : Reg} (h : s.Started) (hr : t.shouldRollback = s.shouldRollback)
    (hd : t.db = s.db) (ht : t.trace = s.trace) : t.Started :=
  ⟨hr.trans h.rollback, by rw [hd]; exact h.durable, ht.trans h.trace,
    by rw [hd]; exact h.connected, by rw [hd]; exact h.open_⟩

@[simp] theorem emit_trace (e : Event) (s : Reg) : (s.emit e).trace = s.trace ++ [e] := rfl

theorem Started.write (h : s.Started) (w : Write) : (s.write w).Started := by
  refine ⟨h.rollback, ?_, h.trace, ?_, ?_⟩
  · simp only [Reg.write, Db.write, h.open_, if_true]
    exact h.durable
  · simp only [Reg.write, Db.write, h.open_, if_true]
    exact h.connected
  · simp only [Reg.write, Db.write, h.open_, if_true]

/-! ## The channel report -/

/-- After the transaction the report writes rows of its own. -/
theorem prepareChannelReport_spec : ∀ (fs : List (UInt8 × Int)) (report : List UInt8 × Nat)
    {s : Reg}, s.db.inTransaction = false → (∀ w ∈ s.db.durable, w.2 = false) →
      (s.prepareChannelReport m dao fs report).2.trace = s.trace ∧
        ∀ w ∈ (s.prepareChannelReport m dao fs report).2.db.durable, w.2 = false := by
  intro fs
  induction fs with
  | nil => exact fun _ _ _ hd => ⟨rfl, hd⟩
  | cons f fs ih =>
    intro report s hn hd
    simp only [prepareChannelReport]
    split
    · refine ih _ ?_ ?_
      · simp only [Reg.write, Db.write, hn, Bool.false_eq_true, if_false]
      · intro w hw
        simp only [Reg.write, Db.write, hn, Bool.false_eq_true, if_false] at hw
        rcases List.mem_append.1 hw with hw | hw
        · exact hd w hw
        · rw [List.mem_singleton.1 hw]
    · exact ih _ hn hd

/-- What `send_result` leaves once the connection is closed. -/
theorem sendResult_spec {code : ResultCode} (hn : s.closeDb.db.inTransaction = false)
    (hd : code = .channelConflict → ∀ w ∈ s.closeDb.db.durable, w.2 = false) :
    (∃ report, (s.sendResult m dao code).trace = s.closeDb.trace ++ [.result code report]) ∧
      ((∀ w ∈ s.closeDb.db.durable, w.2 = false) →
        ∀ w ∈ (s.sendResult m dao code).db.durable, w.2 = false) := by
  unfold sendResult
  simp only
  split
  · rename_i hc
    obtain ⟨ht, hdur⟩ := prepareChannelReport_spec m dao dao.getChannelFragments
      (List.replicate channelReportMaxsize 0, 0) hn (hd hc)
    split
    · exact ⟨⟨_, by rw [emit, ht]⟩, fun _ => hdur⟩
    · exact ⟨⟨_, by rw [emit, ht]⟩, fun _ => hdur⟩
  · exact ⟨⟨_, rfl⟩, id⟩

/-- **Every answer before the commit**: the transaction is rolled back first. -/
theorem sendResult_answer {code : ResultCode} (h : s.Waiting) (hc : code.commits = false) :
    (s.sendResult m dao code).Answer code := by
  have hsucc : code.succeeds = false := by
    simp only [ResultCode.commits, Bool.or_eq_false_iff] at hc
    exact hc.1
  have hclose : s.closeDb.db.inTransaction = false ∧ s.closeDb.db.durable = [] ∧
      (s.closeDb.trace = [] ∨ s.closeDb.trace = [.rollback] ∨
        s.closeDb.trace = [.startTransaction, .rollback]) := by
    unfold closeDb
    split
    · rw [h.rollback]
      refine ⟨rfl, h.durable, ?_⟩
      rcases h.trace with ⟨ht, -⟩ | ⟨ht, -, -⟩
      · exact .inr (.inl (by simp [emit, ht]))
      · exact .inr (.inr (by simp [emit, ht]))
    · rename_i hconn
      rcases h.trace with ⟨ht, hn⟩ | ⟨-, hcon, -⟩
      · exact ⟨hn, h.durable, .inl ht⟩
      · exact absurd hcon hconn
  obtain ⟨hn, hdur, htr⟩ := hclose
  have hempty : ∀ w ∈ s.closeDb.db.durable, w.2 = false := by
    rw [hdur]
    nofun
  obtain ⟨⟨report, htrace⟩, hd⟩ := sendResult_spec m dao hn fun _ => hempty
  refine ⟨?_, ?_, fun hstart _ => ⟨?_, hd hempty⟩, ?_⟩
  · rw [htrace]
    rcases htr with ht | ht | ht <;> rw [ht] <;> rfl
  · rw [htrace, hc]
    rcases htr with ht | ht | ht <;> rw [ht] <;> simp
  · rw [htrace] at hstart ⊢
    rcases htr with ht | ht | ht
    · rw [ht] at hstart
      simp at hstart
    · rw [ht] at hstart
      simp at hstart
    · exact ⟨[.startTransaction], [.result code report], by rw [ht]; rfl, by simp, rfl⟩
  · rw [htrace, hsucc]
    rcases htr with ht | ht | ht <;> rw [ht] <;> simp

theorem resultCode_succeeds : (s.resultCode dao).succeeds = true := by
  unfold resultCode
  (repeat' split) <;> rfl

/-- **The answers after the commit.** -/
theorem afterCommit_answer (h : s.Started) : ∃ code, (s.commit.afterCommit m dao).Answer code := by
  have htr : s.commit.trace = [.startTransaction, .commit] := by
    rw [commit, h.trace]
    rfl
  have hclosed : ∀ {t : Reg}, t.db = s.commit.db → t.shouldRollback = false →
      t.closeDb.db.inTransaction = false ∧ t.closeDb.trace = t.trace := by
    intro t hdb hr
    have hc : t.db.connected = true := by
      rw [hdb]
      exact h.connected
    rw [closeDb, if_pos hc, hr]
    exact ⟨rfl, rfl⟩
  unfold afterCommit
  split
  · obtain ⟨hn, ht⟩ := @hclosed s.commit rfl rfl
    obtain ⟨⟨report, htrace⟩, -⟩ := @sendResult_spec m dao _ .deviceLocked hn nofun
    rw [ht, htr] at htrace
    refine ⟨.deviceLocked, ?_, ?_, nofun, ?_⟩
    · rw [htrace]
      rfl
    · rw [htrace]
      simp [ResultCode.commits]
    · rw [htrace]
      simp [ResultCode.succeeds]
  · have hcode := @resultCode_succeeds dao s.commit
    have hcommits : (s.commit.resultCode dao).commits = true := by
      simp [ResultCode.commits, hcode]
    have hconf : s.commit.resultCode dao ≠ .channelConflict := by
      intro he
      rw [he] at hcode
      cases hcode
    obtain ⟨hn, ht⟩ := @hclosed (s.commit.emit .onRegistrationSuccess) rfl rfl
    obtain ⟨⟨report, htrace⟩, -⟩ := sendResult_spec m dao hn fun he => absurd he hconf
    rw [ht, emit_trace, htr] at htrace
    refine ⟨s.commit.resultCode dao, ?_, ?_, fun _ hnot => ?_, ?_⟩
    · rw [emit_trace, htrace]
      rfl
    · rw [emit_trace, htrace]
      simp [hcommits]
    · rw [hcommits] at hnot
      cases hnot
    · rw [emit_trace, htrace]
      simp [hcode]

/-! ## Inside the transaction -/

theorem addChannel_started (h : s.Started) (a : Nat) : (s.addChannel m dao a).2.Started := by
  unfold addChannel
  simp only
  split
  · split
    · exact h
    · split
      · exact h.write _
      · have hw := h.write (.addChannel (m.channels a).number (m.channels a).type
          (m.channels a).defaultFunc (m.channels a).funcList)
        refine Started.write ?_ _
        exact hw.congr rfl rfl rfl
  · split
    · exact h
    · split
      · exact h.write _
      · exact h

theorem addChannelsLoop_started : ∀ (as : List Nat) (n : Nat) {s : Reg}, s.Started →
    (s.addChannelsLoop m dao as n).2.Started := by
  intro as
  induction as with
  | nil => exact fun _ _ h => h
  | cons a as ih =>
    intro n s h
    have ha := addChannel_started m dao h a
    rw [addChannelsLoop]
    split
    · exact h
    · split
      · rename_i heq
        rw [heq] at ha
        exact ha
      · rename_i heq
        rw [heq] at ha
        exact ih _ ha

/-- `add_channels` leaves the transaction open or has answered. -/
theorem addChannels_spec (h : s.Started) :
    ((s.addChannels m dao).1 = true ∧ (s.addChannels m dao).2.Started) ∨
      ((s.addChannels m dao).1 = false ∧ ∃ code, (s.addChannels m dao).2.Answer code) := by
  have hl := addChannelsLoop_started m dao (channelIndices m) 0 h
  unfold addChannels
  split
  · rename_i heq
    rw [heq] at hl
    exact .inr ⟨rfl, .channelConflict, sendResult_answer m dao hl.waiting rfl⟩
  · rename_i heq
    rw [heq] at hl
    split
    · exact .inr ⟨rfl, .channelConflict, sendResult_answer m dao hl.waiting rfl⟩
    · exact .inl ⟨rfl, hl⟩

/-- **Once there is a device** the registration is answered. -/
theorem registerChannels_answer (h : s.Started) :
    ∃ code, (s.registerChannels m dao).Answer code := by
  unfold registerChannels
  split
  · exact ⟨_, sendResult_answer m dao h.waiting rfl⟩
  split
  · exact ⟨_, sendResult_answer m dao h.waiting rfl⟩
  split
  · exact ⟨_, sendResult_answer m dao h.waiting rfl⟩
  have hch := addChannels_spec m dao h
  split
  · rename_i heq
    rw [heq] at hch
    rcases hch with ⟨hf, -⟩ | ⟨-, ha⟩
    · cases hf
    · exact ha
  · rename_i heq
    rw [heq] at hch
    rcases hch with ⟨-, hs⟩ | ⟨hf, -⟩
    · have hknown : ∀ {t : Reg}, t.Started → (t.updateKnown m).Started := by
        intro t ht
        refine Started.write ?_ _
        exact ht.congr rfl rfl rfl
      split
      · exact afterCommit_answer m dao (hs.write _)
      · split
        · exact ⟨_, sendResult_answer m dao (hknown hs).waiting rfl⟩
        · exact afterCommit_answer m dao (hknown hs)
    · cases hf

theorem addDeviceAt_spec (h : s.Started) (hl : s.locationId ≠ 0) :
    ((s.addDeviceAt m dao).1 = true ∧ (s.addDeviceAt m dao).2.Started) ∨
      ((s.addDeviceAt m dao).1 = false ∧ ∃ code, (s.addDeviceAt m dao).2.Answer code) := by
  have hw : ({ s with
      newDevice := true
      storedLocationId := s.locationId
      deviceId := dao.addDevice }.write (.addDevice s.locationId)).Started := by
    refine Started.write ?_ _
    exact h.congr rfl rfl rfl
  unfold addDeviceAt
  rw [if_pos hl]
  simp only
  split
  · exact .inr ⟨rfl, .temporarilyUnavailable, sendResult_answer m dao hw.waiting rfl⟩
  · exact .inl ⟨rfl, hw⟩

/-- `add_device` returns `false` only after an answer: a message of structure C has passed
`location_auth`, so its location is not 0. -/
theorem addDevice_spec (h : s.Started) (hl : m.isG = true ∨ s.locationId ≠ 0) :
    ((s.addDevice m dao).1 = true ∧ (s.addDevice m dao).2.Started) ∨
      ((s.addDevice m dao).1 = false ∧ ∃ code, (s.addDevice m dao).2.Answer code) := by
  have hloc : ∀ {id : Int} {enabled : Bool},
      ({ s with locationId := id, locationEnabled := enabled } : Reg).Started :=
    h.congr rfl rfl rfl
  unfold addDevice
  split
  · exact .inr ⟨rfl, .registrationDisabled, sendResult_answer m dao h.waiting rfl⟩
  split
  · exact .inr ⟨rfl, .deviceLimitexceeded, sendResult_answer m dao h.waiting rfl⟩
  split
  · split
    · rename_i hid
      exact addDeviceAt_spec m dao hloc hid
    · split
      · rename_i hid
        exact addDeviceAt_spec m dao hloc hid
      · have hz : ({ s with locationId := 0 } : Reg).Started := h.congr rfl rfl rfl
        exact .inr ⟨rfl, .noLocationAvailable, sendResult_answer m dao hz.waiting rfl⟩
  · rename_i hno
    refine addDeviceAt_spec m dao h fun hz => ?_
    rcases hl with hg | hl
    · exact hno ⟨hz, hg⟩
    · exact hl hz

/-! ## The whole call -/

/-- Connected and authorised, before the transaction. -/
structure Authorised (m : Message) (s : Reg) : Prop where
  rollback : s.shouldRollback = true
  db : s.db = ⟨true, false, [], []⟩
  trace : s.trace = []
  location : m.isG = true ∨ s.locationId ≠ 0

theorem Authorised.waiting (h : s.Authorised m) : s.Waiting :=
  ⟨h.rollback, by rw [h.db], .inl ⟨h.trace, by rw [h.db]⟩⟩

/-- The members that the database fills in change nothing else. -/
theorem Authorised.members {t : Reg} (h : s.Authorised m) (hr : t.shouldRollback = s.shouldRollback)
    (hd : t.db = s.db) (ht : t.trace = s.trace) (hl : s.locationId ≠ 0 → t.locationId ≠ 0) :
    t.Authorised m :=
  ⟨hr.trans h.rollback, hd.trans h.db, ht.trans h.trace, h.location.imp id hl⟩

theorem Authorised.setVariables (h : s.Authorised m) : (s.setVariables dao).Authorised m := by
  unfold Reg.setVariables
  split
  · split
    · exact h.members m rfl rfl rfl id
    · exact h
  · exact h

theorem Authorised.defaultLocation (h : s.Authorised m) : s.defaultLocation.Authorised m := by
  unfold Reg.defaultLocation
  split
  · rename_i hz
    exact h.members m rfl rfl rfl fun hl => absurd hz hl
  · exact h

theorem Authorised.startTransaction (h : s.Authorised m) :
    s.startTransaction.Started ∧ (m.isG = true ∨ s.startTransaction.locationId ≠ 0) := by
  refine ⟨⟨h.rollback, ?_, ?_, ?_, rfl⟩, h.location⟩
  · simp only [Reg.startTransaction, Db.startTransaction, h.db]
  · simp only [Reg.startTransaction, h.trace, List.nil_append]
  · simp only [Reg.startTransaction, Db.startTransaction, h.db]

theorem registerAuthorised_answer (h : s.Authorised m) :
    ∃ code, (s.registerAuthorised m dao).Answer code := by
  have hid : ({ s with deviceId := dao.getDeviceId } : Reg).Authorised m :=
    h.members m rfl rfl rfl id
  obtain ⟨hstart, hloc⟩ := ((hid.setVariables m dao).defaultLocation m).startTransaction m
  unfold registerAuthorised
  simp only
  split
  · exact ⟨_, sendResult_answer m dao (hid.waiting m) rfl⟩
  split
  · have hadd := addDevice_spec m dao hstart hloc
    split
    · rename_i heq
      rw [heq] at hadd
      rcases hadd with ⟨hf, -⟩ | ⟨-, ha⟩
      · cases hf
      · exact ha
    · rename_i heq
      rw [heq] at hadd
      rcases hadd with ⟨-, hs⟩ | ⟨hf, -⟩
      · exact registerChannels_answer m dao hs
      · cases hf
  · exact registerChannels_answer m dao hstart

theorem enter_waiting : (s.enter m).Waiting ∧ (s.enter m).connect.Waiting ∧
    (s.enter m).connect.db = ⟨true, false, [], []⟩ := by
  unfold enter
  simp only
  split
  · exact ⟨⟨rfl, rfl, .inl ⟨rfl, rfl⟩⟩, ⟨rfl, rfl, .inl ⟨rfl, rfl⟩⟩, rfl⟩
  · exact ⟨⟨rfl, rfl, .inl ⟨rfl, rfl⟩⟩, ⟨rfl, rfl, .inl ⟨rfl, rfl⟩⟩, rfl⟩

/-- `device_auth` authorises or has answered. -/
theorem deviceAuth_spec (hauth : (dao.locationAuth 0).1 = false) (h : s.Waiting)
    (hdb : s.db = ⟨true, false, [], []⟩) :
    ((s.deviceAuth m dao).1 = true ∧ (s.deviceAuth m dao).2.Authorised m) ∨
      ((s.deviceAuth m dao).1 = false ∧ ∃ code, (s.deviceAuth m dao).2.Answer code) := by
  have hw : ∀ {id : Int} {enabled : Bool},
      ({ s with userId := id, locationEnabled := enabled } : Reg).Waiting :=
    ⟨h.rollback, h.durable, h.trace⟩
  have htrace : s.trace = [] := by
    rcases h.trace with ⟨ht, -⟩ | ⟨-, -, hopen⟩
    · exact ht
    · rw [hdb] at hopen
      cases hopen
  unfold deviceAuth
  cases hcred : m.credentials with
  | c locationId =>
    simp only
    split
    · exact .inr ⟨rfl, .badCredentials, sendResult_answer m dao hw rfl⟩
    · rename_i ha
      split
      · exact .inr ⟨rfl, .badCredentials, sendResult_answer m dao hw rfl⟩
      · refine .inl ⟨rfl, h.rollback, hdb, htrace, .inr fun hz => ?_⟩
        -- location 0 does not pass `location_auth`
        simp only at hz
        rw [hz] at ha
        exact ha hauth
  | g authKey flags =>
    have hw' : ∀ {id : Int}, ({ s with userId := id } : Reg).Waiting :=
      ⟨h.rollback, h.durable, h.trace⟩
    simp only
    split
    · exact .inr ⟨rfl, .badCredentials, sendResult_answer m dao hw' rfl⟩
    · split
      · exact .inr ⟨rfl, .badCredentials, sendResult_answer m dao hw' rfl⟩
      · exact .inl ⟨rfl, h.rollback, hdb, htrace, .inl (by rw [Message.isG, hcred])⟩

end

/-- **A registration is answered exactly once and is atomic**, whatever the database answers, if no
location with id 0 can be authorised. -/
theorem register_answers (m : Message) (dao : Dao) (s : Reg)
    (hauth : (dao.locationAuth 0).1 = false) :
    ∃ code, (s.registerDevice m dao).Answer code := by
  obtain ⟨hwait, hconn, hdb⟩ := @enter_waiting m s
  unfold registerDevice
  simp only
  split
  · exact ⟨_, sendResult_answer m dao hwait rfl⟩
  split
  · exact ⟨_, sendResult_answer m dao hwait rfl⟩
  split
  · exact ⟨_, sendResult_answer m dao hwait rfl⟩
  have hspec := deviceAuth_spec m dao hauth hconn hdb
  split
  · rename_i heq
    rw [heq] at hspec
    rcases hspec with ⟨hf, -⟩ | ⟨-, ha⟩
    · cases hf
    · exact ha
  · rename_i heq
    rw [heq] at hspec
    rcases hspec with ⟨-, hs⟩ | ⟨hf, -⟩
    · exact registerAuthorised_answer m dao hs
    · cases hf

/-- A new device without channels, in a location that is authorised. -/
def newDeviceDao : Dao where
  protoVersion := 28
  connect := true
  locationAuth := fun id => (decide (id = 7), 1, true)
  authkeyAuth := (false, 0)
  getDeviceId := 0
  getDeviceVariables := none
  getDeviceRegEnabled := true
  getDeviceLimitLeft := 1
  getLocationId := fun _ => 0
  addDevice := 5
  getChannelProperties := fun _ => (0, 0, 0)
  addChannel := fun _ => 0
  getDeviceChannelCount := 0
  updateDevice := true
  getChannelFragments := []
  conflictConnect := fun _ => true
  lastCalcfgCommand := 0

def noChannels : Message := ⟨[1], .c 7, 0, fun _ => ⟨0, 0, 0, 0, 0⟩⟩

def newReg : Reg :=
  ⟨true, 0, false, false, true, false, false, 0, 0, 0, 0, 0, 0, ⟨false, false, [], []⟩, []⟩

/-- The device is registered. -/
theorem register_answers_new : (newReg.registerDevice noChannels newDeviceDao).trace =
      [.startTransaction, .commit, .onRegistrationSuccess, .result .true none,
        .afterRegistrationSuccess] ∧
    ∃ code, (newReg.registerDevice noChannels newDeviceDao).Answer code :=
  ⟨by decide, register_answers noChannels newDeviceDao newReg (by decide)⟩

end Reg

end Device
