import Mathlib.Data.List.Nodup
import SuplaCore.Client.Register

/-!
# Who is admitted as a client

Up to its answer a registration keeps `Pending`: nothing has been sent, and a transaction that is
open will be rolled back by `send_result` (`sendResult_answered`). A call that comes to its end
(`finish`) has a client (`Ready`); the two flags then decide. They describe the final access
identifier on every path but one (`Describes`): for structure B and a known client they may also
come from the identifier that the client had before (`Misled`, `admits_iff`).
-/

namespace Client

variable {c : Call} {srv : Server} {req : Request} {db : Tables} {s t : Reg}

/-! ## What a call has to keep -/

def Event.code : Event → Option ResultCode
  | .result _ code _ => some code
  | _ => none

/-- A transaction is open after the events. -/
def openAfter (trace : List Event) : Bool :=
  trace.foldl (fun isOpen e =>
    match e with
    | .startTransaction => true
    | .commit => false
    | .rollback => false
    | _ => isOpen) false

/-- One answer, none through `authenticate`; a transaction that was not committed is rolled back
before it; and `authenticate` writes nothing. -/
structure Answered (c : Call) (db : Tables) (s : Reg) : Prop where
  once : s.trace.filterMap Event.code = if c.restricted then [] else [s.resultCode]
  closed : ∀ before variant code id after,
    s.trace = before ++ Event.result variant code id :: after → openAfter before = false
  untouched : c.restricted = true → s.trace = [] ∧ s.db.durable = db

/-- The lookup of the credentials finds a user. -/
def Request.Accepted (srv : Server) (db : Tables) : Request → Prop
  | .b m => ∃ a, Reg.accessIdAuth srv m db = some a ∧ a.userId ≠ 0
  | .d m => ∃ userId, Reg.authkeyAuth srv m db = some userId ∧ userId ≠ 0

/-- The client is enabled, and so is its access identifier, which is active too. -/
structure Admitted (c : Call) (srv : Server) (db : Tables) (s : Reg) : Prop where
  credentials : c.request.Accepted srv db
  client : ∃ row ∈ s.db.durable.clients, row.id = s.clientId ∧ row.enabled = true
  accessId : ∃ a ∈ s.db.durable.accessIds,
    a.id = s.accessId ∧ a.enabled = true ∧ a.isNowActive = true

namespace Reg

/-! ## Up to the answer -/

/-- A call that has not answered. -/
structure Pending (c : Call) (db : Tables) (s : Reg) : Prop where
  restrict : s.restrictToAuthentication = c.restricted
  dontSend : s.dontSendResult = c.restricted
  unsent : s.trace.filterMap Event.code = []
  rollback : openAfter s.trace = true → s.shouldRollback = true ∧ s.db.connected = true
  untouched : c.restricted = true → s.trace = [] ∧ s.db.durable = db ∧ s.shouldRollback = false

/-- What the steps between the DAO's writes leave alone. -/
structure Frame (s t : Reg) : Prop where
  restrict : t.restrictToAuthentication = s.restrictToAuthentication
  dontSend : t.dontSendResult = s.dontSendResult
  shouldRollback : t.shouldRollback = s.shouldRollback
  trace : t.trace = s.trace
  db : t.db = s.db
  clientId : t.clientId = s.clientId

theorem Frame.trans {u : Reg} (h : Frame s t) (h' : Frame t u) : Frame s u :=
  ⟨h'.restrict.trans h.restrict, h'.dontSend.trans h.dontSend,
    h'.shouldRollback.trans h.shouldRollback, h'.trace.trans h.trace, h'.db.trans h.db,
    h'.clientId.trans h.clientId⟩

theorem openAfter_append (trace : List Event) (e : Event) :
    openAfter (trace ++ [e]) = match e with
      | .startTransaction => true
      | .commit => false
      | .rollback => false
      | _ => openAfter trace := by
  rw [openAfter, List.foldl_append]
  cases e <;> rfl

theorem code_append (trace : List Event) (e : Event) (h : trace.filterMap Event.code = []) :
    (trace ++ [e]).filterMap Event.code = e.code.toList := by
  rw [List.filterMap_append, h, List.nil_append]
  cases e <;> rfl

namespace Pending

theorem congr (h : s.Pending c db) (hr : t.restrictToAuthentication = s.restrictToAuthentication)
    (hd : t.dontSendResult = s.dontSendResult) (hs : t.shouldRollback = s.shouldRollback)
    (ht : t.trace = s.trace) (hc : s.db.connected = true → t.db.connected = true)
    (hu : c.restricted = true → t.db.durable = s.db.durable) : t.Pending c db := by
  refine ⟨hr.trans h.restrict, hd.trans h.dontSend, ht ▸ h.unsent, fun ho => ?_, fun hc => ?_⟩
  · obtain ⟨h1, h2⟩ := h.rollback (ht ▸ ho)
    exact ⟨hs.trans h1, hc h2⟩
  · obtain ⟨h1, h2, h3⟩ := h.untouched hc
    exact ⟨ht.trans h1, (hu hc).trans h2, hs.trans h3⟩

theorem frame (h : s.Pending c db) (hf : Frame s t) : t.Pending c db :=
  h.congr hf.restrict hf.dontSend hf.shouldRollback hf.trace (fun hc => hf.db ▸ hc)
    fun _ => congrArg Session.durable hf.db

/-- Only a registration goes on to its transaction. -/
theorem emit (h : s.Pending c db) (hc : c.restricted = false) {e : Event} (he : e.code = none)
    (ho : openAfter (s.trace ++ [e]) = true → s.shouldRollback = true ∧ s.db.connected = true) :
    (s.emit e).Pending c db :=
  ⟨h.restrict, h.dontSend, (code_append _ _ h.unsent).trans (by rw [he]; rfl), ho,
    fun hr => absurd (hr.symm.trans hc) (by decide)⟩

end Pending

/-! ## The answer -/

/-- `send_result` leaves a rollback behind if there is something to roll back. -/
theorem closeDb_trace (s : Reg) : s.closeDb.trace =
    if s.db.connected = true ∧ s.shouldRollback = true then s.trace ++ [.rollback]
    else s.trace := by
  unfold closeDb
  by_cases hc : s.db.connected = true <;> by_cases hr : s.shouldRollback = true <;>
    by_cases hs : s.stayConnected = true <;> simp [hc, hr, hs, emit]

/-- Of what the caller sees only the trace and the connection change. -/
theorem closeDb_same (s : Reg) : s.closeDb.dontSendResult = s.dontSendResult ∧
    s.closeDb.resultCode = s.resultCode ∧ s.closeDb.accessId = s.accessId ∧
    s.closeDb.clientId = s.clientId ∧ s.closeDb.db.durable = s.db.durable := by
  unfold closeDb
  by_cases hc : s.db.connected = true <;> by_cases hr : s.shouldRollback = true <;>
    by_cases hs : s.stayConnected = true <;>
    simp [hc, hr, hs, emit, Session.disconnect, Session.rollback]

theorem Pending.closeDb_trace (h : s.Pending c db) :
    s.closeDb.trace.filterMap Event.code = [] ∧ openAfter s.closeDb.trace = false ∧
      (c.restricted = true → s.closeDb.trace = []) := by
  rw [Reg.closeDb_trace]
  split
  · rename_i hr
    refine ⟨code_append _ _ h.unsent, openAfter_append _ _, fun hc => ?_⟩
    exact absurd (hr.2.symm.trans (h.untouched hc).2.2) (by decide)
  · rename_i hr
    exact ⟨h.unsent, Bool.eq_false_iff.mpr fun ho => hr (h.rollback ho).symm,
      fun hc => (h.untouched hc).1⟩

/-- Where the only answer is the last event, `closed` is about what comes before. -/
theorem closed_of_last {trace : List Event} {tail : List Event} {e : Event}
    (hunsent : trace.filterMap Event.code = []) (htail : tail.filterMap Event.code = [])
    (hopen : openAfter trace = false) (before : List Event) (variant : ResultVariant)
    (code : ResultCode) (id : Int) (after : List Event)
    (h : trace ++ e :: tail = before ++ Event.result variant code id :: after) :
    openAfter before = false := by
  have hmem : ∀ l : List Event, l.filterMap Event.code = [] →
      Event.result variant code id ∉ l := by
    intro l hl hm
    have hcode : code ∈ l.filterMap Event.code := List.mem_filterMap.mpr ⟨_, hm, rfl⟩
    rw [hl] at hcode
    exact absurd hcode List.not_mem_nil
  rcases List.append_eq_append_iff.mp h with ⟨mid, rfl, hmid⟩ | ⟨mid, rfl, hmid⟩
  · cases mid with
    | nil => rwa [List.append_nil]
    | cons x mid =>
      obtain ⟨-, rfl⟩ : e = x ∧ tail = mid ++ Event.result variant code id :: after :=
        List.cons.inj hmid
      exact absurd (List.mem_append_right _ (List.mem_cons_self ..)) (hmem _ htail)
  · cases mid with
    | nil => rwa [List.append_nil] at hopen
    | cons x mid =>
      obtain ⟨rfl, -⟩ : Event.result variant code id = x ∧ after = mid ++ e :: tail :=
        List.cons.inj hmid
      exact absurd (List.mem_append_right _ (List.mem_cons_self ..)) (hmem _ hunsent)

section Answer
variable (srv) (code : ResultCode)

theorem sendResult_same (s : Reg) : (s.sendResult srv code).resultCode = code ∧
    (s.sendResult srv code).accessId = s.accessId ∧
    (s.sendResult srv code).clientId = s.clientId ∧
    (s.sendResult srv code).db.durable = s.db.durable := by
  have h := closeDb_same { s with resultCode := code, superuserAuthorized := false }
  unfold sendResult
  simp only
  split
  · exact h.2
  · split
    · exact h.2
    · exact h.2

theorem sendResult_trace (s : Reg) : (s.sendResult srv code).trace =
    if s.dontSendResult then s.closeDb.trace
    else s.closeDb.trace ++
      .result (resultVariant srv) code (if code = .true then s.clientId else 0) ::
        (if code = .true then [.remoteUpdateLists] else []) := by
  have h := closeDb_same { s with resultCode := code, superuserAuthorized := false }
  have htrace : { s with resultCode := code, superuserAuthorized := false }.closeDb.trace =
      s.closeDb.trace := by rw [closeDb_trace, closeDb_trace]
  unfold sendResult
  simp only [h.1]
  split
  · exact htrace
  · split
    · rw [emit, emit, htrace, h.2.2.2.1, List.append_assoc]
      rfl
    · rw [emit, htrace]

/-- **Every way out goes through `send_result`**, which answers once, after the rollback. -/
theorem sendResult_answered (h : s.Pending c db) : Answered c db (s.sendResult srv code) := by
  obtain ⟨hunsent, hclosed, huntouched⟩ := h.closeDb_trace
  have hsame := sendResult_same srv code s
  have htrace := sendResult_trace srv code s
  rw [h.dontSend] at htrace
  cases hc : c.restricted with
  | true =>
    rw [hc, if_pos rfl, huntouched hc] at htrace
    refine ⟨by rw [htrace, hc]; rfl, ?_, fun _ => ⟨htrace, hsame.2.2.2.trans (h.untouched hc).2.1⟩⟩
    intro before variant code' id after hsplit
    rw [htrace] at hsplit
    exact absurd hsplit.symm (List.append_ne_nil_of_right_ne_nil _ (List.cons_ne_nil _ _))
  | false =>
    rw [hc, if_neg Bool.false_ne_true] at htrace
    have htail : (if code = .true then [Event.remoteUpdateLists] else []).filterMap Event.code =
        [] := by
      split <;> rfl
    refine ⟨?_, ?_, fun hr => absurd (hr.symm.trans hc) (by decide)⟩
    · rw [htrace, hc, hsame.1, List.filterMap_append, hunsent, List.filterMap_cons, htail]
      rfl
    · intro before variant code' id after hsplit
      rw [htrace] at hsplit
      exact closed_of_last hunsent htail hclosed before variant code' id after hsplit

/-- A call that has answered with a failure. -/
def Failed (c : Call) (db : Tables) (s : Reg) : Prop := Answered c db s ∧ s.resultCode ≠ .true

theorem sendResult_failed (h : s.Pending c db) (hcode : code ≠ .true) :
    (s.sendResult srv code).Failed c db :=
  ⟨sendResult_answered srv code h, fun ht => hcode ((sendResult_same srv code s).1.symm.trans ht)⟩

end Answer

/-! ## The end of the call -/

/-- The client is there and enabled; only the access identifier has yet to be looked at. -/
structure Ready (c : Call) (db : Tables) (s : Reg) : Prop where
  pending : s.Pending c db
  accessIds : s.db.working.accessIds = db.accessIds
  client : ∃ row ∈ s.db.working.clients, row.id = s.clientId ∧ row.enabled = true
  durable : c.restricted = true → s.db.durable = s.db.working

/-- The flags were raised by the access identifier. -/
structure Describes (rows : List AccessIdRow) (s : Reg) : Prop where
  enabled : s.accessIdEnabled = true → ∃ a ∈ rows, a.id = s.accessId ∧ a.enabled = true
  active : s.accessIdActive = true → ∃ a ∈ rows, a.id = s.accessId ∧ a.isNowActive = true

theorem commit_pending (h : s.Pending c db) (hc : c.restricted = false) :
    s.commit.Pending c db :=
  ⟨h.restrict, h.dontSend, code_append _ _ h.unsent,
    fun ho => absurd ((openAfter_append _ _).symm.trans ho) Bool.false_ne_true,
    fun hr => absurd (hr.symm.trans hc) (by decide)⟩

section Finish
variable (srv)

/-- What `finish` makes of the flags once it has committed. -/
theorem answer_spec (h : s.Pending c db) (code : ResultCode) :
    Answered c db (s.sendResult srv code) ∧ (s.sendResult srv code).accessId = s.accessId ∧
      (s.sendResult srv code).clientId = s.clientId ∧
      (s.sendResult srv code).db.durable = s.db.durable ∧
      (s.sendResult srv code).resultCode = code :=
  have hsame := sendResult_same srv code s
  ⟨sendResult_answered srv code h, hsame.2.1, hsame.2.2.1, hsame.2.2.2, hsame.1⟩

theorem finish_spec (h : s.Ready c db) :
    Answered c db (s.finish srv) ∧ (s.finish srv).accessId = s.accessId ∧
      (s.finish srv).clientId = s.clientId ∧ (s.finish srv).db.durable = s.db.working ∧
      ((s.finish srv).resultCode = .true ↔
        s.accessId ≠ 0 ∧ s.accessIdEnabled = true ∧ s.accessIdActive = true) := by
  -- the object once the transaction, if there is one, is committed
  obtain ⟨u, hu, hpending, haccess, hclient, hdurable, henabled, hactive⟩ :
      ∃ u, u = (if s.restrictToAuthentication then s else s.commit) ∧ u.Pending c db ∧
        u.accessId = s.accessId ∧ u.clientId = s.clientId ∧ u.db.durable = s.db.working ∧
        u.accessIdEnabled = s.accessIdEnabled ∧ u.accessIdActive = s.accessIdActive := by
    rw [h.pending.restrict]
    cases hc : c.restricted with
    | true => exact ⟨_, rfl, h.pending, rfl, rfl, h.durable hc, rfl, rfl⟩
    | false => exact ⟨_, rfl, commit_pending h.pending hc, rfl, rfl, rfl, rfl, rfl⟩
  have hsuccess : (if u.restrictToAuthentication then u
      else u.emit .onRegistractionSuccess).Pending c db := by
    split
    · exact hpending
    · rename_i hr
      have hc : c.restricted = false := hpending.restrict ▸ Bool.eq_false_iff.mpr hr
      exact hpending.emit hc rfl fun ho => hpending.rollback ((openAfter_append _ _).symm.trans ho)
  have hfinish : s.finish srv =
      if u.accessId = 0 then
        u.sendResult srv (if u.pwdIsSet then .badCredentials else .accessIdNotAssigned)
      else if u.accessIdEnabled = false then u.sendResult srv .accessIdDisabled
      else if u.accessIdActive = false then u.sendResult srv .inactive
      else (if u.restrictToAuthentication then u
        else u.emit .onRegistractionSuccess).sendResult srv .true := by
    rw [hu, finish]
  rw [hfinish, ← haccess, ← hclient, ← hdurable, ← henabled, ← hactive]
  split
  · rename_i h0
    obtain ⟨h1, h2, h3, h4, h5⟩ := answer_spec srv hpending
      (if u.pwdIsSet then .badCredentials else .accessIdNotAssigned)
    refine ⟨h1, h2, h3, h4, fun ht => ?_, fun hn => absurd h0 hn.1⟩
    rw [h5] at ht
    split at ht <;> cases ht
  · rename_i h0
    split
    · rename_i he
      obtain ⟨h1, h2, h3, h4, h5⟩ := answer_spec srv hpending .accessIdDisabled
      refine ⟨h1, h2, h3, h4, fun ht => ?_, fun hn => absurd (he.symm.trans hn.2.1) (by decide)⟩
      exact absurd (h5.symm.trans ht) (by decide)
    · rename_i he
      split
      · rename_i ha
        obtain ⟨h1, h2, h3, h4, h5⟩ := answer_spec srv hpending .inactive
        refine ⟨h1, h2, h3, h4, fun ht => ?_, fun hn => absurd (ha.symm.trans hn.2.2) (by decide)⟩
        exact absurd (h5.symm.trans ht) (by decide)
      · rename_i ha
        obtain ⟨h1, h2, h3, h4, h5⟩ := answer_spec srv hsuccess .true
        have hflags : u.accessId ≠ 0 ∧ u.accessIdEnabled = true ∧ u.accessIdActive = true :=
          ⟨h0, eq_true_of_ne_false he, eq_true_of_ne_false ha⟩
        have hsame : ∀ v, v = (if u.restrictToAuthentication then u
            else u.emit .onRegistractionSuccess) → v.accessId = u.accessId ∧
              v.clientId = u.clientId ∧ v.db.durable = u.db.durable := by
          rintro v rfl
          split <;> exact ⟨rfl, rfl, rfl⟩
        obtain ⟨g1, g2, g3⟩ := hsame _ rfl
        exact ⟨h1, h2.trans g1, h3.trans g2, h4.trans g3, fun _ => hflags, fun _ => h5⟩

end Finish

/-! ## Choosing an access identifier -/

/-- The access identifier and its flags are the same. -/
structure SameAccess (s t : Reg) : Prop where
  accessId : t.accessId = s.accessId
  enabled : t.accessIdEnabled = s.accessIdEnabled
  active : t.accessIdActive = s.accessIdActive

theorem Describes.same {rows : List AccessIdRow} (h : s.Describes rows) (hs : SameAccess s t) :
    t.Describes rows := by
  constructor
  · rw [hs.enabled, hs.accessId]
    exact h.enabled
  · rw [hs.active, hs.accessId]
    exact h.active

/-- No row has the id 0. -/
theorem Describes.flags_of_zero (h : s.Describes db.accessIds) (h0 : s.accessId = 0) :
    s.accessIdEnabled = false ∧ s.accessIdActive = false := by
  have hnone : ∀ a ∈ db.accessIds, a.id ≠ s.accessId := by
    intro a ha heq
    have hpos := db.accessIds_pos a ha
    rw [heq, h0] at hpos
    exact Int.lt_irrefl 0 hpos
  constructor
  · refine Bool.eq_false_iff.mpr fun he => ?_
    obtain ⟨a, ha, hid, -⟩ := h.enabled he
    exact hnone a ha hid
  · refine Bool.eq_false_iff.mpr fun he => ?_
    obtain ⟨a, ha, hid, -⟩ := h.active he
    exact hnone a ha hid

theorem describes_of_flags {rows : List AccessIdRow} {a : AccessIdRow} (ha : a ∈ rows)
    (hid : s.accessId = a.id) (he : s.accessIdEnabled = true → a.enabled = true)
    (hn : s.accessIdActive = true → a.isNowActive = true) : s.Describes rows :=
  ⟨fun h => ⟨a, ha, hid.symm, he h⟩, fun h => ⟨a, ha, hid.symm, hn h⟩⟩

theorem mem_of_getAccessId {userId : Int} {enabled active : Bool}
    (h : db.getAccessId userId enabled active ≠ 0) : ∃ a ∈ db.accessIds,
      db.getAccessId userId enabled active = a.id ∧ a.enabled = enabled ∧
        a.isNowActive = active := by
  unfold Tables.getAccessId at h ⊢
  split
  · rename_i a ha
    have hkey := List.find?_some ha
    obtain ⟨-, he, hn⟩ := of_decide_eq_true hkey
    exact ⟨a, List.mem_of_find?_eq_some ha, rfl, he, hn⟩
  · rename_i hnone
    simp only [hnone] at h
    exact absurd rfl h

theorem getAccessId_spec {enabled active : Bool} (h : s.getAccessId srv enabled active ≠ 0) :
    ∃ a ∈ s.db.working.accessIds, s.getAccessId srv enabled active = a.id ∧
      a.enabled = enabled ∧ a.isNowActive = active := by
  unfold getAccessId at h ⊢
  split
  · rename_i hf
    exact absurd (if_pos hf) h
  · rename_i hf
    rw [if_neg hf] at h
    exact mem_of_getAccessId h

theorem superuserAuthorize_spec (req : Request) (srv : Server) (s : Reg) :
    Frame s (s.superuserAuthorize req srv) ∧ SameAccess s (s.superuserAuthorize req srv) := by
  cases req <;> exact ⟨⟨rfl, rfl, rfl, rfl, rfl, rfl⟩, ⟨rfl, rfl, rfl⟩⟩

theorem chooseAccessId_spec (srv : Server) (s : Reg) : Frame s (s.chooseAccessId srv) ∧
    (s.chooseAccessId srv).Describes s.db.working.accessIds := by
  unfold chooseAccessId
  split
  · rename_i h
    obtain ⟨a, ha, hid, he, hn⟩ := getAccessId_spec (Int.ne_of_gt h)
    exact ⟨⟨rfl, rfl, rfl, rfl, rfl, rfl⟩, describes_of_flags ha hid (fun _ => he) fun _ => hn⟩
  · split
    · rename_i h
      obtain ⟨a, ha, hid, -, hn⟩ := getAccessId_spec (Int.ne_of_gt h)
      exact ⟨⟨rfl, rfl, rfl, rfl, rfl, rfl⟩,
        describes_of_flags ha hid (fun h => absurd h Bool.false_ne_true) fun _ => hn⟩
    · exact ⟨⟨rfl, rfl, rfl, rfl, rfl, rfl⟩, ⟨fun h => absurd h Bool.false_ne_true,
        fun h => absurd h Bool.false_ne_true⟩⟩

theorem superuserAccessId_spec (req : Request) (srv : Server) (s : Reg) :
    Frame s (s.superuserAccessId req srv) ∧ (SameAccess s (s.superuserAccessId req srv) ∨
      (s.superuserAccessId req srv).Describes s.db.working.accessIds) := by
  have hsame : Frame s s ∧ SameAccess s s := ⟨⟨rfl, rfl, rfl, rfl, rfl, rfl⟩, ⟨rfl, rfl, rfl⟩⟩
  unfold superuserAccessId
  split
  · rename_i h0
    obtain ⟨u, hu, hframe, haccess⟩ : ∃ u, u = (if s.superuserAuthorized then s
        else s.superuserAuthorize req srv) ∧ Frame s u ∧ SameAccess s u := by
      split
      · exact ⟨_, rfl, hsame⟩
      · exact ⟨_, rfl, superuserAuthorize_spec req srv s⟩
    simp only [← hu]
    split
    · split
      · rename_i h
        obtain ⟨a, ha, hid, he, hn⟩ := getAccessId_spec h
        rw [hframe.db] at ha
        exact ⟨hframe.trans ⟨rfl, rfl, rfl, rfl, rfl, rfl⟩,
          .inr (describes_of_flags ha hid (fun _ => he) fun _ => hn)⟩
      · exact ⟨hframe.trans ⟨rfl, rfl, rfl, rfl, rfl, rfl⟩,
          .inl ⟨h0.1.symm, haccess.enabled, haccess.active⟩⟩
    · exact ⟨hframe, .inl haccess⟩
  · exact ⟨hsame.1, .inl hsame.2⟩

/-! ## Writing the client -/

/-- Inside the transaction. -/
structure Started (c : Call) (db : Tables) (s : Reg) : Prop where
  pending : s.Pending c db
  unrestricted : c.restricted = false
  accessIds : s.db.working.accessIds = db.accessIds

theorem Started.frame (h : s.Started c db) (hf : Frame s t) : t.Started c db :=
  ⟨h.pending.frame hf, h.unrestricted, by rw [hf.db, h.accessIds]⟩

theorem Started.write (h : s.Started c db) {db' : Tables} (hdb : db'.accessIds = db.accessIds) :
    (s.write db').Started c db :=
  ⟨h.pending.congr rfl rfl rfl rfl id fun hr => absurd (hr.symm.trans h.unrestricted) (by decide),
    h.unrestricted, hdb⟩

theorem Started.ready (h : s.Started c db)
    (hc : ∃ row ∈ s.db.working.clients, row.id = s.clientId ∧ row.enabled = true) :
    s.Ready c db :=
  ⟨h.pending, h.accessIds, hc, fun hr => absurd (hr.symm.trans h.unrestricted) (by decide)⟩

theorem insertClient_spec {row : ClientRow} {db' : Tables} (h : db.insertClient row = some db') :
    db'.accessIds = db.accessIds ∧ row ∈ db'.clients ∧ 0 < row.id := by
  unfold Tables.insertClient at h
  split at h
  · rename_i hi
    cases h
    exact ⟨rfl, List.mem_cons_self .., hi.1⟩
  · cases h

theorem updateClient_spec {id : Int} {accessId : Option Int} {hash : Option String} {db' : Tables}
    (h : db.updateClient id accessId hash = some db') : db'.accessIds = db.accessIds ∧
      ∀ n, (∃ row ∈ db.clients, row.id = n ∧ row.enabled = true) →
        ∃ row ∈ db'.clients, row.id = n ∧ row.enabled = true := by
  unfold Tables.updateClient at h
  split at h
  · cases h
    refine ⟨rfl, fun n hn => ?_⟩
    obtain ⟨row, hrow, hid, he⟩ := hn
    exact ⟨_, List.mem_map_of_mem hrow, Tables.updatedRow_id.trans hid,
      Tables.updatedRow_enabled.trans he⟩
  · cases h

/-- A new client is enabled. -/
theorem daoAddClient_spec (h : s.Started c db) :
    (s.daoAddClient req srv).2.Started c db ∧ SameAccess s (s.daoAddClient req srv).2 ∧
      ((s.daoAddClient req srv).1 ≠ 0 → ∃ row ∈ (s.daoAddClient req srv).2.db.working.clients,
        row.id = (s.daoAddClient req srv).1 ∧ row.enabled = true) := by
  unfold daoAddClient
  split
  · exact ⟨h, ⟨rfl, rfl, rfl⟩, fun h0 => absurd rfl h0⟩
  · rename_i db' hdb
    obtain ⟨hash, hinsert⟩ : ∃ hash,
        s.db.working.insertClient (s.newRow req srv hash) = some db' := by
      split at hdb
      · cases hdb
      · obtain ⟨hash, -, hinsert⟩ := Option.bind_eq_some_iff.mp hdb
        exact ⟨hash, hinsert⟩
    obtain ⟨haccess, hmem, -⟩ := insertClient_spec hinsert
    split
    · exact ⟨h.write (haccess.trans h.accessIds), ⟨rfl, rfl, rfl⟩, fun _ => ⟨_, hmem, rfl, rfl⟩⟩
    · rename_i a _
      cases hupdate : db'.updateClient srv.autoIncrement (some a) none with
      | none =>
        exact ⟨h.write (haccess.trans h.accessIds), ⟨rfl, rfl, rfl⟩, fun _ => ⟨_, hmem, rfl, rfl⟩⟩
      | some db'' =>
        obtain ⟨haccess', hclients⟩ := updateClient_spec hupdate
        exact ⟨h.write (haccess'.trans (haccess.trans h.accessIds)), ⟨rfl, rfl, rfl⟩,
          fun _ => hclients _ ⟨_, hmem, rfl, rfl⟩⟩

/-- The object as `add_client` leaves it. -/
theorem readAccessId_spec (h : s.Started c db) (hd : s.Describes db.accessIds) :
    Frame s (s.readAccessId srv) ∧ (s.readAccessId srv).Describes db.accessIds := by
  unfold readAccessId
  split
  · rename_i h0
    obtain ⟨he, hn⟩ := hd.flags_of_zero h0
    split
    · exact ⟨⟨rfl, rfl, rfl, rfl, rfl, rfl⟩, hd⟩
    · rename_i a ha
      have hmem : a ∈ db.accessIds := by
        rw [← h.accessIds]
        unfold getClientAccessId at ha
        split at ha
        · cases ha
        · obtain ⟨row, -, hrow⟩ := Option.bind_eq_some_iff.mp ha
          obtain ⟨id, -, hid⟩ := Option.bind_eq_some_iff.mp hrow
          exact (Tables.mem_of_accessIdRow hid).1
      refine ⟨⟨rfl, rfl, rfl, rfl, rfl, rfl⟩,
        describes_of_flags hmem rfl (fun hr => ?_) fun hr => ?_⟩
      · simpa only [raise, he, Bool.if_true_left, Bool.or_false, Bool.decide_eq_true] using hr
      · simpa only [raise, hn, Bool.if_true_left, Bool.or_false, Bool.decide_eq_true] using hr
  · exact ⟨⟨rfl, rfl, rfl, rfl, rfl, rfl⟩, hd⟩

theorem addClient_spec (h : s.Started c db) (hd : s.Describes db.accessIds) :
    ((s.addClient req srv).1 = false → (s.addClient req srv).2.Failed c db) ∧
      ((s.addClient req srv).1 = true →
        (s.addClient req srv).2.Ready c db ∧ (s.addClient req srv).2.Describes db.accessIds) := by
  unfold addClient
  obtain ⟨u, hu, hframe, haccess⟩ : ∃ u, u = (if s.pwdIsSet then s.superuserAuthorize req srv
      else s) ∧ Frame s u ∧ SameAccess s u := by
    split
    · exact ⟨_, rfl, superuserAuthorize_spec req srv s⟩
    · exact ⟨_, rfl, ⟨rfl, rfl, rfl, rfl, rfl, rfl⟩, ⟨rfl, rfl, rfl⟩⟩
  have hustarted : u.Started c db := h.frame hframe
  have hudescribes : u.Describes db.accessIds := hd.same haccess
  simp only [← hu]
  split
  · refine ⟨fun _ => sendResult_failed srv _ hustarted.pending ?_, fun ht => by cases ht⟩
    split <;> decide
  · split
    · exact ⟨fun _ => sendResult_failed srv _ hustarted.pending (by decide), fun ht => by cases ht⟩
    · obtain ⟨v, hv, hvstarted, hvdescribes⟩ : ∃ v, v = (if u.accessId = 0 ∧
          hasStructureD req = true ∧ (u.getClientCount srv = 0 ∨ u.superuserAuthorized = true) then
          u.chooseAccessId srv else u) ∧ v.Started c db ∧ v.Describes db.accessIds := by
        split
        · obtain ⟨hchoose, hchosen⟩ := chooseAccessId_spec srv u
          exact ⟨_, rfl, hustarted.frame hchoose, hustarted.accessIds ▸ hchosen⟩
        · exact ⟨_, rfl, hustarted, hudescribes⟩
      simp only [← hv]
      obtain ⟨hwstarted, hwaccess, hwclient⟩ := @daoAddClient_spec c srv req db v hvstarted
      split
      · rename_i h0
        refine ⟨fun _ => sendResult_failed srv _ ?_ (by decide), fun ht => by cases ht⟩
        exact hwstarted.pending.congr rfl rfl rfl rfl id fun _ => rfl
      · rename_i h0
        refine ⟨(fun hf => by cases hf), fun _ => ?_⟩
        have hnew : Started c db { (v.daoAddClient req srv).2 with
            clientId := (v.daoAddClient req srv).1, clientEnabled := true } :=
          ⟨hwstarted.pending.congr rfl rfl rfl rfl id fun _ => rfl, hwstarted.unrestricted,
            hwstarted.accessIds⟩
        have hdescribes : Describes db.accessIds { (v.daoAddClient req srv).2 with
            clientId := (v.daoAddClient req srv).1, clientEnabled := true } :=
          (hvdescribes.same hwaccess).same ⟨rfl, rfl, rfl⟩
        obtain ⟨hread, hfinal⟩ := @readAccessId_spec c srv db _ hnew hdescribes
        refine ⟨(hnew.frame hread).ready ?_, hfinal⟩
        rw [hread.db, hread.clientId]
        exact hwclient h0

theorem daoUpdateClient_spec (srv : Server) (h : s.Started c db) :
    ((s.daoUpdateClient srv).1 = false → (s.daoUpdateClient srv).2 = s) ∧
      ((s.daoUpdateClient srv).1 = true → srv.fails .updateClient = false ∧
        ∃ db', (s.daoUpdateClient srv).2 = s.write db' ∧ db'.accessIds = db.accessIds ∧
          ∀ n, (∃ row ∈ s.db.working.clients, row.id = n ∧ row.enabled = true) →
            ∃ row ∈ db'.clients, row.id = n ∧ row.enabled = true) := by
  unfold daoUpdateClient
  split
  · exact ⟨fun _ => rfl, fun ht => by cases ht⟩
  · rename_i db' hdb
    refine ⟨(fun hf => by cases hf), fun _ => ?_⟩
    split at hdb
    · cases hdb
    · rename_i hfails
      obtain ⟨hash, -, hupdate⟩ := Option.bind_eq_some_iff.mp hdb
      obtain ⟨haccess, hclients⟩ := updateClient_spec hupdate
      exact ⟨Bool.eq_false_iff.mpr hfails, db', rfl, haccess.trans h.accessIds, hclients⟩

/-- What is left of the access identifier once a known client is at the end of its call. -/
structure Kept (srv : Server) (c : Call) (db : Tables) (s t : Reg) : Prop where
  ready : t.Ready c db
  updated : c.restricted = true ∨ srv.fails .updateClient = false
  access : SameAccess s t ∨ t.Describes db.accessIds

theorem updateClient_kept (req : Request) (srv : Server) (h : s.Started c db)
    (hc : ∃ row ∈ s.db.working.clients, row.id = s.clientId ∧ row.enabled = true) :
    ((s.updateClient req srv).1 = false → (s.updateClient req srv).2.Failed c db) ∧
      ((s.updateClient req srv).1 = true → Kept srv c db s (s.updateClient req srv).2) := by
  obtain ⟨hframe, haccess⟩ := superuserAccessId_spec req srv s
  have hstarted : (s.superuserAccessId req srv).Started c db := h.frame hframe
  obtain ⟨hfalse, htrue⟩ := daoUpdateClient_spec srv hstarted
  unfold updateClient
  split
  · rename_i u hu
    rw [hu] at hfalse
    obtain rfl : u = s.superuserAccessId req srv := hfalse rfl
    exact ⟨fun _ => sendResult_failed srv _ hstarted.pending (by decide), fun ht => by cases ht⟩
  · rename_i u hu
    rw [hu] at htrue
    obtain ⟨hfails, db', rfl, haccessIds, hclients⟩ := htrue rfl
    refine ⟨(fun hf => by cases hf),
      fun _ => ⟨(hstarted.write haccessIds).ready ?_, .inr hfails, ?_⟩⟩
    · refine hclients _ ?_
      rw [hframe.db]
      exact hframe.clientId ▸ hc
    · rcases haccess with hsame | hdescribes
      · exact .inl ⟨hsame.accessId, hsame.enabled, hsame.active⟩
      · exact .inr ((h.accessIds ▸ hdescribes).same ⟨rfl, rfl, rfl⟩)

/-! ## Known clients -/

/-- Both flags of the variables are read from one row, that of the stored access identifier. -/
theorem getClientVariables_spec {id : Int} {v : ClientVariables}
    (h : db.getClientVariables id = some v) :
    (∃ row ∈ db.clients, row.id = id ∧ row.enabled = v.clientEnabled) ∧
      (v.accessIdEnabled = true ∨ v.accessIdActive = true → ∃ a ∈ db.accessIds,
        a.id = v.accessId ∧ a.enabled = v.accessIdEnabled ∧ a.isNowActive = v.accessIdActive) := by
  unfold Tables.getClientVariables at h
  split at h
  · cases h
  · obtain ⟨row, hrow, rfl⟩ := Option.map_eq_some_iff.mp h
    have hid := List.find?_some hrow
    refine ⟨⟨row, List.mem_of_find?_eq_some hrow, of_decide_eq_true hid, rfl⟩, fun hv => ?_⟩
    cases haccess : row.accessId with
    | none => simp only [haccess, Option.bind_none, Option.map_none, Option.getD_none,
        Bool.false_eq_true, or_self] at hv
    | some stored =>
      cases ha : db.accessIdRow stored with
      | none => simp only [haccess, Option.bind_some, ha, Option.map_none, Option.getD_none,
          Bool.false_eq_true, or_self] at hv
      | some a =>
        obtain ⟨hmem, ha'⟩ := Tables.mem_of_accessIdRow ha
        simp only [Option.bind_some, Option.map_some, Option.getD_some, ha]
        exact ⟨a, hmem, ha', rfl, rfl⟩

/-- The credentials have been accepted; nothing has been written. -/
structure Authorised (c : Call) (db : Tables) (s : Reg) : Prop where
  pending : s.Pending c db
  trace : s.trace = []
  connected : s.db.connected = true
  working : s.db.working = db
  durable : s.db.durable = db

theorem Authorised.congr (h : s.Authorised c db)
    (hr : t.restrictToAuthentication = s.restrictToAuthentication)
    (hd : t.dontSendResult = s.dontSendResult) (hs : t.shouldRollback = s.shouldRollback)
    (ht : t.trace = s.trace) (hdb : t.db = s.db) : t.Authorised c db :=
  ⟨h.pending.congr hr hd hs ht (fun hc => hdb ▸ hc) fun _ => congrArg Session.durable hdb,
    ht.trans h.trace, hdb ▸ h.connected, hdb ▸ h.working, hdb ▸ h.durable⟩

theorem Authorised.start (h : s.Authorised c db) (hc : c.restricted = false) :
    s.startUnlessRestricted.Started c db ∧ s.startUnlessRestricted.db.working = db := by
  have hstart : s.startUnlessRestricted = s.startTransaction := by
    rw [startUnlessRestricted, h.pending.restrict, hc, if_neg Bool.false_ne_true]
  rw [hstart]
  refine ⟨⟨⟨h.pending.restrict, h.pending.dontSend, code_append _ _ h.pending.unsent,
    fun _ => ⟨rfl, h.connected⟩, fun hr => absurd (hr.symm.trans hc) (by decide)⟩, hc,
    congrArg Tables.accessIds h.working⟩, h.working⟩

theorem startUnlessRestricted_same (s : Reg) : SameAccess s s.startUnlessRestricted ∧
    s.startUnlessRestricted.clientId = s.clientId ∧
    s.startUnlessRestricted.clientEnabled = s.clientEnabled ∧
    s.startUnlessRestricted.authkey = s.authkey := by
  unfold startUnlessRestricted
  split <;> exact ⟨⟨rfl, rfl, rfl⟩, rfl, rfl, rfl⟩

/-- The access identifier of a known client: structure D takes the stored one. -/
def takeStored (req : Request) (stored : Int) (s : Reg) : Reg :=
  if stored > 0 ∧ hasStructureD req then { s with accessId := stored } else s

theorem takeStored_frame (req : Request) (stored : Int) (s : Reg) :
    Frame s (s.takeStored req stored) ∧
      (s.takeStored req stored).clientEnabled = s.clientEnabled := by
  unfold takeStored
  split <;> exact ⟨⟨rfl, rfl, rfl, rfl, rfl, rfl⟩, rfl⟩

theorem registerKnown_eq (req : Request) (srv : Server) (stored : Int) (s : Reg) :
    s.registerKnown req srv stored =
      if (s.takeStored req stored).clientEnabled = false then
        (s.takeStored req stored).sendResult srv .clientDisabled
      else if (s.takeStored req stored).restrictToAuthentication then
        (s.takeStored req stored).finish srv
      else
        match (s.takeStored req stored).updateClient req srv with
        | (false, s) => s
        | (true, s) => s.finish srv := rfl

theorem registerKnown_kept (req : Request) (srv : Server) (stored : Int) (h : s.Authorised c db)
    (hc : ∃ row ∈ db.clients, row.id = s.clientId ∧ row.enabled = s.clientEnabled) :
    (s.startUnlessRestricted.registerKnown req srv stored).Failed c db ∨
      s.clientEnabled = true ∧ ∃ t,
        Kept srv c db (s.startUnlessRestricted.takeStored req stored) t ∧
        s.startUnlessRestricted.registerKnown req srv stored = t.finish srv := by
  obtain ⟨-, hid, henabled, -⟩ := startUnlessRestricted_same s
  obtain ⟨hframe, htaken⟩ := takeStored_frame req stored s.startUnlessRestricted
  rw [registerKnown_eq, htaken, henabled]
  generalize hw : s.startUnlessRestricted.takeStored req stored = w at hframe
  cases hc' : c.restricted with
  | true =>
    -- no transaction: the object is still as `client_auth` left it
    have hstart : s.startUnlessRestricted = s := by
      rw [startUnlessRestricted, h.pending.restrict, hc', if_pos rfl]
    rw [hstart] at hframe
    have hpending : w.Pending c db := h.pending.frame hframe
    split
    · exact .inl (sendResult_failed srv _ hpending (by decide))
    · rename_i he
      have he : s.clientEnabled = true := eq_true_of_ne_false he
      rw [hpending.restrict, hc', if_pos rfl]
      refine .inr ⟨he, w, ⟨⟨hpending, ?_, ?_, fun _ => ?_⟩, .inl hc', .inl ⟨rfl, rfl, rfl⟩⟩, rfl⟩
      · rw [hframe.db, h.working]
      · rw [hframe.db, hframe.clientId, h.working, ← he]
        exact hc
      · rw [hframe.db, h.working, h.durable]
  | false =>
    obtain ⟨hstarted, hworking⟩ := h.start hc'
    have hwstarted : w.Started c db := hstarted.frame hframe
    split
    · exact .inl (sendResult_failed srv _ hwstarted.pending (by decide))
    · rename_i he
      have he : s.clientEnabled = true := eq_true_of_ne_false he
      rw [hwstarted.pending.restrict, hc', if_neg Bool.false_ne_true]
      obtain ⟨hfalse, htrue⟩ := updateClient_kept req srv hwstarted (by
        rw [hframe.db, hframe.clientId, hworking, hid, ← he]
        exact hc)
      split
      · rename_i t ht
        rw [ht] at hfalse
        exact .inl (hfalse rfl)
      · rename_i t ht
        rw [ht] at htrue
        exact .inr ⟨he, t, htrue rfl, rfl⟩

/-! ## The whole call -/

/-- What `client_auth` leaves: the flags of the access identifier in structure B, none for D. -/
def Granted (srv : Server) (db : Tables) (s : Reg) : Request → Prop
  | .b m => ∃ a, accessIdAuth srv m db = some a ∧ a.userId ≠ 0 ∧ s.userId = a.userId ∧
      s.accessId = m.accessId ∧ s.accessIdEnabled = a.enabled ∧ s.accessIdActive = a.isNowActive ∧
      s.authkey = none
  | .d m => ∃ userId, authkeyAuth srv m db = some userId ∧ userId ≠ 0 ∧ s.userId = userId ∧
      s.accessId = 0 ∧ s.accessIdEnabled = false ∧ s.accessIdActive = false

theorem Granted.accepted (h : s.Granted srv db req) : req.Accepted srv db := by
  cases req with
  | b m =>
    obtain ⟨a, ha, hu, -⟩ := h
    exact ⟨a, ha, hu⟩
  | d m =>
    obtain ⟨userId, ha, hu, -⟩ := h
    exact ⟨userId, ha, hu⟩

theorem accessIdAuth_spec {m : RegisterClientB} {a : AccessIdRow}
    (h : accessIdAuth srv m db = some a) : a ∈ db.accessIds ∧ a.id = m.accessId := by
  unfold accessIdAuth at h
  split at h
  · cases h
  · unfold Tables.accessIdAuth at h
    split at h
    · cases h
    · have hkey := List.find?_some h
      exact ⟨List.mem_of_find?_eq_some h, (of_decide_eq_true hkey).1⟩

theorem Granted.describes (h : s.Granted srv db req) : s.Describes db.accessIds := by
  cases req with
  | b m =>
    obtain ⟨a, ha, -, -, hid, he, hn, -⟩ := h
    obtain ⟨hmem, ha⟩ := accessIdAuth_spec ha
    exact describes_of_flags hmem (hid.trans ha.symm) (fun h => he ▸ h) fun h => hn ▸ h
  | d m =>
    obtain ⟨userId, -, -, -, -, he, hn⟩ := h
    exact ⟨fun h => absurd (h.symm.trans he) (by decide),
      fun h => absurd (h.symm.trans hn) (by decide)⟩

/-- What `register_client` has taken from the request before. -/
def Entered (s : Reg) : Request → Prop
  | .b m => s.accessId = m.accessId ∧ s.authkey = none
  | .d _ => s.accessId = 0 ∧ s.accessIdEnabled = false ∧ s.accessIdActive = false

theorem clientAuth_spec (req : Request) (srv : Server) (h : s.Authorised c db)
    (hentered : s.Entered req) :
    ((s.clientAuth req srv).1 = false → (s.clientAuth req srv).2.Failed c db) ∧
      ((s.clientAuth req srv).1 = true →
        (s.clientAuth req srv).2.Authorised c db ∧
          (s.clientAuth req srv).2.Granted srv db req) := by
  cases req with
  | b m =>
    simp only [clientAuth, h.working]
    cases ha : accessIdAuth srv m db with
    | none =>
      simp only
      exact ⟨fun _ => sendResult_failed srv _ h.pending (by decide), fun ht => by cases ht⟩
    | some a =>
      have hs : Authorised c db { s with
          userId := a.userId, accessIdEnabled := a.enabled, accessIdActive := a.isNowActive } :=
        h.congr rfl rfl rfl rfl rfl
      by_cases hu : a.userId = 0
      · simp only [if_pos hu]
        exact ⟨fun _ => sendResult_failed srv _ hs.pending (by decide), fun ht => by cases ht⟩
      · simp only [if_neg hu]
        exact ⟨(fun hf => by cases hf),
          fun _ => ⟨hs, a, ha, hu, rfl, hentered.1, rfl, rfl, hentered.2⟩⟩
  | d m =>
    simp only [clientAuth, h.working]
    cases ha : authkeyAuth srv m db with
    | none =>
      simp only
      exact ⟨fun _ => sendResult_failed srv _ h.pending (by decide), fun ht => by cases ht⟩
    | some userId =>
      have hs : Authorised c db { s with userId := userId } := h.congr rfl rfl rfl rfl rfl
      by_cases hu : userId = 0
      · simp only [if_pos hu]
        exact ⟨fun _ => sendResult_failed srv _ hs.pending (by decide), fun ht => by cases ht⟩
      · simp only [if_neg hu]
        exact ⟨(fun hf => by cases hf), fun _ => ⟨hs, userId, ha, hu, rfl, hentered⟩⟩

/-- The call has failed, or has come to `finish` with an object that satisfies `P`. -/
def Ends (srv : Server) (c : Call) (db : Tables) (P : Reg → Prop) (r : Reg) : Prop :=
  r.Failed c db ∨ ∃ t, t.Ready c db ∧ P t ∧ r = t.finish srv

/-- A new client is never judged by the flags of another access identifier. -/
theorem registerNew_ends (req : Request) (srv : Server) (h : s.Authorised c db)
    (hd : s.Describes db.accessIds) :
    Ends srv c db (Describes db.accessIds) (s.startUnlessRestricted.registerNew req srv) := by
  obtain ⟨hsame, -⟩ := startUnlessRestricted_same s
  unfold registerNew
  cases hc : c.restricted with
  | true =>
    have hstart : s.startUnlessRestricted = s := by
      rw [startUnlessRestricted, h.pending.restrict, hc, if_pos rfl]
    rw [hstart, h.pending.restrict, hc, if_pos rfl]
    exact .inl (sendResult_failed srv _ h.pending (by decide))
  | false =>
    obtain ⟨hstarted, -⟩ := h.start hc
    rw [hstarted.pending.restrict, hc, if_neg Bool.false_ne_true]
    obtain ⟨hfalse, htrue⟩ := @addClient_spec c srv req db _ hstarted (hd.same hsame)
    split
    · rename_i t ht
      rw [ht] at hfalse
      exact .inl (hfalse rfl)
    · rename_i t ht
      rw [ht] at htrue
      exact .inr ⟨t, (htrue rfl).1, (htrue rfl).2, rfl⟩

/-- The variables of the client with this user and GUID. -/
def knownClient (srv : Server) (userId : Int) (guid : List UInt8) (db : Tables) :
    Option ClientVariables :=
  if srv.fails .getClientId ∨ srv.fails .getClientVariables then none
  else db.getClientVariables (db.getClientId userId guid)

/-- The client is enabled, the registration gets through, and the request's access identifier
lacks a flag that the stored one has. -/
structure LacksFlag (srv : Server) (c : Call) (a : AccessIdRow) (v : ClientVariables) : Prop where
  clientEnabled : v.clientEnabled = true
  updated : c.restricted = true ∨ srv.fails .updateClient = false
  enabled : a.enabled = true ∨ v.accessIdEnabled = true
  active : a.isNowActive = true ∨ v.accessIdActive = true
  lacks : ¬ (a.enabled = true ∧ a.isNowActive = true)

/-- What can be said of the flags at the end of the call. -/
def Judged (srv : Server) (c : Call) (db : Tables) (req : Request) (t : Reg) : Prop :=
  t.Describes db.accessIds ∨ ∃ m a v, req = .b m ∧ accessIdAuth srv m db = some a ∧
    a.userId ≠ 0 ∧ knownClient srv a.userId m.guid db = some v ∧ (t.accessIdEnabled = true →
      t.accessIdActive = true → LacksFlag srv c a v)

theorem knownClient_of_getClientId {m : RegisterClientB} {v : ClientVariables}
    (hworking : s.db.working = db) (hid : s.getClientId (.b m) srv ≠ 0)
    (hv : db.getClientVariables (s.getClientId (.b m) srv) = some v)
    (hf : srv.fails .getClientVariables = false) : knownClient srv s.userId m.guid db = some v := by
  by_cases hfails : srv.fails .getClientId
  · exact absurd (if_pos hfails) hid
  · rw [getClientId, if_neg hfails, hworking] at hv
    rw [knownClient, if_neg fun h => h.elim hfails fun h => absurd (h.symm.trans hf) (by decide)]
    exact hv

theorem raise_enabled (e n : Bool) (s : Reg) :
    ((s.raise e n).accessIdEnabled = true ↔ e = true ∨ s.accessIdEnabled = true) ∧
      ((s.raise e n).accessIdActive = true ↔ n = true ∨ s.accessIdActive = true) := by
  cases e <;> cases n <;> simp [raise]

/-- Structure D takes the identifier that its flags are read with. -/
theorem takeStored_describes {m : RegisterClientD} {v : ClientVariables}
    (he : s.accessIdEnabled = true → v.accessIdEnabled = true)
    (hn : s.accessIdActive = true → v.accessIdActive = true)
    (hstored : v.accessIdEnabled = true ∨ v.accessIdActive = true → ∃ a ∈ db.accessIds,
      a.id = v.accessId ∧ a.enabled = v.accessIdEnabled ∧ a.isNowActive = v.accessIdActive) :
    (s.takeStored (.d m) v.accessId).Describes db.accessIds := by
  unfold takeStored
  by_cases hpos : v.accessId > 0
  · rw [if_pos ⟨hpos, rfl⟩]
    refine ⟨fun h => ?_, fun h => ?_⟩
    · obtain ⟨a, ha, hid, hae, -⟩ := hstored (.inl (he h))
      exact ⟨a, ha, hid, hae.trans (he h)⟩
    · obtain ⟨a, ha, hid, -, hae⟩ := hstored (.inr (hn h))
      exact ⟨a, ha, hid, hae.trans (hn h)⟩
  · have hnone : ¬ (v.accessIdEnabled = true ∨ v.accessIdActive = true) := by
      intro hv
      obtain ⟨a, ha, hid, -⟩ := hstored hv
      exact hpos (hid ▸ db.accessIds_pos a ha)
    rw [if_neg fun h => hpos h.1]
    exact ⟨fun h => absurd (.inl (he h)) hnone, fun h => absurd (.inr (hn h)) hnone⟩

/-- **The one path on which the flags come from two access identifiers**: structure B and a known
client. -/
theorem registerAuthorised_ends (h : s.Authorised c db) (hg : s.Granted srv db req) :
    Ends srv c db (Judged srv c db req) (s.registerAuthorised req srv) := by
  have hs : Authorised c db { s with clientId := s.getClientId req srv } :=
    h.congr rfl rfl rfl rfl rfl
  unfold registerAuthorised
  simp only
  split
  · have hd : Describes db.accessIds { s with clientId := s.getClientId req srv } :=
      hg.describes.same ⟨rfl, rfl, rfl⟩
    rcases registerNew_ends req srv hs hd with hf | ⟨t, hready, hdescribes, heq⟩
    · exact .inl hf
    · exact .inr ⟨t, hready, .inl hdescribes, heq⟩
  · rename_i hid
    split
    · exact .inl (sendResult_failed srv _ hs.pending (by decide))
    · rename_i v hv
      have hvariables : db.getClientVariables (s.getClientId req srv) = some v ∧
          srv.fails .getClientVariables = false := by
        unfold getClientVariables at hv
        split at hv
        · cases hv
        · rename_i hf
          exact ⟨h.working ▸ hv, Bool.eq_false_iff.mpr hf⟩
      obtain ⟨hrow, hstored⟩ := getClientVariables_spec hvariables.1
      obtain ⟨hraisedE, hraisedA⟩ := raise_enabled v.accessIdEnabled v.accessIdActive
        { s with clientId := s.getClientId req srv, clientEnabled := v.clientEnabled }
      generalize hu : raise v.accessIdEnabled v.accessIdActive
        { s with clientId := s.getClientId req srv, clientEnabled := v.clientEnabled } = u
        at hraisedE hraisedA
      have huauthorised : u.Authorised c db := by
        rw [← hu]
        exact h.congr rfl rfl rfl rfl rfl
      have hufields : u.clientId = s.getClientId req srv ∧ u.clientEnabled = v.clientEnabled ∧
          u.accessId = s.accessId := by
        rw [← hu]
        exact ⟨rfl, rfl, rfl⟩
      obtain ⟨hustart, -⟩ := startUnlessRestricted_same u
      rw [← hufields.1, ← hufields.2.1] at hrow
      rcases registerKnown_kept req srv v.accessId huauthorised hrow with
        hf | ⟨henabled, t, hkept, heq⟩
      · exact .inl hf
      refine .inr ⟨t, hkept.ready, ?_, heq⟩
      rcases hkept.access with hsame | hdescribes
      · cases req with
        | d m =>
          obtain ⟨userId, -, -, -, -, hse, hsn⟩ := hg
          refine .inl ((takeStored_describes (fun he => ?_) (fun hn => ?_) hstored).same hsame)
          · exact (hraisedE.mp (hustart.enabled ▸ he)).resolve_right
              (fun h => absurd (h.symm.trans hse) (by decide))
          · exact (hraisedA.mp (hustart.active ▸ hn)).resolve_right
              (fun h => absurd (h.symm.trans hsn) (by decide))
        | b m =>
          obtain ⟨a, ha, hu0, huser, hid', hse, hsn, -⟩ := hg
          obtain ⟨hmem, haid⟩ := accessIdAuth_spec ha
          have htaken : u.startUnlessRestricted.takeStored (.b m) v.accessId =
              u.startUnlessRestricted := if_neg fun h => Bool.false_ne_true h.2
          rw [htaken] at hsame
          by_cases hboth : a.enabled = true ∧ a.isNowActive = true
          · refine .inl (describes_of_flags hmem ?_ (fun _ => hboth.1) fun _ => hboth.2)
            rw [hsame.accessId, hustart.accessId, hufields.2.2, hid', haid]
          · have hknown : knownClient srv a.userId m.guid db = some v := huser ▸
              knownClient_of_getClientId h.working hid hvariables.1 hvariables.2
            refine .inr ⟨m, a, v, rfl, ha, hu0, hknown, fun hte htn => ?_⟩
            rw [hsame.enabled, hustart.enabled, hraisedE] at hte
            rw [hsame.active, hustart.active, hraisedA] at htn
            exact ⟨hufields.2.1 ▸ henabled, hkept.updated, (hte.imp_right (hse ▸ ·)).symm,
              (htn.imp_right (hsn ▸ ·)).symm, hboth⟩
      · exact .inl hdescribes

/-! ## The path through structure B -/

theorem accessIdRow_isSome {a : AccessIdRow} (ha : a ∈ db.accessIds) :
    (db.accessIdRow a.id).isSome = true :=
  List.find?_isSome.mpr ⟨a, ha, decide_eq_true rfl⟩

/-- A known client with an authenticated access identifier is updated with it. -/
theorem updateClient_b {m : RegisterClientB} {a : AccessIdRow} (h : s.Started c db)
    (ha : a ∈ db.accessIds) (hid : s.accessId = a.id) (hkey : s.authkey = none)
    (hf : srv.fails .updateClient = false) :
    ∃ t, s.updateClient (.b m) srv = (true, t) ∧ SameAccess s t := by
  have hpos : s.accessId ≠ 0 := hid ▸ Int.ne_of_gt (db.accessIds_pos a ha)
  have hsuper : s.superuserAccessId (.b m) srv = s := if_neg fun h => hpos h.1
  have hrow : ((nullable s.accessId).all fun id =>
      (s.db.working.accessIdRow id).isSome) = true := by
    rw [nullable, if_neg hpos, hid]
    exact accessIdRow_isSome (h.accessIds ▸ ha)
  unfold updateClient daoUpdateClient
  simp only [hsuper, hf, Bool.false_eq_true, if_false, authkeyParam, hkey, Option.bind_some,
    Tables.updateClient, dif_pos hrow]
  exact ⟨_, rfl, rfl, rfl, rfl⟩

/-- A known client of structure B comes to the end with the request's access identifier. -/
theorem registerKnown_b {m : RegisterClientB} {a : AccessIdRow} (stored : Int)
    (h : s.Authorised c db) (hen : s.clientEnabled = true)
    (hc : ∃ row ∈ db.clients, row.id = s.clientId ∧ row.enabled = true)
    (ha : a ∈ db.accessIds) (hid : s.accessId = a.id) (hkey : s.authkey = none)
    (hf : c.restricted = true ∨ srv.fails .updateClient = false) :
    ∃ t, t.Ready c db ∧ SameAccess s t ∧
      s.startUnlessRestricted.registerKnown (.b m) srv stored = t.finish srv := by
  obtain ⟨hsame, hclient, henabled, hauthkey⟩ := startUnlessRestricted_same s
  have htaken : s.startUnlessRestricted.takeStored (.b m) stored = s.startUnlessRestricted :=
    if_neg fun h => Bool.false_ne_true h.2
  have hen' : ¬ s.startUnlessRestricted.clientEnabled = false := fun h =>
    Bool.false_ne_true (h.symm.trans (henabled.trans hen))
  rw [registerKnown_eq, htaken, if_neg hen']
  cases hc' : c.restricted with
  | true =>
    have hstart : s.startUnlessRestricted = s := by
      rw [startUnlessRestricted, h.pending.restrict, hc', if_pos rfl]
    rw [hstart, h.pending.restrict, hc', if_pos rfl]
    exact ⟨s, ⟨h.pending, by rw [h.working], by rw [h.working]; exact hc,
      fun _ => h.durable.trans h.working.symm⟩, ⟨rfl, rfl, rfl⟩, rfl⟩
  | false =>
    obtain ⟨hstarted, hworking⟩ := h.start hc'
    rw [hstarted.pending.restrict, hc', if_neg Bool.false_ne_true]
    obtain ⟨t, ht, hupdated⟩ := @updateClient_b c srv db _ m a hstarted ha
      (hsame.accessId.trans hid) (hauthkey.trans hkey)
      (hf.resolve_left fun h => absurd (h.symm.trans hc') (by decide))
    have hkept := (updateClient_kept (.b m) srv hstarted (by rw [hworking, hclient]; exact hc)).2
    rw [ht] at hkept ⊢
    exact ⟨t, (hkept rfl).ready, ⟨hupdated.accessId.trans hsame.accessId,
      hupdated.enabled.trans hsame.enabled, hupdated.active.trans hsame.active⟩, rfl⟩

end Reg

open Reg

/-- The request's access identifier lacks a flag that the one stored for the client has. -/
def Misled (c : Call) (srv : Server) (db : Tables) : Prop :=
  ∃ m a v, c.request = .b m ∧ isValid m.guid = true ∧ srv.connect = true ∧
    accessIdAuth srv m db = some a ∧ a.userId ≠ 0 ∧ knownClient srv a.userId m.guid db = some v ∧
    LacksFlag srv c a v

namespace Call

variable (srv) (superuserAuthorized connected : Bool)

theorem enter_pending (c : Call) (db : Tables) :
    ((c.object superuserAuthorized connected db).enter c.request).Pending c db := by
  unfold Reg.enter
  split <;>
    exact ⟨rfl, rfl, rfl, fun h => absurd h Bool.false_ne_true, fun _ => ⟨rfl, rfl, rfl⟩⟩

/-- The object on entry to `client_auth`. -/
theorem connect_authorised (c : Call) (db : Tables) :
    (((c.object superuserAuthorized connected db).enter c.request).connect c.request).Authorised
        c db ∧
      (((c.object superuserAuthorized connected db).enter c.request).connect c.request).Entered
        c.request := by
  refine ⟨⟨(enter_pending superuserAuthorized connected c db).congr rfl rfl rfl rfl (fun _ => rfl)
    fun _ => rfl, ?_, rfl, ?_, ?_⟩, ?_⟩
  all_goals cases c.request
  case refine_4.b => exact ⟨rfl, rfl⟩
  case refine_4.d => exact ⟨rfl, rfl, rfl⟩
  all_goals rfl

/-- The call fails, or all that its end depends on is known. -/
theorem run_ends (c : Call) (db : Tables) :
    (c.run srv superuserAuthorized connected db).Failed c db ∨
      isValid c.request.guid = true ∧ srv.connect = true ∧ c.request.Accepted srv db ∧
        ∃ t, t.Ready c db ∧ Judged srv c db c.request t ∧
          c.run srv superuserAuthorized connected db = t.finish srv := by
  have hpending := enter_pending superuserAuthorized connected c db
  have hauthorised := connect_authorised superuserAuthorized connected c db
  unfold run Reg.registerClient
  dsimp only
  split
  · exact .inl (sendResult_failed srv _ hpending (by decide))
  · rename_i hguid
    split
    · exact .inl (sendResult_failed srv _ hpending (by decide))
    · split
      · exact .inl (sendResult_failed srv _ hpending (by decide))
      · rename_i hconnect
        obtain ⟨hfalse, htrue⟩ := clientAuth_spec c.request srv hauthorised.1 hauthorised.2
        split
        · rename_i t ht
          rw [ht] at hfalse
          exact .inl (hfalse rfl)
        · rename_i t ht
          rw [ht] at htrue
          obtain ⟨ht, hgranted⟩ := htrue rfl
          rcases registerAuthorised_ends ht hgranted with hf | ⟨u, hready, hjudged, heq⟩
          · exact .inl hf
          · exact .inr ⟨eq_true_of_ne_false hguid, eq_true_of_ne_false hconnect, hgranted.accepted,
              u, hready, hjudged, heq⟩

end Call

/-! ## Admission -/

/-- Rows with one id are one row. -/
theorem eq_of_id {a b : AccessIdRow} (ha : a ∈ db.accessIds) (hb : b ∈ db.accessIds)
    (h : a.id = b.id) : a = b := by
  have hnodup : (db.accessIds.map (·.id)).Nodup := List.pairwise_map.mpr db.accessIds_key
  exact List.inj_on_of_nodup_map hnodup ha hb h

/-- The two flags are of one row. -/
theorem Reg.Describes.row (h : s.Describes db.accessIds) (he : s.accessIdEnabled = true)
    (hn : s.accessIdActive = true) : ∃ a ∈ db.accessIds,
      a.id = s.accessId ∧ a.enabled = true ∧ a.isNowActive = true := by
  obtain ⟨a, ha, hid, hae⟩ := h.enabled he
  obtain ⟨b, hb, hid', hbn⟩ := h.active hn
  obtain rfl : a = b := eq_of_id ha hb (hid.trans hid'.symm)
  exact ⟨a, ha, hid, hae, hbn⟩

/-- `client_auth` accepts the credentials of structure B. -/
theorem Reg.clientAuth_b {m : RegisterClientB} {a : AccessIdRow} (h : s.Authorised c db)
    (ha : accessIdAuth srv m db = some a) (hu : a.userId ≠ 0) :
    s.clientAuth (.b m) srv = (true, { s with
      userId := a.userId, accessIdEnabled := a.enabled, accessIdActive := a.isNowActive }) := by
  simp only [clientAuth, h.working, ha, if_neg hu]

/-- The object with the id and the variables of the known client. -/
def Reg.withVariables (req : Request) (srv : Server) (v : ClientVariables) (s : Reg) : Reg :=
  { s with clientId := s.getClientId req srv, clientEnabled := v.clientEnabled }.raise
    v.accessIdEnabled v.accessIdActive

theorem Reg.registerAuthorised_known {v : ClientVariables} (h : s.Authorised c db)
    (hv : knownClient srv s.userId req.guid db = some v) :
    s.getClientId req srv ≠ 0 ∧ db.getClientVariables (s.getClientId req srv) = some v ∧
      s.registerAuthorised req srv =
        (s.withVariables req srv v).startUnlessRestricted.registerKnown req srv v.accessId := by
  unfold knownClient at hv
  split at hv
  · cases hv
  · rename_i hf
    rw [not_or] at hf
    have hid : s.getClientId req srv = db.getClientId s.userId req.guid := by
      rw [getClientId, if_neg hf.1, h.working]
    have hne : s.getClientId req srv ≠ 0 := by
      intro h0
      rw [← hid, h0] at hv
      cases hv
    have hvariables : getClientVariables srv { s with clientId := s.getClientId req srv } =
        some v := by
      rw [getClientVariables, if_neg hf.2]
      exact (congrArg (·.getClientVariables (s.getClientId req srv)) h.working).trans (hid ▸ hv)
    refine ⟨hne, hid ▸ hv, ?_⟩
    unfold registerAuthorised
    simp only [hvariables, if_neg hne]
    rfl

/-- **A misled call is admitted** through the access identifier of the request. -/
theorem Misled.admits (superuserAuthorized connected : Bool) (h : Misled c srv db) :
    (c.run srv superuserAuthorized connected db).resultCode = .true ∧
      ∃ a ∈ db.accessIds, a.id = (c.run srv superuserAuthorized connected db).accessId ∧
        ¬ (a.enabled = true ∧ a.isNowActive = true) ∧
        (c.run srv superuserAuthorized connected db).db.durable.accessIds = db.accessIds := by
  obtain ⟨m, a, v, hreq, hguid, hconnect, ha, hu, hknown, hlacks⟩ := h
  obtain ⟨hauthorised, hentered⟩ := Call.connect_authorised superuserAuthorized connected c db
  generalize hs : ((c.object superuserAuthorized connected db).enter c.request).connect
    c.request = s at hauthorised hentered
  have hrun : c.run srv superuserAuthorized connected db =
      match s.clientAuth (.b m) srv with
      | (false, s) => s
      | (true, s) => s.registerAuthorised (.b m) srv := by
    unfold Call.run Reg.registerClient
    dsimp only
    rw [hs, hreq]
    have hguid' : ¬ isValid (Request.b m).guid = false := fun h =>
      absurd (hguid.symm.trans h) (by decide)
    have hauthkey : ¬ (Request.b m).isValidAuthkey = false := Bool.noConfusion
    have hconnect' : ¬ srv.connect = false := fun h => absurd (hconnect.symm.trans h) (by decide)
    exact (if_neg hguid').trans ((if_neg hauthkey).trans (if_neg hconnect'))
  rw [clientAuth_b hauthorised ha hu] at hrun
  rw [hreq] at hentered
  -- the object after `client_auth`
  have hgranted : Authorised c db { s with
      userId := a.userId, accessIdEnabled := a.enabled, accessIdActive := a.isNowActive } :=
    hauthorised.congr rfl rfl rfl rfl rfl
  obtain ⟨-, hvariables, hregister⟩ := @registerAuthorised_known c srv (.b m) db _ v hgranted hknown
  obtain ⟨hrow, -⟩ := getClientVariables_spec hvariables
  obtain ⟨hmem, hid⟩ := accessIdAuth_spec ha
  obtain ⟨hraisedE, hraisedA⟩ := raise_enabled v.accessIdEnabled v.accessIdActive
    { s with
      userId := a.userId, accessIdEnabled := a.enabled, accessIdActive := a.isNowActive
      clientId := s.getClientId (.b m) srv, clientEnabled := v.clientEnabled }
  obtain ⟨t, hready, hsame, hfinish⟩ := @registerKnown_b c srv db
    (Reg.withVariables (.b m) srv v { s with
      userId := a.userId, accessIdEnabled := a.enabled, accessIdActive := a.isNowActive })
    m a v.accessId (hgranted.congr rfl rfl rfl rfl rfl) hlacks.clientEnabled
    (hlacks.clientEnabled ▸ hrow) hmem (hentered.1.trans hid.symm) hentered.2 hlacks.updated
  obtain ⟨-, haccess, -, hdurable, hcode⟩ := finish_spec srv hready
  dsimp only at hrun
  rw [hrun, hregister, hfinish]
  refine ⟨hcode.mpr ⟨?_, ?_, ?_⟩, a, hmem, ?_, hlacks.lacks, ?_⟩
  · rw [hsame.accessId]
    exact fun h => absurd (hid.trans (hentered.1.symm.trans h))
      (Int.ne_of_gt (db.accessIds_pos a hmem))
  · rw [hsame.enabled]
    exact hraisedE.mpr hlacks.enabled.symm
  · rw [hsame.active]
    exact hraisedA.mpr hlacks.active.symm
  · rw [haccess, hsame.accessId]
    exact hid.trans hentered.1.symm
  · rw [hdurable, hready.accessIds]

/-- **Who is admitted**: every call answers as it should, and a client that gets `TRUE` has an
enabled and active access identifier, exactly where the call is not misled. -/
theorem admits_iff (c : Call) (srv : Server) (superuserAuthorized connected : Bool) (db : Tables) :
    (Answered c db (c.run srv superuserAuthorized connected db) ∧
      ((c.run srv superuserAuthorized connected db).resultCode = .true →
        Admitted c srv db (c.run srv superuserAuthorized connected db))) ↔ ¬ Misled c srv db := by
  constructor
  · intro h hmisled
    obtain ⟨htrue, a, ha, hid, hlacks, hsame⟩ := hmisled.admits superuserAuthorized connected
    obtain ⟨b, hb, hid', hflags⟩ := (h.2 htrue).accessId
    rw [hsame] at hb
    obtain rfl : a = b := eq_of_id ha hb (hid.trans hid'.symm)
    exact hlacks hflags
  · intro hnot
    rcases Call.run_ends srv superuserAuthorized connected c db with
      hf | ⟨hguid, hconnect, haccepted, t, hready, hjudged, heq⟩
    · exact ⟨hf.1, fun ht => absurd ht hf.2⟩
    obtain ⟨hanswered, haccess, hclient, hdurable, hcode⟩ := finish_spec srv hready
    rw [heq]
    refine ⟨hanswered, fun ht => ?_⟩
    obtain ⟨-, he, hn⟩ := hcode.mp ht
    have hdescribes : t.Describes db.accessIds := by
      rcases hjudged with hd | ⟨m, a, v, hreq, ha, hu, hknown, hlacks⟩
      · exact hd
      · exact absurd ⟨m, a, v, hreq, by rw [hreq] at hguid; exact hguid, hconnect, ha, hu, hknown,
          hlacks he hn⟩ hnot
    refine ⟨haccepted, ?_, ?_⟩
    · rw [hdurable, hclient]
      exact hready.client
    · rw [hdurable, haccess, hready.accessIds]
      exact hdescribes.row he hn

/-- User 1 with a client that has the access identifier 2; the access identifier 1 is disabled. -/
def twoAccessIds : Tables :=
  ⟨[⟨1, "nolan@atari.com", none, true, some 200⟩],
    [⟨1, 1, "abcd", false, true⟩, ⟨2, 1, "efgh", true, true⟩], [⟨7, 1, [1], none, true, some 2⟩],
    by decide, by decide, by decide, by decide, by decide, by decide⟩

def answeringServer : Server :=
  ⟨19, true, fun _ => false, fun s t => s == t, fun _ _ => true, fun _ _ => true, fun _ => none,
    none, 8, none⟩

def disabledCall : Call := .registerClient (.b ⟨[1], 1, "abcd"⟩)

/-- **A client comes in through a disabled access identifier**, which is then stored for it. -/
theorem admitted_through_disabled :
    (disabledCall.run answeringServer false false twoAccessIds).trace =
      [.startTransaction, .commit, .onRegistractionSuccess, .result .d .true 7,
        .remoteUpdateLists] ∧
    (disabledCall.run answeringServer false false twoAccessIds).accessId = 1 ∧
    (disabledCall.run answeringServer false false twoAccessIds).db.durable.clients.map
      (·.accessId) = [some 1] ∧
    ¬ Admitted disabledCall answeringServer twoAccessIds
      (disabledCall.run answeringServer false false twoAccessIds) := by
  refine ⟨by decide, by decide, by decide, fun h => ?_⟩
  obtain ⟨a, ha, hid, he, -⟩ := h.accessId
  have hrows : ∀ a ∈
        (disabledCall.run answeringServer false false twoAccessIds).db.durable.accessIds,
      a.id = (disabledCall.run answeringServer false false twoAccessIds).accessId →
        a.enabled = false := by
    decide
  exact absurd (he.symm.trans (hrows a ha hid)) (by decide)

end Client
