import Mathlib.Data.List.Count
import SuplaCore.Conn.Connection

/-!
# What a connection lets through, and how long it waits

A connection belongs to a device or to a client from the first call on that one of them handles,
and a handler that requires a registration works only behind the one that has registered the object
(`gated`). A thread in `eh_wait` wakes up before the time of its connection is over by more than the
shortest wait (`wakes_in_time`).

A loop adds its connection some time after it has asked for it, so there may be as many connections
above the limit as there are other loops (`pending_bound`). What the main loop keeps of the past is
the episode of exceeded limits that has not ended; new connections are rejected from the moment on
at which it has lasted ten minutes (`rejectAllNewConnections_iff`).
-/

namespace Connection

open Srpc Sys

variable {c c' : Conn} {kind : Kind} {callId : UInt32} {h : Handler} {r : Conn.Answer}

/-! ## What is in the log -/

/-- Whether the object is registered after some calls, of which the last one comes first. -/
def registeredBy : List Event → Bool
  | [] => false
  | .executed _ _ _ _ after :: _ => after
  | .unhandled _ :: log => registeredBy log

/-- Every handler that has worked is the one of its call, and was allowed to. -/
def Sound (kind : Kind) : List Event → Prop
  | [] => True
  | .unhandled _ :: log => Sound kind log
  | .executed k callId h before after :: log =>
    k = kind ∧ kind.handlers.find? (·.canHandleCall callId) = some h ∧
      (h.isRegistrationRequired = true → before = true) ∧ before = registeredBy log ∧
      (before = true → after = true) ∧ (after = true → before = true ∨ h.duty = .register) ∧
      Sound kind log

/-- The registration of the object. -/
def Event.Registers (kind : Kind) : Event → Prop
  | .executed k _ h before after => k = kind ∧ h.duty = .register ∧ before = false ∧ after = true
  | .unhandled _ => False

def Event.isUnhandled : Event → Bool
  | .executed _ _ _ _ _ => false
  | .unhandled _ => true

theorem Sound.of_append {later earlier : List Event} (hs : Sound kind (later ++ earlier)) :
    Sound kind earlier := by
  induction later with
  | nil => exact hs
  | cons e later ih =>
    cases e with
    | unhandled => exact ih hs
    | executed => exact ih hs.2.2.2.2.2.2

theorem Sound.registers {log : List Event} (hs : Sound kind log)
    (hreg : registeredBy log = true) : ∃ e ∈ log, e.Registers kind := by
  induction log with
  | nil => cases hreg
  | cons e log ih =>
    cases e with
    | unhandled =>
      obtain ⟨e, he, hregisters⟩ := ih hs hreg
      exact ⟨e, .tail _ he, hregisters⟩
    | executed k callId h before after =>
      obtain ⟨hk, -, -, hbefore, -, hduty, hrest⟩ := hs
      cases before with
      | true =>
        obtain ⟨e, he, hregisters⟩ := ih hrest hbefore.symm
        exact ⟨e, .tail _ he, hregisters⟩
      | false =>
        have hduty := (hduty hreg).resolve_left Bool.false_ne_true
        exact ⟨_, .head _, hk, hduty, rfl, hreg⟩

theorem Sound.not_registers {log : List Event} (hs : Sound kind log)
    (hreg : registeredBy log = false) : ∀ e ∈ log, ¬ e.Registers kind := by
  induction log with
  | nil => exact fun e he => absurd he List.not_mem_nil
  | cons e log ih =>
    cases e with
    | unhandled => exact List.forall_mem_cons.2 ⟨id, ih hs hreg⟩
    | executed k callId h before after =>
      obtain ⟨-, -, -, hbefore, hkept, -, hrest⟩ := hs
      have hafter : after = false := hreg
      subst hafter
      cases before with
      | true => cases hkept rfl
      | false =>
        refine List.forall_mem_cons.2 ⟨fun hregisters => ?_, ih hrest hbefore.symm⟩
        cases hregisters.2.2.2

/-! ## One call -/

/-- What a handler does to its connection. -/
structure Runs (c c' : Conn) (h : Handler) : Prop where
  now : c.now ≤ c'.now
  initTime : c'.initTime = c.initTime
  counter : c'.unhandledCallCounter = c.unhandledCallCounter
  waitUsec : c'.waitUsec = c.waitUsec
  log : c'.log = c.log
  terminated : c.terminated = true → c'.terminated = true
  object : ∀ o, c.object = some o → ∃ registered,
    c'.object = some { o with registered := registered } ∧
      (o.registered = true → registered = true) ∧
      (registered = true → o.registered = true ∨ h.duty = .register)
  timeout : activityTimeoutMin ≤ c.activityTimeout ∧ c.activityTimeout ≤ activityTimeoutMax →
    activityTimeoutMin ≤ c'.activityTimeout ∧ c'.activityTimeout ≤ activityTimeoutMax

theorem runs (c : Conn) (h : Handler) (r : Conn.Answer) : Runs c (c.run h r) h := by
  have hsame : ∀ o : Object, c.object = some o → ∃ registered,
      c.object = some { o with registered := registered } ∧
        (o.registered = true → registered = true) ∧
        (registered = true → o.registered = true ∨ h.duty = .register) := fun o ho =>
    ⟨o.registered, ho, id, .inl⟩
  have hnow : c.now ≤ c.now + r.elapsed := Nat.le_add_right _ _
  unfold Conn.run
  dsimp only
  split
  · exact ⟨hnow, rfl, rfl, rfl, rfl, id, hsame, id⟩
  · split
    · exact ⟨hnow, rfl, rfl, rfl, rfl, id, hsame, id⟩
    · rename_i hduty
      split
      · exact ⟨hnow, rfl, rfl, rfl, rfl, fun _ => rfl, hsame, id⟩
      · rename_i hreg
        refine ⟨hnow, rfl, rfl, rfl, rfl, id, fun o ho => ?_, id⟩
        refine ⟨r.registered, ?_, fun hold => absurd ?_ hreg, fun _ => .inr hduty⟩
        · show c.object.map _ = _
          rw [ho]
          rfl
        · show c.object.any _ = true
          rw [ho]
          exact hold
    · refine ⟨hnow, rfl, rfl, rfl, rfl, id, hsame, fun _ => ?_⟩
      exact ⟨Nat.le_min.2 ⟨Nat.le_max_right _ _, by decide⟩, Nat.min_le_right _ _⟩

/-- What holds of a connection that is not finished. -/
structure Core (c : Conn) : Prop where
  sound : ∃ kind, Sound kind c.log ∧ ∀ o, c.object = some o → o.kind = kind
  registered : ∀ o, c.object = some o → o.registered = registeredBy c.log
  fresh : c.object = none → ∀ e ∈ c.log, e.isUnhandled = true
  counter : c.unhandledCallCounter = c.log.countP Event.isUnhandled
  limit : unhandledCallMaxcount ≤ c.unhandledCallCounter → c.terminated = true
  active : ∀ o, c.object = some o → o.lastActivityTime ≤ c.now
  timeout : activityTimeoutMin ≤ c.activityTimeout ∧ c.activityTimeout ≤ activityTimeoutMax
  pace : c.isRegistered = false → c.waitUsec = waitUsecMin

theorem isRegistered_some {o : Object} (ho : c.object = some o) :
    c.isRegistered = o.registered := by
  unfold Conn.isRegistered
  rw [ho]
  rfl

theorem isRegistered_none (ho : c.object = none) : c.isRegistered = false := by
  unfold Conn.isRegistered
  rw [ho]
  rfl

theorem sound_of_unhandled {log : List Event} (hlog : ∀ e ∈ log, e.isUnhandled = true) :
    Sound kind log ∧ registeredBy log = false := by
  induction log with
  | nil => exact ⟨trivial, rfl⟩
  | cons e log ih =>
    obtain ⟨he, hrest⟩ := List.forall_mem_cons.1 hlog
    cases e with
    | unhandled => exact ih hrest
    | executed => cases he

/-- A new object begins where nothing was handled. -/
theorem Core.withObject (hc : Core c) (hnone : c.object = none) (kind : Kind) :
    Core { c with object := some ⟨kind, false, c.now⟩ } := by
  obtain ⟨hsound, hreg⟩ : Sound kind c.log ∧ registeredBy c.log = false :=
    sound_of_unhandled (hc.fresh hnone)
  refine ⟨⟨kind, hsound, ?_⟩, ?_, ?_, hc.counter, hc.limit, ?_, hc.timeout, ?_⟩
  · intro o ho
    cases ho
    rfl
  · intro o ho
    cases ho
    exact hreg.symm
  · intro ho
    cases ho
  · intro o ho
    cases ho
    exact Nat.le_refl _
  · intro _
    exact hc.pace (isRegistered_none hnone)

/-- **A call that a handler takes** keeps what holds of the connection. -/
theorem Core.handleCall (hc : Core c) {o : Object} (ho : c.object = some o)
    (hrun : c.handleCall o.kind callId r = some c') :
    Core c' ∧ ∃ o', c'.object = some o' := by
  obtain ⟨h, hfind, hrun⟩ := Option.map_eq_some_iff.1 hrun
  have hreg : c.isRegistered = o.registered := isRegistered_some ho
  dsimp only at hrun
  split at hrun
  · rename_i hallowed
    have hruns := runs c h r
    obtain ⟨registered, hobject, hkept, hduty⟩ := hruns.object o ho
    have hafter : (c.run h r).isRegistered = registered := isRegistered_some hobject
    obtain ⟨kind, hsound, hkind⟩ := hc.sound
    rw [← hrun]
    refine ⟨⟨⟨kind, ?_, ?_⟩, ?_, ?_, ?_, ?_, ?_, ?_, ?_⟩, _, hobject⟩
    · refine ⟨hkind o ho, hkind o ho ▸ hfind, fun hrequired => ?_, ?_, ?_, ?_, ?_⟩
      · rw [hrequired] at hallowed
        exact hallowed
      · rw [hruns.log, hreg]
        exact hc.registered o ho
      · rw [hreg, hafter]
        exact hkept
      · rw [hreg, hafter]
        exact hduty
      · rwa [hruns.log]
    · intro o' ho'
      cases hobject.symm.trans ho'
      exact hkind o ho
    · intro o' ho'
      cases hobject.symm.trans ho'
      exact hafter.symm
    · intro hnone
      cases hobject.symm.trans hnone
    · show (c.run h r).unhandledCallCounter = (c.run h r).log.countP Event.isUnhandled
      rw [hruns.counter, hruns.log]
      exact hc.counter
    · intro hlimit
      refine hruns.terminated (hc.limit ?_)
      rwa [← hruns.counter]
    · intro o' ho'
      cases hobject.symm.trans ho'
      exact Nat.le_trans (hc.active o ho) hruns.now
    · exact hruns.timeout hc.timeout
    · intro hnot
      have hnot : registered = false := hafter.symm.trans hnot
      show (c.run h r).waitUsec = waitUsecMin
      rw [hruns.waitUsec]
      refine hc.pace (hreg.trans ?_)
      exact Bool.eq_false_iff.2 fun hold => Bool.false_ne_true (hnot.symm.trans (hkept hold))
  · rw [← hrun]
    exact ⟨hc, o, ho⟩

theorem Core.catchUnhandledCall (hc : Core c) : Core (c.catchUnhandledCall callId) := by
  refine ⟨hc.sound, hc.registered, fun hnone => ?_, ?_, fun hlimit => ?_, hc.active, hc.timeout,
    hc.pace⟩
  · exact List.forall_mem_cons.2 ⟨rfl, hc.fresh hnone⟩
  · show c.unhandledCallCounter + 1 = _
    rw [hc.counter]
    exact (List.countP_cons_of_pos rfl).symm
  · have hlimit : c.unhandledCallCounter + 1 ≥ unhandledCallMaxcount := hlimit
    show (c.terminated || decide (c.unhandledCallCounter + 1 ≥ unhandledCallMaxcount)) = true
    rw [decide_eq_true hlimit, Bool.or_true]

theorem Core.touch (hc : Core c) :
    Core { c with object := c.object.map fun o => { o with lastActivityTime := c.now } } := by
  have hreg : ({ c with object := c.object.map fun o => { o with lastActivityTime := c.now } } :
      Conn).isRegistered = c.isRegistered := by
    unfold Conn.isRegistered
    cases c.object <;> rfl
  obtain ⟨kind, hsound, hkind⟩ := hc.sound
  refine ⟨⟨kind, hsound, ?_⟩, ?_, ?_, hc.counter, hc.limit, ?_, hc.timeout, ?_⟩
  · intro o' ho'
    obtain ⟨o, ho, rfl⟩ := Option.map_eq_some_iff.1 ho'
    exact hkind o ho
  · intro o' ho'
    obtain ⟨o, ho, rfl⟩ := Option.map_eq_some_iff.1 ho'
    exact hc.registered o ho
  · intro hnone
    exact hc.fresh (Option.map_eq_none_iff.1 hnone)
  · intro o' ho'
    obtain ⟨o, ho, rfl⟩ := Option.map_eq_some_iff.1 ho'
    exact Nat.le_refl _
  · rw [hreg]
    exact hc.pace

theorem Core.onRemoteCallReceived (hc : Core c) : Core (c.onRemoteCallReceived callId r) := by
  unfold Conn.onRemoteCallReceived
  cases ho : c.object with
  | some o =>
    dsimp only
    cases hrun : c.handleCall o.kind callId r with
    | some c' => exact (hc.handleCall ho hrun).1.touch
    | none => exact hc.catchUnhandledCall
  | none =>
    dsimp only
    cases hdevice : c.tryObject .device callId r with
    | some c' => exact ((hc.withObject ho .device).handleCall rfl hdevice).1
    | none =>
      cases hclient : c.tryObject .client callId r with
      | some c' => exact ((hc.withObject ho .client).handleCall rfl hclient).1
      | none => exact hc.catchUnhandledCall

/-! ## The loop -/

/-- When the time of the connection is over: that of the registration, or that of its activity. -/
def Conn.deadline (c : Conn) : Nat :=
  match c.object.filter (·.registered) with
  | none => (sec c.initTime + registerWaitTimeout) * 1000000
  | some o => (sec o.lastActivityTime + c.activityTimeout + 1) * 1000000

structure Inv (c : Conn) : Prop where
  sound : ∃ kind, Sound kind c.log
  counter : c.unhandledCallCounter = c.log.countP Event.isUnhandled
  core : c.pc ≠ .finished → Core c
  few : ∀ checked since, c.pc = .waiting checked since →
    c.unhandledCallCounter < unhandledCallMaxcount
  headed : ∀ checked, c.pc = .head checked →
    checked ≤ c.now ∧ checked + c.waitUsec < c.deadline + waitUsecMin
  waits : ∀ checked since, c.pc = .waiting checked since → checked ≤ since ∧
    c.now ≤ since + c.waitUsec ∧ checked + c.waitUsec < c.deadline + waitUsecMin

theorem lt_sec (t : Nat) : t < (sec t + 1) * 1000000 := by
  unfold sec
  omega

theorem sec_mono {t t' : Nat} (ht : t ≤ t') : sec t ≤ sec t' := Nat.div_le_div_right ht

/-- A state from which the loop does not go on waiting. -/
theorem Core.inv (hc : Core c) (hhead : ∀ checked, c.pc ≠ .head checked)
    (hwaiting : ∀ checked since, c.pc ≠ .waiting checked since) : Inv c :=
  ⟨hc.sound.imp fun _ => And.left, hc.counter, fun _ => hc,
    fun checked since hpc => absurd hpc (hwaiting checked since),
    fun checked hpc => absurd hpc (hhead checked),
    fun checked since hpc => absurd hpc (hwaiting checked since)⟩

/-- The thread moves on; nothing else changes. -/
theorem Core.at (hc : Core c) (pc : Pc) : Core { c with pc := pc } :=
  ⟨hc.sound, hc.registered, hc.fresh, hc.counter, hc.limit, hc.active, hc.timeout, hc.pace⟩

theorem Core.later (hc : Core c) (us : Nat) (pc : Pc) :
    Core { c with now := c.now + us, pc := pc } :=
  ⟨hc.sound, hc.registered, hc.fresh, hc.counter, hc.limit,
    fun o ho => Nat.le_trans (hc.active o ho) (Nat.le_add_right _ _), hc.timeout, hc.pace⟩

theorem Core.terminate (hc : Core c) (terminated : Bool) (pc : Pc) :
    Core { c with terminated := c.terminated || terminated, pc := pc } :=
  ⟨hc.sound, hc.registered, hc.fresh, hc.counter, fun hlimit => by
      show (c.terminated || terminated) = true
      rw [hc.limit hlimit, Bool.true_or], hc.active, hc.timeout, hc.pace⟩

/-- **The check of the timeouts**: the next wait ends before the time is over, or with the shortest
wait. -/
theorem Core.check (hc : Core c) (waitTimeUsec : Nat) (isSleepingObject : Bool) :
    Inv (c.check waitTimeUsec isSleepingObject) := by
  have hnow := lt_sec c.now
  unfold Conn.check
  cases ho : c.object.filter (·.registered) with
  | none =>
    have hpace : c.waitUsec = waitUsecMin := by
      refine hc.pace ?_
      unfold Conn.isRegistered
      cases hobject : c.object with
      | none => rfl
      | some o =>
        rw [hobject] at ho
        refine Bool.eq_false_iff.2 fun hreg => ?_
        have hreg : o.registered = true := hreg
        rw [Option.filter_some, if_pos hreg] at ho
        cases ho
    dsimp only
    split
    · have hcore := hc.terminate true .closing
      rw [Bool.or_true] at hcore
      exact hcore.inv (by intro _ hpc; cases hpc) (by intro _ _ hpc; cases hpc)
    · rename_i hearly
      refine ⟨hc.sound.imp fun _ => And.left, hc.counter, fun _ => hc.at _,
        (by intro _ _ hpc; cases hpc), fun checked hpc => ?_, (by intro _ _ hpc; cases hpc)⟩
      cases hpc
      refine ⟨Nat.le_refl _, ?_⟩
      have hdeadline : (({ c with pc := .head c.now } : Conn)).deadline =
          (sec c.initTime + registerWaitTimeout) * 1000000 := by
        unfold Conn.deadline
        dsimp only
        rw [ho]
      show c.now + c.waitUsec < _
      rw [hdeadline, hpace]
      omega
  | some o =>
    have hobject : c.object = some o := (Option.filter_eq_some_iff.1 ho).1
    have hactive := sec_mono (hc.active o hobject)
    dsimp only
    split
    · exact (hc.terminate (!isSleepingObject) .closing).inv (by intro _ hpc; cases hpc)
        (by intro _ _ hpc; cases hpc)
    · rename_i hearly
      have hreg : c.isRegistered = true := by
        rw [isRegistered_some hobject]
        exact (Option.filter_eq_some_iff.1 ho).2
      refine ⟨hc.sound.imp fun _ => And.left, hc.counter, fun _ => ?_,
        (by intro _ _ hpc; cases hpc), fun checked hpc => ?_, (by intro _ _ hpc; cases hpc)⟩
      · exact ⟨hc.sound, hc.registered, hc.fresh, hc.counter, hc.limit, hc.active, hc.timeout,
          fun hnot => absurd (hnot.symm.trans hreg) Bool.false_ne_true⟩
      · cases hpc
        refine ⟨Nat.le_refl _, ?_⟩
        unfold Conn.deadline
        dsimp only
        rw [ho]
        dsimp only
        have hmin : min waitTimeUsec ((c.activityTimeout - (sec c.now - sec o.lastActivityTime)) *
            1000000) ≤ (c.activityTimeout - (sec c.now - sec o.lastActivityTime)) * 1000000 :=
          Nat.min_le_right _ _
        unfold waitUsecMin
        omega

/-! ## Runs -/

theorem Inv.init (hinit : connection.init c) : Inv c := by
  obtain ⟨hnow, hobject, htimeout, hcounter, -, -, hwait, hpc, hlog⟩ := hinit
  have hcore : Core c := by
    refine ⟨⟨.device, ?_, ?_⟩, ?_, ?_, ?_, ?_, ?_, ?_, fun _ => hwait⟩
    · rw [hlog]
      trivial
    · rw [hobject]
      exact fun o ho => by cases ho
    · rw [hobject]
      exact fun o ho => by cases ho
    · rw [hlog]
      exact fun _ e he => absurd he List.not_mem_nil
    · rw [hlog, hcounter]
      rfl
    · rw [hcounter]
      exact fun hlimit => absurd hlimit (by decide)
    · rw [hobject]
      exact fun o ho => by cases ho
    · rw [htimeout]
      decide
  refine ⟨hcore.sound.imp fun _ => And.left, hcore.counter, fun _ => hcore,
    fun checked since h => ?_, fun checked h => ?_, fun checked since h => ?_⟩
  · cases hpc.symm.trans h
  · cases hpc.symm.trans h
    refine ⟨Nat.le_of_eq hnow.symm, ?_⟩
    have hsec := lt_sec c.initTime
    unfold Conn.deadline registerWaitTimeout
    rw [hobject, hwait]
    show c.initTime + waitUsecMin < (sec c.initTime + 10) * 1000000 + waitUsecMin
    omega
  · cases hpc.symm.trans h

theorem Inv.step (hinv : Inv c) {a : Act} (hs : step c a = some c') : Inv c' := by
  cases a with
  | tick us =>
    rw [Connection.step] at hs
    split at hs
    · rename_i checked since hpc
      split at hs
      · rename_i hwithin
        have hs := Option.some.inj hs
        rw [← hs]
        have hcore := hinv.core (by rw [hpc]; intro h; cases h)
        have hlater := hcore.later us c.pc
        refine ⟨hinv.sound, hinv.counter, fun _ => hlater, hinv.few, fun checked h => ?_,
          fun checked' since' h => ?_⟩
        · cases hpc.symm.trans h
        · cases hpc.symm.trans h
          exact ⟨(hinv.waits checked since hpc).1, hwithin, (hinv.waits checked since hpc).2.2⟩
      · cases hs
    · rename_i hpc
      have hs := Option.some.inj hs
      rw [← hs]
      refine ⟨hinv.sound, hinv.counter, fun h => (hinv.core h).later us c.pc, hinv.few,
        fun checked h => ?_, fun checked since h => absurd h (hpc checked since)⟩
      obtain ⟨hchecked, hdeadline⟩ := hinv.headed checked h
      exact ⟨Nat.le_trans hchecked (Nat.le_add_right _ _), hdeadline⟩
  | terminate =>
    have hs := Option.some.inj hs
    rw [← hs]
    refine ⟨hinv.sound, hinv.counter, fun h => ?_, hinv.few, hinv.headed, hinv.waits⟩
    have hcore := (hinv.core h).terminate true c.pc
    rwa [Bool.or_true] at hcore
  | go =>
    rw [Connection.step] at hs
    split at hs
    · rename_i checked hpc
      have hs := Option.some.inj hs
      have hcore := hinv.core (by rw [hpc]; intro h; cases h)
      split at hs
      · rw [← hs]
        exact (hcore.at .closing).inv (by intro _ h; cases h) (by intro _ _ h; cases h)
      · rename_i hgoes
        rw [← hs]
        refine ⟨hinv.sound, hinv.counter, fun _ => hcore.at _, fun _ _ _ => ?_,
          (by intro _ h; cases h), fun checked' since h => ?_⟩
        · exact Nat.lt_of_not_le fun hlimit => hgoes (hcore.limit hlimit)
        · cases h
          obtain ⟨hchecked, hdeadline⟩ := hinv.headed checked hpc
          exact ⟨hchecked, Nat.le_add_right _ _, hdeadline⟩
    · cases hs
  | wake =>
    rw [Connection.step] at hs
    split at hs
    · rename_i checked since hpc
      have hs := Option.some.inj hs
      have hcore := hinv.core (by rw [hpc]; intro h; cases h)
      rw [← hs]
      exact (hcore.at _).inv (by intro _ h; cases h) (by intro _ _ h; cases h)
    · cases hs
  | call callId r =>
    rw [Connection.step] at hs
    split at hs
    · rename_i calls hpc
      have hs := Option.some.inj hs
      have hcore := hinv.core (by rw [hpc]; intro h; cases h)
      rw [← hs]
      exact (hcore.onRemoteCallReceived.at _).inv (by intro _ h; cases h) (by intro _ _ h; cases h)
    · cases hs
  | iterated ok =>
    rw [Connection.step] at hs
    split at hs
    · rename_i calls hpc
      have hcore := hinv.core (by rw [hpc]; intro h; cases h)
      split at hs
      · split at hs
        · have hs := Option.some.inj hs
          rw [← hs]
          exact (hcore.at _).inv (by intro _ h; cases h) (by intro _ _ h; cases h)
        · cases hs
      · have hs := Option.some.inj hs
        rw [← hs]
        exact (hcore.at _).inv (by intro _ h; cases h) (by intro _ _ h; cases h)
    · cases hs
  | check waitTimeUsec isSleepingObject =>
    rw [Connection.step] at hs
    split at hs
    · rename_i hpc
      have hs := Option.some.inj hs
      have hcore := hinv.core (by rw [hpc]; intro h; cases h)
      rw [← hs]
      exact hcore.check waitTimeUsec isSleepingObject
    · cases hs
  | close isSleepingObject timeToWakeupMsec =>
    rw [Connection.step] at hs
    split at hs
    · rename_i hpc
      have hs := Option.some.inj hs
      have hcore := hinv.core (by rw [hpc]; intro h; cases h)
      rw [← hs]
      refine (hcore.at _).inv ?_ ?_
      · intro _ h
        split at h <;> cases h
      · intro _ _ h
        split at h <;> cases h
    · cases hs
  | sleep =>
    rw [Connection.step] at hs
    split at hs
    · rename_i left hpc
      have hcore := hinv.core (by rw [hpc]; intro h; cases h)
      split at hs
      · split at hs
        · have hs := Option.some.inj hs
          rw [← hs]
          exact (hcore.later _ _).inv (by intro _ h; cases h) (by intro _ _ h; cases h)
        · have hs := Option.some.inj hs
          rw [← hs]
          exact (hcore.later _ _).inv (by intro _ h; cases h) (by intro _ _ h; cases h)
      · have hs := Option.some.inj hs
        rw [← hs]
        exact (hcore.at _).inv (by intro _ h; cases h) (by intro _ _ h; cases h)
    · cases hs
  | release =>
    rw [Connection.step] at hs
    split at hs
    · have hs := Option.some.inj hs
      rw [← hs]
      exact ⟨hinv.sound, hinv.counter, fun h => absurd rfl h, (by intro _ _ h; cases h),
        (by intro _ h; cases h), (by intro _ _ h; cases h)⟩
    · cases hs

theorem Inv.reach (hreach : Reach connection Any c) : Inv c :=
  hreach.invariant (fun _ => Inv.init) fun _ hinv hs => hinv.step hs

/-- **What a connection lets through**: all handlers that have worked are handlers of one kind of
object, each the first that can handle its call; one that requires a registration worked behind the
handler that has registered the object, which happens once. A thread in `eh_wait` has received fewer
than five calls that nobody handles. -/
theorem gated (c : Conn) (hreach : Reach connection Any c) :
    (∃ kind, ∀ later k callId h before after earlier,
      c.log = later ++ .executed k callId h before after :: earlier →
        k = kind ∧ kind.handlers.find? (·.canHandleCall callId) = some h ∧
        (h.isRegistrationRequired = true → ∃ e ∈ earlier, e.Registers kind) ∧
        (before = false → ∀ e ∈ earlier, ¬ e.Registers kind)) ∧
    ∀ checked since, c.pc = .waiting checked since →
      c.log.countP Event.isUnhandled < unhandledCallMaxcount := by
  have hinv := Inv.reach hreach
  obtain ⟨kind, hsound⟩ := hinv.sound
  refine ⟨⟨kind, fun later k callId h before after earlier hlog => ?_⟩, fun checked since hpc => ?_⟩
  · rw [hlog] at hsound
    obtain ⟨hk, hfind, hrequired, hbefore, -, -, hearlier⟩ := hsound.of_append
    refine ⟨hk, hfind, fun hreq => ?_, fun hnot => ?_⟩
    · exact hearlier.registers (hbefore.symm.trans (hrequired hreq))
    · exact hearlier.not_registers (hbefore.symm.trans hnot)
  · rw [← hinv.counter]
    exact hinv.few checked since hpc

/-- A connection that was accepted at the beginning of time. -/
def accepted : Conn := ⟨0, 0, none, 120, 0, false, true, 100000, .head 0, []⟩

theorem accepted_init : connection.init accepted := ⟨rfl, rfl, rfl, rfl, rfl, rfl, rfl, rfl, rfl⟩

/-- A device registers, and the thread waits for its next call. -/
def registers : List Act :=
  [.go, .wake, .call Call.dsRegisterDeviceG.id ⟨false, true, 0, 0⟩, .iterated true,
    .check 120000000 false, .go]

theorem gated_ping :
    ∃ e ∈ [Event.executed .device Call.dsRegisterDeviceG.id chRegisterDeviceG false true],
      e.Registers .device := by
  have hlog : (connection.run accepted (registers ++
      [.wake, .call Call.dcsPingServer.id ⟨false, false, 0, 0⟩])).map Conn.log =
      some [.executed .device Call.dcsPingServer.id chPingServer true true,
        .executed .device Call.dsRegisterDeviceG.id chRegisterDeviceG false true] := rfl
  obtain ⟨c, hrun, hlog⟩ := Option.map_eq_some_iff.1 hlog
  obtain ⟨⟨kind, hgated⟩, -⟩ := gated c (Reach.run (Reach.init accepted_init) hrun)
  obtain ⟨rfl, -, hrequired, -⟩ := hgated [] .device _ _ _ _ _ hlog
  exact hrequired rfl

variable {limit : Int} {localIpv4 : List UInt32} {loops : Nat} {s s' : Listener}

/-! ## Pending connections -/

/-- A connection of another host. -/
def isRemote (localIpv4 : List UInt32) (c : Nat × UInt32) : Bool :=
  !Limits.isLocal localIpv4 c.2

/-- A loop that is about to make a connection of another host. -/
def AcceptPc.isRemote (localIpv4 : List UInt32) : AcceptPc → Bool
  | .accepting => false
  | .allowed ipv4 => !Limits.isLocal localIpv4 ipv4

theorem isRemote_allowed (ipv4 : UInt32) :
    (AcceptPc.allowed ipv4).isRemote localIpv4 = !Limits.isLocal localIpv4 ipv4 := rfl

structure Bounded (limit : Int) (localIpv4 : List UInt32) (loops : Nat) (s : Listener) : Prop where
  length : s.loops.length = loops
  bound : 0 < limit → ((s.pending.countP (isRemote localIpv4) +
    s.loops.countP (AcceptPc.isRemote localIpv4) : Nat) : Int) < limit + loops

theorem countP_set_le {p : AcceptPc → Bool} {l : List AcceptPc} {i : Nat} {pc : AcceptPc} :
    (l.set i pc).countP p ≤ l.length := by
  have hlength : (l.set i pc).length = l.length := List.length_set ..
  exact hlength ▸ List.countP_le_length

theorem countP_set_other {p : AcceptPc → Bool} {l : List AcceptPc} {i : Nat} {old pc : AcceptPc}
    (hi : l[i]? = some old) (hpc : p pc = p old) : (l.set i pc).countP p = l.countP p := by
  induction l generalizing i with
  | nil => rfl
  | cons x l ih =>
    cases i with
    | zero =>
      cases hi
      rw [List.set_cons_zero, List.countP_cons, List.countP_cons, hpc]
    | succ i =>
      rw [List.set_cons_succ, List.countP_cons, List.countP_cons, ih hi]

theorem countP_set_leaves {p : AcceptPc → Bool} {l : List AcceptPc} {i : Nat} {old pc : AcceptPc}
    (hi : l[i]? = some old) (hold : p old = true) (hpc : p pc = false) :
    (l.set i pc).countP p + 1 = l.countP p := by
  induction l generalizing i with
  | nil => cases hi
  | cons x l ih =>
    cases i with
    | zero =>
      cases hi
      rw [List.set_cons_zero, List.countP_cons_of_neg (Bool.not_eq_true _ ▸ hpc),
        List.countP_cons_of_pos hold]
    | succ i =>
      have hrest := ih hi
      rw [List.set_cons_succ, List.countP_cons, List.countP_cons]
      omega

theorem isConnectionAllowed_remote {pending : Nat} {ipv4 : UInt32} {l : Limits}
    (h : l.isConnectionAllowed limit localIpv4 pending ipv4 = true)
    (hremote : Limits.isLocal localIpv4 ipv4 = false) (hlimit : 0 < limit) :
    (pending : Int) < limit := by
  unfold Limits.isConnectionAllowed at h
  split at h
  · cases h
  · split at h
    · cases hremote.symm.trans h
    · rename_i hnot
      unfold Limits.exceeded at hnot
      rw [decide_eq_true_eq, not_and] at hnot
      exact Int.not_le.1 (hnot hlimit)

theorem Bounded.step (h : Bounded limit localIpv4 loops s) {a : ListenerAct}
    (hs : s.step limit localIpv4 a = some s') : Bounded limit localIpv4 loops s' := by
  cases a with
  | tick sec =>
    have hs := Option.some.inj hs
    rw [← hs]
    exact ⟨h.length, h.bound⟩
  | accept i ipv4 =>
    rw [Listener.step] at hs
    split at hs
    · rename_i hi
      have hs := Option.some.inj hs
      rw [← hs]
      split
      · rename_i hallowed
        refine ⟨(List.length_set ..).trans h.length, fun hlimit => ?_⟩
        by_cases hlocal : Limits.isLocal localIpv4 ipv4 = true
        · rw [countP_set_other hi (by rw [isRemote_allowed, hlocal]; rfl)]
          exact h.bound hlimit
        · have hpending := isConnectionAllowed_remote hallowed (Bool.eq_false_iff.2 hlocal) hlimit
          have hremote : s.pending.countP (isRemote localIpv4) ≤ s.pending.length :=
            List.countP_le_length
          have hloops : (s.loops.set i (.allowed ipv4)).countP (AcceptPc.isRemote localIpv4) ≤
              loops := h.length ▸ countP_set_le
          dsimp only
          omega
      · exact h
    · cases hs
  | create i =>
    rw [Listener.step] at hs
    split at hs
    · rename_i ipv4 hi
      have hs := Option.some.inj hs
      rw [← hs]
      refine ⟨(List.length_set ..).trans h.length, fun hlimit => ?_⟩
      have hbound := h.bound hlimit
      dsimp only
      rw [List.countP_append, List.countP_singleton]
      by_cases hlocal : Limits.isLocal localIpv4 ipv4 = true
      · rw [countP_set_other hi (by rw [isRemote_allowed, hlocal]; rfl),
          if_neg (by rw [isRemote, hlocal]; decide)]
        exact hbound
      · have hlocal := Bool.eq_false_iff.2 hlocal
        have hmade : AcceptPc.isRemote localIpv4 .accepting = false := rfl
        have hleaves := countP_set_leaves (p := AcceptPc.isRemote localIpv4) hi
          (by rw [isRemote_allowed, hlocal]; rfl) hmade
        rw [if_pos (by rw [isRemote, hlocal]; rfl)]
        omega
    · cases hs
  | done id =>
    have hs := Option.some.inj hs
    rw [← hs]
    refine ⟨h.length, fun hlimit => ?_⟩
    have hbound := h.bound hlimit
    have hfewer : (s.pending.eraseP (·.1 = id)).countP (isRemote localIpv4) ≤
        s.pending.countP (isRemote localIpv4) := (List.eraseP_sublist ..).countP_le
    dsimp only
    omega
  | logLimits =>
    have hs := Option.some.inj hs
    rw [← hs]
    exact ⟨h.length, h.bound⟩

theorem Bounded.init (hinit : (listener limit localIpv4 loops).init s) :
    Bounded limit localIpv4 loops s := by
  obtain ⟨-, -, hpending, hloops, -⟩ := hinit
  refine ⟨by rw [hloops, List.length_replicate], fun hlimit => ?_⟩
  have hnone : (List.replicate loops AcceptPc.accepting).countP (AcceptPc.isRemote localIpv4) = 0 :=
    List.countP_eq_zero.2 fun pc hpc => by
      rw [List.eq_of_mem_replicate hpc]
      exact Bool.false_ne_true
  rw [hpending, hloops, hnone]
  show ((0 : Nat) : Int) < limit + loops
  omega

/-- **How many connections register at a time**: with a limit, fewer connections of other hosts are
pending than the limit and the number of loops that accept connections. -/
theorem pending_bound (limit : Int) (localIpv4 : List UInt32) (loops : Nat) (s : Listener)
    (h : Reach (listener limit localIpv4 loops) Any s) (hlimit : 0 < limit) :
    (s.pending.countP (isRemote localIpv4) : Int) < limit + loops := by
  have hbound := (h.invariant (fun _ => Bounded.init) fun _ hinv hs => hinv.step hs).bound hlimit
  omega

/-- Two loops, and nothing is pending. -/
def idleListener : Listener := ⟨1, .none, [], 0, [.accepting, .accepting], []⟩

theorem idleListener_init : (listener 1 [] 2).init idleListener := ⟨by decide, rfl, rfl, rfl, rfl⟩

/-- Both loops ask before one of them has added its connection. -/
def bothAccept : List ListenerAct := [.accept 0 7, .accept 1 8, .create 0, .create 1]

theorem pending_bound_both : ∃ s, (listener 1 [] 2).run idleListener bothAccept = some s ∧
    s.pending = [(0, 7), (1, 8)] ∧ (s.pending.countP (isRemote []) : Int) < 1 + (2 : Nat) := by
  have hpending : ((listener 1 [] 2).run idleListener bothAccept).map Listener.pending =
      some [(0, 7), (1, 8)] := rfl
  obtain ⟨s, hrun, hpending⟩ := Option.map_eq_some_iff.1 hpending
  exact ⟨s, hrun, hpending,
    pending_bound 1 [] 2 s (Reach.run (Reach.init idleListener_init) hrun) (by decide)⟩

/-! ## Episodes -/

/-- The times at which the limit was exceeded, back to the end of the last episode; the newest comes
first. An episode ends with a check that finds the limit kept ten seconds after the last one that
found it exceeded. -/
def episode : List (Nat × Bool) → List Nat
  | [] => []
  | (now, true) :: checks => now :: episode checks
  | (now, false) :: checks =>
    if (episode checks).head?.any fun last => decide (now - last ≥ 10) then []
    else episode checks

/-- What the static members say about an episode. -/
structure Keeps (l : Limits) (now : Nat) (times : List Nat) : Prop where
  past : ∀ t ∈ times, 0 < t ∧ t ≤ now
  last : l.regLimitExceededTime = times.headD 0
  alert : times ≠ [] → l.regLimitExceededAlertTime ≠ 0
  nil : times = [] → l = .none
  first : l.rejectAllNewConnections = false → ∀ t ∈ times,
    l.regLimitExceededAlertTime ∈ times ∧ l.regLimitExceededAlertTime ≤ t ∧
      t < l.regLimitExceededAlertTime + 600
  rejects : l.rejectAllNewConnections = true → ∃ t ∈ times, ∃ t' ∈ times, t + 600 ≤ t'

/-- The limit is found exceeded. -/
theorem Keeps.exceeded {l : Limits} {now pending : Nat} {times : List Nat} (h : Keeps l now times)
    (hnow : 0 < now) (hexceeded : Limits.exceeded limit pending = true) :
    Keeps (l.logLimits limit pending now) now (now :: times) := by
  unfold Limits.logLimits
  rw [if_pos hexceeded]
  dsimp only
  have hpast : ∀ t ∈ now :: times, 0 < t ∧ t ≤ now :=
    List.forall_mem_cons.2 ⟨⟨hnow, Nat.le_refl _⟩, h.past⟩
  cases times with
  | nil =>
    rw [h.nil rfl, Limits.none, if_pos rfl]
    refine ⟨hpast, rfl, fun _ => Nat.pos_iff_ne_zero.1 hnow, fun hnil => (by cases hnil),
      fun _ t ht => ?_, fun hrejects => (by cases hrejects)⟩
    rw [List.mem_singleton.1 ht]
    exact ⟨.head _, Nat.le_refl _, Nat.lt_add_of_pos_right (by decide)⟩
  | cons last times =>
    have halert := h.alert (List.cons_ne_nil _ _)
    rw [if_neg halert]
    split
    · rename_i hlong
      refine ⟨hpast, rfl, fun _ => Nat.pos_iff_ne_zero.1 hnow, fun hnil => (by cases hnil),
        fun hnot => (by cases hnot), fun _ => ?_⟩
      cases hrejected : l.rejectAllNewConnections with
      | true =>
        obtain ⟨t, ht, t', ht', hapart⟩ := h.rejects hrejected
        exact ⟨t, .tail _ ht, t', .tail _ ht', hapart⟩
      | false =>
        obtain ⟨hmem, -, -⟩ := h.first hrejected last (.head _)
        have hbefore := (h.past _ hmem).2
        exact ⟨_, .tail _ hmem, now, .head _, by omega⟩
    · rename_i hshort
      refine ⟨hpast, rfl, fun _ => halert, fun hnil => (by cases hnil), fun hnot t ht => ?_,
        fun hrejects => ?_⟩
      · obtain ⟨hmem, -, -⟩ := h.first hnot last (.head _)
        have hbefore := (h.past _ hmem).2
        refine ⟨.tail _ hmem, ?_⟩
        obtain rfl | ht := List.mem_cons.1 ht
        · dsimp only
          omega
        · exact (h.first hnot t ht).2
      · obtain ⟨t, ht, t', ht', hapart⟩ := h.rejects hrejects
        exact ⟨t, .tail _ ht, t', .tail _ ht', hapart⟩

theorem Keeps.none (now : Nat) : Keeps .none now [] :=
  ⟨fun t ht => absurd ht List.not_mem_nil, rfl, fun hnil => absurd rfl hnil, fun _ => rfl,
    fun _ t ht => absurd ht List.not_mem_nil, fun hrejects => (by cases hrejects)⟩

/-- The limit is found kept. -/
theorem Keeps.below {l : Limits} {now pending : Nat} {times : List Nat} (h : Keeps l now times)
    (hkept : Limits.exceeded limit pending = false) :
    Keeps (l.logLimits limit pending now) now
      (if times.head?.any fun last => decide (now - last ≥ 10) then [] else times) := by
  unfold Limits.logLimits
  rw [if_neg (Bool.eq_false_iff.1 hkept)]
  cases times with
  | nil =>
    rw [h.nil rfl]
    exact Keeps.none now
  | cons last times =>
    have hlast : l.regLimitExceededTime = last := h.last
    have hpos := (h.past last (.head _)).1
    rw [hlast]
    show Keeps _ now (if decide (now - last ≥ 10) = true then [] else last :: times)
    by_cases hover : now - last ≥ 10
    · rw [if_pos ⟨Nat.pos_iff_ne_zero.1 hpos, hover⟩, if_pos (decide_eq_true hover)]
      exact Keeps.none now
    · rw [if_neg fun hboth => hover hboth.2, if_neg (by rw [decide_eq_true_eq]; exact hover)]
      exact h

theorem Keeps.later {l : Limits} {now now' : Nat} {times : List Nat} (h : Keeps l now times)
    (hnow : now ≤ now') : Keeps l now' times :=
  ⟨fun t ht => ⟨(h.past t ht).1, Nat.le_trans (h.past t ht).2 hnow⟩, h.last, h.alert, h.nil,
    h.first, h.rejects⟩

theorem keeps_step (h : 0 < s.now ∧ Keeps s.limits s.now (episode s.checks)) {a : ListenerAct}
    (hs : s.step limit localIpv4 a = some s') :
    0 < s'.now ∧ Keeps s'.limits s'.now (episode s'.checks) := by
  cases a with
  | tick sec =>
    have hs := Option.some.inj hs
    rw [← hs]
    exact ⟨Nat.add_pos_left h.1 _, h.2.later (Nat.le_add_right _ _)⟩
  | accept i ipv4 =>
    rw [Listener.step] at hs
    split at hs
    · have hs := Option.some.inj hs
      rw [← hs]
      split
      · exact h
      · exact h
    · cases hs
  | create i =>
    rw [Listener.step] at hs
    split at hs
    · have hs := Option.some.inj hs
      rw [← hs]
      exact h
    · cases hs
  | done id =>
    have hs := Option.some.inj hs
    rw [← hs]
    exact h
  | logLimits =>
    have hs := Option.some.inj hs
    rw [← hs]
    refine ⟨h.1, ?_⟩
    dsimp only
    cases hexceeded : Limits.exceeded limit s.pending.length with
    | true => exact h.2.exceeded h.1 hexceeded
    | false => exact h.2.below hexceeded

/-- **When new connections are rejected**: `log_limits` has found the limit exceeded twice, ten
minutes apart, and the episode has not ended since. As long as an episode lasts, the soft limit is
reported. -/
theorem rejectAllNewConnections_iff (limit : Int) (localIpv4 : List UInt32) (loops : Nat)
    (s : Listener) (h : Reach (listener limit localIpv4 loops) Any s) :
    (s.limits.rejectAllNewConnections = true ↔
      ∃ t ∈ episode s.checks, ∃ t' ∈ episode s.checks, t + 600 ≤ t') ∧
    (s.limits.regLimitExceededAlertTime ≠ 0 ↔ episode s.checks ≠ []) := by
  have hkeeps := (h.invariant (P := fun s => 0 < s.now ∧ Keeps s.limits s.now (episode s.checks))
    (fun s hinit => ?_) fun _ hinv hs => keeps_step hinv hs).2
  · refine ⟨⟨hkeeps.rejects, ?_⟩, fun halert hnil => ?_, hkeeps.alert⟩
    · rintro ⟨t, ht, t', ht', hapart⟩
      refine Bool.not_eq_false _ ▸ fun hnot => ?_
      have hfirst := hkeeps.first hnot t ht
      have hlast := hkeeps.first hnot t' ht'
      omega
    · rw [hkeeps.nil hnil] at halert
      exact halert rfl
  · obtain ⟨hnow, hlimits, -, -, hchecks⟩ := hinit
    refine ⟨hnow, ?_⟩
    rw [hlimits, hchecks]
    exact Keeps.none s.now

theorem rejectAllNewConnections_iff_late :
    ∃ s, (listener 1 [] 2).run idleListener
        [.accept 0 7, .create 0, .logLimits, .tick 600, .logLimits, .tick 1, .done 0, .logLimits] =
      some s ∧ s.limits.rejectAllNewConnections = true := by
  have hchecks : ((listener 1 [] 2).run idleListener [.accept 0 7, .create 0, .logLimits, .tick 600,
      .logLimits, .tick 1, .done 0, .logLimits]).map Listener.checks =
      some [(602, false), (601, true), (1, true)] := rfl
  obtain ⟨s, hrun, hchecks⟩ := Option.map_eq_some_iff.1 hchecks
  have hepisode : episode s.checks = [601, 1] := by
    rw [hchecks]
    rfl
  refine ⟨s, hrun, (rejectAllNewConnections_iff 1 [] 2 s
    (Reach.run (Reach.init idleListener_init) hrun)).1.2 ?_⟩
  rw [hepisode]
  exact ⟨1, .tail _ (.head _), 601, .head _, by decide⟩

end Connection
