import SuplaCore.Mqtt.Publisher
import SuplaCore.Mqtt.Proof.Datasource

/-!
# What goes stale

The open context gives a state message for each channel that it has not passed (`Emits`), from the
version at that moment, and until it has the channel stays settled (`Carries`). What is noted is
covered by the queues until a context for it is opened. So a channel is stale only where a
notification is refused, the queries of the channels cannot be opened, or a provider ends without
its messages (`Served`): in every other run what is published is current or still to come
(`published_current`). A notification is refused where `users_enabled` has not got the user yet,
that is until the first context is closed (`stale_after_first_pass`).
-/

namespace Mqtt

open Sys

variable {db : Tables} {U c : Int} {s s' : Publisher}

theorem Queues.covers_of_covers {q : Queues} {a b : Context} (h : q.Covers a)
    (hab : a.covers b = true) : q.Covers b := by
  obtain ⟨i, hi, hcov⟩ := h
  exact ⟨i, hi, Context.covers_trans hcov hab⟩

namespace Context

@[simp]
theorem covers_setUserId (ctx c : Context) (u : Int) :
    (ctx.setUserId u).covers c = ctx.covers c := by
  cases ctx with
  | full v =>
    rw [setUserId]
    split <;> cases c <;> rfl
  | _ => rfl

@[simp]
theorem channelId_setUserId (ctx : Context) (u : Int) :
    (ctx.setUserId u).channelId = ctx.channelId := by
  cases ctx with
  | full v =>
    rw [setUserId]
    split <;> rfl
  | _ => rfl

end Context

/-! ## What is to come -/

namespace Publisher

/-- The last state message of a channel was made after its last change. -/
def Fresh (s : Publisher) (c : Int) : Prop := s.published c = some (s.version c)

/-- The open context has not given a state message of the channel yet. -/
def Unsent (s : Publisher) (c : Int) : Prop :=
  s.fetchStates = true ∧ s.stateSnapshot = none ∨
    s.fetchChannels = true ∧
      ∀ r, s.channelRows = some r → c ∈ r.rest ∨ r.current = c ∧ r.snapshot = none

/-- A context that covers the channel is open, or being opened, and has still to give its state. -/
def Emits (db : Tables) (s : Publisher) (c : Int) : Prop :=
  s.context.covers (db.channelContext c) = true ∧
    ((∃ second, s.pc = .opening second) ∨ s.contextOpen = true ∧ s.Unsent c)

/-- What is published is current, or a queue or a context has it. -/
def Settled (db : Tables) (s : Publisher) (c : Int) : Prop :=
  s.Fresh c ∨ s.Emits db c ∨ s.queues.Covers (db.channelContext c)

/-- A notification of the channel is on its way. -/
def Noted (db : Tables) (s : Publisher) (c : Int) : Prop :=
  ∃ n, (n ∈ s.owed ∨ n ∈ s.admitted) ∧ n.context.covers (db.channelContext c) = true

end Publisher

/-! ## The condition -/

/-- The query of the channels is to be opened. -/
def Publisher.QueriesChannels (s : Publisher) : Prop :=
  (∃ second, s.pc = .stage .channels second) ∧ s.fetchChannels = true ∧ s.channelRows = none

/-- The provider that is asked has given the messages it is for: of a user, or the state of a
channel. -/
def Publisher.HasAnswered (s : Publisher) : Prop :=
  match s.pc with
  | .provider .users _ _ => ∀ r, s.userRows = some r → r.sent = true
  | .provider .channels _ _ => ∀ r, s.channelRows = some r → r.snapshot ≠ none
  | .provider .states _ _ => s.stateSnapshot ≠ none
  | _ => True

/-- **The condition**, where the user is enabled: the query of the channels is opened, no provider
ends without its messages, and a notification is refused only where the channels of the user that
it is about are settled without it. -/
def Served (db : Tables) (userId : Int) (s : Publisher) (a : PublisherAct) : Prop :=
  s.enabled userId = true ∧
    match a with
    | .enterStage dbConnected => s.QueriesChannels → dbConnected = true
    | .provider .none => s.HasAnswered
    | .check n => s.isContextAllowed n.context = true ∨
        ∀ c ∈ db.channels, db.userOf c = userId →
          n.context.covers (db.channelContext c) = true → s.Settled db c
    | _ => True

/-! ## The open context -/

namespace Publisher

/-- What holds of the parts of an open context, wherever it stands. -/
structure Flags (s : Publisher) : Prop where
  closed : s.contextOpen = false → s.channelRows = none ∧ s.stateSnapshot = none ∧
    s.fetchStates = false
  states : s.fetchStates = true → s.channelRows = none ∧ s.fetchChannels = false ∧
    ∃ u d c, s.context = .channelState u d c
  rows : s.channelRows ≠ none → s.fetchChannels = true
  snapshot : s.stateSnapshot ≠ none → s.fetchStates = true
  sent : ∀ r v, s.channelRows = some r → r.snapshot = some v → s.published r.current = some v
  sentState : ∀ v, s.stateSnapshot = some v → s.published s.context.channelId = some v

/-- The context has no user of its own row. -/
def Plain (s : Publisher) : Prop := s.context.setUserId 0 = s.context

/-- What holds where a call of `fetch` stands. -/
def At (s : Publisher) : Prop :=
  match s.pc with
  | .idle | .deciding _ | .fetching _ => True
  | .opening _ => s.contextOpen = false
  | .stage st _ => s.contextOpen = true ∧ s.Plain ∧ (st = .states → s.fetchChannels = false)
  | .provider .users _ _ => s.contextOpen = true ∧
      (s.Plain ∨ ∃ r, s.userRows = some r ∧ r.sent = false)
  | .provider .devices _ _ => s.contextOpen = true ∧ s.Plain
  | .provider .channels retry _ => s.contextOpen = true ∧ s.Plain ∧
      (retry = true → ∀ r, s.channelRows = some r → r.snapshot = none)
  | .provider .states _ _ => s.contextOpen = true ∧ s.fetchStates = true

/-- A step of the open context: nothing is noted or changed, and what was current or to come is
still. -/
structure Carries (db : Tables) (userId : Int) (s s' : Publisher) : Prop where
  queues : s'.queues = s.queues
  owed : s'.owed = s.owed
  admitted : s'.admitted = s.admitted
  connected : s'.connected = s.connected
  settled : ∀ c ∈ db.channels, db.userOf c = userId → s.Fresh c ∨ s.Emits db c →
    s'.Fresh c ∨ s'.Emits db c
  flags : s'.Flags
  place : s'.At

/-! ### Beside the channels -/

/-- The part of the channels is the same. -/
structure Aside (s s' : Publisher) : Prop where
  context : s'.context.setUserId 0 = s.context.setUserId 0
  contextOpen : s'.contextOpen = s.contextOpen
  fetchChannels : s'.fetchChannels = s.fetchChannels
  fetchStates : s'.fetchStates = s.fetchStates
  channelRows : s'.channelRows = s.channelRows
  stateSnapshot : s'.stateSnapshot = s.stateSnapshot
  published : s'.published = s.published

theorem Aside.channelId (h : Aside s s') : s'.context.channelId = s.context.channelId := by
  rw [← Context.channelId_setUserId _ 0, h.context, Context.channelId_setUserId]

theorem Aside.covers (h : Aside s s') (c : Context) : s'.context.covers c = s.context.covers c := by
  rw [← Context.covers_setUserId _ c 0, h.context, Context.covers_setUserId]

theorem Aside.flags (h : Aside s s') (hf : s.Flags) : s'.Flags := by
  constructor
  case closed =>
    rw [h.contextOpen, h.channelRows, h.stateSnapshot, h.fetchStates]
    exact hf.closed
  case states =>
    rw [h.fetchStates, h.channelRows, h.fetchChannels]
    intro hst
    obtain ⟨hrows, hch, u, d, c, hctx⟩ := hf.states hst
    refine ⟨hrows, hch, u, d, c, ?_⟩
    have hsame := h.context
    rw [hctx] at hsame
    cases hc : s'.context with
    | channelState u' d' c' =>
      rw [hc] at hsame
      exact hsame
    | full u' =>
      rw [hc, Context.setUserId_full_zero] at hsame
      cases hsame
    | _ =>
      rw [hc] at hsame
      cases hsame
  case rows =>
    rw [h.channelRows, h.fetchChannels]
    exact hf.rows
  case snapshot =>
    rw [h.stateSnapshot, h.fetchStates]
    exact hf.snapshot
  case sent =>
    rw [h.channelRows, h.published]
    exact hf.sent
  case sentState =>
    rw [h.stateSnapshot, h.published, h.channelId]
    exact hf.sentState

theorem Aside.unsent (h : Aside s s') : s'.Unsent c ↔ s.Unsent c := by
  rw [Unsent, Unsent, h.fetchStates, h.stateSnapshot, h.fetchChannels, h.channelRows]

theorem Aside.fresh (h : Aside s s') (hversion : s'.version = s.version) :
    s'.Fresh c ↔ s.Fresh c := by
  rw [Fresh, Fresh, h.published, hversion]

theorem Aside.emits (h : Aside s s') (hpc : ∀ second, s.pc ≠ .opening second)
    (he : s.Emits db c) : s'.Emits db c := by
  obtain ⟨hcov, ⟨second, hsec⟩ | ⟨hopen, hunsent⟩⟩ := he
  · exact absurd hsec (hpc second)
  · exact ⟨h.covers _ ▸ hcov, .inr ⟨h.contextOpen ▸ hopen, h.unsent.mpr hunsent⟩⟩

/-- Nothing is changed or noted. -/
def SameNotes (s s' : Publisher) : Prop :=
  s'.queues = s.queues ∧ s'.owed = s.owed ∧ s'.admitted = s.admitted ∧
    s'.connected = s.connected ∧ s'.version = s.version

theorem Aside.carries (h : Aside s s') (hnotes : SameNotes s s')
    (hpc : ∀ second, s.pc ≠ .opening second) (hf : s.Flags) (hat : s'.At) :
    Carries db U s s' :=
  ⟨hnotes.1, hnotes.2.1, hnotes.2.2.1, hnotes.2.2.2.1,
    fun _ _ _ hc => hc.imp (h.fresh hnotes.2.2.2.2).mpr (h.emits hpc), h.flags hf, hat⟩

/-- Where a call of `_fetch` is at one of its parts. -/
structure Inside (s : Publisher) : Prop where
  flags : s.Flags
  contextOpen : s.contextOpen = true
  pc : ∀ second, s.pc ≠ .opening second

theorem Inside.unsent (h : s.Inside) (he : s.Emits db c) : s.Unsent c :=
  he.2.elim (fun ⟨second, hsec⟩ => absurd hsec (h.pc second)) fun h => h.2

/-! ### The next row -/

variable {retry second : Bool} {rows : List Int}

theorem carries_nextUser (h : s.Inside) (hplain : s.Plain) :
    Carries db U s (s.nextRow .users retry second rows) := by
  cases rows with
  | nil =>
    exact Aside.carries ⟨rfl, rfl, rfl, rfl, rfl, rfl, rfl⟩ ⟨rfl, rfl, rfl, rfl, rfl⟩ h.pc h.flags
      ⟨h.contextOpen, hplain, fun h => by cases h⟩
  | cons r rs =>
    exact Aside.carries ⟨Context.setUserId_setUserId_zero _ _, rfl, rfl, rfl, rfl, rfl, rfl⟩
      ⟨rfl, rfl, rfl, rfl, rfl⟩ h.pc h.flags ⟨h.contextOpen, .inr ⟨_, rfl, rfl⟩⟩

theorem carries_nextDevice (h : s.Inside) (hplain : s.Plain) :
    Carries db U s (s.nextRow .devices retry second rows) := by
  cases rows with
  | nil =>
    exact Aside.carries ⟨rfl, rfl, rfl, rfl, rfl, rfl, rfl⟩ ⟨rfl, rfl, rfl, rfl, rfl⟩ h.pc h.flags
      ⟨h.contextOpen, hplain, fun h => by cases h⟩
  | cons r rs =>
    exact Aside.carries ⟨rfl, rfl, rfl, rfl, rfl, rfl, rfl⟩ ⟨rfl, rfl, rfl, rfl, rfl⟩ h.pc h.flags
      ⟨h.contextOpen, hplain⟩

/-- Where the channels are fetched there is no context of a state. -/
theorem Flags.no_states (hf : s.Flags) (hfetch : s.fetchChannels = true) :
    s.fetchStates = false ∧ s.stateSnapshot = none := by
  have hstates : s.fetchStates ≠ true := by
    intro hst
    have := (hf.states hst).2.1
    rw [hfetch] at this
    cases this
  refine ⟨Bool.not_eq_true _ ▸ hstates, ?_⟩
  by_contra hsnap
  exact hstates (hf.snapshot hsnap)

theorem carries_nextChannel (h : s.Inside) (hplain : s.Plain) (hfetch : s.fetchChannels = true)
    (hrows : ∀ c ∈ db.channels, db.userOf c = U → s.Emits db c → c ∈ rows) :
    Carries db U s (s.nextRow .channels retry second rows) := by
  obtain ⟨hstates, hsnap⟩ := h.flags.no_states hfetch
  cases rows with
  | nil =>
    refine ⟨rfl, rfl, rfl, rfl, fun c hc hu hsettled => ?_, ?_, h.contextOpen, hplain, fun _ => rfl⟩
    · exact .inl (hsettled.resolve_right fun he => absurd (hrows c hc hu he) List.not_mem_nil)
    · exact ⟨fun hcl => absurd (hcl.symm.trans h.contextOpen) Bool.false_ne_true,
        fun hst => ⟨rfl, rfl, (h.flags.states hst).2.2⟩, fun hne => absurd rfl hne,
        h.flags.snapshot, (by intro r v hr; cases hr), h.flags.sentState⟩
  | cons r rs =>
    refine ⟨rfl, rfl, rfl, rfl, fun c hc hu hsettled => ?_, ?_, h.contextOpen, hplain, ?_⟩
    · refine hsettled.imp (fun hf => hf) fun he => ⟨he.1, .inr ⟨h.contextOpen, .inr ⟨hfetch, ?_⟩⟩⟩
      intro r' hr'
      cases hr'
      rcases List.mem_cons.mp (hrows c hc hu he) with rfl | hmem
      · exact .inr ⟨rfl, rfl⟩
      · exact .inl hmem
    · refine ⟨fun hcl => absurd (hcl.symm.trans h.contextOpen) Bool.false_ne_true,
        fun hst => absurd (hstates.symm.trans hst) Bool.false_ne_true, fun _ => hfetch,
        h.flags.snapshot, ?_, h.flags.sentState⟩
      intro r' v hr' hv
      cases hr'
      cases hv
    · intro _ r' hr'
      cases hr'
      rfl

/-- The context is closed where no state is to come. -/
theorem carries_close
    (hfresh : ∀ c ∈ db.channels, db.userOf c = U → s.Emits db c → s.Fresh c) :
    Carries db U s (s.closeContext second) := by
  refine ⟨rfl, rfl, rfl, rfl, fun c hc hu hsettled => .inl (hsettled.elim id (hfresh c hc hu)), ?_,
    ?_⟩
  · exact ⟨fun _ => ⟨rfl, rfl, rfl⟩, (by intro h; cases h), fun hne => absurd rfl hne,
      fun hne => absurd rfl hne, (by intro r v hr; cases hr), (by intro v hv; cases hv)⟩
  · unfold At closeContext
    cases second <;> trivial

/-! ### A part of `_fetch` -/

/-- The query of the channels has every channel of an enabled user that the context covers. -/
theorem mem_selectChannels {enabled : Int → Bool} {ctx : Context} (hc : c ∈ db.channels)
    (henabled : enabled (db.userOf c) = true) (hplain : ctx.setUserId 0 = ctx)
    (hcov : ctx.covers (db.channelContext c) = true) : c ∈ db.selectChannels enabled ctx := by
  refine List.mem_filter.mpr ⟨hc, ?_⟩
  have hany : ∀ id, Tables.matchId 0 id = true := fun id => decide_eq_true (.inl rfl)
  have hsame : ∀ {w id : Int}, w = id → Tables.matchId w id = true := fun h =>
    decide_eq_true (.inr h.symm)
  simp only [Bool.and_eq_true]
  cases ctx with
  | none => cases hcov
  | full u =>
    rw [Context.setUserId_full_zero] at hplain
    cases hplain
    exact ⟨⟨⟨henabled, hany _⟩, hany _⟩, hany _⟩
  | user u => exact ⟨⟨⟨henabled, hsame (of_decide_eq_true hcov)⟩, hany _⟩, hany _⟩
  | device u d =>
    obtain ⟨hu, hd⟩ := of_decide_eq_true hcov
    exact ⟨⟨⟨henabled, hsame hu⟩, hsame hd⟩, hany _⟩
  | channelState u d ch =>
    obtain ⟨hu, hd, hch⟩ := of_decide_eq_true hcov
    exact ⟨⟨⟨henabled, hsame hu⟩, hsame hd⟩, hsame hch⟩

theorem carries_enterStage (h : s.Inside) (hplain : s.Plain) {st : Stage} {dbConnected : Bool}
    (hlate : st = .states → s.fetchChannels = false) (henabled : s.enabled U = true)
    (hquery : st = .channels → s.fetchChannels = true → s.channelRows = none →
      dbConnected = true) : Carries db U s (s.enterStage db st second dbConnected) := by
  have haside : ∀ p, Aside s { s with pc := p } := fun _ =>
    ⟨rfl, rfl, rfl, rfl, rfl, rfl, rfl⟩
  cases st with
  | users =>
    simp only [enterStage]
    split
    · split
      · exact (haside _).carries ⟨rfl, rfl, rfl, rfl, rfl⟩ h.pc h.flags ⟨h.contextOpen, .inl hplain⟩
      · exact carries_nextUser h hplain
    · exact (haside _).carries ⟨rfl, rfl, rfl, rfl, rfl⟩ h.pc h.flags
        ⟨h.contextOpen, hplain, fun h => by cases h⟩
  | devices =>
    simp only [enterStage]
    split
    · split
      · exact (haside _).carries ⟨rfl, rfl, rfl, rfl, rfl⟩ h.pc h.flags ⟨h.contextOpen, hplain⟩
      · exact carries_nextDevice h hplain
    · exact (haside _).carries ⟨rfl, rfl, rfl, rfl, rfl⟩ h.pc h.flags
        ⟨h.contextOpen, hplain, fun h => by cases h⟩
  | channels =>
    simp only [enterStage]
    split
    · rename_i hfetch
      split
      · exact (haside _).carries ⟨rfl, rfl, rfl, rfl, rfl⟩ h.pc h.flags
          ⟨h.contextOpen, hplain, fun h => by cases h⟩
      · rename_i hrows
        rw [if_pos (hquery rfl hfetch hrows)]
        refine carries_nextChannel h hplain hfetch fun c hc hu he => ?_
        exact mem_selectChannels hc (hu ▸ henabled) hplain he.1
    · rename_i hfetch
      exact (haside _).carries ⟨rfl, rfl, rfl, rfl, rfl⟩ h.pc h.flags
        ⟨h.contextOpen, hplain, fun _ => Bool.not_eq_true _ ▸ hfetch⟩
  | states =>
    simp only [enterStage]
    split
    · rename_i hst
      exact (haside _).carries ⟨rfl, rfl, rfl, rfl, rfl⟩ h.pc h.flags ⟨h.contextOpen, hst⟩
    · rename_i hst
      refine carries_close fun c hc hu he => ?_
      rcases h.unsent he with ⟨hst', -⟩ | ⟨hch, -⟩
      · exact absurd hst' hst
      · rw [hlate rfl] at hch
        cases hch

/-! ### The answer of a provider -/

/-- A state message repeats the version of the first one of the row, or has the current one. -/
theorem fresh_publish {ch : Int} {snapshot : Option Nat} {again : Bool}
    (hsent : ∀ v, snapshot = some v → s.published ch = some v) (hf : s.Fresh c) :
    (s.publish ch (s.readVersion ch snapshot again)).Fresh c := by
  unfold Fresh publish
  by_cases hc : c = ch
  · subst hc
    refine (if_pos rfl).trans ?_
    unfold readVersion
    split
    · rfl
    · cases hsnap : snapshot with
      | none => rfl
      | some v => exact (hsent v hsnap).symm.trans hf
  · exact (if_neg hc).trans hf

theorem fresh_publish_first {ch : Int} {again : Bool} :
    (s.publish ch (s.readVersion ch none again)).Fresh ch := by
  unfold Fresh publish readVersion
  refine (if_pos rfl).trans ?_
  cases again <;> rfl

theorem carries_fetched (h : s.Inside) : Carries db U s s.fetched :=
  Aside.carries ⟨rfl, rfl, rfl, rfl, rfl, rfl, rfl⟩ ⟨rfl, rfl, rfl, rfl, rfl⟩ h.pc h.flags trivial

/-- A state message of the channel of the row. -/
theorem carries_channelState (h : s.Inside) {r : ChannelRows} (hr : s.channelRows = some r)
    {again : Bool} {v : Nat} (hv : v = s.readVersion r.current r.snapshot again) :
    Carries db U s
      ({ s with channelRows := some { r with snapshot := some v } }.publish
        r.current v).fetched := by
  subst hv
  have hfetch : s.fetchChannels = true := h.flags.rows (by rw [hr]; exact Option.some_ne_none r)
  obtain ⟨hstates, hsnap⟩ := h.flags.no_states hfetch
  refine ⟨rfl, rfl, rfl, rfl, fun c _ _ hsettled => ?_, ?_, trivial⟩
  · rcases hsettled with hf | he
    · exact .inl (fresh_publish (fun v hv => h.flags.sent r v hr hv) hf)
    · rcases h.unsent he with ⟨hst, -⟩ | ⟨-, hrest⟩
      · exact absurd (hstates.symm.trans hst) Bool.false_ne_true
      · rcases hrest r hr with hmem | ⟨rfl, hnone⟩
        · refine .inr ⟨he.1, .inr ⟨h.contextOpen, .inr ⟨hfetch, fun r' hr' => ?_⟩⟩⟩
          cases hr'
          exact .inl hmem
        · refine .inl ?_
          rw [hnone]
          exact fresh_publish_first
  · refine ⟨fun hcl => absurd (hcl.symm.trans h.contextOpen) Bool.false_ne_true,
      fun hst => absurd (hstates.symm.trans hst) Bool.false_ne_true, fun _ => hfetch,
      h.flags.snapshot, ?_, fun v hv => absurd (hsnap.symm.trans hv) (Option.some_ne_none v).symm⟩
    intro r' v hr' hv
    cases hr'
    cases hv
    exact if_pos rfl

/-- A state message of the channel of the context. -/
theorem carries_contextState (h : s.Inside) (hst : s.fetchStates = true) {again : Bool} {v : Nat}
    (hv : v = s.readVersion s.context.channelId s.stateSnapshot again) : Carries db U s
      ({ s with stateSnapshot := some v }.publish s.context.channelId v).fetched := by
  subst hv
  obtain ⟨hrows, hch, u, d, k, hctx⟩ := h.flags.states hst
  refine ⟨rfl, rfl, rfl, rfl, fun c _ _ hsettled => .inl ?_, ?_, trivial⟩
  · rcases hsettled with hf | he
    · exact fresh_publish h.flags.sentState hf
    · rcases h.unsent he with ⟨-, hnone⟩ | ⟨hfetch, -⟩
      · have hcov := he.1
        rw [hctx] at hcov
        have hk : k = c := (of_decide_eq_true hcov).2.2
        rw [hnone, hctx, ← hk]
        exact fresh_publish_first
      · rw [hch] at hfetch
        cases hfetch
  · refine ⟨fun hcl => absurd (hcl.symm.trans h.contextOpen) Bool.false_ne_true,
      fun _ => ⟨hrows, hch, u, d, k, hctx⟩, h.flags.rows, fun _ => hst,
      fun r v hr => absurd (hrows.symm.trans hr) (Option.some_ne_none r).symm, ?_⟩
    intro v hv
    cases hv
    exact if_pos rfl

theorem carries_answered (hf : s.Flags) {st : Stage} {retry second : Bool} {a : Answer}
    (hpc : s.pc = .provider st retry second) (hat : s.At)
    (hanswered : a = .none → s.HasAnswered) (hs : s.answered st retry second a = some s') :
    Carries db U s s' := by
  unfold At at hat
  rw [hpc] at hat
  have hnone : a = .none → match (.provider st retry second : PublisherPc) with
      | .provider .users _ _ => ∀ r, s.userRows = some r → r.sent = true
      | .provider .channels _ _ => ∀ r, s.channelRows = some r → r.snapshot ≠ none
      | .provider .states _ _ => s.stateSnapshot ≠ none
      | _ => True := by
    rw [← hpc]
    exact hanswered
  have h : s.Inside := by
    refine ⟨hf, ?_, fun second' hsec => by rw [hpc] at hsec; cases hsec⟩
    cases st <;> exact hat.1
  cases st with
  | users =>
    cases a with
    | message =>
      obtain ⟨r, -, rfl⟩ := Option.map_eq_some_iff.mp hs
      exact Aside.carries ⟨rfl, rfl, rfl, rfl, rfl, rfl, rfl⟩ ⟨rfl, rfl, rfl, rfl, rfl⟩ h.pc hf
        trivial
    | none =>
      obtain ⟨r, hr, rfl⟩ := Option.map_eq_some_iff.mp hs
      have hplain : s.Plain := by
        refine hat.2.resolve_right ?_
        rintro ⟨r', hr', hunsent⟩
        rw [hnone rfl r' hr'] at hunsent
        cases hunsent
      split
      · exact @carries_nextUser db U s retry second [] h hplain
      · exact carries_nextUser h hplain
    | state again => cases hs
  | devices =>
    cases a with
    | message =>
      obtain ⟨r, -, rfl⟩ := Option.map_eq_some_iff.mp hs
      exact Aside.carries ⟨rfl, rfl, rfl, rfl, rfl, rfl, rfl⟩ ⟨rfl, rfl, rfl, rfl, rfl⟩ h.pc hf
        trivial
    | none =>
      obtain ⟨r, hr, rfl⟩ := Option.map_eq_some_iff.mp hs
      split
      · exact @carries_nextDevice db U s retry second [] h hat.2
      · exact carries_nextDevice h hat.2
    | state again => cases hs
  | channels =>
    cases a with
    | message =>
      obtain ⟨r, -, rfl⟩ := Option.map_eq_some_iff.mp hs
      exact carries_fetched h
    | none =>
      obtain ⟨r, hr, rfl⟩ := Option.map_eq_some_iff.mp hs
      have hyielded := hnone rfl r hr
      have hfetch : s.fetchChannels = true := hf.rows (by rw [hr]; exact Option.some_ne_none r)
      split
      · rename_i hretry
        exact absurd (hat.2.2 hretry r hr) hyielded
      · refine carries_nextChannel h hat.2.1 hfetch fun c _ _ he => ?_
        rcases h.unsent he with ⟨hst, -⟩ | ⟨-, hrest⟩
        · rw [(hf.no_states hfetch).1] at hst
          cases hst
        · exact (hrest r hr).resolve_right fun hcur => hyielded hcur.2
    | state again =>
      obtain ⟨r, hr, rfl⟩ := Option.map_eq_some_iff.mp hs
      exact carries_channelState h hr rfl
  | states =>
    cases a with
    | message => cases hs
    | none =>
      cases hs
      refine carries_close fun c _ _ he => ?_
      rcases h.unsent he with ⟨-, hsnap⟩ | ⟨hfetch, -⟩
      · exact absurd hsnap (hnone rfl)
      · rw [(hf.states hat.2).2.1] at hfetch
        cases hfetch
    | state again =>
      cases hs
      exact carries_contextState h hat.2 rfl

end Publisher

/-! ## The runs -/

/-- What holds in every run that meets the condition. -/
structure Publisher.Sound (db : Tables) (userId : Int) (s : Publisher) : Prop where
  flags : s.Flags
  place : s.At
  owned : s.queues.Owned db.own
  owed : ∀ n, n ∈ s.owed ∨ n ∈ s.admitted → db.own.Owns n.context
  current : s.connected = true → ∀ c ∈ db.channels, db.userOf c = userId →
    s.Settled db c ∨ s.Noted db c

namespace Publisher

theorem Sound.carried (hs : s.Sound db U) (h : Carries db U s s') : s'.Sound db U := by
  refine ⟨h.flags, h.place, h.queues ▸ hs.owned, ?_, ?_⟩
  · rw [h.owed, h.admitted]
    exact hs.owed
  · intro hconn c hc hu
    rcases hs.current (h.connected ▸ hconn) c hc hu with (hf | he | hq) | hn
    · exact .inl ((h.settled c hc hu (.inl hf)).imp_right .inl)
    · exact .inl ((h.settled c hc hu (.inr he)).imp_right .inl)
    · exact .inl (.inr (.inr (h.queues ▸ hq)))
    · refine .inr ?_
      unfold Noted
      rw [h.owed, h.admitted]
      exact hn

/-! ### Changes and notifications -/

/-- The parts of the open context do not depend on what is noted. -/
theorem Flags.unwalked (hf : s.Flags) {q : Queues} {version : Int → Nat} {enabled : Int → Bool}
    {owed admitted : List Notification} {connected : Bool} : ({ s with
      queues := q, version := version, enabled := enabled, owed := owed, admitted := admitted
      connected := connected } : Publisher).Flags :=
  have haside : Aside s { s with
      queues := q, version := version, enabled := enabled, owed := owed, admitted := admitted
      connected := connected } := ⟨rfl, rfl, rfl, rfl, rfl, rfl, rfl⟩
  haside.flags hf

/-- The queues are the only part that changes, and keep what they cover. -/
theorem Sound.queued (hs : s.Sound db U) {q : Queues} (howned : q.Owned db.own)
    (hkeep : ∀ {c : Context}, s.queues.Covers c → q.Covers c) :
    ({ s with queues := q } : Publisher).Sound db U :=
  ⟨hs.flags.unwalked, hs.place, howned, hs.owed, fun hconn c hc hu =>
    (hs.current hconn c hc hu).imp_left (·.imp_right (·.imp_right hkeep))⟩

theorem Sound.brokerConnected (hs : s.Sound db U) : ({ s with
    queues := s.queues.onBrokerConnected, connected := true } : Publisher).Sound db U :=
  ⟨hs.flags.unwalked, hs.place, Queues.owned_notify (n := .brokerConnected) hs.owned trivial,
    hs.owed,
    fun _ _ _ _ => .inl (.inr (.inr (Queues.covers_of_covers
      (Queues.notify_covers (n := .brokerConnected) hs.owned trivial) rfl)))⟩

/-- Channels change and their notification is owed. -/
theorem Sound.changed (hs : s.Sound db U) {version : Int → Nat} {n : Notification}
    (hown : db.own.Owns n.context)
    (hn : ∀ c, version c = s.version c ∨ n.context.covers (db.channelContext c) = true) :
    ({ s with version := version, owed := n :: s.owed } : Publisher).Sound db U := by
  refine ⟨hs.flags.unwalked, hs.place, hs.owned, ?_, fun hconn c hc hu => ?_⟩
  · rintro m (hm | hm)
    · rcases List.mem_cons.mp hm with rfl | hm
      · exact hown
      · exact hs.owed m (.inl hm)
    · exact hs.owed m (.inr hm)
  · rcases hn c with hv | hcov
    · rcases hs.current hconn c hc hu with (hf | hrest) | ⟨m, hm, hcov⟩
      · refine .inl (.inl ?_)
        exact hf.trans (congrArg some hv.symm)
      · exact .inl (.inr hrest)
      · exact .inr ⟨m, hm.imp_left (List.mem_cons_of_mem _), hcov⟩
    · exact .inr ⟨n, .inl List.mem_cons_self, hcov⟩

theorem Sound.check (hs : s.Sound db U) {n : Notification}
    (hok : Served db U s (.check n)) (h : s.step db (.check n) = some s') : s'.Sound db U := by
  rw [Publisher.step] at h
  split at h
  · rename_i hmem
    split at h
    · -- allowed: it is noted next
      cases h
      refine ⟨hs.flags.unwalked, hs.place, hs.owned, ?_, fun hconn c hc hu => ?_⟩
      · rintro m (hm | hm)
        · exact hs.owed m (.inl (List.mem_of_mem_erase hm))
        · rcases List.mem_cons.mp hm with rfl | hm
          · exact hs.owed m (.inl hmem)
          · exact hs.owed m (.inr hm)
      · refine (hs.current hconn c hc hu).imp_right ?_
        rintro ⟨m, hm | hm, hcov⟩
        · by_cases hmn : m = n
          · exact ⟨m, .inr (hmn ▸ List.mem_cons_self), hcov⟩
          · exact ⟨m, .inl ((List.mem_erase_of_ne hmn).mpr hm), hcov⟩
        · exact ⟨m, .inr (List.mem_cons_of_mem _ hm), hcov⟩
    · rename_i hrefused
      cases h
      refine ⟨hs.flags.unwalked, hs.place, hs.owned, ?_, fun hconn c hc hu => ?_⟩
      · exact fun m hm => hs.owed m (hm.imp_left List.mem_of_mem_erase)
      · rcases hs.current hconn c hc hu with hset | ⟨m, hm, hcov⟩
        · exact .inl hset
        · by_cases hmn : m = n
          · exact .inl (hok.2.resolve_left hrefused c hc hu (hmn ▸ hcov))
          · exact .inr ⟨m, hm.imp_left (List.mem_erase_of_ne hmn).mpr, hcov⟩
  · cases h

theorem Sound.note (hs : s.Sound db U) {n : Notification}
    (h : s.step db (.note n) = some s') : s'.Sound db U := by
  rw [Publisher.step] at h
  split at h
  · rename_i hmem
    cases h
    have hown := hs.owed n (.inr hmem)
    refine ⟨hs.flags.unwalked, hs.place, Queues.owned_notify hs.owned hown, ?_,
      fun hconn c hc hu => ?_⟩
    · exact fun m hm => hs.owed m (hm.imp_right List.mem_of_mem_erase)
    · rcases hs.current hconn c hc hu with hset | ⟨m, hm, hcov⟩
      · exact .inl (hset.imp_right (·.imp_right Queues.notify_keeps))
      · by_cases hmn : m = n
        · refine .inl (.inr (.inr
            (Queues.covers_of_covers (Queues.notify_covers hs.owned hown) ?_)))
          exact hmn ▸ hcov
        · exact .inr ⟨m, hm.imp_right (List.mem_erase_of_ne hmn).mpr, hcov⟩
  · cases h

/-! ### A call of `fetch` -/

/-- A step of `fetch` that leaves the open context as it is. -/
theorem Sound.moved (hs : s.Sound db U) {pc : PublisherPc} (hpc : ∀ second, s.pc ≠ .opening second)
    (hat : ({ s with pc := pc } : Publisher).At) : ({ s with pc := pc } : Publisher).Sound db U :=
  hs.carried (Aside.carries ⟨rfl, rfl, rfl, rfl, rfl, rfl, rfl⟩ ⟨rfl, rfl, rfl, rfl, rfl⟩ hpc
    hs.flags hat)

theorem Sound.contextShouldBeOpened (hs : s.Sound db U)
    (h : s.step db .contextShouldBeOpened = some s') : s'.Sound db U := by
  rw [Publisher.step] at h
  split at h
  · rename_i second hpc
    have hne : ∀ second, s.pc ≠ .opening second := fun _ hsec => by
      rw [hpc] at hsec
      cases hsec
    split at h
    · cases h
      exact hs.moved hne trivial
    · rename_i hclosed
      rw [Bool.not_eq_true] at hclosed
      split at h
      · rename_i ctx q htake
        cases h
        obtain ⟨hrows, hsnap, hstates⟩ := hs.flags.closed hclosed
        have hitems := Queues.take_items htake
        -- without rows and snapshot the flags are those of the last context
        refine ⟨⟨fun _ => ⟨hrows, hsnap, hstates⟩, ?_, hs.flags.rows, hs.flags.snapshot,
          hs.flags.sent, ?_⟩, hclosed, fun i hi => hs.owned i ?_, hs.owed,
          fun hconn c hc hu => ?_⟩
        · exact fun hst => absurd (hstates.symm.trans hst) Bool.false_ne_true
        · exact fun v hv => absurd (hsnap.symm.trans hv) (Option.some_ne_none v).symm
        · rw [hitems]
          exact List.mem_cons_of_mem _ hi
        · refine (hs.current hconn c hc hu).imp_left ?_
          rintro (hf | he | ⟨i, hi, hcov⟩)
          · exact .inl hf
          · rcases he.2 with ⟨second, hsec⟩ | ⟨hopen, -⟩
            · exact absurd hsec (hne second)
            · exact absurd (hclosed.symm.trans hopen) Bool.false_ne_true
          · rw [hitems] at hi
            rcases List.mem_cons.mp hi with rfl | hi
            · exact .inr (.inl ⟨hcov, .inl ⟨second, rfl⟩⟩)
            · exact .inr (.inr ⟨i, hi, hcov⟩)
      · cases h
        exact hs.moved hne trivial
  · cases h

/-- A context is opened where no rows and no snapshot are left: all that it covers is to come. -/
theorem Sound.opened (hs : s.Sound db U) (hclosed : s.contextOpen = false) {ctx : Context}
    (hctx : s.context = ctx) {users devices channels states : Bool} {tmp : List Int}
    {second : Bool} (hcovers : ∀ ch, ctx.covers (db.channelContext ch) = true →
      states = true ∨ channels = true)
    (hstates : states = true → channels = false ∧ ∃ u d c, ctx = .channelState u d c) :
    ({ s with
      context := ctx, contextOpen := true, fetchUsers := users, fetchDevices := devices
      fetchChannels := channels, fetchStates := states, usersEnabledTmp := tmp
      pc := .fetching second } : Publisher).Sound db U := by
  subst hctx
  obtain ⟨hrows, hsnap, -⟩ := hs.flags.closed hclosed
  refine ⟨⟨(by intro h; cases h), fun hst => ⟨hrows, hstates hst⟩, fun hne => absurd hrows hne,
    fun hne => absurd hsnap hne, hs.flags.sent, hs.flags.sentState⟩, trivial, hs.owned, hs.owed,
    fun hconn c hc hu => (hs.current hconn c hc hu).imp_left ?_⟩
  refine fun hset => hset.imp_right (·.imp_left fun he => ⟨he.1, .inr ⟨rfl, ?_⟩⟩)
  rcases hcovers c he.1 with hst | hch
  · exact .inl ⟨hst, hsnap⟩
  · exact .inr ⟨hch, fun r hr => absurd (hrows.symm.trans hr) (Option.some_ne_none r).symm⟩

theorem Sound.contextOpen (hs : s.Sound db U) (h : s.step db .contextOpen = some s') :
    s'.Sound db U := by
  rw [Publisher.step] at h
  split at h
  · rename_i second hpc
    cases h
    have hclosed : s.contextOpen = false := by
      have hat := hs.place
      unfold At at hat
      rw [hpc] at hat
      exact hat
    unfold openContext
    cases hctx : s.context with
    | none =>
      simp only
      exact hs.opened hclosed hctx (fun _ h => by cases h) (fun h => by cases h)
    | full u =>
      simp only
      exact hs.opened hclosed hctx (fun _ _ => .inr rfl) (fun h => by cases h)
    | user u =>
      simp only
      exact hs.opened hclosed hctx (fun _ _ => .inr rfl) (fun h => by cases h)
    | device u d =>
      simp only
      exact hs.opened hclosed hctx (fun _ _ => .inr rfl) (fun h => by cases h)
    | channelState u d c =>
      simp only
      exact hs.opened hclosed hctx (fun _ _ => .inl rfl) fun _ => ⟨rfl, u, d, c, rfl⟩
  · cases h

theorem Sound.fetchNext (hs : s.Sound db U) (h : s.step db .fetchNext = some s') :
    s'.Sound db U := by
  rw [Publisher.step] at h
  split at h
  · rename_i second hpc
    have hne : ∀ second, s.pc ≠ .opening second := fun _ hsec => by
      rw [hpc] at hsec
      cases hsec
    split at h
    · rename_i hopen
      cases h
      have haside :
          Aside s { s with context := s.context.setUserId 0, pc := .stage .users second } :=
        ⟨Context.setUserId_setUserId_zero _ _, rfl, rfl, rfl, rfl, rfl, rfl⟩
      exact hs.carried (haside.carries ⟨rfl, rfl, rfl, rfl, rfl⟩ hne hs.flags
        ⟨hopen, Context.setUserId_setUserId_zero _ _, fun h => by cases h⟩)
    · cases h
      exact hs.moved hne trivial
  · cases h

theorem Sound.step (hs : s.Sound db U) {a : PublisherAct} (hok : Served db U s a)
    (h : s.step db a = some s') : s'.Sound db U := by
  cases a with
  | brokerConnected =>
    cases h
    exact hs.brokerConnected
  | userdataChanged u =>
    cases h
    exact hs.queued (Queues.owned_notify (n := .userdataChanged u) hs.owned trivial)
      (Queues.notify_keeps (n := .userdataChanged u))
  | setEnabled u e =>
    cases h
    exact ⟨hs.flags.unwalked, hs.place, hs.owned, hs.owed, hs.current⟩
  | changeChannel ch =>
    cases h
    refine hs.changed (n := .channelstateChanged (db.userOf ch) (db.own.device ch) ch) ⟨rfl, rfl⟩
      fun c => ?_
    by_cases hc : c = ch
    · exact .inr (hc ▸ decide_eq_true ⟨rfl, rfl, rfl⟩)
    · exact .inl (if_neg hc)
  | changeDevice d =>
    cases h
    refine hs.changed (n := .devicedataChanged (db.own.user d) d) rfl fun c => ?_
    by_cases hc : db.own.device c = d
    · exact .inr (hc ▸ decide_eq_true ⟨rfl, rfl⟩)
    · exact .inl (if_neg hc)
  | check n => exact hs.check hok h
  | note n => exact hs.note h
  | fetch =>
    rw [Publisher.step] at h
    split at h
    · rename_i hpc
      cases h
      exact hs.moved (fun _ hsec => by rw [hpc] at hsec; cases hsec) trivial
    · cases h
  | contextShouldBeOpened => exact hs.contextShouldBeOpened h
  | contextOpen => exact hs.contextOpen h
  | fetchNext => exact hs.fetchNext h
  | enterStage dbConnected =>
    rw [Publisher.step] at h
    split at h
    · rename_i st second hpc
      cases h
      have hat := hs.place
      unfold At at hat
      rw [hpc] at hat
      obtain ⟨hopen, hplain, hlate⟩ := hat
      refine hs.carried (carries_enterStage ⟨hs.flags, hopen, ?_⟩ hplain hlate hok.1 ?_)
      · intro second' hsec
        rw [hpc] at hsec
        cases hsec
      · rintro rfl hfetch hrows
        exact hok.2 ⟨⟨second, hpc⟩, hfetch, hrows⟩
    · cases h
  | provider a =>
    rw [Publisher.step] at h
    split at h
    · rename_i st retry second hpc
      refine hs.carried (carries_answered hs.flags hpc hs.place ?_ h)
      rintro rfl
      exact hok.2
    · cases h

theorem Sound.init (enabled : Int → Bool) : (init enabled).Sound db U :=
  ⟨⟨fun _ => ⟨rfl, rfl, rfl⟩, (by intro h; cases h), fun hne => absurd rfl hne,
    fun hne => absurd rfl hne, (by intro r v hr; cases hr), (by intro v hv; cases hv)⟩, trivial,
    fun c hc => absurd hc List.not_mem_nil, fun n hn => hn.elim (absurd · List.not_mem_nil)
      (absurd · List.not_mem_nil), (by intro h; cases h)⟩

end Publisher

/-- User 1 with the device 5 and its channel 9. -/
def oneChannel : Tables := ⟨[1], [5], [9], fun _ => 1, fun _ => 5⟩

end Mqtt
