import Mathlib.Data.List.Flatten
import Mathlib.Data.List.Nodup
import SuplaCore.Lib.Until
import SuplaCore.Mqtt.Pass

/-!
# What a publication pass publishes

What is still to come from an open query is a list of messages, each with the context that the call
leaves that returns it (`Cursor.todo`); a call takes the first (`cursor_fetch`). So what a pass
publishes is known when it begins (`toCome`, `calls_toCome`), and it is everything exactly where no
row with messages comes after one without (`pass_complete_iff`): `fetch` passes over one row at most
and takes a second one for the end of the data, and the user id that it has set is then there for
the next query of the same call.
-/

namespace Mqtt

open Until

namespace Pass

/-! ## Providers -/

/-- The messages that a provider still has. -/
def Provider.left : Provider → List String
  | plain messages index => messages.drop index
  | channelAndState p =>
    match p.channel, p.state with
    | some channel, state =>
      if p.index < channel.length then channel.drop p.index ++ state.getD []
      else if p.index = 0 then [] else state.getD []
    | none, some state => state.drop p.index
    | none, none => []

theorem drop_of_getElem? {l : List String} {i : Nat} {m : String} (h : l[i]? = some m) :
    l.drop i = m :: l.drop (i + 1) := by
  obtain ⟨hi, rfl⟩ := List.getElem?_eq_some_iff.mp h
  exact List.drop_eq_getElem_cons hi

/-- The state messages follow those of the channel. -/
theorem stateMessage_spec (p : ChannelAndState) (hchannel : p.channel = none) :
    ((Provider.channelAndState p).left = [] ∧ ∃ p', p.stateMessageAtIndex = (none, p')) ∨
      ∃ m, p.stateMessageAtIndex = (some m, p) ∧ (Provider.channelAndState p).left =
        m :: (Provider.channelAndState { p with index := p.index + 1 }).left := by
  obtain ⟨channel, state, index⟩ := p
  cases hchannel
  cases state with
  | none => exact .inl ⟨rfl, _, rfl⟩
  | some state =>
    rw [ChannelAndState.stateMessageAtIndex]
    dsimp only
    cases hm : state[index]? with
    | some m => exact .inr ⟨m, rfl, drop_of_getElem? hm⟩
    | none => exact .inl ⟨List.drop_eq_nil_of_le (List.getElem?_eq_none_iff.mp hm), _, rfl⟩

/-- A call of `fetch` takes the next message. -/
theorem Provider.fetch_spec (p : Provider) :
    (p.left = [] ∧ ∃ p', p.fetch = (none, p')) ∨
      ∃ m p', p.fetch = (some m, p') ∧ p.left = m :: p'.left := by
  cases p with
  | plain messages index =>
    rw [fetch, left]
    cases hm : messages[index]? with
    | some m => exact .inr ⟨m, _, rfl, drop_of_getElem? hm⟩
    | none => exact .inl ⟨List.drop_eq_nil_of_le (List.getElem?_eq_none_iff.mp hm), _, rfl⟩
  | channelAndState p =>
    rw [fetch, ChannelAndState.fetch, ChannelAndState.getMessageAtIndex]
    obtain ⟨channel, state, index⟩ := p
    cases channel with
    | none =>
      dsimp only
      obtain ⟨hleft, p', hnone⟩ | ⟨m, hm, hleft⟩ := stateMessage_spec ⟨none, state, index⟩ rfl
      · rw [hnone]
        exact .inl ⟨hleft, _, rfl⟩
      · rw [hm]
        exact .inr ⟨m, _, rfl, hleft⟩
    | some channel =>
      dsimp only
      cases hm : channel[index]? with
      | some m =>
        obtain ⟨hlt, -⟩ := List.getElem?_eq_some_iff.mp hm
        refine .inr ⟨m, _, rfl, ?_⟩
        simp only [left, if_pos hlt, drop_of_getElem? hm, List.cons_append]
        split
        · rfl
        · rename_i hle
          rw [if_neg (Nat.succ_ne_zero _), List.drop_eq_nil_of_le (Nat.le_of_not_lt hle),
            List.nil_append]
      | none =>
        have hle := List.getElem?_eq_none_iff.mp hm
        dsimp only
        by_cases hzero : index = 0 ∧ state.isSome = true
        · rw [if_pos hzero]
          refine .inl ⟨?_, _, rfl⟩
          simp only [left, if_neg (Nat.not_lt.mpr hle), if_pos hzero.1]
        · rw [if_neg hzero]
          have hsame : (channelAndState ⟨some channel, state, index⟩).left =
              (channelAndState ⟨none, state, 0⟩).left := by
            simp only [left, if_neg (Nat.not_lt.mpr hle)]
            cases state with
            | none => exact ite_self _
            | some state =>
              rw [if_neg fun h => hzero ⟨h, rfl⟩]
              rfl
          rw [hsame]
          obtain ⟨hleft, p', hnone⟩ | ⟨m, hm, hleft⟩ := stateMessage_spec ⟨none, state, 0⟩ rfl
          · rw [hnone]
            exact .inl ⟨hleft, _, rfl⟩
          · rw [hm]
            exact .inr ⟨m, _, rfl, hleft⟩

/-- The messages that the provider of a channel gives for a row by itself. -/
def ChannelRow.messages (r : ChannelRow) : List String :=
  (⟨some r.channel, some r.state, 0⟩ : ChannelAndState).fetchAll

theorem fetchUpTo_left (n : Nat) (p : ChannelAndState) :
    p.fetchUpTo n = (Provider.channelAndState p).left.take n := by
  induction n generalizing p with
  | zero => rfl
  | succ n ih =>
    obtain ⟨hleft, p', hfetch⟩ | ⟨m, p', hfetch, hleft⟩ :=
      (Provider.channelAndState p).fetch_spec
    · rw [Provider.fetch, Prod.mk.injEq] at hfetch
      rw [ChannelAndState.fetchUpTo, hleft]
      split
      · rename_i h
        rw [h] at hfetch
        cases hfetch.1
      · rfl
    · rw [Provider.fetch, Prod.mk.injEq] at hfetch
      rw [ChannelAndState.fetchUpTo, hleft, List.take_succ_cons]
      split
      · rename_i h
        rw [h] at hfetch
        obtain ⟨hm, hp⟩ := hfetch
        cases hm
        rw [ih, ← hp]
      · rename_i h
        rw [h] at hfetch
        cases hfetch.1

theorem left_channelRow (r : ChannelRow) : r.provider.left = r.messages := by
  rw [ChannelRow.messages, ChannelAndState.fetchAll, fetchUpTo_left]
  refine (List.take_of_length_le ?_).symm
  simp only [ChannelRow.provider, Provider.left, Option.getD_some, List.drop_zero]
  split
  · exact Nat.le_of_eq List.length_append
  · exact Nat.zero_le _

/-! ## One query -/

section Query
variable {ρ : Type} (provider : ρ → Provider) (row : ρ → Context → Context) (base : Context)

/-- What the rows still give. The row that the call comes to sets the context, the calls after it
begin with the base. -/
def fed : Context → List ρ → List (String × Context)
  | _, [] => []
  | c, r :: rest =>
    match (provider r).left with
    | [] => []
    | m :: ms => (m, row r c) :: (ms.map (·, base) ++ fed base rest)

/-- The context of the call that finds no message. -/
def stop : Context → List ρ → Context
  | c, [] => c
  | c, r :: rest => if (provider r).left = [] then row r c else stop base rest

/-- What is to come from an open query, in a call that has come to it with the context. -/
def Cursor.todo (c : Context) (cur : Cursor ρ) : List (String × Context) :=
  match cur.provider.left with
  | [] => fed provider row base c cur.rest
  | m :: ms => (m, c) :: (ms.map (·, base) ++ fed provider row base base cur.rest)

def Cursor.stop (c : Context) (cur : Cursor ρ) : Context :=
  if cur.provider.left = [] then Pass.stop provider row base c cur.rest
  else Pass.stop provider row base base cur.rest

/-- Between two calls. -/
theorem Cursor.todo_base (cur : Cursor ρ) : cur.todo provider row base base =
    cur.provider.left.map (·, base) ++ fed provider row base base cur.rest := by
  rw [todo]
  cases cur.provider.left <;> rfl

theorem Cursor.stop_base (cur : Cursor ρ) :
    cur.stop provider row base base = Pass.stop provider row base base cur.rest := ite_self _

/-- **A call** takes the next message, or there is none. -/
theorem cursor_fetch (c : Context) (cur : Cursor ρ) :
    (cur.todo provider row base c = [] ∧
        ∃ cur', cur.fetch provider row c = (none, cur', cur.stop provider row base c)) ∨
      ∃ m c' cur', cur.fetch provider row c = (some m, cur', c') ∧
        cur.todo provider row base c = (m, c') :: cur'.todo provider row base base ∧
        cur'.stop provider row base base = cur.stop provider row base c := by
  rw [Cursor.fetch, Cursor.todo, Cursor.stop]
  obtain ⟨hleft, p', hfetch⟩ | ⟨m, p', hfetch, hleft⟩ := cur.provider.fetch_spec
  · rw [hfetch, hleft, if_pos rfl]
    dsimp only
    cases cur.rest with
    | nil => exact .inl ⟨rfl, _, rfl⟩
    | cons r rest =>
      rw [fed, stop]
      obtain ⟨hnext, p'', hfetch'⟩ | ⟨m, p'', hfetch', hnext⟩ := (provider r).fetch_spec
      · rw [hnext, if_pos rfl]
        dsimp only
        rw [hfetch']
        exact .inl ⟨rfl, _, rfl⟩
      · rw [hnext, if_neg (List.cons_ne_nil _ _)]
        dsimp only
        rw [hfetch']
        refine .inr ⟨m, _, ⟨p'', rest⟩, rfl, ?_, ?_⟩
        · rw [Cursor.todo_base]
        · rw [Cursor.stop_base]
  · rw [hfetch, hleft, if_neg (List.cons_ne_nil _ _)]
    refine .inr ⟨m, c, ⟨p', cur.rest⟩, rfl, ?_, ?_⟩
    · rw [Cursor.todo_base]
    · rw [Cursor.stop_base]

variable (openQuery : Context → List ρ)

/-- What is to come from a query that is open or is to be opened. -/
def todo (c : Context) (query : Option (Cursor ρ)) : List (String × Context) :=
  match query with
  | some cur => cur.todo provider row base c
  | none =>
    match openQuery c with
    | [] => []
    | r :: rest => Cursor.todo provider row base (row r c) ⟨provider r, rest⟩

def stopOf (c : Context) (query : Option (Cursor ρ)) : Context :=
  match query with
  | some cur => cur.stop provider row base c
  | none =>
    match openQuery c with
    | [] => c
    | r :: rest => Cursor.stop provider row base (row r c) ⟨provider r, rest⟩

theorem fetch_spec (c : Context) (query : Option (Cursor ρ)) :
    (todo provider row base openQuery c query = [] ∧ ∃ query',
        fetch provider row openQuery query c =
          (none, query', stopOf provider row base openQuery c query)) ∨
      ∃ m c' query', fetch provider row openQuery query c = (some m, query', c') ∧
        todo provider row base openQuery c query =
          (m, c') :: todo provider row base openQuery base query' ∧
        stopOf provider row base openQuery base query' =
          stopOf provider row base openQuery c query := by
  unfold fetch todo stopOf
  cases query with
  | some cur =>
    dsimp only
    obtain ⟨htodo, cur', hfetch⟩ | ⟨m, c', cur', hfetch, htodo, hstop⟩ :=
      cursor_fetch provider row base c cur
    · rw [hfetch]
      exact .inl ⟨htodo, _, rfl⟩
    · rw [hfetch]
      exact .inr ⟨m, c', some cur', rfl, htodo, hstop⟩
  | none =>
    dsimp only
    cases openQuery c with
    | nil => exact .inl ⟨rfl, _, rfl⟩
    | cons r rest =>
      dsimp only
      obtain ⟨htodo, cur', hfetch⟩ | ⟨m, c', cur', hfetch, htodo, hstop⟩ :=
        cursor_fetch provider row base (row r c) ⟨provider r, rest⟩
      · rw [hfetch]
        exact .inl ⟨htodo, _, rfl⟩
      · rw [hfetch]
        exact .inr ⟨m, c', some cur', rfl, htodo, hstop⟩

/-- What every row leaves as it is in a context, a call leaves as it is. -/
theorem fetch_context {P : Context → Prop} (hrow : ∀ r c, P c → P (row r c)) {c : Context}
    (hc : P c) (query : Option (Cursor ρ)) : P (fetch provider row openQuery query c).2.2 := by
  have hcursor (cur : Cursor ρ) (c : Context) (hc : P c) : P (cur.fetch provider row c).2.2 := by
    rw [Cursor.fetch]
    split
    · exact hc
    · cases cur.rest with
      | nil => exact hc
      | cons r rest => exact hrow r c hc
  unfold fetch
  cases query with
  | some cur => exact hcursor cur c hc
  | none =>
    dsimp only
    cases openQuery c with
    | nil => exact hc
    | cons r rest => exact hcursor _ _ (hrow r c hc)

theorem fed_context {P : Context → Prop} (hrow : ∀ r c, P c → P (row r c)) (hbase : P base)
    {c : Context} (hc : P c) (rows : List ρ) : ∀ x ∈ fed provider row base c rows, P x.2 := by
  induction rows generalizing c with
  | nil => exact nofun
  | cons r rest ih =>
    rw [fed]
    cases (provider r).left with
    | nil => exact nofun
    | cons m ms =>
      intro x hx
      rcases List.mem_cons.mp hx with rfl | hx
      · exact hrow r c hc
      · rcases List.mem_append.mp hx with hx | hx
        · obtain ⟨m', -, rfl⟩ := List.mem_map.mp hx
          exact hbase
        · exact ih hbase x hx

theorem todo_context {P : Context → Prop} (hrow : ∀ r c, P c → P (row r c)) (hbase : P base)
    {c : Context} (hc : P c) : ∀ x ∈ todo provider row base openQuery c none, P x.2 := by
  rw [todo]
  cases openQuery c with
  | nil => exact nofun
  | cons r rest =>
    simp only [Cursor.todo]
    cases (provider r).left with
    | nil => exact fed_context provider row base hrow hbase (hrow r c hc) rest
    | cons m ms =>
      intro x hx
      rcases List.mem_cons.mp hx with rfl | hx
      · exact hrow r c hc
      · rcases List.mem_append.mp hx with hx | hx
        · obtain ⟨m', -, rfl⟩ := List.mem_map.mp hx
          exact hbase
        · exact fed_context provider row base hrow hbase hbase rest x hx

/-! ### All of the rows -/

/-- After a row without messages no row has any. -/
def Solid (rows : List (List String)) : Prop := rows.Pairwise fun ms ms' => ms = [] → ms' = []

/-- The same, where the first row may be without messages. -/
def SolidFirst : List (List String) → Prop
  | [] :: rows => Solid rows
  | rows => Solid rows

theorem solid_cons {ms : List String} {rows : List (List String)} :
    Solid (ms :: rows) ↔ (ms = [] → ∀ ms' ∈ rows, ms' = []) ∧ Solid rows := by
  unfold Solid
  rw [List.pairwise_cons]
  constructor
  · exact fun h => ⟨fun hms ms' hmem => h.1 ms' hmem hms, h.2⟩
  · exact fun h => ⟨fun ms' hmem hms => h.1 hms ms' hmem, h.2⟩

theorem solid_of_nil {rows : List (List String)} (h : ∀ ms ∈ rows, ms = []) : Solid rows :=
  List.pairwise_of_forall_mem_list fun _ _ ms' hms' _ => h ms' hms'

/-- The messages that are to come, of all that the rows have. -/
def given (l : List (String × Context)) : List String := l.map Prod.fst

theorem given_append (l l' : List (String × Context)) : given (l ++ l') = given l ++ given l' :=
  List.map_append

theorem given_tagged (c c' : Context) (m : String) (ms : List String)
    (l : List (String × Context)) :
    given ((m, c) :: (ms.map (·, c') ++ l)) = m :: ms ++ given l := by
  unfold given
  rw [List.map_cons, List.map_append, List.map_map, show Prod.fst ∘ (·, c') = id from rfl,
    List.map_id, List.cons_append]

theorem fed_initial (c : Context) (rows : List ρ) :
    given (fed provider row base c rows) <+: rows.flatMap fun r => (provider r).left := by
  induction rows generalizing c with
  | nil => exact List.prefix_refl _
  | cons r rest ih =>
    rw [fed, List.flatMap_cons]
    cases (provider r).left with
    | nil => exact List.nil_prefix
    | cons m ms =>
      dsimp only
      rw [given_tagged]
      exact (List.prefix_append_right_inj _).mpr (ih base)

/-- **All messages come** where no row with messages comes after one without. -/
theorem fed_all (c : Context) (rows : List ρ) :
    given (fed provider row base c rows) = (rows.flatMap fun r => (provider r).left) ↔
      Solid (rows.map fun r => (provider r).left) := by
  induction rows generalizing c with
  | nil => exact iff_of_true rfl List.Pairwise.nil
  | cons r rest ih =>
    rw [fed, List.flatMap_cons, List.map_cons, solid_cons]
    cases (provider r).left with
    | nil =>
      rw [List.nil_append, eq_comm]
      show rest.flatMap _ = [] ↔ _
      rw [List.flatMap_eq_nil_iff]
      constructor
      · intro h
        have hall : ∀ ms ∈ rest.map fun r => (provider r).left, ms = [] :=
          List.forall_mem_map.mpr h
        exact ⟨fun _ => hall, solid_of_nil hall⟩
      · exact fun h => List.forall_mem_map.mp (h.1 rfl)
    | cons m ms =>
      dsimp only
      rw [given_tagged, List.append_right_inj, ih]
      exact ⟨fun h => ⟨nofun, h⟩, fun h => h.2⟩

/-- An empty first row is passed over in the call that opens the query. -/
theorem todo_cons (c : Context) (r : ρ) (rest : List ρ) :
    given (Cursor.todo provider row base c ⟨provider r, rest⟩) =
      (provider r).left ++ given (fed provider row base
        (if (provider r).left = [] then c else base) rest) := by
  rw [Cursor.todo]
  cases (provider r).left with
  | nil =>
    rw [if_pos rfl]
    rfl
  | cons m ms =>
    rw [if_neg (List.cons_ne_nil _ _)]
    exact given_tagged ..

theorem todo_initial (c : Context) :
    given (todo provider row base openQuery c none) <+:
      (openQuery c).flatMap fun r => (provider r).left := by
  rw [todo]
  cases openQuery c with
  | nil => exact List.prefix_refl _
  | cons r rest =>
    dsimp only
    rw [todo_cons, List.flatMap_cons]
    exact (List.prefix_append_right_inj _).mpr (fed_initial ..)

/-- **All messages of a query come** where, after the first row, no row with messages comes after
one without. -/
theorem todo_all (c : Context) :
    given (todo provider row base openQuery c none) =
        ((openQuery c).flatMap fun r => (provider r).left) ↔
      SolidFirst ((openQuery c).map fun r => (provider r).left) := by
  rw [todo]
  cases openQuery c with
  | nil => exact iff_of_true rfl List.Pairwise.nil
  | cons r rest =>
    dsimp only
    rw [todo_cons, List.flatMap_cons, List.append_right_inj, fed_all, List.map_cons]
    cases (provider r).left with
    | nil => exact Iff.rfl
    | cons m ms =>
      show _ ↔ Solid ((m :: ms) :: _)
      rw [solid_cons]
      exact ⟨fun h => ⟨nofun, h⟩, fun h => h.2⟩

end Query

/-! ## The parts of a call -/

variable (q : Queries) (s : Pass)

/-- The context in which a call begins. -/
def base : Context := s.context.setUserId 0

def usersToCome : List (String × Context) :=
  if s.fetchUsers then
    todo UserRow.provider (fun r => Context.setUserId r.userId) s.base q.users s.base s.userQuery
  else []

/-- The context of the call that goes on with the devices. -/
def afterUsers : Context :=
  if s.fetchUsers then
    stopOf UserRow.provider (fun r => Context.setUserId r.userId) s.base q.users s.base s.userQuery
  else s.base

def devicesToCome (c : Context) : List (String × Context) :=
  if s.fetchDevices then
    todo DeviceRow.provider (fun _ c => c) s.base q.devices c s.deviceQuery
  else []

def channelsToCome (c : Context) : List (String × Context) :=
  if s.fetchChannels then
    todo ChannelRow.provider (fun _ c => c) s.base q.channels c s.channelQuery
  else []

/-- **What is to come** in a pass. -/
def toCome : List (String × Context) :=
  s.usersToCome q ++ (s.devicesToCome q (s.afterUsers q) ++
    s.channelsToCome q (if s.devicesToCome q (s.afterUsers q) = [] then s.afterUsers q else s.base))

theorem fetchUser_spec (hbase : s.context = s.base) :
    (s.usersToCome q = [] ∧ (s.afterUsers q).setUserId 0 = s.base ∧ ∃ uq, s.fetchUser q =
        (none, { s with fetchUsers := false, userQuery := uq, context := s.afterUsers q })) ∨
      ∃ m c uq, s.fetchUser q = (some m, { s with userQuery := uq, context := c }) ∧
        c.setUserId 0 = s.base ∧
        s.usersToCome q = (m, c) :: usersToCome q { s with userQuery := uq, context := c } ∧
        afterUsers q { s with userQuery := uq, context := c } = s.afterUsers q := by
  unfold fetchUser
  by_cases hfetch : s.fetchUsers = true
  · rw [if_pos hfetch]
    have hcontext := fetch_context UserRow.provider (fun r => Context.setUserId r.userId) q.users
      (P := fun c => c.setUserId 0 = s.base)
      (fun r c hc => (Context.setUserId_setUserId_zero c r.userId).trans hc) (c := s.context)
      rfl s.userQuery
    obtain ⟨htodo, uq, hnone⟩ | ⟨m, c, uq, hsome, htodo, hstop⟩ := fetch_spec UserRow.provider
      (fun r => Context.setUserId r.userId) s.base q.users s.context s.userQuery
    · rw [hnone] at hcontext ⊢
      have hafter : s.afterUsers q = stopOf UserRow.provider
          (fun r => Context.setUserId r.userId) s.base q.users s.context s.userQuery := by
        rw [afterUsers, if_pos hfetch, hbase]
      refine .inl ⟨?_, hafter ▸ hcontext, none, ?_⟩
      · rw [usersToCome, if_pos hfetch, ← htodo, hbase]
      · rw [hafter]
    · rw [hsome] at hcontext ⊢
      have hbase' : base { s with userQuery := uq, context := c } = s.base := hcontext
      refine .inr ⟨m, c, uq, rfl, hcontext, ?_, ?_⟩
      · simp only [usersToCome, hbase', if_pos hfetch]
        rw [← htodo, hbase]
      · simp only [afterUsers, hbase', if_pos hfetch]
        rw [hstop, hbase]
  · rw [if_neg hfetch]
    have hafter : s.afterUsers q = s.base := if_neg hfetch
    refine .inl ⟨if_neg hfetch, ?_, s.userQuery, ?_⟩
    · rw [hafter]
      exact Context.setUserId_setUserId_zero s.context 0
    · rw [hafter, ← hbase, ← Bool.eq_false_iff.mpr hfetch]

theorem fetchDevice_spec :
    (s.devicesToCome q s.context = [] ∧ ∃ dq, s.fetchDevice q =
        (none, { s with fetchDevices := false, deviceQuery := dq })) ∨
      ∃ m dq, s.fetchDevice q = (some m, { s with deviceQuery := dq }) ∧
        s.devicesToCome q s.context =
          (m, s.context) :: devicesToCome q { s with deviceQuery := dq } s.base := by
  unfold fetchDevice
  by_cases hfetch : s.fetchDevices = true
  · rw [if_pos hfetch]
    have hcontext := fetch_context DeviceRow.provider (fun _ c => c) q.devices
      (P := fun c => c = s.context) (fun _ _ hc => hc) (c := s.context) rfl s.deviceQuery
    obtain ⟨htodo, dq, hnone⟩ | ⟨m, c, dq, hsome, htodo, -⟩ := fetch_spec DeviceRow.provider
      (fun _ c => c) s.base q.devices s.context s.deviceQuery
    · rw [hnone] at hcontext ⊢
      refine .inl ⟨?_, none, ?_⟩
      · rw [devicesToCome, if_pos hfetch, htodo]
      · rw [show stopOf _ _ _ _ _ _ = s.context from hcontext]
    · rw [hsome] at hcontext ⊢
      cases hcontext
      refine .inr ⟨m, dq, rfl, ?_⟩
      simp only [devicesToCome, if_pos hfetch]
      exact htodo
  · rw [if_neg hfetch]
    refine .inl ⟨if_neg hfetch, s.deviceQuery, ?_⟩
    rw [← Bool.eq_false_iff.mpr hfetch]

theorem fetchChannel_spec :
    (s.channelsToCome q s.context = [] ∧ ∃ cq, s.fetchChannel q =
        (none, { s with fetchChannels := false, channelQuery := cq })) ∨
      ∃ m cq, s.fetchChannel q = (some m, { s with channelQuery := cq }) ∧
        s.channelsToCome q s.context =
          (m, s.context) :: channelsToCome q { s with channelQuery := cq } s.base := by
  unfold fetchChannel
  by_cases hfetch : s.fetchChannels = true
  · rw [if_pos hfetch]
    have hcontext := fetch_context ChannelRow.provider (fun _ c => c) q.channels
      (P := fun c => c = s.context) (fun _ _ hc => hc) (c := s.context) rfl s.channelQuery
    obtain ⟨htodo, cq, hnone⟩ | ⟨m, c, cq, hsome, htodo, -⟩ := fetch_spec ChannelRow.provider
      (fun _ c => c) s.base q.channels s.context s.channelQuery
    · rw [hnone] at hcontext ⊢
      refine .inl ⟨?_, none, ?_⟩
      · rw [channelsToCome, if_pos hfetch, htodo]
      · rw [show stopOf _ _ _ _ _ _ = s.context from hcontext]
    · rw [hsome] at hcontext ⊢
      cases hcontext
      refine .inr ⟨m, cq, rfl, ?_⟩
      simp only [channelsToCome, if_pos hfetch]
      exact htodo
  · rw [if_neg hfetch]
    refine .inl ⟨if_neg hfetch, s.channelQuery, ?_⟩
    rw [← Bool.eq_false_iff.mpr hfetch]

/-! ## A call -/

/-- What the end of a call with a message notes. -/
def noted (c : Context) (users : List Int) : List Int :=
  if c.userId = 0 then users
  else
    match c with
    | .full u => Publisher.addUserToList u users
    | .user u => if users = [] then [u] else users
    | _ => users

theorem noteUser_eq :
    s.noteUser = { s with usersEnabledTmp := noted s.context s.usersEnabledTmp } := by
  obtain ⟨c, _, _, users, _, _, _, _, _, _, _, _⟩ := s
  unfold noteUser noted
  split
  · rfl
  · cases c with
    | user u =>
      dsimp only
      split <;> rfl
    | _ => rfl

/-- What the parts of a call leave alone. -/
structure Keeps (s' : Pass) : Prop where
  base : s'.base = s.base
  fetchStates : s'.fetchStates = s.fetchStates
  usersEnabled : s'.usersEnabled = s.usersEnabled
  usersEnabledTmp : s'.usersEnabledTmp = s.usersEnabledTmp

theorem Keeps.trans {s s₁ s₂ : Pass} (h : s.Keeps s₁) (h' : s₁.Keeps s₂) : s.Keeps s₂ :=
  ⟨h'.base.trans h.base, h'.fetchStates.trans h.fetchStates,
    h'.usersEnabled.trans h.usersEnabled, h'.usersEnabledTmp.trans h.usersEnabledTmp⟩

theorem devicesToCome_congr {s s' : Pass} (hfetch : s'.fetchDevices = s.fetchDevices)
    (hquery : s'.deviceQuery = s.deviceQuery) (hbase : s'.base = s.base) :
    s'.devicesToCome q = s.devicesToCome q := by
  funext c
  rw [devicesToCome, devicesToCome, hfetch, hquery, hbase]

theorem channelsToCome_congr {s s' : Pass} (hfetch : s'.fetchChannels = s.fetchChannels)
    (hquery : s'.channelQuery = s.channelQuery) (hbase : s'.base = s.base) :
    s'.channelsToCome q = s.channelsToCome q := by
  funext c
  rw [channelsToCome, channelsToCome, hfetch, hquery, hbase]

/-- What is to come after the users. -/
theorem toCome_afterUsers {s : Pass} (hfetch : s.fetchUsers = false) : s.toCome q =
    s.devicesToCome q s.base ++ s.channelsToCome q s.base := by
  have husers : s.usersToCome q = [] := if_neg (by rw [hfetch]; nofun)
  have hafter : s.afterUsers q = s.base := if_neg (by rw [hfetch]; nofun)
  rw [toCome, husers, hafter, ite_self]
  rfl

/-- What is to come after the devices. -/
theorem toCome_afterDevices {s : Pass} (husers : s.fetchUsers = false)
    (hfetch : s.fetchDevices = false) : s.toCome q = s.channelsToCome q s.base := by
  have hdevices : s.devicesToCome q s.base = [] := if_neg (by rw [hfetch]; nofun)
  rw [toCome_afterUsers q husers, hdevices, List.nil_append]

theorem orElse_none (part : Pass → Option String × Pass) (s : Pass) :
    orElse part (none, s) = part s := rfl

/-- The channels, in a call that has come to them. -/
theorem channels_spec {s : Pass} (husers : s.fetchUsers = false) (hdevices : s.fetchDevices = false)
    (hstates : s.fetchStates = false) :
    (s.channelsToCome q s.context = [] ∧ ∃ s', orElse (fetchState q) (s.fetchChannel q) =
        (none, s') ∧ s.Keeps s') ∨
      ∃ m s', orElse (fetchState q) (s.fetchChannel q) = (some m, s') ∧ s.Keeps s' ∧
        s'.context = s.context ∧ s.channelsToCome q s.context = (m, s.context) :: s'.toCome q := by
  obtain ⟨hchannel, cq, hfetch⟩ | ⟨m, cq, hfetch, hchannel⟩ := fetchChannel_spec q s
  · refine .inl ⟨hchannel, { s with fetchChannels := false, channelQuery := cq }, ?_,
      ⟨rfl, rfl, rfl, rfl⟩⟩
    rw [hfetch]
    show fetchState q _ = _
    rw [fetchState, if_neg]
    show ¬ s.fetchStates = true
    rw [hstates]
    nofun
  · refine .inr ⟨m, { s with channelQuery := cq }, by rw [hfetch]; rfl, ⟨rfl, rfl, rfl, rfl⟩, rfl,
      ?_⟩
    have hrest := @toCome_afterDevices q { s with channelQuery := cq } husers hdevices
    rw [hrest]
    exact hchannel

/-- The devices and the channels, in a call that has come to them. -/
theorem devices_spec {s : Pass} (husers : s.fetchUsers = false) (hstates : s.fetchStates = false) :
    (s.devicesToCome q s.context ++ s.channelsToCome q
          (if s.devicesToCome q s.context = [] then s.context else s.base) = [] ∧
        ∃ s', orElse (fetchState q) (orElse (fetchChannel q) (s.fetchDevice q)) = (none, s') ∧
          s.Keeps s') ∨
      ∃ m s', orElse (fetchState q) (orElse (fetchChannel q) (s.fetchDevice q)) = (some m, s') ∧
        s.Keeps s' ∧ s'.context = s.context ∧
        s.devicesToCome q s.context ++ s.channelsToCome q
          (if s.devicesToCome q s.context = [] then s.context else s.base) =
            (m, s.context) :: s'.toCome q := by
  obtain ⟨hdevice, dq, hfetch⟩ | ⟨m, dq, hfetch, hdevice⟩ := fetchDevice_spec q s
  · rw [hdevice, List.nil_append, if_pos rfl, hfetch]
    have hchannels := @channels_spec q { s with fetchDevices := false, deviceQuery := dq } husers
      rfl hstates
    have hsame := @channelsToCome_congr q s { s with fetchDevices := false, deviceQuery := dq }
      rfl rfl rfl
    rw [hsame] at hchannels
    have hkept : s.Keeps { s with fetchDevices := false, deviceQuery := dq } :=
      ⟨rfl, rfl, rfl, rfl⟩
    obtain ⟨hnil, s', hnone, hkeeps⟩ | ⟨m, s', hsome, hkeeps, hcontext, hcons⟩ := hchannels
    · exact .inl ⟨hnil, s', hnone, hkept.trans hkeeps⟩
    · exact .inr ⟨m, s', hsome, hkept.trans hkeeps, hcontext, hcons⟩
  · rw [hdevice, hfetch, if_neg (List.cons_ne_nil _ _)]
    refine .inr ⟨m, { s with deviceQuery := dq }, rfl, ⟨rfl, rfl, rfl, rfl⟩, rfl, ?_⟩
    have hrest := @toCome_afterUsers q { s with deviceQuery := dq } husers
    rw [hrest]
    rfl

/-- **A call** takes the next message, or there is none. -/
theorem fetchNext_spec (hbase : s.context = s.base) (hstates : s.fetchStates = false) :
    (s.toCome q = [] ∧ ∃ s', s.fetchNext q = (none, s') ∧ s.Keeps s') ∨
      ∃ m s', s.fetchNext q = (some m, s'.noteUser) ∧ s.Keeps s' ∧
        s.toCome q = (m, s'.context) :: s'.toCome q := by
  unfold fetchNext
  obtain ⟨huser, hafter, uq, hfetch⟩ | ⟨m, c, uq, hfetch, hc, huser, hafter⟩ :=
    fetchUser_spec q s hbase
  · -- the users are at their end, and the call goes on with the context that they leave
    rw [toCome, huser, List.nil_append, hfetch]
    have hspec := @devices_spec q
      { s with fetchUsers := false, userQuery := uq, context := s.afterUsers q } rfl hstates
    have hbase' : base { s with fetchUsers := false, userQuery := uq, context := s.afterUsers q } =
        s.base := hafter
    have hdevices : devicesToCome q { s with
        fetchUsers := false, userQuery := uq, context := s.afterUsers q } = s.devicesToCome q :=
      devicesToCome_congr q rfl rfl hbase'
    have hchannels : channelsToCome q { s with
        fetchUsers := false, userQuery := uq, context := s.afterUsers q } = s.channelsToCome q :=
      channelsToCome_congr q rfl rfl hbase'
    rw [hdevices, hchannels, hbase'] at hspec
    have hkept : s.Keeps { s with
        fetchUsers := false, userQuery := uq, context := s.afterUsers q } :=
      ⟨hbase', rfl, rfl, rfl⟩
    obtain ⟨hnil, s', hnone, hkeeps⟩ | ⟨m, s', hsome, hkeeps, hcontext, hcons⟩ := hspec
    · rw [orElse_none, hnone]
      exact .inl ⟨hnil, s', rfl, hkept.trans hkeeps⟩
    · rw [orElse_none, hsome]
      refine .inr ⟨m, s', rfl, hkept.trans hkeeps, ?_⟩
      rw [hcontext]
      exact hcons
  · rw [hfetch]
    refine .inr ⟨m, { s with userQuery := uq, context := c }, rfl, ⟨hc, rfl, rfl, rfl⟩, ?_⟩
    have hbase' : base { s with userQuery := uq, context := c } = s.base := hc
    have hdevices : devicesToCome q { s with userQuery := uq, context := c } =
        s.devicesToCome q := devicesToCome_congr q rfl rfl hbase'
    have hchannels : channelsToCome q { s with userQuery := uq, context := c } =
        s.channelsToCome q := channelsToCome_congr q rfl rfl hbase'
    rw [toCome, toCome, huser, hafter, hdevices, hchannels, hbase', List.cons_append]

/-! ## A pass -/

/-- The users that are noted by the calls to come. -/
def notedAll (l : List (String × Context)) (users : List Int) : List Int :=
  l.foldl (fun users m => noted m.2 users) users

theorem base_noteUser (s : Pass) : s.noteUser.base = s.base := by
  rw [noteUser_eq]
  rfl

theorem toCome_noteUser (s : Pass) : s.noteUser.toCome q = s.toCome q := by
  rw [noteUser_eq]
  rfl

/-- The next call begins in the same context. -/
theorem toCome_reset (s : Pass) : toCome q { s with context := s.base } = s.toCome q := by
  have hbase : base { s with context := s.base } = s.base :=
    Context.setUserId_setUserId_zero s.context 0
  have hdevices : devicesToCome q { s with context := s.base } = s.devicesToCome q :=
    devicesToCome_congr q rfl rfl hbase
  have hchannels : channelsToCome q { s with context := s.base } = s.channelsToCome q :=
    channelsToCome_congr q rfl rfl hbase
  have husers : usersToCome q { s with context := s.base } = s.usersToCome q := by
    rw [usersToCome, usersToCome, hbase]
  have hafter : afterUsers q { s with context := s.base } = s.afterUsers q := by
    rw [afterUsers, afterUsers, hbase]
  rw [toCome, toCome, husers, hafter, hdevices, hchannels, hbase]

/-- **The calls** publish what is to come, and then the context is closed. -/
theorem calls_toCome {s : Pass} (hstates : s.fetchStates = false) :
    ∃ s' : Pass, Calls (fetchOpen q) s (given (s.toCome q)) s'.contextClose ∧ s'.base = s.base ∧
      s'.usersEnabled = s.usersEnabled ∧
      s'.usersEnabledTmp = notedAll (s.toCome q) s.usersEnabledTmp := by
  generalize hl : s.toCome q = l
  induction l generalizing s with
  | nil =>
    obtain ⟨-, s', hnone, hkeeps⟩ | ⟨m, s', -, -, hcons⟩ :=
      fetchNext_spec q { s with context := s.base }
        (Context.setUserId_setUserId_zero s.context 0).symm hstates
    · refine ⟨s', .last ?_, hkeeps.base.trans (Context.setUserId_setUserId_zero s.context 0),
        hkeeps.usersEnabled, hkeeps.usersEnabledTmp⟩
      rw [fetchOpen, show s.context.setUserId 0 = s.base from rfl, hnone]
      rfl
    · rw [toCome_reset, hl] at hcons
      cases hcons
  | cons x l ih =>
    obtain ⟨hnil, -⟩ | ⟨m, s', hsome, hkeeps, hcons⟩ :=
      fetchNext_spec q { s with context := s.base }
        (Context.setUserId_setUserId_zero s.context 0).symm hstates
    · rw [toCome_reset, hl] at hnil
      cases hnil
    · rw [toCome_reset, hl, List.cons.injEq] at hcons
      obtain ⟨rfl, hrest⟩ := hcons
      have hnoted := noteUser_eq s'
      obtain ⟨s₂, hcalls, hbase, henabled, htmp⟩ := @ih s'.noteUser
        (by rw [hnoted]; exact hkeeps.fetchStates.trans hstates) (by rw [toCome_noteUser, hrest])
      have hcall : fetchOpen q s = (true, [m], s'.noteUser) := by
        rw [fetchOpen, show s.context.setUserId 0 = s.base from rfl, hsome]
      refine ⟨s₂, .again hcall hcalls, ?_, ?_, ?_⟩
      · rw [hbase, base_noteUser]
        exact hkeeps.base.trans (Context.setUserId_setUserId_zero s.context 0)
      · rw [henabled, hnoted]
        exact hkeeps.usersEnabled
      · rw [htmp, hnoted]
        show notedAll l (noted s'.context s'.usersEnabledTmp) = _
        rw [hkeeps.usersEnabledTmp]
        rfl

/-! ## Complete passes -/

/-- The scopes of a pass. -/
inductive Scope
  | full
  | user (userId : Int)
  | device (userId deviceId : Int)
  deriving DecidableEq

def Scope.context : Scope → Context
  | full => .full 0
  | user userId => .user userId
  | device userId deviceId => .device userId deviceId

def userMessages (sc : Scope) : List (List String) :=
  match sc with
  | .device _ _ => []
  | _ => (q.users sc.context).map UserRow.messages

def deviceMessages (sc : Scope) : List (List String) :=
  (q.devices sc.context).map DeviceRow.messages

def channelMessages (sc : Scope) : List (List String) :=
  (q.channels sc.context).map ChannelRow.messages

/-- All messages of a scope. -/
def allMessages (sc : Scope) : List String :=
  (userMessages q sc).flatten ++ ((deviceMessages q sc).flatten ++ (channelMessages q sc).flatten)

/-- **The pass is complete**: the calls until one returns false publish all messages, and after a
pass over all data the enabled users are those with a message of their own. -/
def Complete (sc : Scope) (usersEnabled : List Int) : Prop :=
  ∃ s', Calls (fetchOpen q) ((closed usersEnabled).contextOpens sc.context) (allMessages q sc) s' ∧
    (sc = .full → ∀ u, u ∈ s'.usersEnabled ↔
      ∃ r ∈ q.users sc.context, r.userId = u ∧ r.messages ≠ [])

/-- The rows of a scope that are published completely: after the first row of a query none with
messages comes after one without. In a pass over all data the first row is no exception among the
users, and without a message of some user there is none of the devices and channels. -/
def Publishes : Scope → Prop
  | .full =>
    Solid (userMessages q .full) ∧ SolidFirst (deviceMessages q .full) ∧
      SolidFirst (channelMessages q .full) ∧
      ((∀ ms ∈ userMessages q .full, ms ≠ []) ∨
        (∀ ms ∈ deviceMessages q .full, ms = []) ∧ ∀ ms ∈ channelMessages q .full, ms = [])
  | sc =>
    SolidFirst (userMessages q sc) ∧ SolidFirst (deviceMessages q sc) ∧
      SolidFirst (channelMessages q sc)

theorem left_userRow (r : UserRow) : r.provider.left = r.messages := List.drop_zero

theorem left_deviceRow (r : DeviceRow) : r.provider.left = r.messages := List.drop_zero

/-! ### The devices and the channels -/

section Same
variable {ρ : Type} {provider : ρ → Provider} {b c : Context} {openQuery : Context → List ρ}

/-- Where the rows leave the context alone, the first message comes with it. -/
theorem todo_head {m : String × Context} {l : List (String × Context)}
    (h : todo provider (fun _ c => c) b openQuery c none = m :: l) : m.2 = c := by
  rw [todo] at h
  cases hopen : openQuery c with
  | nil =>
    rw [hopen] at h
    cases h
  | cons r rest =>
    rw [hopen] at h
    simp only [Cursor.todo] at h
    cases hr : (provider r).left with
    | cons m' ms =>
      rw [hr] at h
      cases h
      rfl
    | nil =>
      rw [hr] at h
      cases rest with
      | nil => cases h
      | cons r' rest =>
        rw [fed] at h
        cases hr' : (provider r').left with
        | nil =>
          rw [hr'] at h
          cases h
        | cons m' ms =>
          rw [hr'] at h
          cases h
          rfl

theorem todo_same : ∀ x ∈ todo provider (fun _ c => c) b openQuery c none, x.2 = c ∨ x.2 = b :=
  todo_context provider _ b openQuery (P := fun c' => c' = c ∨ c' = b) (fun _ _ h => h) (.inr rfl)
    (.inl rfl)

end Same

/-! ### The parts of a pass -/

/-- What an opened context publishes of the users, of the devices and of the channels. -/
def userTodo (sc : Scope) : List (String × Context) :=
  match sc with
  | .device _ _ => []
  | _ => todo UserRow.provider (fun r => Context.setUserId r.userId) sc.context q.users sc.context
    none

def userStop (sc : Scope) : Context :=
  match sc with
  | .device _ _ => sc.context
  | _ => stopOf UserRow.provider (fun r => Context.setUserId r.userId) sc.context q.users
    sc.context none

def deviceTodo (sc : Scope) (c : Context) : List (String × Context) :=
  todo DeviceRow.provider (fun _ c => c) sc.context q.devices c none

def channelTodo (sc : Scope) (c : Context) : List (String × Context) :=
  todo ChannelRow.provider (fun _ c => c) sc.context q.channels c none

/-- The context of the call that goes on with the channels. -/
def deviceStop (sc : Scope) : Context :=
  if deviceTodo q sc (userStop q sc) = [] then userStop q sc else sc.context

theorem setUserId_scope (sc : Scope) : sc.context.setUserId 0 = sc.context := by
  cases sc with
  | full => exact Context.setUserId_full_zero 0
  | _ => rfl

theorem toCome_opened (sc : Scope) (usersEnabled : List Int) :
    ((closed usersEnabled).contextOpens sc.context).toCome q = userTodo q sc ++
      (deviceTodo q sc (userStop q sc) ++ channelTodo q sc (deviceStop q sc)) := by
  cases sc <;> rfl

theorem userStop_context (sc : Scope) : (userStop q sc).setUserId 0 = sc.context := by
  have hstop (c : Context) (rows : List UserRow) (hc : c.setUserId 0 = sc.context) :
      (stop UserRow.provider (fun r => Context.setUserId r.userId) sc.context c rows).setUserId 0 =
        sc.context := by
    induction rows generalizing c with
    | nil => exact hc
    | cons r rest ih =>
      rw [stop]
      split
      · rw [Context.setUserId_setUserId_zero, hc]
      · exact ih _ (setUserId_scope sc)
  have hof : (stopOf UserRow.provider (fun r => Context.setUserId r.userId) sc.context q.users
      sc.context none).setUserId 0 = sc.context := by
    rw [stopOf]
    cases q.users sc.context with
    | nil => exact setUserId_scope sc
    | cons r rest =>
      simp only [Cursor.stop]
      split
      · exact hstop _ rest (by rw [Context.setUserId_setUserId_zero, setUserId_scope])
      · exact hstop _ rest (setUserId_scope sc)
  cases sc with
  | device u d => rfl
  | _ => exact hof

theorem deviceStop_context (sc : Scope) : (deviceStop q sc).setUserId 0 = sc.context := by
  rw [deviceStop]
  split
  · exact userStop_context q sc
  · exact setUserId_scope sc

theorem userTodo_initial (sc : Scope) :
    given (userTodo q sc) <+: (userMessages q sc).flatten := by
  have hprefix := todo_initial UserRow.provider (fun r => Context.setUserId r.userId) sc.context
    q.users sc.context
  simp only [left_userRow] at hprefix
  cases sc with
  | device u d => exact List.prefix_refl _
  | _ => exact hprefix

theorem userTodo_all (sc : Scope) :
    given (userTodo q sc) = (userMessages q sc).flatten ↔ SolidFirst (userMessages q sc) := by
  have hall := todo_all UserRow.provider (fun r => Context.setUserId r.userId) sc.context
    q.users sc.context
  simp only [left_userRow] at hall
  cases sc with
  | device u d => exact iff_of_true rfl List.Pairwise.nil
  | _ => exact hall

/-- With a user id in the context there may be less, and never more. -/
theorem deviceTodo_length (sc : Scope) {c : Context} (hc : c.setUserId 0 = sc.context) :
    (given (deviceTodo q sc c)).length ≤ (deviceMessages q sc).flatten.length := by
  have hprefix := todo_initial DeviceRow.provider (fun _ c => c) sc.context q.devices c
  have hsub := q.devices_sublist c
  rw [hc] at hsub
  simp only [left_deviceRow] at hprefix
  exact Nat.le_trans hprefix.length_le (hsub.flatMap DeviceRow.messages).length_le

theorem deviceTodo_all (sc : Scope) :
    given (deviceTodo q sc sc.context) = (deviceMessages q sc).flatten ↔
      SolidFirst (deviceMessages q sc) := by
  have hall := todo_all DeviceRow.provider (fun _ c => c) sc.context q.devices sc.context
  simp only [left_deviceRow] at hall
  exact hall

theorem channelTodo_length (sc : Scope) {c : Context} (hc : c.setUserId 0 = sc.context) :
    (given (channelTodo q sc c)).length ≤ (channelMessages q sc).flatten.length := by
  have hprefix := todo_initial ChannelRow.provider (fun _ c => c) sc.context q.channels c
  have hsub := q.channels_sublist c
  rw [hc] at hsub
  simp only [left_channelRow] at hprefix
  exact Nat.le_trans hprefix.length_le (hsub.flatMap ChannelRow.messages).length_le

theorem channelTodo_all (sc : Scope) :
    given (channelTodo q sc sc.context) = (channelMessages q sc).flatten ↔
      SolidFirst (channelMessages q sc) := by
  have hall := todo_all ChannelRow.provider (fun _ c => c) sc.context q.channels sc.context
  simp only [left_channelRow] at hall
  exact hall

/-- Parts that are no longer than they should be make up the whole only one by one. -/
theorem append_eq_iff {a a' b b' : List String} (ha : a.length ≤ a'.length)
    (hb : b.length ≤ b'.length) : a ++ b = a' ++ b' ↔ a = a' ∧ b = b' := by
  constructor
  · intro h
    have hlength := congrArg List.length h
    rw [List.length_append, List.length_append] at hlength
    exact List.append_inj h (by omega)
  · rintro ⟨rfl, rfl⟩
    rfl

/-- **All messages are published** where all messages of each part are. -/
theorem given_toCome_iff (sc : Scope) (usersEnabled : List Int) :
    given (((closed usersEnabled).contextOpens sc.context).toCome q) = allMessages q sc ↔
      given (userTodo q sc) = (userMessages q sc).flatten ∧
        given (deviceTodo q sc (userStop q sc)) = (deviceMessages q sc).flatten ∧
        given (channelTodo q sc (deviceStop q sc)) = (channelMessages q sc).flatten := by
  have hdevices := deviceTodo_length q sc (userStop_context q sc)
  have hchannels := channelTodo_length q sc (deviceStop_context q sc)
  have hlength : (given (deviceTodo q sc (userStop q sc)) ++
      given (channelTodo q sc (deviceStop q sc))).length ≤
        ((deviceMessages q sc).flatten ++ (channelMessages q sc).flatten).length := by
    rw [List.length_append, List.length_append]
    exact Nat.add_le_add hdevices hchannels
  rw [toCome_opened, given_append, given_append, allMessages,
    append_eq_iff (userTodo_initial q sc).length_le hlength, append_eq_iff hdevices hchannels]

/-- What a pass publishes and notes. -/
theorem complete_iff (sc : Scope) (usersEnabled : List Int) : Complete q sc usersEnabled ↔
    given (((closed usersEnabled).contextOpens sc.context).toCome q) = allMessages q sc ∧
      (sc = .full → ∀ u,
        u ∈ notedAll (((closed usersEnabled).contextOpens sc.context).toCome q) [] ↔
          ∃ r ∈ q.users sc.context, r.userId = u ∧ r.messages ≠ []) := by
  obtain ⟨s', hcalls, hbase, henabled, htmp⟩ :=
    @calls_toCome q ((closed usersEnabled).contextOpens sc.context) (by cases sc <;> rfl)
  have hnoted : sc = .full → s'.contextClose.usersEnabled =
      notedAll (((closed usersEnabled).contextOpens sc.context).toCome q) [] := by
    rintro rfl
    have hfull : s'.context.setUserId 0 = .full 0 := hbase.trans (setUserId_scope .full)
    have hclose : s'.contextClose.usersEnabled = s'.usersEnabledTmp := by
      rw [contextClose]
      cases hcontext : s'.context with
      | full u => rfl
      | _ =>
        rw [hcontext] at hfull
        cases hfull
    exact hclose.trans htmp
  constructor
  · rintro ⟨s₂, hall, husers⟩
    obtain ⟨hout, rfl⟩ := hall.unique hcalls
    refine ⟨hout.symm, fun hfull => ?_⟩
    rw [← hnoted hfull]
    exact husers hfull
  · rintro ⟨hout, husers⟩
    refine ⟨s'.contextClose, hout ▸ hcalls, fun hfull => ?_⟩
    rw [hnoted hfull]
    exact husers hfull

/-! ### The scopes of one user -/

/-- No user id is set in these scopes. -/
theorem complete_part {sc : Scope} (hpart : sc ≠ .full) (usersEnabled : List Int) :
    Complete q sc usersEnabled ↔ SolidFirst (userMessages q sc) ∧ SolidFirst (deviceMessages q sc) ∧
      SolidFirst (channelMessages q sc) := by
  have huser : userStop q sc = sc.context := by
    have hcontext := userStop_context q sc
    cases sc with
    | full => exact absurd rfl hpart
    | device u d => rfl
    | user u =>
      cases hstop : userStop q (.user u) with
      | full v =>
        rw [hstop, Context.setUserId_full_zero] at hcontext
        cases hcontext
      | _ =>
        rw [hstop] at hcontext
        exact hcontext
  have hdevice : deviceStop q sc = sc.context := by
    rw [deviceStop, huser]
    exact ite_self _
  rw [complete_iff, given_toCome_iff, huser, hdevice, userTodo_all, deviceTodo_all,
    channelTodo_all]
  exact and_iff_left fun hfull => absurd hfull hpart

/-! ### The scope of all data -/

theorem mem_noted_full (u v : Int) (users : List Int) :
    v ∈ noted (.full u) users ↔ v ∈ users ∨ u ≠ 0 ∧ v = u := by
  rw [noted]
  show v ∈ (if u = 0 then users else Publisher.addUserToList u users) ↔ _
  split
  · rename_i hu
    exact (or_iff_left fun h => h.1 hu).symm
  · rename_i hu
    rw [Publisher.addUserToList]
    split
    · rename_i hany
      obtain ⟨w, hmem, hw⟩ := List.any_eq_true.mp hany
      rw [decide_eq_true_eq] at hw
      subst hw
      exact ⟨.inl, fun h => h.elim id fun h => h.2 ▸ hmem⟩
    · rw [List.mem_append, List.mem_singleton]
      exact or_congr_right (and_iff_right hu).symm

/-- Noted is who is in the context of a message. -/
theorem mem_notedAll {l : List (String × Context)} (hfull : ∀ x ∈ l, ∃ u, x.2 = .full u) (v : Int)
    (users : List Int) :
    v ∈ notedAll l users ↔ v ∈ users ∨ v ≠ 0 ∧ ∃ x ∈ l, x.2 = .full v := by
  induction l generalizing users with
  | nil => exact (or_iff_left fun h => nomatch h.2).symm
  | cons x l ih =>
    obtain ⟨u, hx⟩ := hfull x List.mem_cons_self
    show v ∈ notedAll l (noted x.2 users) ↔ _
    rw [ih fun y hy => hfull y (List.mem_cons_of_mem _ hy), hx, mem_noted_full]
    constructor
    · rintro ((hmem | ⟨hu, rfl⟩) | ⟨hv, y, hy, htag⟩)
      · exact .inl hmem
      · exact .inr ⟨hu, x, List.mem_cons_self, hx⟩
      · exact .inr ⟨hv, y, List.mem_cons_of_mem _ hy, htag⟩
    · rintro (hmem | ⟨hv, y, hy, htag⟩)
      · exact .inl (.inl hmem)
      · rcases List.mem_cons.mp hy with rfl | hy
        · cases hx.symm.trans htag
          exact .inl (.inr ⟨hv, rfl⟩)
        · exact .inr ⟨hv, y, hy, htag⟩

/-- The first row after which there is an id sets it, the rows after it do not. -/
theorem setUserId_full_ne_zero {u : Int} (hu : u ≠ 0) (v : Int) :
    (Context.full u).setUserId v = if v = 0 then .full 0 else .full u := by
  by_cases hv : v = 0
  · rw [if_pos hv, hv]
    exact Context.setUserId_full_zero u
  · rw [if_neg hv]
    exact if_neg fun h => h.elim (fun h => hv h.1) fun h => hu h.2

theorem setUserId_zero_full (v : Int) : (Context.full 0).setUserId v = .full v := by
  by_cases hv : v = 0
  · rw [hv]
    exact Context.setUserId_full_zero 0
  · exact if_pos (.inr ⟨hv, rfl⟩)

section Users

/-- The rows of the users and what their messages come with. -/
def userFed (c : Context) (rows : List UserRow) : List (String × Context) :=
  fed UserRow.provider (fun r => Context.setUserId r.userId) (.full 0) c rows

/-- The context in which the rows of the users come to their end. -/
def userEnd (rows : List UserRow) : Context :=
  stop UserRow.provider (fun r => Context.setUserId r.userId) (.full 0) (.full 0) rows

theorem userFed_nil {rows : List UserRow} (h : ∀ r ∈ rows, r.messages = []) (c : Context) :
    userFed c rows = [] := by
  cases rows with
  | nil => rfl
  | cons r rest =>
    rw [userFed, fed, left_userRow, h r List.mem_cons_self]

/-- The first message of a row comes with its user. -/
theorem userFed_cons {r : UserRow} {m : String} {ms : List String} (hr : r.messages = m :: ms)
    (rest : List UserRow) : userFed (.full 0) (r :: rest) =
      (m, .full r.userId) :: (ms.map (·, .full 0) ++ userFed (.full 0) rest) := by
  rw [userFed, fed, left_userRow, hr]
  dsimp only
  rw [setUserId_zero_full]
  rfl

/-- **The users with a message** are in the contexts. -/
theorem userFed_users {rows : List UserRow} (hsolid : Solid (rows.map UserRow.messages)) {u : Int}
    (hu : u ≠ 0) : (∃ x ∈ userFed (.full 0) rows, x.2 = .full u) ↔
      ∃ r ∈ rows, r.userId = u ∧ r.messages ≠ [] := by
  induction rows with
  | nil => exact iff_of_false (fun ⟨_, h, _⟩ => nomatch h) (fun ⟨_, h, _⟩ => nomatch h)
  | cons r rest ih =>
    rw [List.map_cons, solid_cons] at hsolid
    obtain ⟨hempty, hsolid⟩ := hsolid
    cases hr : r.messages with
    | nil =>
      have hall : ∀ r' ∈ r :: rest, r'.messages = [] := by
        intro r' hr'
        rcases List.mem_cons.mp hr' with rfl | hr'
        · exact hr
        · exact hempty hr _ (List.mem_map_of_mem hr')
      rw [userFed_nil hall]
      exact iff_of_false (fun ⟨_, h, _⟩ => nomatch h) fun ⟨r', hr', _, hne⟩ => hne (hall r' hr')
    | cons m ms =>
      rw [userFed_cons hr]
      constructor
      · rintro ⟨x, hx, htag⟩
        rcases List.mem_cons.mp hx with rfl | hx
        · cases htag
          exact ⟨r, List.mem_cons_self, rfl, by rw [hr]; exact List.cons_ne_nil _ _⟩
        · rcases List.mem_append.mp hx with hx | hx
          · obtain ⟨m', -, rfl⟩ := List.mem_map.mp hx
            cases htag
            exact absurd rfl hu
          · obtain ⟨r', hr', hid⟩ := (ih hsolid).mp ⟨x, hx, htag⟩
            exact ⟨r', List.mem_cons_of_mem _ hr', hid⟩
      · rintro ⟨r', hr', hid, hne⟩
        rcases List.mem_cons.mp hr' with rfl | hr'
        · exact ⟨_, List.mem_cons_self, by rw [hid]⟩
        · obtain ⟨x, hx, htag⟩ := (ih hsolid).mpr ⟨r', hr', hid, hne⟩
          exact ⟨x, List.mem_cons_of_mem _ (List.mem_append_right _ hx), htag⟩

/-- The call that finds no more users leaves the context as it was, or the id of a row without
messages in it. -/
theorem userEnd_spec (rows : List UserRow) :
    userEnd rows = .full 0 ∧ (∀ r ∈ rows, r.messages ≠ []) ∨
      ∃ r ∈ rows, r.messages = [] ∧ userEnd rows = .full r.userId := by
  induction rows with
  | nil => exact .inl ⟨rfl, nofun⟩
  | cons r rest ih =>
    rw [userEnd, stop, left_userRow]
    by_cases hr : r.messages = []
    · rw [if_pos hr, setUserId_zero_full]
      exact .inr ⟨r, List.mem_cons_self, hr, rfl⟩
    · rw [if_neg hr]
      obtain ⟨hend, hall⟩ | ⟨r', hr', hempty, hend⟩ := ih
      · exact .inl ⟨hend, List.forall_mem_cons.mpr ⟨hr, hall⟩⟩
      · exact .inr ⟨r', List.mem_cons_of_mem _ hr', hempty, hend⟩

variable {q}

/-- An empty first row changes nothing where none of the rows has messages. -/
theorem userTodo_full (hsolid : Solid (userMessages q .full)) :
    userTodo q .full = userFed (.full 0) (q.users (.full 0)) ∧
      userStop q .full = userEnd (q.users (.full 0)) := by
  have hids := q.userId_ne_zero (.full 0)
  unfold userMessages at hsolid
  unfold userTodo userStop todo stopOf
  simp only [Scope.context] at hsolid ⊢
  cases hrows : q.users (.full 0) with
  | nil => exact ⟨rfl, rfl⟩
  | cons r rest =>
    rw [hrows] at hsolid hids
    rw [List.map_cons, solid_cons] at hsolid
    simp only [Cursor.todo, Cursor.stop, left_userRow, setUserId_zero_full]
    cases hr : r.messages with
    | nil =>
      have hall : ∀ r' ∈ rest, r'.messages = [] :=
        fun r' hr' => hsolid.1 hr _ (List.mem_map_of_mem hr')
      refine ⟨?_, ?_⟩
      · show userFed _ rest = _
        rw [userFed_nil hall, userFed_nil (List.forall_mem_cons.mpr ⟨hr, hall⟩)]
      · rw [if_pos rfl, userEnd, stop, left_userRow, if_pos hr, setUserId_zero_full]
        cases rest with
        | nil => rfl
        | cons r' rest =>
          rw [stop, left_userRow, if_pos (hall r' List.mem_cons_self),
            setUserId_full_ne_zero (hids r List.mem_cons_self),
            if_neg (hids r' (List.mem_cons_of_mem _ List.mem_cons_self))]
    | cons m ms =>
      refine ⟨?_, ?_⟩
      · rw [userFed_cons hr]
        rfl
      · rw [if_neg (List.cons_ne_nil _ _), userEnd, stop, left_userRow, hr,
          if_neg (List.cons_ne_nil _ _)]

/-- **A user without messages is noted** where the first row has none and the second one has some:
its id is set when the message of the second comes. -/
theorem userTodo_first (hsolid : ¬ Solid (userMessages q .full))
    (hfirst : SolidFirst (userMessages q .full)) : ∃ r ∈ q.users (.full 0),
      r.messages = [] ∧ ∃ x ∈ userTodo q .full, x.2 = .full r.userId := by
  have hids := q.userId_ne_zero (.full 0)
  unfold userMessages at hsolid hfirst
  unfold userTodo todo
  simp only [Scope.context] at hsolid hfirst ⊢
  cases hrows : q.users (.full 0) with
  | nil =>
    rw [hrows] at hsolid
    exact absurd List.Pairwise.nil hsolid
  | cons r rest =>
    rw [hrows, List.map_cons] at hsolid hfirst
    rw [hrows] at hids
    cases hr : r.messages with
    | cons m ms =>
      rw [hr] at hsolid hfirst
      exact absurd hfirst hsolid
    | nil =>
      rw [hr] at hsolid hfirst
      cases rest with
      | nil => exact absurd (solid_cons.mpr ⟨fun _ _ h => absurd h List.not_mem_nil, hfirst⟩) hsolid
      | cons r' rest =>
        cases hr' : r'.messages with
        | nil =>
          refine absurd (solid_cons.mpr ⟨fun _ => ?_, hfirst⟩) hsolid
          exact List.forall_mem_cons.mpr ⟨hr', (solid_cons.mp hfirst).1 hr'⟩
        | cons m ms =>
          refine ⟨r, List.mem_cons_self, hr, (m, .full r.userId), ?_, rfl⟩
          simp only [Cursor.todo, left_userRow, hr, fed, hr', setUserId_zero_full,
            setUserId_full_ne_zero (hids r List.mem_cons_self),
            if_neg (hids r' (List.mem_cons_of_mem _ List.mem_cons_self))]
          exact List.mem_cons_self

end Users

variable {q}

theorem solidFirst_of_solid {rows : List (List String)} (h : Solid rows) : SolidFirst rows := by
  cases rows with
  | nil => exact h
  | cons ms rows =>
    cases ms with
    | nil => exact (solid_cons.mp h).2
    | cons m ms => exact h

theorem solidFirst_of_nil {rows : List (List String)} (h : ∀ ms ∈ rows, ms = []) :
    SolidFirst rows := solidFirst_of_solid (solid_of_nil h)

theorem given_eq_nil {l : List (String × Context)} : given l = [] ↔ l = [] := List.map_eq_nil_iff

/-- What is to come of the devices and channels comes with the id in the context or without one. -/
theorem parts_full {v : Int} (hv : userStop q .full = .full v) :
    ∀ x ∈ deviceTodo q .full (userStop q .full) ++ channelTodo q .full (deviceStop q .full),
      x.2 = .full v ∨ x.2 = .full 0 := by
  intro x hx
  rcases List.mem_append.mp hx with hx | hx
  · exact (todo_same x hx).imp_left fun h => h.trans hv
  · obtain h | h := todo_same x hx
    · rw [deviceStop] at h
      split at h
      · exact .inl (h.trans hv)
      · exact .inr h
    · exact .inr h

/-- In a pass over all data the context stays what it is, up to the user id. -/
theorem toCome_full (usersEnabled : List Int) :
    ∀ x ∈ ((closed usersEnabled).contextOpens Scope.full.context).toCome q, ∃ u, x.2 = .full u := by
  have hsame : ∀ x ∈ ((closed usersEnabled).contextOpens Scope.full.context).toCome q,
      x.2.setUserId 0 = .full 0 := by
    intro x hx
    rw [toCome_opened] at hx
    rcases List.mem_append.mp hx with hx | hx
    · exact todo_context UserRow.provider _ _ q.users (P := fun c => c.setUserId 0 = .full 0)
        (fun r c hc => (Context.setUserId_setUserId_zero c r.userId).trans hc)
        (setUserId_scope .full) (setUserId_scope .full) x hx
    · rcases List.mem_append.mp hx with hx | hx
      · obtain h | h := todo_same x hx
        · exact h ▸ userStop_context q .full
        · exact h ▸ setUserId_scope .full
      · obtain h | h := todo_same x hx
        · exact h ▸ deviceStop_context q .full
        · exact h ▸ setUserId_scope .full
  intro x hx
  have hx := hsame x hx
  cases htag : x.2 with
  | full u => exact ⟨u, rfl⟩
  | _ =>
    rw [htag] at hx
    cases hx

/-- A user id names a row. -/
theorem row_unique {r r' : UserRow} (hr : r ∈ q.users (.full 0)) (hr' : r' ∈ q.users (.full 0))
    (hid : r'.userId = r.userId) : r' = r :=
  List.inj_on_of_nodup_map (q.nodup _) hr' hr hid

/-- A pass over all data that is complete notes no user whose row has no messages. -/
theorem not_noted {usersEnabled : List Int} (hcomplete : Complete q .full usersEnabled)
    {r : UserRow} (hr : r ∈ q.users (.full 0)) (hempty : r.messages = []) :
    r.userId ∉ notedAll (((closed usersEnabled).contextOpens Scope.full.context).toCome q) [] := by
  intro hmem
  obtain ⟨-, husers⟩ := (complete_iff q .full usersEnabled).mp hcomplete
  obtain ⟨r', hr', hid, hne⟩ := (husers rfl _).mp hmem
  rw [row_unique hr hr' hid] at hne
  exact hne hempty

/-- Without an empty row of a user the devices and channels are queried without an id. -/
theorem complete_plain (hsolid : Solid (userMessages q .full))
    (hstop : userStop q .full = .full 0) (usersEnabled : List Int) :
    Complete q .full usersEnabled ↔
      SolidFirst (deviceMessages q .full) ∧ SolidFirst (channelMessages q .full) := by
  have hdevice : deviceStop q .full = .full 0 := by
    rw [deviceStop, hstop]
    exact ite_self _
  have husers : ∀ u, u ∈ notedAll
      (((closed usersEnabled).contextOpens Scope.full.context).toCome q) [] ↔
        ∃ r ∈ q.users (.full 0), r.userId = u ∧ r.messages ≠ [] := by
    intro u
    rw [mem_notedAll (toCome_full usersEnabled)]
    by_cases hu : u = 0
    · refine iff_of_false (fun h => ?_) ?_
      · exact h.elim (fun h => absurd h List.not_mem_nil) fun h => h.1 hu
      · rintro ⟨r, hr, hid, -⟩
        exact q.userId_ne_zero _ r hr (hid.trans hu)
    · have hrows := userFed_users hsolid hu
      rw [or_iff_right List.not_mem_nil, and_iff_right hu, toCome_opened, (userTodo_full hsolid).1]
      refine Iff.trans ?_ hrows
      constructor
      · rintro ⟨x, hx, htag⟩
        rcases List.mem_append.mp hx with hx | hx
        · exact ⟨x, hx, htag⟩
        · have hzero := (parts_full hstop x hx).elim id id
          cases htag.symm.trans hzero
          exact absurd rfl hu
      · rintro ⟨x, hx, htag⟩
        exact ⟨x, List.mem_append_left _ hx, htag⟩
  rw [complete_iff, given_toCome_iff, hstop, hdevice]
  rw [show Context.full 0 = Scope.full.context from rfl, userTodo_all, deviceTodo_all,
    channelTodo_all]
  exact ⟨fun h => h.1.2, fun h => ⟨⟨solidFirst_of_solid hsolid, h⟩, fun _ => husers⟩⟩

/-- With the id of an empty row in the context nothing else may come. -/
theorem complete_marked (hsolid : Solid (userMessages q .full)) {r : UserRow}
    (hr : r ∈ q.users (.full 0)) (hempty : r.messages = [])
    (hstop : userStop q .full = .full r.userId) (usersEnabled : List Int) :
    Complete q .full usersEnabled ↔
      (∀ ms ∈ deviceMessages q .full, ms = []) ∧ ∀ ms ∈ channelMessages q .full, ms = [] := by
  have hid : r.userId ≠ 0 := q.userId_ne_zero _ r hr
  have hmarked {x : String × Context}
      (hx : x ∈ deviceTodo q .full (userStop q .full) ++ channelTodo q .full (deviceStop q .full))
      (htag : x.2 = .full r.userId) : ¬ Complete q .full usersEnabled := by
    intro hcomplete
    refine not_noted hcomplete hr hempty ?_
    rw [mem_notedAll (toCome_full usersEnabled), toCome_opened]
    exact .inr ⟨hid, x, List.mem_append_right _ hx, htag⟩
  constructor
  · intro hcomplete
    obtain ⟨hall, -⟩ := (complete_iff q .full usersEnabled).mp hcomplete
    obtain ⟨-, hdevices, hchannels⟩ := (given_toCome_iff q .full usersEnabled).mp hall
    have hnodevice : deviceTodo q .full (userStop q .full) = [] := by
      cases hdevice : deviceTodo q .full (userStop q .full) with
      | nil => rfl
      | cons x l =>
        refine absurd hcomplete (hmarked (x := x) ?_ ((todo_head hdevice).trans hstop))
        rw [hdevice]
        exact List.mem_append_left _ List.mem_cons_self
    have hdevice : deviceStop q .full = .full r.userId := by
      rw [deviceStop, if_pos hnodevice, hstop]
    have hnochannel : channelTodo q .full (deviceStop q .full) = [] := by
      cases hchannel : channelTodo q .full (deviceStop q .full) with
      | nil => rfl
      | cons x l =>
        refine absurd hcomplete (hmarked (x := x) ?_ ((todo_head hchannel).trans hdevice))
        rw [hchannel]
        exact List.mem_append_right _ List.mem_cons_self
    rw [hnodevice] at hdevices
    rw [hnochannel] at hchannels
    exact ⟨List.flatten_eq_nil_iff.mp hdevices.symm, List.flatten_eq_nil_iff.mp hchannels.symm⟩
  · rintro ⟨hdevices, hchannels⟩
    have hdevices := List.flatten_eq_nil_iff.mpr hdevices
    have hchannels := List.flatten_eq_nil_iff.mpr hchannels
    have hnodevice : deviceTodo q .full (userStop q .full) = [] := by
      have hlength := deviceTodo_length q .full (userStop_context q .full)
      rw [hdevices] at hlength
      exact given_eq_nil.mp (List.length_eq_zero_iff.mp (Nat.le_zero.mp hlength))
    have hnochannel : channelTodo q .full (deviceStop q .full) = [] := by
      have hlength := channelTodo_length q .full (deviceStop_context q .full)
      rw [hchannels] at hlength
      exact given_eq_nil.mp (List.length_eq_zero_iff.mp (Nat.le_zero.mp hlength))
    rw [complete_iff, given_toCome_iff]
    refine ⟨⟨(userTodo_all q .full).mpr (solidFirst_of_solid hsolid), ?_, ?_⟩, fun _ u => ?_⟩
    · rw [hnodevice, hdevices]
      rfl
    · rw [hnochannel, hchannels]
      rfl
    · rw [mem_notedAll (toCome_full usersEnabled), or_iff_right List.not_mem_nil,
        toCome_opened, hnodevice, hnochannel, List.nil_append, List.append_nil,
        (userTodo_full hsolid).1]
      by_cases hu : u = 0
      · refine iff_of_false (fun h => h.1 hu) ?_
        rintro ⟨r', hr', hid', -⟩
        exact q.userId_ne_zero _ r' hr' (hid'.trans hu)
      · rw [and_iff_right hu]
        exact userFed_users hsolid hu

theorem mem_userMessages {ms : List String} :
    ms ∈ userMessages q .full ↔ ∃ r ∈ q.users (.full 0), r.messages = ms := List.mem_map

variable (q)

/-- **A publication pass is complete** exactly for the rows that `Publishes` describes. -/
theorem pass_complete_iff (sc : Scope) (usersEnabled : List Int) :
    Complete q sc usersEnabled ↔ Publishes q sc := by
  cases sc with
  | user u => exact complete_part q (by nofun) usersEnabled
  | device u d => exact complete_part q (by nofun) usersEnabled
  | full =>
    by_cases hsolid : Solid (userMessages q .full)
    · have hstop := (userTodo_full hsolid).2
      obtain ⟨hend, hall⟩ | ⟨r, hr, hempty, hend⟩ := userEnd_spec (q.users (.full 0))
      · rw [complete_plain hsolid (hstop.trans hend), Publishes]
        constructor
        · rintro ⟨hdevices, hchannels⟩
          refine ⟨hsolid, hdevices, hchannels, .inl fun ms hms => ?_⟩
          obtain ⟨r, hr, rfl⟩ := mem_userMessages.mp hms
          exact hall r hr
        · exact fun h => ⟨h.2.1, h.2.2.1⟩
      · rw [complete_marked hsolid hr hempty (hstop.trans hend), Publishes]
        constructor
        · exact fun h => ⟨hsolid, solidFirst_of_nil h.1, solidFirst_of_nil h.2, .inr h⟩
        · rintro ⟨-, -, -, hall | hnone⟩
          · exact absurd rfl (hall [] (mem_userMessages.mpr ⟨r, hr, hempty⟩))
          · exact hnone
    · refine iff_of_false (fun hcomplete => ?_) fun h => hsolid h.1
      obtain ⟨hall, husers⟩ := (complete_iff q .full usersEnabled).mp hcomplete
      obtain ⟨hfirst, -⟩ := (given_toCome_iff q .full usersEnabled).mp hall
      obtain ⟨r, hr, hempty, x, hx, htag⟩ :=
        userTodo_first hsolid ((userTodo_all q .full).mp hfirst)
      refine not_noted hcomplete hr hempty ?_
      rw [mem_notedAll (toCome_full usersEnabled), toCome_opened]
      exact .inr ⟨q.userId_ne_zero _ r hr, x, List.mem_append_left _ hx, htag⟩

/-- The second of three users is without a unique id, so that no topic is made for it. -/
def blankUser : Queries where
  users _ := [⟨1, ["a/account/timezone", "a/account/email"]⟩, ⟨2, []⟩,
    ⟨3, ["c/account/timezone", "c/account/email"]⟩]
  devices _ := []
  channels _ := []
  states _ := []
  userId_ne_zero _ := by decide
  nodup _ := by decide
  devices_sublist _ := List.Sublist.refl _
  channels_sublist _ := List.Sublist.refl _

/-- Nothing of the third user is published. -/
theorem blank_user_incomplete : ¬ Complete blankUser .full [] := by
  intro hcomplete
  obtain ⟨hall, -⟩ := (complete_iff blankUser .full []).mp hcomplete
  exact absurd hall (by decide)

end Pass

end Mqtt
