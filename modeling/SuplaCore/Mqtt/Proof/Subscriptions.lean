import Mathlib.Data.List.Nodup
import SuplaCore.Mqtt.Subscriptions

/-!
# Every clean-up subscription is ended

A step changes the list at one user (`split_first`), and what it hands out is for that user
(`Goes`), so the invariant is one about each user by itself (`ItemInv`): a subscribed user has its
time-out or is to be subscribed once more. The list is changed before the database is asked, though:
if the database fails then, the subscribe or the unsubscribe is lost (`failure_loses`), and with it
the end of the subscription (`never_unsubscribed`). The theorem is about the runs in which the
database answers when a user is due (`Served`).
-/

namespace Mqtt

open Sys

/-! ## The first of a list -/

/-- The place of the first member that passes a test. -/
theorem split_first {α : Type} {p : α → Bool} {l : List α} {x : α} (h : l.find? p = some x) :
    ∃ pre post, l = pre ++ x :: post ∧ p x = true ∧ (∀ y ∈ pre, p y = false) ∧
      (∀ f, l.modify (l.findIdx p) f = pre ++ f x :: post) ∧
      l.eraseIdx (l.findIdx p) = pre ++ post := by
  obtain ⟨hx, pre, post, rfl, hpre⟩ := List.find?_eq_some_iff_append.mp h
  have hpre' : ∀ y ∈ pre, p y = false := fun y hy => by simpa using hpre y hy
  have hidx : (pre ++ x :: post).findIdx p = pre.length := by
    rw [List.findIdx_append, if_neg, List.findIdx_cons, hx]
    · exact Nat.zero_add _
    · intro hlt
      obtain ⟨y, hy, hpy⟩ := List.findIdx_lt_length.mp hlt
      rw [hpre' y hy] at hpy
      cases hpy
  refine ⟨pre, post, rfl, hx, hpre', fun f => ?_, ?_⟩
  · rw [hidx, List.modify_eq_take_drop, List.take_left, List.drop_left]
    rfl
  · rw [hidx, List.eraseIdx_append_of_length_le (Nat.le_refl _), Nat.sub_self]
    rfl

/-- There is something to be done for the user. -/
def UnpubUserItem.Pending (it : UnpubUserItem) : Prop :=
  it.needsSubscribe = true ∨ it.subscribeTimeto ≠ 0

/-- An access to the database fails. -/
def UnpubAct.Fails : UnpubAct → Prop
  | .userdataChanged _ .notConnected => True
  | .userdataChanged _ .failed => True
  | .fetchSubscription _ none => True
  | _ => False

namespace UnpubUsers

variable {topicPrefix : String} {s s' : UnpubUsers} {a : UnpubAct}

/-! ## What has to hold -/

/-- The newest topic that was handed out for a user: whether it is to be unsubscribed, and the time
of the call that found the user. -/
def newest (s : UnpubUsers) (userId : Int) : Option (Bool × Int) :=
  (s.handedOut.find? fun e => e.userId = userId).map fun e => (e.unsubscribe, e.since)

/-- The user was subscribed at this time and is not unsubscribed since. -/
def SubscribedAt (s : UnpubUsers) (userId time : Int) : Prop :=
  s.newest userId = some (false, time)

/-- The provider has no topic left. -/
def Drained (topicPrefix : String) (s : UnpubUsers) : Prop :=
  s.provider.getMessageAtIndex topicPrefix = none

/-- The loop of a call at this time gets to the user. -/
def Reaches (topicPrefix : String) (s : UnpubUsers) (now : Int) (it : UnpubUserItem) : Prop :=
  Drained topicPrefix s ∧
    ∃ pre post, s.users = pre ++ it :: post ∧ ∀ x ∈ pre, due now x = false

/-- A step ends a subscription when it is time, and not before. -/
structure EndsIn (topicPrefix : String) (s : UnpubUsers) (a : UnpubAct) (s' : UnpubUsers) :
    Prop where
  /-- A subscribed user is unsubscribed by the first call that gets to it 20 seconds after the
  subscribe or when it is enabled again. -/
  ended : ∀ now suid it time, a = .fetchSubscription now suid → Reaches topicPrefix s now it →
    s.SubscribedAt it.userId time → it.needsSubscribe = false →
      ((∃ topic since, s'.handedOut = ⟨it.userId, topic, true, since⟩ :: s.handedOut) ↔
        it.mqttEnabled = true ∨ time + SUBSCRIPTION_TIME_SEC ≤ now)
  /-- One that is disabled once more before that is subscribed once more. -/
  again : ∀ now suid it, a = .fetchSubscription now suid → Reaches topicPrefix s now it →
    it.needsSubscribe = true → s'.SubscribedAt it.userId now
  /-- A failed access changes nothing for a user for whom there is something to be done. -/
  failed : a.Fails → ∀ it ∈ s.users, it.Pending → it ∈ s'.users
  dropped : ∀ it ∈ s.users, (∀ it' ∈ s'.users, it'.userId ≠ it.userId) →
    it.mqttEnabled = false ∧ ∀ time, ¬ s'.SubscribedAt it.userId time

/-- The database answers when a user is due; where its answer about a user is missing, the user has
no unsubscribe to come. -/
def Served (topicPrefix : String) (s : UnpubUsers) : UnpubAct → Prop
  | .userdataChanged userId .failed =>
    ∀ it ∈ s.users, it.userId = userId → it.mqttEnabled = true → it.subscribeTimeto = 0
  | .fetchSubscription now suid =>
    Drained topicPrefix s → (∃ it ∈ s.users, due now it = true) → ∃ id, suid = some id ∧ id ≠ ""
  | _ => True

/-- **Every subscription is ended**: a subscribed user has its time-out, or its next subscribe,
before it. -/
structure Ends (topicPrefix : String) (s : UnpubUsers) : Prop where
  kept : ∀ userId time, s.SubscribedAt userId time →
    ∃ it ∈ s.users, it.userId = userId ∧ it.Pending
  step : ∀ a s', Served topicPrefix s a → (unpubUsers topicPrefix).step s a = some s' →
    EndsIn topicPrefix s a s'

/-! ## Steps -/

/-- What is left of a user that is due. -/
def left (now : Int) (it : UnpubUserItem) : List UnpubUserItem :=
  if it.needsSubscribe then
    [{ it with subscribeTimeto := now + SUBSCRIPTION_TIME_SEC, needsSubscribe := false }]
  else if it.mqttEnabled then [{ it with subscribeTimeto := 0 }]
  else []

/-- The ways a step goes where the database answers. -/
inductive Goes (topicPrefix : String) (s : UnpubUsers) : UnpubAct → UnpubUsers → Prop
  /-- `on_userdata_changed` changes nothing. -/
  | same (userId : Int) (answer : EnabledAnswer) :
    Goes topicPrefix s (.userdataChanged userId answer) s
  | switched (answer : EnabledAnswer) (enabled : Bool) {pre post : List UnpubUserItem}
      {it : UnpubUserItem} : s.users = pre ++ it :: post → it.mqttEnabled ≠ enabled →
      (answer = .failed → enabled = false) → answer ≠ .notConnected →
      Goes topicPrefix s (.userdataChanged it.userId answer)
        { s with users := pre ++ it.setEnabled enabled :: post }
  | added {userId : Int} : 0 < userId → (∀ it ∈ s.users, it.userId ≠ userId) →
      Goes topicPrefix s (.userdataChanged userId (.found true))
        { s with users := s.users ++ [⟨userId, true, false, 0⟩] }
  /-- The second topic of a user. -/
  | second (now : Int) (suid : Option String) {row : UserRow} {topic : String} :
      s.provider.row = some row → s.provider.getMessageAtIndex topicPrefix = some topic →
      Goes topicPrefix s (.fetchSubscription now suid)
        { s with
          provider := { s.provider with index := s.provider.index + 1 }
          handedOut := ⟨row.userId, topic, s.provider.unsubscribe, s.provider.since⟩ ::
            s.handedOut }
  | rested {now : Int} (suid : Option String) : Drained topicPrefix s →
      (∀ it ∈ s.users, due now it = false) → Goes topicPrefix s (.fetchSubscription now suid) s
  /-- The first topic of the first user that is due. -/
  | reached {now : Int} {suid : String} {pre post : List UnpubUserItem} {it : UnpubUserItem}
      (topic : String) : 0 < now → Drained topicPrefix s → s.users = pre ++ it :: post →
      (∀ y ∈ pre, due now y = false) → due now it = true →
      Goes topicPrefix s (.fetchSubscription now (some suid))
        ⟨pre ++ left now it ++ post, ⟨some ⟨it.userId, suid⟩, !it.needsSubscribe, 1, now⟩,
          ⟨it.userId, topic, !it.needsSubscribe, now⟩ :: s.handedOut⟩

theorem fetchTopic_drained (h : Drained topicPrefix s) : s.fetchTopic topicPrefix = none := by
  rw [fetchTopic, h]
  cases s.provider.row <;> rfl

theorem fetchTopic_some {row : UserRow} {topic : String} (hrow : s.provider.row = some row)
    (hmessage : s.provider.getMessageAtIndex topicPrefix = some topic) :
    s.fetchTopic topicPrefix = some { s with
      provider := { s.provider with index := s.provider.index + 1 }
      handedOut := ⟨row.userId, topic, s.provider.unsubscribe, s.provider.since⟩ ::
        s.handedOut } := by
  rw [fetchTopic, hrow, hmessage]

theorem fetchTopic_setDataRow {users : List UnpubUserItem} {log : List HandedOut} {row : UserRow}
    {unsubscribe : Bool} {now : Int} (h : row.userSuid ≠ "") :
    fetchTopic topicPrefix ⟨users, .setDataRow row unsubscribe now, log⟩ =
      some ⟨users, ⟨some row, unsubscribe, 1, now⟩,
        ⟨row.userId, createTopic topicPrefix row.userSuid "#", unsubscribe, now⟩ :: log⟩ := by
  simp [fetchTopic, UserTopicProvider.setDataRow, UserTopicProvider.getMessageAtIndex, h]

theorem setEnabled_goes {userId : Int} {answer : EnabledAnswer} {enabled : Bool}
    (hconnected : answer ≠ .notConnected) (hfailed : answer = .failed → enabled = false)
    (hfound : enabled = true → 0 < userId ∧ answer = .found true) :
    Goes topicPrefix s (.userdataChanged userId answer)
      { s with users := setEnabled userId enabled s.users } := by
  rw [setEnabled]
  cases hfind : s.users.find? fun it => it.userId = userId with
  | none =>
    have hnot : ∀ it ∈ s.users, it.userId ≠ userId := fun it hit => by
      simpa using List.find?_eq_none.mp hfind it hit
    rw [if_neg (by simpa using hnot)]
    cases henabled : enabled with
    | false => exact .same userId answer
    | true =>
      obtain ⟨hpos, rfl⟩ := hfound henabled
      exact .added hpos hnot
  | some it =>
    obtain ⟨pre, post, heq, hid, -, hmodify, -⟩ := split_first hfind
    have hid : it.userId = userId := of_decide_eq_true hid
    subst hid
    rw [if_pos (List.any_eq_true.mpr ⟨it, List.mem_of_find?_eq_some hfind, decide_eq_true rfl⟩),
      hmodify]
    by_cases hne : it.mqttEnabled ≠ enabled
    · exact .switched answer enabled heq hne hfailed hconnected
    · rw [UnpubUserItem.setEnabled, if_neg hne, ← heq]
      exact .same _ answer

/-- What the loop makes of the list, with the place where it stops. -/
theorem advance_eq {now : Int} {it : UnpubUserItem} {users : List UnpubUserItem}
    (h : users.find? (due now) = some it) :
    ∃ pre post, users = pre ++ it :: post ∧ due now it = true ∧ (∀ y ∈ pre, due now y = false) ∧
      advance now it users = pre ++ left now it ++ post := by
  obtain ⟨pre, post, heq, hdue, hpre, hmodify, herase⟩ := split_first h
  refine ⟨pre, post, heq, hdue, hpre, ?_⟩
  simp only [advance, left, hmodify, herase]
  cases it.needsSubscribe with
  | true => simp
  | false => cases it.mqttEnabled <;> simp

theorem step_goes (hnonzero : ∀ it ∈ s.users, it.userId ≠ 0) (hserved : Served topicPrefix s a)
    (hs : (unpubUsers topicPrefix).step s a = some s') : Goes topicPrefix s a s' := by
  cases a with
  | userdataChanged userId answer =>
    cases hs
    cases answer with
    | notConnected => exact .same userId _
    | failed => exact setEnabled_goes nofun (fun _ => rfl) nofun
    | found enabled =>
      refine setEnabled_goes nofun nofun fun h => ?_
      rw [Bool.and_eq_true, decide_eq_true_eq] at h
      exact ⟨h.2, congrArg EnabledAnswer.found h.1⟩
  | fetchSubscription now suid =>
    simp only [unpubUsers] at hs
    split at hs
    · rename_i hnow
      cases hs
      cases hmessage : s.provider.getMessageAtIndex topicPrefix with
      | some topic =>
        cases hrow : s.provider.row with
        | none =>
          rw [UserTopicProvider.getMessageAtIndex, hrow] at hmessage
          cases hmessage
        | some row =>
          simp only [fetchSubscription, fetchTopic_some hrow hmessage]
          exact .second now suid hrow hmessage
      | none =>
        simp only [fetchSubscription, fetchTopic_drained hmessage]
        cases hfind : s.users.find? (due now) with
        | none =>
          refine .rested suid hmessage fun it hit => ?_
          simpa using List.find?_eq_none.mp hfind it hit
        | some it =>
          obtain ⟨pre, post, heq, hdue, hpre, hadvance⟩ := advance_eq hfind
          have hmem : it ∈ s.users := List.mem_of_find?_eq_some hfind
          obtain ⟨id, rfl, hid⟩ := hserved hmessage ⟨it, hmem, hdue⟩
          have hrow : (⟨it.userId, id⟩ : UserRow).userSuid ≠ "" := hid
          simp only [setRow, if_pos (hnonzero it hmem), fetchTopic_setDataRow hrow, hadvance,
            Option.getD_some]
          exact .reached _ hnow hmessage heq hpre hdue
    · cases hs

/-! ## The invariant -/

/-- What holds of a user by itself, with the newest topic that was handed out for it. -/
structure ItemInv (newest : Option (Bool × Int)) (it : UnpubUserItem) : Prop where
  wants : it.needsSubscribe = true → it.mqttEnabled = false ∧ it.subscribeTimeto = 0
  enabled : it.mqttEnabled = true → it.subscribeTimeto = 0 ∨ it.subscribeTimeto = 1
  armed : ∀ time, newest = some (false, time) → it.needsSubscribe = false →
    it.subscribeTimeto = if it.mqttEnabled then 1 else time + SUBSCRIPTION_TIME_SEC

structure Inv (topicPrefix : String) (s : UnpubUsers) : Prop where
  nodup : (s.users.map (·.userId)).Nodup
  nonzero : ∀ it ∈ s.users, it.userId ≠ 0
  items : ∀ it ∈ s.users, ItemInv (s.newest it.userId) it
  listed : ∀ userId time, s.SubscribedAt userId time → ∃ it ∈ s.users, it.userId = userId
  since : ∀ e ∈ s.handedOut, 0 < e.since
  /-- A topic that is left is of the user whose first topic is the newest. -/
  second : ∀ row, s.provider.row = some row → 0 < s.provider.index ∧ ∃ topic rest,
    s.handedOut = ⟨row.userId, topic, s.provider.unsubscribe, s.provider.since⟩ :: rest

/-- The newest topic of a user after a topic was handed out. -/
theorem newest_cons {users : List UnpubUserItem} {p : UserTopicProvider} {log : List HandedOut}
    {e : HandedOut} (userId : Int) : newest ⟨users, p, e :: log⟩ userId =
      if e.userId = userId then some (e.unsubscribe, e.since)
      else newest ⟨users, p, log⟩ userId := by
  simp only [newest, List.find?_cons]
  by_cases h : e.userId = userId
  · rw [decide_eq_true h, if_pos h]
    rfl
  · rw [decide_eq_false h, if_neg h]

theorem ItemInv.setEnabled {n : Option (Bool × Int)} {it : UnpubUserItem} (h : ItemInv n it)
    (enabled : Bool) : ItemInv n (it.setEnabled enabled) := by
  rw [UnpubUserItem.setEnabled]
  split
  · cases enabled with
    | true => exact ⟨nofun, fun _ => .inr rfl, fun _ _ _ => rfl⟩
    | false => exact ⟨fun _ => ⟨rfl, rfl⟩, nofun, fun _ _ h => (nomatch h)⟩
  · exact h

theorem setEnabled_userId (it : UnpubUserItem) (enabled : Bool) :
    (it.setEnabled enabled).userId = it.userId := by
  rw [UnpubUserItem.setEnabled]
  split
  · cases enabled <;> rfl
  · rfl

/-- A user that is due, after the topic for it was handed out. -/
theorem ItemInv.left {n : Option (Bool × Int)} {it it' : UnpubUserItem} (h : ItemInv n it)
    {now : Int} (hit : it' ∈ left now it) :
    it'.userId = it.userId ∧ ItemInv (some (!it.needsSubscribe, now)) it' := by
  unfold UnpubUsers.left at hit
  split at hit
  · rename_i hneeds
    rw [List.mem_singleton] at hit
    subst hit
    have hdisabled := (h.wants hneeds).1
    refine ⟨rfl, nofun, fun he => ?_, fun time htime _ => ?_⟩
    · rw [hdisabled] at he
      cases he
    · rw [hneeds] at htime
      cases htime
      simp only [hdisabled, Bool.false_eq_true, if_false]
  · rename_i hneeds
    split at hit
    · rw [List.mem_singleton] at hit
      subst hit
      refine ⟨rfl, fun hw => absurd hw hneeds, fun _ => .inl rfl, fun time htime _ => ?_⟩
      rw [Bool.eq_false_iff.mpr hneeds] at htime
      cases htime
    · cases hit

theorem left_sublist (now : Int) (it : UnpubUserItem) :
    ((left now it).map (·.userId)).Sublist [it.userId] := by
  unfold left
  split
  · exact List.Sublist.refl _
  · split
    · exact List.Sublist.refl _
    · exact List.nil_sublist _

/-- The other users of a list without repeats. -/
theorem userId_ne {pre post : List UnpubUserItem} {it x : UnpubUserItem}
    (hnodup : ((pre ++ it :: post).map (·.userId)).Nodup) (hx : x ∈ pre ∨ x ∈ post) :
    x.userId ≠ it.userId := by
  rw [List.map_append, List.map_cons, List.nodup_middle, List.nodup_cons,
    ← List.map_append] at hnodup
  intro heq
  exact hnodup.1 (List.mem_map.mpr ⟨x, List.mem_append.mpr hx, heq⟩)

/-- A step at one user. -/
theorem Inv.replace (h : Inv topicPrefix s) (mid : List UnpubUserItem)
    {pre post : List UnpubUserItem} {it : UnpubUserItem} (heq : s.users = pre ++ it :: post)
    (hmid : (mid.map (·.userId)).Sublist [it.userId])
    (hother : ∀ userId, userId ≠ it.userId → s'.newest userId = s.newest userId)
    (hitems : ∀ x ∈ mid, x.userId = it.userId ∧ ItemInv (s'.newest it.userId) x)
    (hlisted : ∀ time, s'.SubscribedAt it.userId time → mid ≠ [])
    (husers : s'.users = pre ++ mid ++ post) (hsince : ∀ e ∈ s'.handedOut, 0 < e.since)
    (hsecond : ∀ row, s'.provider.row = some row → 0 < s'.provider.index ∧ ∃ topic rest,
      s'.handedOut = ⟨row.userId, topic, s'.provider.unsubscribe, s'.provider.since⟩ :: rest) :
    Inv topicPrefix s' := by
  have hnodup := h.nodup
  rw [heq] at hnodup
  have hmem : ∀ x ∈ s'.users, x ∈ mid ∨ (x ∈ s.users ∧ x.userId ≠ it.userId) := by
    intro x hx
    rw [husers, List.append_assoc, List.mem_append, List.mem_append] at hx
    rcases hx with hpre | hmid | hpost
    · exact .inr ⟨heq ▸ List.mem_append_left _ hpre, userId_ne hnodup (.inl hpre)⟩
    · exact .inl hmid
    · refine .inr ⟨?_, userId_ne hnodup (.inr hpost)⟩
      rw [heq]
      exact List.mem_append_right _ (List.mem_cons_of_mem _ hpost)
  refine ⟨?_, fun x hx => ?_, fun x hx => ?_, fun userId time hsub => ?_, hsince, hsecond⟩
  · refine hnodup.sublist ?_
    rw [husers, List.append_assoc, List.map_append, List.map_append, List.map_append, List.map_cons]
    exact (List.Sublist.refl _).append (hmid.append (List.Sublist.refl _))
  · rcases hmem x hx with hx | ⟨hx, -⟩
    · rw [(hitems x hx).1]
      exact h.nonzero it (heq ▸ List.mem_append_right _ List.mem_cons_self)
    · exact h.nonzero x hx
  · rcases hmem x hx with hx | ⟨hx, hne⟩
    · rw [(hitems x hx).1]
      exact (hitems x hx).2
    · rw [hother _ hne]
      exact h.items x hx
  · by_cases hid : userId = it.userId
    · subst hid
      obtain ⟨x, hx⟩ := List.exists_mem_of_ne_nil mid (hlisted time hsub)
      refine ⟨x, ?_, (hitems x hx).1⟩
      rw [husers]
      exact List.mem_append_left _ (List.mem_append_right _ hx)
    · rw [SubscribedAt, hother userId hid] at hsub
      obtain ⟨x, hx, hxid⟩ := h.listed userId time hsub
      refine ⟨x, ?_, hxid⟩
      rw [heq, List.mem_append, List.mem_cons] at hx
      rw [husers, List.append_assoc, List.mem_append, List.mem_append]
      rcases hx with hx | rfl | hx
      · exact .inl hx
      · exact absurd hxid.symm hid
      · exact .inr (.inr hx)

theorem Inv.init (h : (unpubUsers topicPrefix).init s) : Inv topicPrefix s := by
  obtain ⟨ids, hnodup, hnonzero, rfl⟩ := h
  refine ⟨?_, fun it hit => ?_, fun it hit => ?_, fun _ _ h => (nomatch h),
    fun _ h => (nomatch h), fun _ h => (nomatch h)⟩
  · simpa [Function.comp_def] using hnodup
  · obtain ⟨id, hid, rfl⟩ := List.mem_map.mp hit
    exact hnonzero id hid
  · obtain ⟨id, hid, rfl⟩ := List.mem_map.mp hit
    exact ⟨nofun, fun _ => .inl rfl, fun _ h => (nomatch h)⟩

theorem Inv.goes (h : Inv topicPrefix s) (hgoes : Goes topicPrefix s a s') :
    Inv topicPrefix s' := by
  cases hgoes with
  | same => exact h
  | switched answer enabled heq =>
    rename_i pre post it _ _ _
    refine h.replace [it.setEnabled enabled] heq ?_ (fun _ _ => rfl) (fun x hx => ?_)
      (fun _ _ => List.cons_ne_nil _ _) (List.append_cons pre _ post) h.since h.second
    · rw [List.map_singleton, setEnabled_userId]
    · rw [List.mem_singleton] at hx
      subst hx
      have hit : it ∈ s.users := heq ▸ List.mem_append_right _ List.mem_cons_self
      exact ⟨setEnabled_userId it enabled, (h.items it hit).setEnabled enabled⟩
  | added hpos hnot =>
    rename_i userId
    refine ⟨?_, fun x hx => ?_, fun x hx => ?_, fun u time hsub => ?_, h.since, h.second⟩
    · rw [List.map_append, List.map_singleton, List.nodup_append]
      refine ⟨h.nodup, List.nodup_singleton _, fun a ha b hb => ?_⟩
      obtain ⟨x, hx, rfl⟩ := List.mem_map.mp ha
      rw [List.mem_singleton] at hb
      exact hb ▸ hnot x hx
    · rcases List.mem_append.mp hx with hx | hx
      · exact h.nonzero x hx
      · rw [List.mem_singleton] at hx
        subst hx
        exact Int.ne_of_gt hpos
    · rcases List.mem_append.mp hx with hx | hx
      · exact h.items x hx
      · rw [List.mem_singleton] at hx
        subst hx
        refine ⟨nofun, fun _ => .inl rfl, fun time htime _ => ?_⟩
        obtain ⟨x, hx, hid⟩ := h.listed userId time htime
        exact absurd hid (hnot x hx)
    · obtain ⟨x, hx, hid⟩ := h.listed u time hsub
      exact ⟨x, List.mem_append_left _ hx, hid⟩
  | second now suid hrow hmessage =>
    rename_i row topic
    obtain ⟨hindex, topic', rest, hlog⟩ := h.second row hrow
    -- the topic of the same user again
    have hnewest : ∀ userId, newest ⟨s.users, { s.provider with index := s.provider.index + 1 },
        ⟨row.userId, topic, s.provider.unsubscribe, s.provider.since⟩ :: s.handedOut⟩ userId =
          s.newest userId := by
      intro userId
      obtain ⟨users, p, log⟩ := s
      simp only at hlog
      subst hlog
      rw [newest_cons, newest_cons, newest_cons]
      split <;> rfl
    refine ⟨h.nodup, h.nonzero, fun it hit => ?_, fun userId time hsub => ?_, fun e he => ?_,
      fun r hr => ?_⟩
    · rw [hnewest]
      exact h.items it hit
    · rw [SubscribedAt, hnewest] at hsub
      exact h.listed userId time hsub
    · rcases List.mem_cons.mp he with rfl | he
      · exact h.since ⟨row.userId, topic', s.provider.unsubscribe, s.provider.since⟩
          (hlog ▸ List.mem_cons_self)
      · exact h.since e he
    · rw [hrow] at hr
      cases hr
      exact ⟨Nat.succ_pos _, topic, s.handedOut, rfl⟩
  | rested => exact h
  | reached topic hnow hdrained heq hpre hdue =>
    rename_i now suid pre post it
    have hit : it ∈ s.users := heq ▸ List.mem_append_right _ List.mem_cons_self
    refine h.replace (left now it) heq (left_sublist now it) (fun userId hne => ?_)
      (fun x hx => ?_) (fun time hsub => ?_) rfl (fun e he => ?_) (fun r hr => ?_)
    · rw [newest_cons, if_neg hne.symm]
      rfl
    · rw [newest_cons, if_pos rfl]
      exact (h.items it hit).left hx
    · rw [SubscribedAt, newest_cons, if_pos rfl] at hsub
      cases hneeds : it.needsSubscribe with
      | true =>
        rw [left, if_pos hneeds]
        exact List.cons_ne_nil _ _
      | false =>
        rw [hneeds] at hsub
        cases hsub
    · rcases List.mem_cons.mp he with rfl | he
      · exact hnow
      · exact h.since e he
    · cases hr
      exact ⟨Nat.one_pos, topic, s.handedOut, rfl⟩

theorem inv_reach (h : Reach (unpubUsers topicPrefix) (Served topicPrefix) s) :
    Inv topicPrefix s :=
  h.invariant (P := Inv topicPrefix) (fun _ hinit => .init hinit) fun hok hinv hs =>
    hinv.goes (step_goes hinv.nonzero hok hs)

/-! ## The end of a subscription -/

/-- The first user that is due, wherever the list is split at it. -/
theorem first_unique {now : Int} {users pre post pre' post' : List UnpubUserItem}
    {it it' : UnpubUserItem} (h : users = pre ++ it :: post) (hpre : ∀ x ∈ pre, due now x = false)
    (hdue : due now it = true) (h' : users = pre' ++ it' :: post')
    (hpre' : ∀ x ∈ pre', due now x = false) (hdue' : due now it' = true) : it = it' := by
  have hfind : ∀ {pre post : List UnpubUserItem} {it : UnpubUserItem}, users = pre ++ it :: post →
      (∀ x ∈ pre, due now x = false) → due now it = true → users.find? (due now) = some it := by
    intro pre post it h hpre hdue
    refine List.find?_eq_some_iff_append.mpr ⟨hdue, pre, post, h, fun x hx => ?_⟩
    rw [hpre x hx]
    rfl
  exact Option.some.inj ((hfind h hpre hdue).symm.trans (hfind h' hpre' hdue'))

/-- A subscribed user is due when it is enabled again or its time is over. -/
theorem ItemInv.due_iff {it : UnpubUserItem} {time now : Int}
    (h : ItemInv (some (false, time)) it) (hneeds : it.needsSubscribe = false) (htime : 0 < time)
    (hnow : 0 < now) :
    due now it = true ↔ it.mqttEnabled = true ∨ time + SUBSCRIPTION_TIME_SEC ≤ now := by
  have harmed := h.armed time rfl hneeds
  rw [SUBSCRIPTION_TIME_SEC] at *
  unfold due
  rw [hneeds, harmed]
  cases it.mqttEnabled <;> simp <;> omega

theorem Inv.time_pos (h : Inv topicPrefix s) {userId time : Int}
    (hsub : s.SubscribedAt userId time) : 0 < time := by
  obtain ⟨e, he, heq⟩ := Option.map_eq_some_iff.mp hsub
  rw [← (Prod.mk.inj heq).2]
  exact h.since e (List.mem_of_find?_eq_some he)

theorem Inv.userId_inj (h : Inv topicPrefix s) {it it' : UnpubUserItem} (hit : it ∈ s.users)
    (hit' : it' ∈ s.users) (hid : it.userId = it'.userId) : it = it' :=
  List.inj_on_of_nodup_map h.nodup hit hit' hid

theorem now_pos {now : Int} {suid : Option String}
    (hs : (unpubUsers topicPrefix).step s (.fetchSubscription now suid) = some s') : 0 < now := by
  simp only [unpubUsers] at hs
  split at hs
  · assumption
  · cases hs

theorem Inv.ended (h : Inv topicPrefix s) {now : Int} {suid : Option String}
    (hnow : 0 < now) (hgoes : Goes topicPrefix s (.fetchSubscription now suid) s')
    {it : UnpubUserItem} {time : Int} (hreach : Reaches topicPrefix s now it)
    (hsub : s.SubscribedAt it.userId time) (hneeds : it.needsSubscribe = false) :
    (∃ topic since, s'.handedOut = ⟨it.userId, topic, true, since⟩ :: s.handedOut) ↔
      it.mqttEnabled = true ∨ time + SUBSCRIPTION_TIME_SEC ≤ now := by
  obtain ⟨hdrained, pre, post, heq, hpre⟩ := hreach
  have hit : it ∈ s.users := heq ▸ List.mem_append_right _ List.mem_cons_self
  have hinv := h.items it hit
  rw [hsub] at hinv
  rw [← hinv.due_iff hneeds (h.time_pos hsub) hnow]
  cases hgoes with
  | second now suid hrow hmessage =>
    rw [hdrained] at hmessage
    cases hmessage
  | rested suid _ hnone =>
    rw [hnone it hit]
    exact ⟨fun ⟨_, _, hlog⟩ => absurd hlog.symm (List.cons_ne_self _ _),
      fun hdue => absurd hdue Bool.false_ne_true⟩
  | reached topic hpos hdrained' heq' hpre' hdue' =>
    rename_i it'
    have hit' : it' ∈ s.users := heq' ▸ List.mem_append_right _ List.mem_cons_self
    constructor
    · rintro ⟨topic', since, hlog⟩
      rw [List.cons.injEq, HandedOut.mk.injEq] at hlog
      rw [h.userId_inj hit hit' hlog.1.1.symm]
      exact hdue'
    · intro hdue
      obtain rfl := first_unique heq hpre hdue heq' hpre' hdue'
      exact ⟨topic, now, by rw [hneeds]; rfl⟩

theorem Inv.again (h : Inv topicPrefix s) {now : Int} {suid : Option String}
    (hgoes : Goes topicPrefix s (.fetchSubscription now suid) s') {it : UnpubUserItem}
    (hreach : Reaches topicPrefix s now it) (hneeds : it.needsSubscribe = true) :
    s'.SubscribedAt it.userId now := by
  obtain ⟨hdrained, pre, post, heq, hpre⟩ := hreach
  have hit : it ∈ s.users := heq ▸ List.mem_append_right _ List.mem_cons_self
  have hdue : due now it = true := by
    rw [due, hneeds, ((h.items it hit).wants hneeds).2]
    rfl
  cases hgoes with
  | second now suid hrow hmessage =>
    rw [hdrained] at hmessage
    cases hmessage
  | rested suid _ hnone =>
    rw [hnone it hit] at hdue
    cases hdue
  | reached topic _ _ heq' hpre' hdue' =>
    obtain rfl := first_unique heq hpre hdue heq' hpre' hdue'
    rw [SubscribedAt, newest_cons, if_pos rfl, hneeds]
    rfl

theorem Inv.failed (h : Inv topicPrefix s) (hserved : Served topicPrefix s a)
    (hgoes : Goes topicPrefix s a s') (hfails : a.Fails) {it : UnpubUserItem} (hit : it ∈ s.users)
    (hpending : it.Pending) : it ∈ s'.users := by
  cases hgoes with
  | same => exact hit
  | switched answer enabled heq hne hfailed hconnected =>
    rename_i pre post it'
    cases answer with
    | notConnected => exact absurd rfl hconnected
    | found => exact hfails.elim
    | failed =>
      have hit' : it' ∈ s.users := heq ▸ List.mem_append_right _ List.mem_cons_self
      have henabled : it'.mqttEnabled = true := by
        rw [hfailed rfl] at hne
        exact Bool.not_eq_false _ ▸ hne
      rw [heq, List.mem_append, List.mem_cons] at hit
      rcases hit with hit | rfl | hit
      · exact List.mem_append_left _ hit
      · rcases hpending with hneeds | htime
        · have hdisabled := ((h.items it hit').wants hneeds).1
          rw [henabled] at hdisabled
          cases hdisabled
        · exact absurd (hserved it hit' rfl henabled) htime
      · exact List.mem_append_right _ (List.mem_cons_of_mem _ hit)
  | added => exact hfails.elim
  | second => exact hit
  | rested => exact hit
  | reached => exact hfails.elim

theorem Goes.dropped (hgoes : Goes topicPrefix s a s') {it : UnpubUserItem} (hit : it ∈ s.users)
    (hgone : ∀ it' ∈ s'.users, it'.userId ≠ it.userId) :
    it.mqttEnabled = false ∧ ∀ time, ¬ s'.SubscribedAt it.userId time := by
  cases hgoes with
  | same => exact absurd rfl (hgone it hit)
  | switched answer enabled heq =>
    rename_i pre post it' _ _ _
    rw [heq, List.mem_append, List.mem_cons] at hit
    rcases hit with hit | rfl | hit
    · exact absurd rfl (hgone it (List.mem_append_left _ hit))
    · exact absurd (setEnabled_userId it enabled)
        (hgone _ (List.mem_append_right _ List.mem_cons_self))
    · exact absurd rfl (hgone it (List.mem_append_right _ (List.mem_cons_of_mem _ hit)))
  | added => exact absurd rfl (hgone it (List.mem_append_left _ hit))
  | second => exact absurd rfl (hgone it hit)
  | rested => exact absurd rfl (hgone it hit)
  | reached topic hnow hdrained heq hpre hdue =>
    rename_i now suid pre post it'
    rw [heq, List.mem_append, List.mem_cons] at hit
    rcases hit with hit | rfl | hit
    · exact absurd rfl (hgone it (List.mem_append_left _ (List.mem_append_left _ hit)))
    · have hleft : left now it = [] := by
        rw [List.eq_nil_iff_forall_not_mem]
        intro x hx
        have hid := (List.mem_map_of_mem hx : x.userId ∈ (left now it).map (·.userId))
        rw [List.mem_singleton.mp ((left_sublist now it).subset hid)] at hid
        obtain ⟨y, hy, hyid⟩ := List.mem_map.mp hid
        exact hgone y (List.mem_append_left _ (List.mem_append_right _ hy)) hyid
      cases hneeds : it.needsSubscribe with
      | true =>
        rw [left, if_pos hneeds] at hleft
        cases hleft
      | false =>
        cases henabled : it.mqttEnabled with
        | true =>
          rw [left, hneeds, if_neg Bool.false_ne_true, if_pos henabled] at hleft
          cases hleft
        | false =>
          refine ⟨rfl, fun time hsub => ?_⟩
          rw [SubscribedAt, newest_cons, if_pos rfl, Option.some.injEq, Prod.mk.injEq] at hsub
          cases hsub.1
    · exact absurd rfl (hgone it (List.mem_append_right _ hit))

/-- The first user that is due is not the same any more. -/
theorem not_mem_left {now : Int} {it : UnpubUserItem} (hdue : due now it = true) :
    it ∉ left now it := by
  unfold left
  intro hit
  split at hit
  · rename_i hneeds
    rw [List.mem_singleton] at hit
    rw [hit] at hneeds
    cases hneeds
  · rename_i hneeds
    split at hit
    · rw [List.mem_singleton] at hit
      have htime : it.subscribeTimeto = 0 := congrArg UnpubUserItem.subscribeTimeto hit
      rw [due, htime, Bool.eq_false_iff.mpr hneeds] at hdue
      cases hdue
    · cases hit

/-- A failure at a user that is due loses what is to be done for it. -/
theorem Inv.failure_loses (h : Inv topicPrefix s) {now : Int}
    (hdrained : Drained topicPrefix s) (hdue : ∃ it ∈ s.users, due now it = true)
    (hs : (unpubUsers topicPrefix).step s (.fetchSubscription now none) = some s') :
    ¬ EndsIn topicPrefix s (.fetchSubscription now none) s' := by
  intro hends
  obtain ⟨x, hx, hxdue⟩ := hdue
  cases hfind : s.users.find? (due now) with
  | none => exact absurd hxdue (List.find?_eq_none.mp hfind x hx)
  | some it =>
    have hit : it ∈ s.users := List.mem_of_find?_eq_some hfind
    obtain ⟨pre, post, heq, hdue, hpre, hadvance⟩ := advance_eq hfind
    have hnodup := h.nodup
    rw [heq] at hnodup
    have husers : s'.users = pre ++ left now it ++ post := by
      have hnone : fetchTopic topicPrefix { s with users := advance now it s.users } = none :=
        fetchTopic_drained (s := { s with users := advance now it s.users }) hdrained
      simp only [unpubUsers, if_pos (now_pos hs), fetchSubscription, fetchTopic_drained hdrained,
        hfind, setRow, hnone, Option.getD_none, Option.some.injEq] at hs
      rw [← hs, ← hadvance]
    have hpending : it.Pending := by
      by_cases htime : it.subscribeTimeto = 0
      · rw [due, htime] at hdue
        exact .inl (by simpa using hdue)
      · exact .inr htime
    have hmem := hends.failed trivial it hit hpending
    rw [husers, List.append_assoc, List.mem_append, List.mem_append] at hmem
    rcases hmem with hmem | hmem | hmem
    · exact userId_ne hnodup (.inl hmem) rfl
    · exact not_mem_left hdue hmem
    · exact userId_ne hnodup (.inr hmem) rfl

/-- **Every clean-up subscription is ended** in the runs in which the database answers when a user
is due. -/
theorem subscriptions_ended (h : Reach (unpubUsers topicPrefix) (Served topicPrefix) s) :
    Ends topicPrefix s := by
  have hinv := inv_reach h
  constructor
  · intro userId time hsub
    obtain ⟨it, hit, rfl⟩ := hinv.listed userId time hsub
    refine ⟨it, hit, rfl, ?_⟩
    cases hneeds : it.needsSubscribe with
    | true => exact .inl hneeds
    | false =>
      refine .inr ?_
      have htime := hinv.time_pos hsub
      rw [(hinv.items it hit).armed time hsub hneeds, SUBSCRIPTION_TIME_SEC]
      split <;> omega
  · intro a s' hserved hs
    have hgoes := step_goes hinv.nonzero hserved hs
    exact {
      ended := fun now suid it time ha hreach hsub hneeds => by
        subst ha
        exact hinv.ended (now_pos hs) hgoes hreach hsub hneeds
      again := fun now suid it ha hreach hneeds => by
        subst ha
        exact hinv.again hgoes hreach hneeds
      failed := fun hfails it hit hpending => hinv.failed hserved hgoes hfails hit hpending
      dropped := fun it hit hgone => hgoes.dropped hit hgone }

/-- User 7, whose publication is on. -/
def oneUser : UnpubUsers := ⟨[⟨7, true, false, 0⟩], ⟨none, false, 0, 0⟩, []⟩

theorem init_oneUser : (unpubUsers "").init oneUser :=
  ⟨[7], List.nodup_singleton 7, by decide, rfl⟩

/-- The publication is switched off, and the user is subscribed in second 100. -/
def subscribed : UnpubUsers :=
  ⟨[⟨7, false, false, 120⟩], ⟨some ⟨7, "ab"⟩, false, 2, 100⟩,
    [⟨7, "homeassistant/+/ab/+/config", false, 100⟩, ⟨7, "supla/ab/#", false, 100⟩]⟩

theorem reach_subscribed : Reach (unpubUsers "") (Served "") subscribed :=
  (((Reach.init init_oneUser).act (.userdataChanged 7 (.found false)) trivial rfl).act
    (.fetchSubscription 100 (some "ab")) (fun _ _ => ⟨"ab", rfl, by decide⟩) rfl).act
      (.fetchSubscription 101 none) (fun hdrained => by cases hdrained) rfl

theorem subscriptions_ended_one :
    subscribed.SubscribedAt 7 100 ∧ Ends "" subscribed :=
  ⟨rfl, subscriptions_ended reach_subscribed⟩

/-- The database fails when the time of the subscription is over: the user is gone, and the topics
stay subscribed. -/
theorem never_unsubscribed : ∃ s, Reach (unpubUsers "") Any s ∧ s.users = [] ∧
    s.SubscribedAt 7 100 ∧ ¬ Ends "" s := by
  have hany : Reach (unpubUsers "") Any subscribed :=
    (((Reach.init init_oneUser).act (.userdataChanged 7 (.found false)) trivial rfl).act
      (.fetchSubscription 100 (some "ab")) trivial rfl).act
        (.fetchSubscription 101 none) trivial rfl
  refine ⟨⟨[], _, _⟩, hany.act (.fetchSubscription 125 none) trivial rfl, rfl, rfl, fun h => ?_⟩
  obtain ⟨it, hit, -⟩ := h.kept 7 100 rfl
  cases hit

end UnpubUsers
end Mqtt
