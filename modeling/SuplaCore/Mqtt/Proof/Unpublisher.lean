import SuplaCore.Mqtt.Unpublisher

/-!
# Which topics are removed

The provider of a row emits the messages of the channel and then those of the state
(`topics_eq`), and nothing where the user has no short unique id. What is removed is the difference
to a row that is never loaded and emits nothing, so every topic of the row before the change is
returned (`fetches_changed`), those that are still published among them: the topic of the type is
one for every function (`removes_exactly_iff`).
-/

namespace Mqtt

variable {topicPrefix : String} {live : Option ChannelFunction} {row : ChannelRow}

/-! ## What a provider emits -/

namespace ChannelAndState

theorem fetchUpTo_state (l : List String) (fuel i : Nat) :
    fetchUpTo fuel ⟨none, some l, i⟩ = (l.drop i).take fuel := by
  induction fuel generalizing i with
  | zero => rw [List.take_zero, fetchUpTo]
  | succ fuel ih =>
    cases hi : l[i]? with
    | none =>
      have hdrop : l.drop i = [] := List.drop_eq_nil_of_le (List.getElem?_eq_none_iff.mp hi)
      simp only [fetchUpTo, fetch, getMessageAtIndex, stateMessageAtIndex, hi, hdrop, List.take_nil]
    | some topic =>
      obtain ⟨hlt, rfl⟩ := List.getElem?_eq_some_iff.mp hi
      rw [List.drop_eq_getElem_cons hlt, List.take_succ_cons]
      simp only [fetchUpTo, fetch, getMessageAtIndex, stateMessageAtIndex, hi, ih]

/-- A channel provider that has messages is followed by the one of the state. -/
theorem fetchUpTo_channel {ms : List String} (hms : ms ≠ []) (l : List String) (fuel i : Nat)
    (hi : i ≤ ms.length) : fetchUpTo fuel ⟨some ms, some l, i⟩ = (ms.drop i ++ l).take fuel := by
  induction fuel generalizing i with
  | zero => rw [List.take_zero, fetchUpTo]
  | succ fuel ih =>
    rcases Nat.lt_or_eq_of_le hi with hlt | rfl
    · have hget : ms[i]? = some ms[i] := List.getElem?_eq_getElem hlt
      rw [List.drop_eq_getElem_cons hlt, List.cons_append, List.take_succ_cons]
      simp only [fetchUpTo, fetch, getMessageAtIndex, hget, ih (i + 1) hlt]
    · have hget : ms[ms.length]? = none := List.getElem?_eq_none (Nat.le_refl _)
      have hpos : ¬ (ms.length = 0 ∧ (some l).isSome = true) := fun h =>
        hms (List.length_eq_zero_iff.mp h.1)
      rw [List.drop_length, List.nil_append]
      cases l with
      | nil =>
        simp only [fetchUpTo, fetch, getMessageAtIndex, hget, if_neg hpos, stateMessageAtIndex,
          List.getElem?_nil, List.take_nil]
      | cons topic l =>
        simp only [fetchUpTo, fetch, getMessageAtIndex, hget, if_neg hpos, stateMessageAtIndex,
          List.getElem?_cons_zero, Nat.zero_add, fetchUpTo_state, List.drop_succ_cons,
          List.drop_zero, List.take_succ_cons]

theorem fetchAll_cons {ms : List String} (hms : ms ≠ []) (l : List String) :
    fetchAll ⟨some ms, some l, 0⟩ = ms ++ l := by
  unfold fetchAll
  rw [fetchUpTo_channel hms l _ 0 (Nat.zero_le _), List.drop_zero]
  exact List.take_of_length_le (Nat.le_of_eq List.length_append)

/-- A channel provider without a message takes the state with it. -/
theorem fetchAll_nil (l : List String) : fetchAll ⟨some [], some l, 0⟩ = [] := by
  unfold fetchAll
  cases hfuel : ((some ([] : List String)).getD []).length + ((some l).getD []).length with
  | zero => rfl
  | succ fuel => rfl

end ChannelAndState

theorem topics_eq : topics topicPrefix live row =
    if row.userSuid = "" then []
    else channelMessages topicPrefix row ++ stateMessages topicPrefix live row := by
  unfold topics ChannelAndState.setDataRow
  split
  · rename_i h
    rw [channelMessages, if_pos h]
    exact ChannelAndState.fetchAll_nil _
  · rename_i h
    refine ChannelAndState.fetchAll_cons (fun hnil => ?_) _
    rw [channelMessages, if_neg h] at hnil
    cases hnil

/-- Without a short unique id nothing is emitted. -/
theorem topics_of_suid (h : row.userSuid = "") : topics topicPrefix live row = [] :=
  topics_eq.trans (if_pos h)

/-- The topic of the type is emitted for every function. -/
theorem type_mem_topics (h : row.userSuid ≠ "") :
    channelTopic topicPrefix row.userSuid row.deviceId row.channelId "type" ∈
      topics topicPrefix live row := by
  rw [topics_eq, if_neg h, channelMessages, if_neg h]
  exact List.mem_append_left _ (List.mem_append_left _ List.mem_cons_self)

/-- The difference is taken as the rows are: to a row of the same channel it is exact. -/
theorem mem_removedTopics {before after : ChannelRow} {topic : String} :
    topic ∈ removedTopics (.setDataRow topicPrefix live before)
        (.setDataRow topicPrefix live after) ↔
      topic ∈ topics topicPrefix live before ∧ topic ∉ topics topicPrefix live after := by
  unfold removedTopics
  rw [List.mem_filter, Bool.not_eq_true', ← Bool.not_eq_true, List.contains_iff_mem]
  rfl

/-- The difference to a row that was not loaded is everything. -/
theorem removedTopics_zero (before : ChannelRow) :
    removedTopics (.setDataRow topicPrefix live before) (.setDataRow topicPrefix live .zero) =
      topics topicPrefix live before := by
  have hzero : (ChannelAndState.setDataRow topicPrefix live .zero).fetchAll = [] :=
    topics_of_suid rfl
  unfold removedTopics
  rw [hzero]
  exact List.filter_eq_self.mpr fun topic _ => rfl

/-! ## What is returned -/

namespace Unpublisher

variable {s : Unpublisher} {now : Nat → Int}

/-- An open context returns its topics one after another and ends. -/
theorem fetches_open (n : Nat) (hopen : s.contextOpen = true) (hqueues : s.queues = .empty)
    {ts : List String} (hts : s.removedTopics = some ts) :
    fetches topicPrefix live now n s = if ts.length < n then some ts else none := by
  induction n generalizing s ts with
  | zero => rw [fetches, if_neg (Nat.not_lt_zero _)]
  | succ n ih =>
    cases ts with
    | nil =>
      have hclosed : fetch topicPrefix live (now n) s = (none,
          { s.removeExpired (now n) with
            context := s.context.setUserId 0, removedTopics := none, contextOpen := false }) := by
        simp only [fetch, fetchOnce, hopen, if_true, hts, removeExpired, hqueues, Queues.take,
          Queues.empty, Bool.false_eq_true, if_false]
      rw [fetches, hclosed]
      exact (if_pos (Nat.succ_pos n)).symm
    | cons topic ts =>
      have hnext : fetch topicPrefix live (now n) s = (some topic,
          { s.removeExpired (now n) with
            context := s.context.setUserId 0, removedTopics := some ts }) := by
        simp only [fetch, fetchOnce, hopen, if_true, hts, removeExpired]
      have hrest := @ih { s.removeExpired (now n) with
        context := s.context.setUserId 0, removedTopics := some ts } hopen hqueues ts rfl
      rw [fetches, hnext]
      simp only [hrest, List.length_cons]
      by_cases hlt : ts.length < n
      · rw [if_pos hlt, if_pos (Nat.succ_lt_succ hlt)]
        rfl
      · rw [if_neg hlt, if_neg fun h => hlt (Nat.lt_of_succ_lt_succ h)]
        rfl

/-- A queued item whose context opens is fetched as the open context. -/
theorem fetches_queued (n : Nat) {c : Context} {q : Queues} (hclosed : s.contextOpen = false)
    (htake : s.queues.take = some (c, q))
    (hopen : (openContext topicPrefix live { s with queues := q, context := c }).contextOpen =
      true) : fetches topicPrefix live now n s =
        fetches topicPrefix live now n
          (openContext topicPrefix live { s with queues := q, context := c }) := by
  cases n with
  | zero => rfl
  | succ n =>
    have honce : ∀ t, fetchOnce topicPrefix live t s =
        fetchOnce topicPrefix live t
          (openContext topicPrefix live { s with queues := q, context := c }) := by
      intro t
      rw [hclosed] at hopen
      simp only [fetchOnce, hclosed, htake, hopen, Bool.false_eq_true, if_false, if_true]
    rw [fetches, fetches, fetch, fetch, honce]

/-! ## A change -/

/-- A datasource that waits for a change of the channel: its user is enabled, nothing is queued or
open, and nothing is noted for the device. -/
structure Waits (s : Unpublisher) (row : ChannelRow) : Prop where
  enabled : s.isUserEnabled row.userId = true
  queues : s.queues = .empty
  closed : s.contextOpen = false
  channel : ∀ item ∈ s.modifiedChannels, item.before.channelId ≠ row.channelId
  device : ∀ item ∈ s.modifiedChannels, item.before.deviceId ≠ row.deviceId

/-- The events of a function change: `before_channel_function_change` at one time, which finds the
row, and `on_devicedata_changed` at another. -/
def changeFunction (s : Unpublisher) (before : ChannelRow) (t t' : Int) : Unpublisher :=
  (s.beforeChannelFunctionChange t (some before) before.channelId).onDevicedataChanged t'
    before.deviceId

/-- What is noted for a row before its change. -/
def captured (row : ChannelRow) (t : Int) : ChannelItem := ⟨row, .zero, t⟩

theorem changed_item {before : ChannelRow} {t : Int} (hs : s.Waits before)
    (hid : before.channelId ≠ 0) :
    s.beforeChannelFunctionChange t (some before) before.channelId =
      { s.removeExpired t with modifiedChannels :=
          (s.removeExpired t).modifiedChannels ++ [captured before t] } := by
  unfold beforeChannelFunctionChange
  have hnone : ((s.removeExpired t).modifiedChannels.any fun item =>
      decide (item.before.channelId = before.channelId)) = false := by
    rw [List.any_eq_false]
    intro item hitem
    rw [decide_eq_true_eq]
    exact hs.channel item (List.mem_of_mem_filter hitem)
  simp only [hnone, Bool.false_eq_true, if_false, ne_eq, hid, not_false_eq_true, if_true, captured]

/-- After the change the channel is queued, with its row from before. -/
theorem changed_queue {before : ChannelRow} {t t' : Int} (hs : s.Waits before)
    (hid : before.channelId ≠ 0) (ht : t' ≤ t + expireTimeSec) :
    ∃ others, (∀ item ∈ others, item ∈ s.modifiedChannels) ∧
      s.changeFunction before t t' = { s with
        modifiedChannels := others ++ [captured before t]
        queues := ⟨false, [], [], [⟨before.userId, before.deviceId, before.channelId⟩]⟩ } := by
  have hremoved : ∃ others, (∀ item ∈ others, item ∈ s.modifiedChannels) ∧
      (s.beforeChannelFunctionChange t (some before) before.channelId).removeExpired t' =
        { s with modifiedChannels := others ++ [captured before t] } := by
    rw [changed_item hs hid]
    refine ⟨(s.removeExpired t).modifiedChannels.filter fun item =>
      ¬ item.eventTime + expireTimeSec < t', fun item hitem =>
        List.mem_of_mem_filter (List.mem_of_mem_filter hitem), ?_⟩
    -- the new item is not expired
    have hkept : [captured before t].filter (fun item =>
        decide ¬ item.eventTime + expireTimeSec < t') = [captured before t] :=
      List.filter_cons_of_pos (decide_eq_true (Int.not_lt.mpr ht))
    simp only [removeExpired, List.filter_append, hkept]
  obtain ⟨others, hothers, hremoved⟩ := hremoved
  refine ⟨others, hothers, ?_⟩
  -- and the only one of the device
  have hdevice : (others ++ [captured before t]).filter (fun item =>
      decide (item.before.deviceId = before.deviceId)) = [captured before t] := by
    rw [List.filter_append, List.filter_eq_nil_iff.mpr, List.nil_append]
    · exact List.filter_cons_of_pos (decide_eq_true rfl)
    · intro item hitem
      rw [decide_eq_true_eq]
      exact hs.device item (hothers item hitem)
  have hallowed : ({ s with modifiedChannels := others ++ [captured before t] } :
      Unpublisher).isContextAllowed
        (.channelState before.userId before.deviceId before.channelId) = true := hs.enabled
  unfold changeFunction onDevicedataChanged
  simp only [hremoved, hdevice, List.foldl_cons, List.foldl_nil]
  refine (if_pos hallowed).trans ?_
  rw [hs.queues]
  rfl

/-- **Every topic of the row before the change is returned.** -/
theorem fetches_changed {before : ChannelRow} {t t' : Int} (hs : s.Waits before)
    (hid : before.channelId ≠ 0) (ht : t' ≤ t + expireTimeSec) (n : Nat) :
    fetches topicPrefix live now n (s.changeFunction before t t') =
      if (topics topicPrefix live before).length < n then some (topics topicPrefix live before)
      else none := by
  obtain ⟨others, hothers, hchanged⟩ := changed_queue hs hid ht
  have hfind : (others ++ [captured before t]).find? (fun item =>
      decide (item.before.channelId = before.channelId)) = some (captured before t) := by
    rw [List.find?_append, List.find?_eq_none.mpr, Option.none_or]
    · exact List.find?_cons_of_pos (decide_eq_true rfl)
    · intro item hitem
      rw [decide_eq_true_eq]
      exact hs.channel item (hothers item hitem)
  have hdiff : Mqtt.removedTopics (.setDataRow topicPrefix live (captured before t).before)
      (.setDataRow topicPrefix live (captured before t).after) =
        topics topicPrefix live before := removedTopics_zero before
  have hopened : openContext topicPrefix live
      { s.changeFunction before t t' with
        queues := .empty
        context := .channelState before.userId before.deviceId before.channelId } =
      { s.changeFunction before t t' with
        modifiedChannels := (others ++ [captured before t]).eraseP fun item =>
          item.before.channelId = before.channelId
        queues := .empty
        context := .channelState before.userId before.deviceId before.channelId
        removedTopics := some (topics topicPrefix live before)
        contextOpen := true } := by
    rw [hchanged]
    simp only [openContext, hfind, hdiff]
  have hclosed : (s.changeFunction before t t').contextOpen = false := by
    rw [hchanged]
    exact hs.closed
  have htake : (s.changeFunction before t t').queues.take =
      some (.channelState before.userId before.deviceId before.channelId, .empty) := by
    rw [hchanged]
    rfl
  rw [fetches_queued n hclosed htake (by rw [hopened]), hopened]
  exact fetches_open n rfl rfl rfl

end Unpublisher

/-! ## What should be removed -/

/-- What is removed is what is no longer published, each topic once. -/
def RemovesExactly (removed before after : List String) : Prop :=
  removed.Nodup ∧ ∀ topic, topic ∈ removed ↔ topic ∈ before ∧ topic ∉ after

/-- **Exactly the topics that vanished are removed only where there are none**: the channel has
others before and after the change, of whatever functions, as soon as the user has a short unique
id, and all of them are removed. -/
theorem removes_exactly_iff {s : Unpublisher} {before after : ChannelRow} {t t' : Int}
    (hs : s.Waits before) (hid : before.channelId ≠ 0) (ht : t' ≤ t + expireTimeSec)
    (hsuid : after.userSuid = before.userSuid) (hdevice : after.deviceId = before.deviceId)
    (hchannel : after.channelId = before.channelId) (liveBefore liveAfter : Option ChannelFunction)
    (now : Nat → Int) :
    (∃ n ts, Unpublisher.fetches topicPrefix live now n (s.changeFunction before t t') = some ts) ∧
    ∀ n ts, Unpublisher.fetches topicPrefix live now n (s.changeFunction before t t') = some ts →
      (RemovesExactly ts (topics topicPrefix liveBefore before)
        (topics topicPrefix liveAfter after) ↔ before.userSuid = "") := by
  have hfetches := fun n =>
    @Unpublisher.fetches_changed topicPrefix live s now before t t' hs hid ht n
  refine ⟨⟨_, _, (hfetches _).trans (if_pos (Nat.lt_succ_self _))⟩, fun n ts hts => ?_⟩
  obtain ⟨-, rfl⟩ : _ ∧ topics topicPrefix live before = ts := by
    rw [hfetches n] at hts
    exact Option.ite_some_none_eq_some.mp hts
  constructor
  · rintro ⟨-, hexact⟩
    by_contra hne
    have hafter := @type_mem_topics topicPrefix liveAfter after (hsuid ▸ hne)
    rw [hsuid, hdevice, hchannel] at hafter
    exact ((hexact _).mp (type_mem_topics hne)).2 hafter
  · intro hempty
    rw [topics_of_suid hempty, topics_of_suid hempty]
    exact ⟨List.nodup_nil, fun topic => ⟨fun h => absurd h List.not_mem_nil, fun h => h.1⟩⟩

/-- Channel 9 of the device 5 of user 1. -/
def relayRow (channelFunc : ChannelFunction) : ChannelRow :=
  ⟨1, "0df527b1786040fe57d6d9f43b632fbb", 5, true, 9, channelFunc, 0, false⟩

/-- User 1 is enabled. -/
def idleUnpublisher : Unpublisher := ⟨[(1, true)], [], .empty, .none, false, none⟩

theorem waits_relayRow (f : ChannelFunction) : idleUnpublisher.Waits (relayRow f) :=
  ⟨rfl, rfl, rfl, fun _ h => absurd h List.not_mem_nil, fun _ h => absurd h List.not_mem_nil⟩

theorem removes_exactly_iff_relayRow : ∃ n ts,
    Unpublisher.fetches "" none (fun _ => 6) n
      (idleUnpublisher.changeFunction (relayRow .powerSwitch) 0 5) = some ts ∧
    ¬ RemovesExactly ts (topics "" none (relayRow .powerSwitch))
      (topics "" none (relayRow .lightSwitch)) := by
  have h := @removes_exactly_iff "" none idleUnpublisher (relayRow .powerSwitch)
    (relayRow .lightSwitch) 0 5 (waits_relayRow _) (by decide) (by decide) rfl rfl rfl none none
    (fun _ => 6)
  obtain ⟨n, ts, hts⟩ := h.1
  exact ⟨n, ts, hts, fun hexact => absurd ((h.2 n ts hts).mp hexact) (by decide)⟩

/-- **A power switch becomes a light switch**: all topics of its state are still published, and
are removed. -/
theorem removes_live_topic : ∃ ts, Unpublisher.fetches "" none (fun _ => 6) 9
      (idleUnpublisher.changeFunction (relayRow .powerSwitch) 0 5) = some ts ∧
    "supla/0df527b1786040fe57d6d9f43b632fbb/devices/5/channels/9/state/on" ∈ ts ∧
    "supla/0df527b1786040fe57d6d9f43b632fbb/devices/5/channels/9/state/on" ∈
      topics "" none (relayRow .lightSwitch) ∧
    ¬ RemovesExactly ts (topics "" none (relayRow .powerSwitch))
      (topics "" none (relayRow .lightSwitch)) := by
  refine ⟨topics "" none (relayRow .powerSwitch), by decide, by decide, by decide, ?_⟩
  rintro ⟨-, hexact⟩
  exact ((hexact "supla/0df527b1786040fe57d6d9f43b632fbb/devices/5/channels/9/state/on").mp
    (by decide)).2 (by decide)

end Mqtt
