import Mathlib.Data.Fintype.Basic
import Mathlib.Data.Finset.Card
import SuplaCore.Mqtt.Actions

/-!
# Triggered actions are published once and in order

What is to be published is said of the log alone: the bits of a channel that wait, the place at
which the channel entered, the time of its last trigger (`waiting`, `entered`, `triggeredAt`). An
action is rightly taken or dropped where its channel entered first of those that wait (`Served`).
The queue represents the log (`Represents`), one lemma for each kind of event, and with that every
call is a right one (`published_once`).

Not every trigger leads to a message: some actions are not published at all, an entry that is at the
head from the beginning is dropped as well, and an action is taken out of the queue before the short
unique id of its user is known to be there (`lost_in_three_ways`).
-/

namespace Mqtt

open Sys

namespace ActionQueue

/-! ## What the log says -/

/-- The actions of a channel that wait for their turn. -/
def waiting : List ActionEvent → TriggerKey → BitVec 32
  | [], _ => 0
  | .triggered key' actions _ :: log, key =>
    if key' = key then waiting log key ||| actions else waiting log key
  | .lookedUp _ _ :: log, key => waiting log key
  | .taken key' action _ _ :: log, key =>
    if key' = key then waiting log key &&& ~~~action else waiting log key
  | .dropped key' _ _ :: log, key => if key' = key then 0 else waiting log key

/-- The place in the log at which the channel entered. -/
def entered : List ActionEvent → TriggerKey → Nat
  | [], _ => 0
  | .triggered key' _ _ :: log, key =>
    if key' = key ∧ waiting log key = 0 then log.length else entered log key
  | _ :: log, key => entered log key

/-- The time of the last trigger of the channel. -/
def triggeredAt : List ActionEvent → TriggerKey → Nat
  | [], _ => 0
  | .triggered key' _ time :: log, key => if key' = key then time else triggeredAt log key
  | _ :: log, key => triggeredAt log key

/-- What the last look-up has found for the user. -/
def suidOf : List ActionEvent → Int → Option String
  | [], _ => none
  | .lookedUp userId' userSuid :: log, userId =>
    if userId' = userId then userSuid else suidOf log userId
  | _ :: log, userId => suidOf log userId

/-- The channel entered first of those that wait. -/
structure First (log : List ActionEvent) (key : TriggerKey) : Prop where
  waits : waiting log key ≠ 0
  first : ∀ key', waiting log key' ≠ 0 → key' ≠ key → entered log key < entered log key'

/-- The lowest bit that is set. -/
def Lowest (actions bit : BitVec 32) : Prop :=
  ∃ n < 32, bit = BitVec.twoPow 32 n ∧ actions.getLsbD n = true ∧
    ∀ m < n, actions.getLsbD m = false

/-- The message about an action, where the short unique id of the user is there. -/
def messageOf (topicPrefix : String) (userSuid : Option String) (key : TriggerKey)
    (action : BitVec 32) : Option ActionMessage :=
  match userSuid, ActionCap.topic action with
  | some userSuid, some topic =>
    if userSuid = "" then none
    else some ⟨channelTopic topicPrefix userSuid key.deviceId key.channelId ("action/" ++ topic),
      topic⟩
  | _, _ => none

/-- The microseconds after which an entry is dropped. -/
def timeoutUsecs : Nat := ACTION_TIMEOUT_MSEC * 1000

/-- Everything in the log was done rightly. -/
inductive Served (topicPrefix : String) : List ActionEvent → Prop
  | nil : Served topicPrefix []
  | triggered {log : List ActionEvent} {key : TriggerKey} {actions : BitVec 32} (time : Nat) :
      Served topicPrefix log → actions ≠ 0 → actions &&& ActionCap.published = actions →
      Served topicPrefix (.triggered key actions time :: log)
  | lookedUp {log : List ActionEvent} (userId : Int) (userSuid : Option String) :
      Served topicPrefix log → Served topicPrefix (.lookedUp userId userSuid :: log)
  | taken {log : List ActionEvent} {key : TriggerKey} {action : BitVec 32} {time : Nat} :
      Served topicPrefix log → First log key → Lowest (waiting log key) action →
      time < triggeredAt log key + timeoutUsecs →
      Served topicPrefix
        (.taken key action time (messageOf topicPrefix (suidOf log key.userId) key action) :: log)
  | dropped {log : List ActionEvent} {key : TriggerKey} {time : Nat} :
      Served topicPrefix log → First log key → triggeredAt log key + timeoutUsecs ≤ time →
      Served topicPrefix (.dropped key (waiting log key) time :: log)

/-! ## Bits -/

theorem lowestBit_eq_some {actions bit : BitVec 32} (h : lowestBit actions = some bit) :
    Lowest actions bit := by
  rw [lowestBit, List.find?_map, Option.map_eq_some_iff] at h
  obtain ⟨n, hn, rfl⟩ := h
  obtain ⟨hbit, hlt, hbelow⟩ := List.find?_range_eq_some.mp hn
  have hset : ∀ m, ((fun bit => decide (actions &&& bit ≠ 0)) ∘ BitVec.twoPow 32) m = true ↔
      m < 32 ∧ actions.getLsbD m = true := by
    intro m
    simp only [Function.comp_apply, decide_eq_true_eq, BitVec.and_twoPow]
    split
    · rename_i hm
      have hlt := BitVec.lt_of_getLsbD hm
      refine iff_of_true (fun h0 => ?_) ⟨hlt, hm⟩
      have := congrArg (BitVec.getLsbD · m) h0
      simp [hlt] at this
    · rename_i hm
      exact iff_of_false (fun h => h rfl) fun h => hm h.2
  refine ⟨n, List.mem_range.mp hlt, rfl, ((hset n).mp hbit).2, fun m hm => ?_⟩
  have hm' := hbelow m hm
  by_contra hne
  rw [(hset m).mpr ⟨Nat.lt_trans hm (List.mem_range.mp hlt), by simpa using hne⟩] at hm'
  cases hm'

theorem lowestBit_eq_none {actions : BitVec 32} (h : lowestBit actions = none) : actions = 0 := by
  apply BitVec.eq_of_getLsbD_eq
  intro n hn
  have hbit := List.find?_eq_none.mp h (BitVec.twoPow 32 n)
    (List.mem_map_of_mem (List.mem_range.mpr hn))
  simp only [decide_eq_true_eq, not_not, BitVec.and_twoPow] at hbit
  by_contra hset
  have hset : actions.getLsbD n = true := by simpa using hset
  rw [if_pos hset] at hbit
  have := congrArg (BitVec.getLsbD · n) hbit
  simp [hn] at this

/-- The number of bits that are set. -/
def bits (actions : BitVec 32) : Nat :=
  (Finset.univ.filter fun n : Fin 32 => actions.getLsbD n = true).card

/-- Without its lowest bit, less is set. -/
theorem Lowest.bits_lt {actions bit : BitVec 32} (h : Lowest actions bit) :
    bits (actions &&& ~~~bit) < bits actions := by
  obtain ⟨n, hn, rfl, hset, -⟩ := h
  refine Finset.card_lt_card (Finset.ssubset_iff_subset_ne.mpr ⟨fun m hm => ?_, fun heq => ?_⟩)
  · simp only [Finset.mem_filter, Finset.mem_univ, true_and, BitVec.getLsbD_and,
      Bool.and_eq_true] at hm ⊢
    exact hm.1
  · have hmem : (⟨n, hn⟩ : Fin 32) ∈
        Finset.univ.filter fun m : Fin 32 => actions.getLsbD m = true :=
      Finset.mem_filter.mpr ⟨Finset.mem_univ _, hset⟩
    rw [← heq] at hmem
    simp at hmem

theorem bits_pos {actions : BitVec 32} (h : actions ≠ 0) : 0 < bits actions := by
  refine Nat.pos_of_ne_zero fun h0 => h ?_
  rw [bits, Finset.card_eq_zero, Finset.filter_eq_empty_iff] at h0
  apply BitVec.eq_of_getLsbD_eq
  intro n hn
  have := h0 (Finset.mem_univ (⟨n, hn⟩ : Fin 32))
  simpa using this

/-! ## The queue represents the log -/

/-- What the log says about an entry of the queue. -/
structure Entry (log : List ActionEvent) (e : TriggeredActions) : Prop where
  waits : waiting log e.key = e.actions
  some_bit : e.actions ≠ 0
  time : triggeredAt log e.key = e.time
  entered_lt : entered log e.key < log.length

structure Represents (log : List ActionEvent) (queue : List TriggeredActions) : Prop where
  entry : ∀ e ∈ queue, Entry log e
  known : ∀ key, waiting log key ≠ 0 → ∃ e ∈ queue, e.key = key
  ordered : queue.Pairwise fun e e' => entered log e.key < entered log e'.key

variable {log : List ActionEvent} {queue rest : List TriggeredActions} {front : TriggeredActions}
  {key : TriggerKey} {actions bit : BitVec 32} {now : Nat}

theorem Represents.nodup (h : Represents log queue) : (queue.map (·.key)).Nodup := by
  rw [List.Nodup, List.pairwise_map]
  exact h.ordered.imp fun hlt heq => absurd hlt (by rw [heq]; exact Nat.lt_irrefl _)

/-- The others are behind the head. -/
theorem Represents.behind (h : Represents log (front :: rest)) {e : TriggeredActions}
    (he : e ∈ rest) : entered log front.key < entered log e.key :=
  (List.pairwise_cons.mp h.ordered).1 e he

theorem Represents.key_ne (h : Represents log (front :: rest)) {e : TriggeredActions}
    (he : e ∈ rest) : front.key ≠ e.key := fun heq =>
  absurd (h.behind he) (by rw [heq]; exact Nat.lt_irrefl _)

theorem Represents.first (h : Represents log (front :: rest)) : First log front.key where
  waits := by
    have hfront := h.entry front (.head _)
    rw [hfront.waits]
    exact hfront.some_bit
  first := by
    intro key' hwaits hne
    obtain ⟨e, he, rfl⟩ := h.known key' hwaits
    rcases List.mem_cons.mp he with rfl | he
    · exact absurd rfl hne
    · exact h.behind he

/-- An event that changes nothing about an entry. -/
theorem Entry.cons {e : TriggeredActions} (h : Entry log e) {v : ActionEvent}
    (hv : ∀ actions time, v ≠ .triggered e.key actions time)
    (hwaits : waiting (v :: log) e.key = waiting log e.key) : Entry (v :: log) e := by
  have hsame : triggeredAt (v :: log) e.key = triggeredAt log e.key ∧
      entered (v :: log) e.key = entered log e.key := by
    cases v with
    | triggered key' actions time =>
      have hne : key' ≠ e.key := fun heq => hv actions time (by rw [heq])
      exact ⟨if_neg hne, if_neg fun hc => hne hc.1⟩
    | lookedUp => exact ⟨rfl, rfl⟩
    | taken => exact ⟨rfl, rfl⟩
    | dropped => exact ⟨rfl, rfl⟩
  refine ⟨hwaits.trans h.waits, h.some_bit, hsame.1.trans h.time, ?_⟩
  rw [hsame.2]
  exact Nat.lt_succ_of_lt h.entered_lt

theorem Represents.lookedUp (h : Represents log queue) (userId : Int)
    (userSuid : Option String) : Represents (.lookedUp userId userSuid :: log) queue where
  entry e he := (h.entry e he).cons nofun rfl
  known := h.known
  ordered := h.ordered

theorem Represents.dropped (h : Represents log (front :: rest)) :
    Represents (.dropped front.key front.actions now :: log) rest where
  entry e he := (h.entry e (.tail _ he)).cons nofun (if_neg (h.key_ne he))
  known key hwaits := by
    rw [waiting] at hwaits
    split at hwaits
    · exact absurd rfl hwaits
    · rename_i hne
      obtain ⟨e, he, rfl⟩ := h.known key hwaits
      rcases List.mem_cons.mp he with rfl | he
      · exact absurd rfl hne
      · exact ⟨e, he, rfl⟩
  ordered := (List.pairwise_cons.mp h.ordered).2

/-- What is left of the head after an action was taken. -/
def left (front : TriggeredActions) (bit : BitVec 32) : List TriggeredActions :=
  if front.actions &&& ~~~bit ≠ 0 then [{ front with actions := front.actions &&& ~~~bit }]
  else []

theorem mem_left {e : TriggeredActions} : e ∈ left front bit ↔
    front.actions &&& ~~~bit ≠ 0 ∧ e = { front with actions := front.actions &&& ~~~bit } := by
  unfold left
  split
  · rename_i h
    simp only [List.mem_singleton]
    exact ⟨fun he => ⟨h, he⟩, fun he => he.2⟩
  · rename_i h
    exact ⟨nofun, fun he => absurd he.1 h⟩

theorem Represents.taken (h : Represents log (front :: rest)) (message : Option ActionMessage) :
    Represents (.taken front.key bit now message :: log) (left front bit ++ rest) := by
  have hfront := h.entry front (.head _)
  have hwaits : waiting (.taken front.key bit now message :: log) front.key =
      front.actions &&& ~~~bit := by
    rw [waiting, if_pos rfl, hfront.waits]
  refine ⟨fun e he => ?_, fun key hkey => ?_, ?_⟩
  · rcases List.mem_append.mp he with he | he
    · obtain ⟨hleft, rfl⟩ := mem_left.mp he
      exact ⟨hwaits, hleft, hfront.time, Nat.lt_succ_of_lt hfront.entered_lt⟩
    · exact (h.entry e (.tail _ he)).cons nofun (if_neg (h.key_ne he))
  · by_cases heq : front.key = key
    · subst heq
      rw [hwaits] at hkey
      exact ⟨_, List.mem_append_left _ (mem_left.mpr ⟨hkey, rfl⟩), rfl⟩
    · rw [waiting, if_neg heq] at hkey
      obtain ⟨e, he, rfl⟩ := h.known key hkey
      rcases List.mem_cons.mp he with rfl | he
      · exact absurd rfl heq
      · exact ⟨e, List.mem_append_right _ he, rfl⟩
  · refine List.pairwise_append.mpr ⟨?_, (List.pairwise_cons.mp h.ordered).2, fun e he e' he' => ?_⟩
    · unfold left
      split
      · exact List.pairwise_singleton _ _
      · exact List.Pairwise.nil
    · obtain ⟨-, rfl⟩ := mem_left.mp he
      exact h.behind he'

/-- A channel that enters. -/
theorem Represents.enters (h : Represents log queue) (hnew : ∀ e ∈ queue, e.key ≠ key)
    (hactions : actions ≠ 0) :
    Represents (.triggered key actions now :: log) (queue ++ [⟨key, actions, now⟩]) := by
  have hnone : waiting log key = 0 := by
    by_contra hwaits
    obtain ⟨e, he, heq⟩ := h.known key hwaits
    exact hnew e he heq
  have hentered : entered (.triggered key actions now :: log) key = log.length :=
    if_pos ⟨rfl, hnone⟩
  have hkept : ∀ e ∈ queue,
      entered (.triggered key actions now :: log) e.key = entered log e.key := fun e he =>
    if_neg fun hc => hnew e he hc.1.symm
  refine ⟨fun e he => ?_, fun key' hkey => ?_, ?_⟩
  · rcases List.mem_append.mp he with he | he
    · have hne : key ≠ e.key := fun heq => hnew e he heq.symm
      refine (h.entry e he).cons (fun _ _ heq => ?_) (if_neg hne)
      cases heq
      exact hne rfl
    · cases List.mem_singleton.mp he
      refine ⟨?_, hactions, if_pos rfl, ?_⟩
      · rw [waiting, if_pos rfl, hnone]
        exact BitVec.zero_or
      · rw [hentered]
        exact Nat.lt_succ_self _
  · by_cases heq : key = key'
    · exact ⟨_, List.mem_append_right _ (.head _), heq⟩
    · rw [waiting, if_neg heq] at hkey
      obtain ⟨e, he, hkey⟩ := h.known key' hkey
      exact ⟨e, List.mem_append_left _ he, hkey⟩
  · refine List.pairwise_append.mpr ⟨h.ordered.imp_of_mem fun he he' hlt => ?_,
      List.pairwise_singleton _ _, fun e he e' he' => ?_⟩
    · rw [hkept _ he, hkept _ he']
      exact hlt
    · cases List.mem_singleton.mp he'
      rw [hkept e he, hentered]
      exact (h.entry e he).entered_lt

/-- Where the loop of `on_actions_triggered` finds the channel. -/
theorem merge_split (h : queue.any (·.key = key) = true) : ∃ pre it post,
    queue = pre ++ it :: post ∧ it.key = key ∧
      merge key actions now queue =
        pre ++ { it with actions := it.actions ||| actions, time := now } :: post := by
  induction queue with
  | nil => cases h
  | cons e queue ih =>
    by_cases heq : e.key = key
    · exact ⟨[], e, queue, rfl, heq, if_pos heq⟩
    · rw [List.any_cons, decide_eq_false heq, Bool.false_or] at h
      obtain ⟨pre, it, post, rfl, hkey, hmerge⟩ := ih h
      refine ⟨e :: pre, it, post, rfl, hkey, ?_⟩
      rw [merge, if_neg heq, hmerge]
      rfl

/-- A channel that waits is triggered again. -/
theorem Represents.merged {pre post : List TriggeredActions} {it : TriggeredActions}
    (h : Represents log (pre ++ it :: post)) :
    Represents (.triggered it.key actions now :: log)
      (pre ++ { it with actions := it.actions ||| actions, time := now } :: post) := by
  have hit := h.entry it (List.mem_append_right _ (.head _))
  have hsome : waiting log it.key ≠ 0 := by
    rw [hit.waits]
    exact hit.some_bit
  have hkept : ∀ key, entered (.triggered it.key actions now :: log) key = entered log key :=
    fun key => if_neg fun (hc : it.key = key ∧ waiting log key = 0) => hsome (hc.1 ▸ hc.2)
  have hnodup := h.nodup
  rw [List.map_append, List.map_cons, List.nodup_middle, List.nodup_cons, ← List.map_append]
    at hnodup
  have hother : ∀ e ∈ pre ++ post, it.key ≠ e.key := fun e he heq =>
    hnodup.1 (heq ▸ List.mem_map_of_mem he)
  refine ⟨fun e he => ?_, fun key hkey => ?_, ?_⟩
  · have hmem : e = { it with actions := it.actions ||| actions, time := now } ∨
        e ∈ pre ++ post := by
      simp only [List.mem_append, List.mem_cons] at he ⊢
      tauto
    obtain rfl | hmem := hmem
    · refine ⟨?_, fun h0 => hit.some_bit (BitVec.or_eq_zero_iff.mp h0).1, if_pos rfl, ?_⟩
      · rw [waiting, if_pos rfl, hit.waits]
      · rw [hkept]
        exact Nat.lt_succ_of_lt hit.entered_lt
    · have hold : e ∈ pre ++ it :: post := by
        simp only [List.mem_append, List.mem_cons] at hmem ⊢
        tauto
      refine (h.entry e hold).cons (fun _ _ heq => ?_) (if_neg (hother e hmem))
      injection heq with heq
      exact hother e hmem heq
  · by_cases heq : it.key = key
    · exact ⟨_, List.mem_append_right _ (.head _), heq⟩
    · rw [waiting, if_neg heq] at hkey
      obtain ⟨e, he, rfl⟩ := h.known key hkey
      rcases List.mem_append.mp he with he | he
      · exact ⟨e, List.mem_append_left _ he, rfl⟩
      · rcases List.mem_cons.mp he with rfl | he
        · exact absurd rfl heq
        · exact ⟨e, List.mem_append_right _ (.tail _ he), rfl⟩
  · have hordered := h.ordered
    simp only [List.pairwise_append, List.pairwise_cons, List.forall_mem_cons, hkept] at hordered ⊢
    exact hordered

/-! ## What is served -/

/-- Only published actions wait. -/
theorem Served.published {topicPrefix : String} (h : Served topicPrefix log) (key : TriggerKey) :
    waiting log key &&& ActionCap.published = waiting log key := by
  induction h with
  | nil => exact BitVec.zero_and
  | triggered time _ _ hmask ih =>
    rw [waiting]
    split
    · rw [BitVec.and_or_distrib_right, ih, hmask]
    · exact ih
  | lookedUp _ _ _ ih => exact ih
  | taken _ _ _ _ ih =>
    rw [waiting]
    split
    · rw [BitVec.and_assoc, BitVec.and_comm _ ActionCap.published, ← BitVec.and_assoc, ih]
    · exact ih
  | dropped _ _ _ ih =>
    rw [waiting]
    split
    · exact BitVec.zero_and
    · exact ih

/-- Every published action has its topic. -/
theorem topic_isSome {n : Nat} (h : ActionCap.published.getLsbD n = true) :
    (ActionCap.topic (BitVec.twoPow 32 n)).isSome = true := by
  have hall : ∀ n : Fin 32, ActionCap.published.getLsbD n = true →
      (ActionCap.topic (BitVec.twoPow 32 n)).isSome = true := by decide
  exact hall ⟨n, BitVec.lt_of_getLsbD h⟩ h

/-- A message is missing only where the short unique id is. -/
theorem messageOf_eq_none {topicPrefix : String} {userSuid : Option String}
    (hlow : Lowest actions bit) (hmask : actions &&& ActionCap.published = actions)
    (h : messageOf topicPrefix userSuid key bit = none) :
    userSuid = none ∨ userSuid = some "" := by
  obtain ⟨n, -, rfl, hset, -⟩ := hlow
  rw [← hmask, BitVec.getLsbD_and, Bool.and_eq_true] at hset
  obtain ⟨topic, htopic⟩ := Option.isSome_iff_exists.mp (topic_isSome hset.2)
  cases userSuid with
  | none => exact .inl rfl
  | some userSuid =>
    simp only [messageOf, htopic] at h
    split at h
    · rename_i hempty
      exact .inr (congrArg some hempty)
    · cases h

/-- The event triggers the bit. -/
def Triggers (key : TriggerKey) (n : Nat) : ActionEvent → Bool
  | .triggered key' actions _ => decide (key' = key) && actions.getLsbD n
  | _ => false

/-- The event takes the bit out of the queue, by itself or with its entry. -/
def Settles (key : TriggerKey) (n : Nat) : ActionEvent → Bool
  | .taken key' action _ _ => decide (key' = key) && action.getLsbD n
  | .dropped key' actions _ => decide (key' = key) && actions.getLsbD n
  | _ => false

/-- What an event does to a bit: it settles one that waits, which waits no longer, or else the bit
waits afterwards if it waited before or is triggered. -/
theorem Served.settles {topicPrefix : String} {e : ActionEvent} (h : Served topicPrefix (e :: log))
    (key : TriggerKey) (n : Nat) :
    (Settles key n e = true → (waiting log key).getLsbD n = true) ∧
      (waiting (e :: log) key).getLsbD n =
        (!Settles key n e && ((waiting log key).getLsbD n || Triggers key n e)) := by
  cases h with
  | triggered time _ _ hmask =>
    refine ⟨nofun, ?_⟩
    simp only [waiting, Settles, Triggers, Bool.not_false, Bool.true_and]
    split
    · rename_i heq
      rw [decide_eq_true heq, Bool.true_and, BitVec.getLsbD_or]
    · rename_i hne
      rw [decide_eq_false hne, Bool.false_and, Bool.or_false]
  | lookedUp => exact ⟨nofun, by simp [waiting, Settles, Triggers]⟩
  | @taken _ key' action _ _ hfirst hlow _ =>
    obtain ⟨m, hm, rfl, hset, -⟩ := hlow
    simp only [waiting, Settles, Triggers, Bool.or_false]
    split
    · rename_i heq
      subst heq
      simp only [decide_true, Bool.true_and, BitVec.getLsbD_and, BitVec.getLsbD_not,
        BitVec.getLsbD_twoPow, hm]
      by_cases hmn : m = n
      · subst hmn
        exact ⟨fun _ => hset, by simp⟩
      · simp only [decide_eq_false hmn, Bool.not_false, Bool.and_true, Bool.true_and]
        refine ⟨nofun, ?_⟩
        by_cases hn : n < 32
        · rw [decide_eq_true hn, Bool.and_true]
        · rw [BitVec.getLsbD_of_ge _ _ (Nat.le_of_not_lt hn), Bool.false_and]
    · rename_i hne
      simp [decide_eq_false hne]
  | @dropped _ key' _ _ hfirst _ =>
    simp only [waiting, Settles, Triggers, Bool.or_false]
    split
    · rename_i heq
      subst heq
      simp only [decide_true, Bool.true_and]
      refine ⟨id, ?_⟩
      cases (waiting log key').getLsbD n <;> simp
    · rename_i hne
      simp [decide_eq_false hne]

theorem Served.tail {topicPrefix : String} {e : ActionEvent}
    (h : Served topicPrefix (e :: log)) : Served topicPrefix log := by
  cases h <;> assumption

/-- **A bit that was triggered is settled once**, or still waits. -/
theorem Served.once {topicPrefix : String} {older : List ActionEvent} {time n : Nat}
    (hbit : actions.getLsbD n = true) : ∀ {newer : List ActionEvent},
    Served topicPrefix (newer ++ .triggered key actions time :: older) →
    (∀ e ∈ newer, Triggers key n e = false) →
    newer.countP (Settles key n) =
      if (waiting (newer ++ .triggered key actions time :: older) key).getLsbD n then 0 else 1 := by
  intro newer
  induction newer with
  | nil =>
    intro _ _
    have hwaits : (waiting (.triggered key actions time :: older) key).getLsbD n = true := by
      rw [waiting, if_pos rfl, BitVec.getLsbD_or, hbit, Bool.or_true]
    rw [List.nil_append, if_pos hwaits]
    rfl
  | cons e newer ih =>
    intro h hnone
    rw [List.cons_append] at h ⊢
    obtain ⟨hsettles, hwaits⟩ := h.settles key n
    rw [hnone e (.head _), Bool.or_false] at hwaits
    have hcount := ih h.tail fun e he => hnone e (.tail _ he)
    rw [List.countP_cons, hcount, hwaits]
    cases hsettled : Settles key n e with
    | true =>
      rw [if_pos (hsettles hsettled)]
      rfl
    | false => rw [Bool.not_false, Bool.true_and, if_neg Bool.false_ne_true, Nat.add_zero]

/-! ## The calls -/

variable {topicPrefix : String} {s s' : ActionQueue}

/-- The provider has what the last look-up has found for its user. -/
def ProviderInv (log : List ActionEvent) (p : ActionProvider) : Prop :=
  p.userSuid = if p.key.userId = 0 then none else suidOf log p.key.userId

structure Inv (topicPrefix : String) (s : ActionQueue) : Prop where
  represents : Represents s.log s.triggeredActions
  keys : ∀ e ∈ s.triggeredActions, e.key.userId ≠ 0 ∧ e.key.deviceId ≠ 0 ∧ e.key.channelId ≠ 0
  times : ∀ e ∈ s.triggeredActions, e.time ≤ s.clock
  provider : ∀ p ∈ s.provider, ProviderInv s.log p
  served : Served topicPrefix s.log

/-- The ways `fetch_actions` goes, with what it returns. -/
inductive Fetched (topicPrefix : String) (s : ActionQueue) (now : Nat) :
    Option ActionMessage → ActionQueue → Prop
  | empty : s.triggeredActions = [] →
      Fetched topicPrefix s now none { s with clock := now, provider := none }
  | dropped {front : TriggeredActions} {rest : List TriggeredActions} :
      s.triggeredActions = front :: rest → front.time + timeoutUsecs ≤ now →
      Fetched topicPrefix s now none
        { s with
          clock := now
          triggeredActions := rest
          provider := some (s.provider.getD .new)
          log := .dropped front.key front.actions now :: s.log }
  | taken {front : TriggeredActions} {rest : List TriggeredActions} {bit : BitVec 32}
      {looked : List ActionEvent} {provider : ActionProvider} :
      s.triggeredActions = front :: rest → now < front.time + timeoutUsecs →
      Lowest front.actions bit →
      (looked = [] ∨ ∃ userSuid, looked = [.lookedUp front.key.userId userSuid]) →
      ProviderInv (looked ++ s.log) provider →
      Fetched topicPrefix s now
        (messageOf topicPrefix (suidOf (looked ++ s.log) front.key.userId) front.key bit)
        { s with
          clock := now
          triggeredActions := left front bit ++ rest
          provider := some provider
          log := .taken front.key bit now
            (messageOf topicPrefix (suidOf (looked ++ s.log) front.key.userId) front.key bit) ::
              (looked ++ s.log) }

/-- The difference is exact where the clock does not go back. -/
theorem timeDiff_le {time : Nat} (hle : time ≤ now) (hlt : now < 2 ^ 64) :
    ACTION_TIMEOUT_MSEC ≤ timeDiff now time ↔ time + timeoutUsecs ≤ now := by
  unfold timeDiff timeoutUsecs ACTION_TIMEOUT_MSEC
  omega

theorem ProviderInv.getD {provider : Option ActionProvider}
    (h : ∀ p ∈ provider, ProviderInv log p) : ProviderInv log (provider.getD .new) := by
  cases provider with
  | none => rfl
  | some p => exact h p rfl

/-- The provider of the action that was taken. -/
theorem publish_spec (topicPrefix : String) (getUserSuid : Int → Option String)
    {before : ActionProvider} (hbefore : ProviderInv log before)
    (hkey : key.userId ≠ 0 ∧ key.deviceId ≠ 0 ∧ key.channelId ≠ 0) (hbit : bit ≠ 0) :
    ∃ looked : List ActionEvent,
      looked = (if before.key.userId ≠ key.userId then
        [.lookedUp key.userId (getUserSuid key.userId)] else []) ∧
      ProviderInv (looked ++ log) (before.setAction getUserSuid key bit) ∧
      (before.setAction getUserSuid key bit).getMessage topicPrefix =
        messageOf topicPrefix (suidOf (looked ++ log) key.userId) key bit := by
  have hsuid : (before.setAction getUserSuid key bit).userSuid =
      suidOf ((if before.key.userId ≠ key.userId then
        [.lookedUp key.userId (getUserSuid key.userId)] else []) ++ log) key.userId := by
    unfold ActionProvider.setAction
    by_cases hne : before.key.userId ≠ key.userId
    · simp only [if_pos hne, List.singleton_append, suidOf, if_pos]
    · rw [not_not] at hne
      rw [ProviderInv, hne, if_neg hkey.1] at hbefore
      simpa [hne] using hbefore
  refine ⟨_, rfl, hsuid.trans (if_neg hkey.1).symm, ?_⟩
  rw [ActionProvider.getMessage, hsuid]
  unfold messageOf
  have hids : ¬ (key.deviceId = 0 ∨ key.channelId = 0 ∨ bit = 0) := by
    simp only [hkey.2.1, hkey.2.2, hbit, or_self, not_false_eq_true]
  simp only [ActionProvider.setAction, hids, if_false]
  cases suidOf _ key.userId with
  | none => rfl
  | some userSuid => cases ActionCap.topic bit <;> rfl

theorem Lowest.bit_ne_zero (h : Lowest actions bit) : bit ≠ 0 := by
  obtain ⟨n, hn, rfl, -, -⟩ := h
  intro h0
  have := congrArg (BitVec.getLsbD · n) h0
  simp [hn] at this

theorem fetchActions_fetched (getUserSuid : Int → Option String) (hinv : Inv topicPrefix s)
    (hle : s.clock ≤ now) (hlt : now < 2 ^ 64) :
    Fetched topicPrefix s now (s.fetchActions topicPrefix now getUserSuid).1
      (s.fetchActions topicPrefix now getUserSuid).2 := by
  cases hqueue : s.triggeredActions with
  | nil =>
    simp only [fetchActions, hqueue]
    rw [← hqueue]
    exact .empty hqueue
  | cons front rest =>
    have hmem : front ∈ s.triggeredActions := hqueue ▸ List.mem_cons_self
    have htime := timeDiff_le (Nat.le_trans (hinv.times front hmem) hle) hlt
    simp only [fetchActions, hqueue]
    split
    · rename_i htimeout
      exact .dropped hqueue (htime.mp htimeout)
    · rename_i htimeout
      cases hbit : lowestBit front.actions with
      | none =>
        exact absurd (lowestBit_eq_none hbit) (hinv.represents.entry front hmem).some_bit
      | some bit =>
        have hlow := lowestBit_eq_some hbit
        obtain ⟨looked, hlooked, hprovider, hmessage⟩ := publish_spec topicPrefix getUserSuid
          (ProviderInv.getD hinv.provider) (hinv.keys front hmem) hlow.bit_ne_zero
        have hleft : (if front.actions &&& ~~~bit ≠ 0 then
            { front with actions := front.actions &&& ~~~bit } :: rest else rest) =
            left front bit ++ rest := by
          unfold left
          split <;> rfl
        have hlookups : looked = [] ∨
            ∃ userSuid, looked = [.lookedUp front.key.userId userSuid] := by
          rw [hlooked]
          split
          · exact .inr ⟨_, rfl⟩
          · exact .inl rfl
        simp only [publish, hmessage, hleft, ← hlooked]
        exact .taken hqueue (Nat.lt_of_not_le fun h => htimeout (htime.mpr h)) hlow hlookups
          hprovider

/-! ## Every run -/

theorem Inv.fetched {message : Option ActionMessage} (h : Inv topicPrefix s) (hle : s.clock ≤ now)
    (hgoes : Fetched topicPrefix s now message s') : Inv topicPrefix s' := by
  obtain ⟨hrep, hkeys, htimes, hprovider, hserved⟩ := h
  have htimes' : ∀ e ∈ s.triggeredActions, e.time ≤ now := fun e he =>
    Nat.le_trans (htimes e he) hle
  cases hgoes with
  | empty => exact ⟨hrep, hkeys, htimes', nofun, hserved⟩
  | @dropped front rest hqueue htimeout =>
    rw [hqueue] at hrep hkeys htimes'
    have hfront := hrep.entry front (.head _)
    refine ⟨hrep.dropped, fun e he => hkeys e (.tail _ he), fun e he => htimes' e (.tail _ he),
      fun p hp => ?_, ?_⟩
    · cases hp
      exact ProviderInv.getD hprovider
    · rw [← hfront.waits]
      refine .dropped hserved hrep.first ?_
      rw [hfront.time]
      exact htimeout
  | @taken front rest bit looked provider hqueue htime hlow hlooked hp =>
    rw [hqueue] at hrep hkeys htimes'
    have hfront := hrep.entry front (.head _)
    -- a look-up changes nothing of what the log says about the queue
    have hlookup : Represents (looked ++ s.log) (front :: rest) ∧
        Served topicPrefix (looked ++ s.log) := by
      rcases hlooked with rfl | ⟨userSuid, rfl⟩
      · exact ⟨hrep, hserved⟩
      · exact ⟨hrep.lookedUp _ _, .lookedUp _ _ hserved⟩
    obtain ⟨hrep', hserved'⟩ := hlookup
    have hfront' := hrep'.entry front (.head _)
    have hkept : ∀ e ∈ left front bit ++ rest, ∃ e' ∈ front :: rest,
        e.key = e'.key ∧ e.time = e'.time := by
      intro e he
      rcases List.mem_append.mp he with he | he
      · obtain ⟨-, rfl⟩ := mem_left.mp he
        exact ⟨front, .head _, rfl, rfl⟩
      · exact ⟨e, .tail _ he, rfl, rfl⟩
    refine ⟨hrep'.taken _, fun e he => ?_, fun e he => ?_, fun p hmem => ?_, ?_⟩
    · obtain ⟨e', he', hkey, -⟩ := hkept e he
      rw [hkey]
      exact hkeys e' he'
    · obtain ⟨e', he', -, htime⟩ := hkept e he
      rw [htime]
      exact htimes' e' he'
    · cases hmem
      exact hp
    · refine .taken hserved' hrep'.first ?_ ?_
      · rw [hfront'.waits]
        exact hlow
      · rw [hfront'.time]
        exact htime

/-- The ways `on_actions_triggered` goes. -/
inductive Triggered (s : ActionQueue) (key : TriggerKey) (actions : BitVec 32) (now : Nat) :
    ActionQueue → Prop
  | ignored : Triggered s key actions now { s with clock := now }
  | merged {pre post : List TriggeredActions} {it : TriggeredActions} :
      s.triggeredActions = pre ++ it :: post → it.key = key →
      actions &&& ActionCap.published ≠ 0 →
      Triggered s key actions now
        { s with
          clock := now
          triggeredActions := pre ++ { it with
            actions := it.actions ||| actions &&& ActionCap.published, time := now } :: post
          log := .triggered key (actions &&& ActionCap.published) now :: s.log }
  | enters : (∀ e ∈ s.triggeredActions, e.key ≠ key) →
      key.userId ≠ 0 ∧ key.deviceId ≠ 0 ∧ key.channelId ≠ 0 →
      actions &&& ActionCap.published ≠ 0 →
      Triggered s key actions now
        { s with
          clock := now
          triggeredActions := s.triggeredActions ++ [⟨key, actions &&& ActionCap.published, now⟩]
          log := .triggered key (actions &&& ActionCap.published) now :: s.log }

theorem onActionsTriggered_triggered (key : TriggerKey) (actions : BitVec 32) (now : Nat)
    (s : ActionQueue) : Triggered s key actions now (s.onActionsTriggered key actions now) := by
  unfold onActionsTriggered
  simp only
  split
  · exact .ignored
  · rename_i hids
    split
    · exact .ignored
    · rename_i hmask
      split
      · rename_i hany
        obtain ⟨pre, it, post, hsplit, hkey, hmerge⟩ := merge_split hany
        rw [hmerge]
        exact .merged hsplit hkey hmask
      · rename_i hany
        split
        · refine .enters (fun e he heq => hany ?_) (by simpa only [not_or] using hids) hmask
          exact List.any_eq_true.mpr ⟨e, he, decide_eq_true heq⟩
        · exact .ignored

/-- A trigger of a channel of an enabled user is noted. -/
theorem onActionsTriggered_log
    (hkey : key.userId ≠ 0 ∧ key.deviceId ≠ 0 ∧ key.channelId ≠ 0)
    (henabled : key.userId ∈ s.usersEnabled) (hmask : actions &&& ActionCap.published ≠ 0) :
    (s.onActionsTriggered key actions now).log =
      .triggered key (actions &&& ActionCap.published) now :: s.log := by
  have hids : ¬ (key.userId = 0 ∨ key.deviceId = 0 ∨ key.channelId = 0) := by
    simpa only [not_or] using hkey
  have huser : s.usersEnabled.any (· = key.userId) = true :=
    List.any_eq_true.mpr ⟨_, henabled, decide_eq_true rfl⟩
  simp only [onActionsTriggered, if_neg hids, if_neg hmask, huser, if_true]
  split <;> rfl

theorem Inv.triggered (h : Inv topicPrefix s) (hle : s.clock ≤ now)
    (hgoes : Triggered s key actions now s') : Inv topicPrefix s' := by
  obtain ⟨hrep, hkeys, htimes, hprovider, hserved⟩ := h
  have htimes' : ∀ e ∈ s.triggeredActions, e.time ≤ now := fun e he =>
    Nat.le_trans (htimes e he) hle
  have hserved' (hmask : actions &&& ActionCap.published ≠ 0) :
      Served topicPrefix (.triggered key (actions &&& ActionCap.published) now :: s.log) := by
    refine .triggered now hserved hmask ?_
    rw [BitVec.and_assoc, BitVec.and_self]
  cases hgoes with
  | ignored => exact ⟨hrep, hkeys, htimes', hprovider, hserved⟩
  | @merged pre post it hqueue hkey hmask =>
    subst hkey
    rw [hqueue] at hrep hkeys htimes'
    refine ⟨hrep.merged, ?_, ?_, hprovider, hserved' hmask⟩
    · rw [List.forall_mem_append, List.forall_mem_cons] at hkeys ⊢
      exact hkeys
    · rw [List.forall_mem_append, List.forall_mem_cons] at htimes' ⊢
      exact ⟨htimes'.1, Nat.le_refl _, htimes'.2.2⟩
  | enters hnew hkey hmask =>
    refine ⟨hrep.enters hnew hmask, ?_, ?_, hprovider, hserved' hmask⟩
    · rw [List.forall_mem_append, List.forall_mem_singleton]
      exact ⟨hkeys, hkey⟩
    · rw [List.forall_mem_append, List.forall_mem_singleton]
      exact ⟨htimes', Nat.le_refl _⟩

theorem Inv.step {a : ActionCall} (h : Inv topicPrefix s)
    (hs : (actionQueue topicPrefix).step s a = some s') : Inv topicPrefix s' := by
  simp only [actionQueue] at hs
  split at hs
  · rename_i htimed
    cases hs
    cases a with
    | onActionsTriggered key actions now =>
      exact h.triggered htimed.1 (onActionsTriggered_triggered key actions now s)
    | fetchActions now getUserSuid =>
      exact h.fetched htimed.1 (fetchActions_fetched getUserSuid h htimed.1 htimed.2)
    | usersEnabled users => exact ⟨h.represents, h.keys, h.times, h.provider, h.served⟩
  · cases hs

theorem inv_reach (h : Reach (actionQueue topicPrefix) Any s) : Inv topicPrefix s := by
  refine h.invariant ?_ fun _ h hs => h.step hs
  rintro s ⟨users, rfl⟩
  exact ⟨⟨nofun, fun key hkey => absurd rfl hkey, .nil⟩, nofun, nofun, nofun, .nil⟩

/-! ## Progress -/

/-- The bits in the queue. -/
def pending (s : ActionQueue) : Nat := (s.triggeredActions.map fun e => bits e.actions).sum

/-- Every call of `fetch_actions` brings the end of the queue nearer. -/
theorem Fetched.pending_lt {message : Option ActionMessage} (hinv : Inv topicPrefix s)
    (hgoes : Fetched topicPrefix s now message s') (hsome : s.triggeredActions ≠ []) :
    s'.pending < s.pending := by
  cases hgoes with
  | empty hempty => exact absurd hempty hsome
  | @dropped front rest hqueue _ =>
    have hfront := hinv.represents.entry front (hqueue ▸ List.mem_cons_self)
    have hpos := bits_pos hfront.some_bit
    simp only [pending, hqueue, List.map_cons, List.sum_cons]
    omega
  | @taken front rest bit looked provider hqueue _ hlow _ _ =>
    have hlt := hlow.bits_lt
    simp only [pending, hqueue, List.map_append, List.sum_append, List.map_cons, List.sum_cons]
    unfold left
    split
    · simpa using hlt
    · simp only [List.map_nil, List.sum_nil]
      omega

/-- As many calls of `fetch_actions` as there are bits in the queue empty it. -/
theorem drains : ∀ {calls : List ActionCall} {s s' : ActionQueue}, Inv topicPrefix s →
    (∀ a ∈ calls, ∃ now getUserSuid, a = .fetchActions now getUserSuid) →
    (actionQueue topicPrefix).run s calls = some s' → s.pending ≤ calls.length →
    s'.triggeredActions = [] := by
  intro calls
  induction calls with
  | nil =>
    intro s s' hinv _ hrun hle
    cases hrun
    cases hqueue : s.triggeredActions with
    | nil => rfl
    | cons front rest =>
      have hfront := hinv.represents.entry front (hqueue ▸ List.mem_cons_self)
      have hpos := bits_pos hfront.some_bit
      simp only [pending, hqueue, List.map_cons, List.sum_cons, List.length_nil] at hle
      omega
  | cons a calls ih =>
    intro s s' hinv hfetch hrun hle
    obtain ⟨s₁, hs, hrun⟩ := Option.bind_eq_some_iff.mp hrun
    have hinv₁ := hinv.step hs
    refine ih hinv₁ (fun a ha => hfetch a (.tail _ ha)) hrun ?_
    obtain ⟨now, getUserSuid, rfl⟩ := hfetch a (.head _)
    simp only [actionQueue] at hs
    split at hs
    · rename_i htimed
      cases hs
      have hgoes := fetchActions_fetched getUserSuid hinv htimed.1 htimed.2
      rw [List.length_cons] at hle
      by_cases hsome : s.triggeredActions = []
      · have hzero : (s.fetchActions topicPrefix now getUserSuid).2.pending = 0 := by
          simp only [fetchActions, hsome, pending, List.map_nil, List.sum_nil]
        exact hzero ▸ Nat.zero_le _
      · exact Nat.le_of_lt_succ (Nat.lt_of_lt_of_le (hgoes.pending_lt hinv hsome) hle)
    · cases hs

/-! ## Published once -/

/-- What a call of `fetch_actions` adds to the log, with what it returns. -/
inductive Answered (log : List ActionEvent) (now : Nat) :
    Option ActionMessage → List ActionEvent → Prop
  | nothing : (∀ key, waiting log key = 0) → Answered log now none log
  | dropped (key : TriggerKey) :
      Answered log now none (.dropped key (waiting log key) now :: log)
  | taken (key : TriggerKey) (action : BitVec 32) (message : Option ActionMessage)
      {looked : List ActionEvent} :
      (looked = [] ∨ ∃ userSuid, looked = [.lookedUp key.userId userSuid]) →
      Answered log now message (.taken key action now message :: (looked ++ log))

/-- **Triggered actions are published once and in order.** -/
structure PublishedOnce (topicPrefix : String) (s : ActionQueue) : Prop where
  /-- What was taken or dropped was rightly so. -/
  served : Served topicPrefix s.log
  /-- The queue has what waits, in the order in which the channels entered; no entry is empty. -/
  queue : Represents s.log s.triggeredActions
  nodup : (s.triggeredActions.map (·.key)).Nodup
  /-- A published action of an enabled user is noted. -/
  triggered : ∀ key actions now, key.userId ≠ 0 ∧ key.deviceId ≠ 0 ∧ key.channelId ≠ 0 →
    key.userId ∈ s.usersEnabled → actions &&& ActionCap.published ≠ 0 →
    (s.onActionsTriggered key actions now).log =
      .triggered key (actions &&& ActionCap.published) now :: s.log
  /-- After its last trigger a bit is taken or dropped once, or it still waits. -/
  once : ∀ newer older key actions time n, s.log = newer ++ .triggered key actions time :: older →
    actions.getLsbD n = true → (∀ e ∈ newer, Triggers key n e = false) →
    newer.countP (Settles key n) = if (waiting s.log key).getLsbD n then 0 else 1
  answered : ∀ now getUserSuid, s.clock ≤ now → now < 2 ^ 64 →
    Answered s.log now (s.fetchActions topicPrefix now getUserSuid).1
      (s.fetchActions topicPrefix now getUserSuid).2.log
  /-- A message is missing only where the short unique id of the user is. -/
  message : ∀ newer older key action time,
    s.log = newer ++ .taken key action time none :: older →
    suidOf older key.userId = none ∨ suidOf older key.userId = some ""
  drains : ∀ calls s', (∀ a ∈ calls, ∃ now getUserSuid, a = .fetchActions now getUserSuid) →
    (actionQueue topicPrefix).run s calls = some s' → s.pending ≤ calls.length →
    s'.triggeredActions = []

theorem Fetched.answered {message : Option ActionMessage} (hinv : Inv topicPrefix s)
    (hgoes : Fetched topicPrefix s now message s') : Answered s.log now message s'.log := by
  cases hgoes with
  | empty hempty =>
    refine .nothing fun key => ?_
    by_contra hwaits
    obtain ⟨e, he, -⟩ := hinv.represents.known key hwaits
    rw [hempty] at he
    cases he
  | @dropped front rest hqueue _ =>
    have hfront := hinv.represents.entry front (hqueue ▸ List.mem_cons_self)
    have hanswered : Answered s.log now none
        (.dropped front.key (waiting s.log front.key) now :: s.log) := .dropped front.key
    rw [hfront.waits] at hanswered
    exact hanswered
  | taken _ _ _ hlooked _ => exact .taken _ _ _ hlooked

/-- A served log with anything newer was served before. -/
theorem Served.older {newer older : List ActionEvent} (h : Served topicPrefix (newer ++ older)) :
    Served topicPrefix older := by
  induction newer with
  | nil => exact h
  | cons e newer ih => exact ih h.tail

theorem Served.missing {older : List ActionEvent} {action : BitVec 32} {time : Nat}
    (h : Served topicPrefix (.taken key action time none :: older)) :
    suidOf older key.userId = none ∨ suidOf older key.userId = some "" := by
  generalize hmessage : (none : Option ActionMessage) = message at h
  cases h with
  | taken hserved _ hlow _ => exact messageOf_eq_none hlow (hserved.published key) hmessage.symm

theorem published_once (h : Reach (actionQueue topicPrefix) Any s) :
    PublishedOnce topicPrefix s := by
  have hinv := inv_reach h
  exact {
    served := hinv.served
    queue := hinv.represents
    nodup := hinv.represents.nodup
    triggered := fun key actions now hkey henabled hmask =>
      onActionsTriggered_log hkey henabled hmask
    once := by
      intro newer older key actions time n hlog hbit hnone
      have hserved := hinv.served
      rw [hlog] at hserved ⊢
      exact hserved.once hbit hnone
    answered := fun now getUserSuid hle hlt =>
      (fetchActions_fetched getUserSuid hinv hle hlt).answered hinv
    message := by
      intro newer older key action time hlog
      have hserved := hinv.served
      rw [hlog] at hserved
      exact hserved.older.missing
    drains := fun calls s' hfetch hrun hle => drains hinv hfetch hrun hle }

theorem published_once_two : ∃ s, s.log.length = 4 ∧ PublishedOnce "supla" s := by
  have h0 : Reach (actionQueue "supla") Any ⟨[], none, [7], 0, []⟩ := .init ⟨[7], rfl⟩
  have h1 : Reach (actionQueue "supla") Any _ :=
    h0.act (.onActionsTriggered ⟨7, 1, 2⟩ ActionCap.turnOff 10) trivial rfl
  have h2 : Reach (actionQueue "supla") Any _ :=
    h1.act (.onActionsTriggered ⟨7, 1, 2⟩ ActionCap.turnOn 10) trivial rfl
  have h3 : Reach (actionQueue "supla") Any _ :=
    h2.act (.fetchActions 20 fun _ => some "u") trivial rfl
  exact ⟨_, rfl, published_once h3⟩

/-- An action that is not published, one that is dropped although its entry was at the head from its
only trigger on, and one that is taken out of the queue without a message. -/
theorem lost_in_three_ways :
    let start : ActionQueue := ⟨[], none, [7], 0, []⟩
    let key : TriggerKey := ⟨7, 1, 2⟩
    let after (calls : List ActionCall) :=
      ((actionQueue "").run start calls).map fun s => (s.triggeredActions, s.log)
    (actionQueue "").init start ∧
      after [.onActionsTriggered key ActionCap.rotateRight 0] = some ([], []) ∧
      after [.onActionsTriggered key ActionCap.turnOn 0] =
        some ([⟨key, ActionCap.turnOn, 0⟩], [.triggered key ActionCap.turnOn 0]) ∧
      after [.onActionsTriggered key ActionCap.turnOn 0, .fetchActions 3000000 fun _ => none] =
        some ([], [.dropped key ActionCap.turnOn 3000000, .triggered key ActionCap.turnOn 0]) ∧
      after [.onActionsTriggered key ActionCap.turnOn 0, .fetchActions 1 fun _ => none] =
        some ([], [.taken key ActionCap.turnOn 1 none, .lookedUp 7 none,
          .triggered key ActionCap.turnOn 0]) :=
  ⟨⟨[7], rfl⟩, by decide, by decide, by decide, by decide⟩

end ActionQueue

end Mqtt
