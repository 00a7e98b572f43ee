import Mathlib.Data.List.Nodup
import SuplaCore.Mqtt.Datasource

/-!
# No change is lost in the queues

Whatever a notification takes out of the queues, the item that it puts in covers
(`notify_keeps`), and what it does not put in is covered already (`notify_covers`). Taking an
item takes the first of all (`take_items`). So what was noted stays covered until a context for it
is opened (`queues_sound`). The ids are those of a database: a channel belongs to one device and a
device to one user (`Owner`).
-/

namespace Mqtt

open Sys

variable {q q' : Queues} {n : Notification} {a b c : Context}

/-! ## Covering -/

namespace Context

theorem covers_trans (hab : a.covers b = true) (hbc : b.covers c = true) : a.covers c = true := by
  cases a <;> cases b <;> cases c <;> simp_all [covers]

theorem covers_self (h : a ≠ none) : a.covers a = true := by
  cases a <;> simp_all [covers]

end Context

namespace Queues

/-- What is queued, in the order in which it is taken. -/
def items (q : Queues) : List Context :=
  (if q.allDataExpected then [.full 0] else []) ++ q.userQueue.map .user ++
    q.deviceQueue.map (fun d => .device d.userId d.deviceId) ++
    q.channelQueue.map fun c => .channelState c.userId c.deviceId c.channelId

/-- Something in the queues covers a context. -/
def Covers (q : Queues) (c : Context) : Prop := ∃ i ∈ q.items, i.covers c = true

theorem mem_items : c ∈ q.items ↔ (q.allDataExpected = true ∧ c = .full 0) ∨
    (∃ u ∈ q.userQueue, c = .user u) ∨
    (∃ d ∈ q.deviceQueue, c = .device d.userId d.deviceId) ∨
    ∃ ch ∈ q.channelQueue, c = .channelState ch.userId ch.deviceId ch.channelId := by
  have hfull : c ∈ (if q.allDataExpected then [Context.full 0] else []) ↔
      q.allDataExpected = true ∧ c = .full 0 := by
    split
    · rename_i h
      rw [List.mem_singleton, and_iff_right h]
    · rename_i h
      exact ⟨fun hc => absurd hc List.not_mem_nil, fun hc => absurd hc.1 h⟩
  simp only [items, List.mem_append, hfull, List.mem_map, eq_comm (b := c), or_assoc]

theorem items_ne_none (h : c ∈ q.items) : c ≠ .none := by
  rcases mem_items.mp h with ⟨-, rfl⟩ | ⟨_, _, rfl⟩ | ⟨_, _, rfl⟩ | ⟨_, _, rfl⟩ <;>
    exact fun h => by cases h

theorem covers_of_mem (h : c ∈ q.items) : q.Covers c :=
  ⟨c, h, Context.covers_self (items_ne_none h)⟩

theorem full_mem (h : q.allDataExpected = true) : .full 0 ∈ q.items :=
  mem_items.mpr (.inl ⟨h, rfl⟩)

theorem user_mem {u : Int} (h : u ∈ q.userQueue) : .user u ∈ q.items :=
  mem_items.mpr (.inr (.inl ⟨u, h, rfl⟩))

theorem device_mem {d : DeviceId} (h : d ∈ q.deviceQueue) :
    .device d.userId d.deviceId ∈ q.items :=
  mem_items.mpr (.inr (.inr (.inl ⟨d, h, rfl⟩)))

theorem channel_mem {c : ChannelId} (h : c ∈ q.channelQueue) :
    .channelState c.userId c.deviceId c.channelId ∈ q.items :=
  mem_items.mpr (.inr (.inr (.inr ⟨c, h, rfl⟩)))

/-- The first item is taken. -/
theorem take_items (h : q.take = some (c, q')) : q.items = c :: q'.items := by
  unfold take at h
  split at h
  · rename_i hall
    cases h
    simp only [items, hall, if_true, Bool.false_eq_true, if_false, List.nil_append]
    rfl
  · rename_i hall
    split at h
    · rename_i u us hu
      cases h
      simp only [items, hu, if_neg hall, List.nil_append, List.map_cons, List.cons_append]
    · rename_i hu
      split at h
      · rename_i d ds hd
        cases h
        simp only [items, hu, hd, if_neg hall, List.nil_append, List.map_nil, List.map_cons,
          List.cons_append]
      · rename_i hd
        split at h
        · rename_i ch cs hc
          cases h
          simp only [items, hu, hd, hc, if_neg hall, List.nil_append, List.map_nil, List.map_cons]
        · cases h

theorem isUserQueued_iff {u : Int} : q.isUserQueued u = true ↔ u ∈ q.userQueue := by
  simp [isUserQueued]

theorem isDeviceQueued_iff {d : Int} :
    q.isDeviceQueued d = true ↔ d ∈ q.deviceQueue.map (·.deviceId) := by
  simp [isDeviceQueued]

theorem isChannelQueued_iff {c : Int} :
    q.isChannelQueued c = true ↔ c ∈ q.channelQueue.map (·.channelId) := by
  simp [isChannelQueued]

/-! ## A notification -/

theorem onBrokerConnected_keeps (h : c ∈ q.items) : q.onBrokerConnected.Covers c := by
  have hne := items_ne_none h
  unfold onBrokerConnected
  split
  · exact covers_of_mem h
  · refine ⟨.full 0, full_mem rfl, ?_⟩
    cases c with
    | none => exact absurd rfl hne
    | _ => rfl

theorem onUserdataChanged_keeps {user : Int} (h : c ∈ q.items) :
    (q.onUserdataChanged user).Covers c := by
  unfold onUserdataChanged
  split
  · exact covers_of_mem h
  · -- what is erased belongs to the user that is queued instead
    have huser : ∀ {c : Context}, Context.covers (.user user) c = true →
        Covers { q with
          userQueue := q.userQueue ++ [user]
          deviceQueue := q.deviceQueue.filter fun d => d.userId ≠ user
          channelQueue := q.channelQueue.filter fun c => c.userId ≠ user } c := fun hc =>
      ⟨.user user, user_mem (List.mem_append_right _ List.mem_cons_self), hc⟩
    rcases mem_items.mp h with ⟨hall, rfl⟩ | ⟨u, hu, rfl⟩ | ⟨d, hd, rfl⟩ | ⟨ch, hch, rfl⟩
    · exact covers_of_mem (full_mem hall)
    · exact covers_of_mem (user_mem (List.mem_append_left _ hu))
    · by_cases hown : d.userId = user
      · exact huser (decide_eq_true hown.symm)
      · exact covers_of_mem (device_mem (List.mem_filter.mpr ⟨hd, decide_eq_true hown⟩))
    · by_cases hown : ch.userId = user
      · exact huser (decide_eq_true hown.symm)
      · exact covers_of_mem (channel_mem (List.mem_filter.mpr ⟨hch, decide_eq_true hown⟩))

theorem onDevicedataChanged_keeps {user device : Int} (h : c ∈ q.items) :
    (q.onDevicedataChanged user device).Covers c := by
  unfold onDevicedataChanged
  split
  · exact covers_of_mem h
  · rcases mem_items.mp h with ⟨hall, rfl⟩ | ⟨u, hu, rfl⟩ | ⟨d, hd, rfl⟩ | ⟨ch, hch, rfl⟩
    · exact covers_of_mem (full_mem hall)
    · exact covers_of_mem (user_mem hu)
    · exact covers_of_mem (device_mem (List.mem_append_left _ hd))
    · by_cases hown : ch.userId = user ∧ ch.deviceId = device
      · refine ⟨.device user device,
          device_mem (d := ⟨user, device⟩) (List.mem_append_right _ List.mem_cons_self), ?_⟩
        exact decide_eq_true ⟨hown.1.symm, hown.2.symm⟩
      · exact covers_of_mem (channel_mem (List.mem_filter.mpr ⟨hch, decide_eq_true hown⟩))

theorem onChannelstateChanged_keeps {user device channel : Int} (h : c ∈ q.items) :
    (q.onChannelstateChanged user device channel).Covers c := by
  unfold onChannelstateChanged
  split
  · exact covers_of_mem h
  · rcases mem_items.mp h with ⟨hall, rfl⟩ | ⟨u, hu, rfl⟩ | ⟨d, hd, rfl⟩ | ⟨ch, hch, rfl⟩
    · exact covers_of_mem (full_mem hall)
    · exact covers_of_mem (user_mem hu)
    · exact covers_of_mem (device_mem hd)
    · exact covers_of_mem (channel_mem (List.mem_append_left _ hch))

/-- **What is taken out of the queues is covered by what is put in.** -/
theorem notify_keeps (h : q.Covers c) : (q.notify n).Covers c := by
  obtain ⟨i, hi, hic⟩ := h
  have hkeep : (q.notify n).Covers i := by
    cases n with
    | brokerConnected => exact onBrokerConnected_keeps hi
    | userdataChanged u => exact onUserdataChanged_keeps hi
    | devicedataChanged u d => exact onDevicedataChanged_keeps hi
    | channelstateChanged u d ch => exact onChannelstateChanged_keeps hi
  obtain ⟨j, hj, hji⟩ := hkeep
  exact ⟨j, hj, Context.covers_trans hji hic⟩

end Queues

/-! ## The ids -/

/-- The ids are those that belong together. -/
def Owner.Owns (own : Owner) : Context → Prop
  | .device u d => u = own.user d
  | .channelState u d c => d = own.device c ∧ u = own.user d
  | _ => True

namespace Queues

variable {own : Owner}

def Owned (own : Owner) (q : Queues) : Prop := ∀ c ∈ q.items, own.Owns c

/-- **A notification is covered afterwards**: what it asks for is queued, or was before. -/
theorem notify_covers (hq : q.Owned own) (hn : own.Owns n.context) :
    (q.notify n).Covers n.context := by
  have hall : q.allDataExpected = true → q.Covers n.context := by
    intro h
    refine ⟨.full 0, full_mem h, ?_⟩
    cases n <;> rfl
  have huser : ∀ u, q.isUserQueued u = true → Context.covers (.user u) n.context = true →
      q.Covers n.context := fun u hu hc =>
    ⟨.user u, user_mem (isUserQueued_iff.mp hu), hc⟩
  have hdevice : ∀ d, q.isDeviceQueued d = true →
      Context.covers (.device (own.user d) d) n.context = true → q.Covers n.context := by
    intro d hd hc
    obtain ⟨item, hmem, rfl⟩ := List.mem_map.mp (isDeviceQueued_iff.mp hd)
    have hitem := device_mem hmem
    have hown : item.userId = own.user item.deviceId := hq _ hitem
    exact ⟨_, hitem, hown ▸ hc⟩
  cases n with
  | brokerConnected =>
    simp only [notify, onBrokerConnected]
    split
    · rename_i h
      exact hall h
    · exact ⟨.full 0, full_mem rfl, rfl⟩
  | userdataChanged u =>
    simp only [notify, onUserdataChanged]
    split
    · rename_i h
      rcases Bool.or_eq_true_iff.mp h with h | h
      · exact hall h
      · exact huser u h (decide_eq_true rfl)
    · exact covers_of_mem (user_mem (List.mem_append_right _ List.mem_cons_self))
  | devicedataChanged u d =>
    have hud : u = own.user d := hn
    simp only [notify, onDevicedataChanged]
    split
    · rename_i h
      rcases Bool.or_eq_true_iff.mp h with h | h
      · rcases Bool.or_eq_true_iff.mp h with h | h
        · exact hall h
        · exact huser u h (decide_eq_true rfl)
      · exact hdevice d h (decide_eq_true ⟨hud.symm, rfl⟩)
    · exact covers_of_mem
        (device_mem (d := ⟨u, d⟩) (List.mem_append_right _ List.mem_cons_self))
  | channelstateChanged u d c =>
    obtain ⟨hdc, hud⟩ : d = own.device c ∧ u = own.user d := hn
    simp only [notify, onChannelstateChanged]
    split
    · rename_i h
      rcases Bool.or_eq_true_iff.mp h with h | h
      · rcases Bool.or_eq_true_iff.mp h with h | h
        · rcases Bool.or_eq_true_iff.mp h with h | h
          · exact hall h
          · exact huser u h (decide_eq_true rfl)
        · exact hdevice d h (decide_eq_true ⟨hud.symm, rfl⟩)
      · obtain ⟨item, hmem, rfl⟩ := List.mem_map.mp (isChannelQueued_iff.mp h)
        have hitem := channel_mem hmem
        have hown : item.deviceId = own.device item.channelId ∧
            item.userId = own.user item.deviceId := hq _ hitem
        refine ⟨_, hitem, decide_eq_true ⟨?_, hown.1.trans hdc.symm, rfl⟩⟩
        rw [hown.2, hown.1, hud, hdc]
    · exact covers_of_mem
        (channel_mem (c := ⟨u, d, c⟩) (List.mem_append_right _ List.mem_cons_self))

theorem owned_notify (hq : q.Owned own) (hn : own.Owns n.context) : (q.notify n).Owned own := by
  intro c hc
  -- an item is an old one, or the one that the notification asks for
  suffices h : c ∈ q.items ∨ c = n.context by
    rcases h with h | rfl
    · exact hq c h
    · exact hn
  cases n with
  | brokerConnected =>
    simp only [notify, onBrokerConnected] at hc
    split at hc
    · exact .inl hc
    · exact .inr (List.mem_singleton.mp hc)
  | userdataChanged u =>
    simp only [notify, onUserdataChanged] at hc
    split at hc
    · exact .inl hc
    · rcases mem_items.mp hc with ⟨hall, rfl⟩ | ⟨v, hv, rfl⟩ | ⟨d, hd, rfl⟩ | ⟨ch, hch, rfl⟩
      · exact .inl (full_mem hall)
      · rcases List.mem_append.mp hv with hv | hv
        · exact .inl (user_mem hv)
        · exact .inr (List.mem_singleton.mp hv ▸ rfl)
      · exact .inl (device_mem (List.mem_of_mem_filter hd))
      · exact .inl (channel_mem (List.mem_of_mem_filter hch))
  | devicedataChanged u d =>
    simp only [notify, onDevicedataChanged] at hc
    split at hc
    · exact .inl hc
    · rcases mem_items.mp hc with ⟨hall, rfl⟩ | ⟨v, hv, rfl⟩ | ⟨e, he, rfl⟩ | ⟨ch, hch, rfl⟩
      · exact .inl (full_mem hall)
      · exact .inl (user_mem hv)
      · rcases List.mem_append.mp he with he | he
        · exact .inl (device_mem he)
        · exact .inr (List.mem_singleton.mp he ▸ rfl)
      · exact .inl (channel_mem (List.mem_of_mem_filter hch))
  | channelstateChanged u d c' =>
    simp only [notify, onChannelstateChanged] at hc
    split at hc
    · exact .inl hc
    · rcases mem_items.mp hc with ⟨hall, rfl⟩ | ⟨v, hv, rfl⟩ | ⟨e, he, rfl⟩ | ⟨ch, hch, rfl⟩
      · exact .inl (full_mem hall)
      · exact .inl (user_mem hv)
      · exact .inl (device_mem he)
      · rcases List.mem_append.mp hch with hch | hch
        · exact .inl (channel_mem hch)
        · exact .inr (List.mem_singleton.mp hch ▸ rfl)

/-! ## No repeats -/

/-- Nothing is queued twice, or beside what covers it. -/
structure Tidy (q : Queues) : Prop where
  empty : q.allDataExpected = true → q.userQueue = [] ∧ q.deviceQueue = [] ∧ q.channelQueue = []
  users : q.userQueue.Nodup
  devices : (q.deviceQueue.map (·.deviceId)).Nodup
  channels : (q.channelQueue.map (·.channelId)).Nodup
  device_apart : ∀ d ∈ q.deviceQueue, d.userId ∉ q.userQueue
  channel_apart : ∀ c ∈ q.channelQueue, c.userId ∉ q.userQueue ∧
    c.deviceId ∉ q.deviceQueue.map (·.deviceId)

theorem not_of_or_false {a b : Bool} (h : ¬ (a || b) = true) : ¬ a = true ∧ ¬ b = true := by
  cases a <;> cases b <;> simp_all

theorem nodup_append_new {α : Type} {l : List α} {x : α} (h : l.Nodup) (hx : x ∉ l) :
    (l ++ [x]).Nodup :=
  List.nodup_append.mpr ⟨h, List.nodup_singleton x, fun _ ha _ hb heq =>
    hx ((List.mem_singleton.mp hb) ▸ heq ▸ ha)⟩

theorem tidy_onUserdataChanged (hq : q.Tidy) (user : Int) : (q.onUserdataChanged user).Tidy := by
  unfold onUserdataChanged
  split
  · exact hq
  · rename_i h
    obtain ⟨hall, hqueued⟩ := not_of_or_false h
    rw [isUserQueued_iff] at hqueued
    have hother : ∀ {u : Int}, u ∉ q.userQueue → u ≠ user → u ∉ q.userQueue ++ [user] :=
      fun hu hne hmem => (List.mem_append.mp hmem).elim hu fun h => hne (List.mem_singleton.mp h)
    refine ⟨fun h => absurd h hall, nodup_append_new hq.users hqueued, ?_, ?_, ?_, ?_⟩
    · exact hq.devices.sublist (List.filter_sublist.map _)
    · exact hq.channels.sublist (List.filter_sublist.map _)
    · intro d hd
      obtain ⟨hd, hne⟩ := List.mem_filter.mp hd
      exact hother (hq.device_apart d hd) (of_decide_eq_true hne)
    · intro c hc
      obtain ⟨hc, hne⟩ := List.mem_filter.mp hc
      refine ⟨hother (hq.channel_apart c hc).1 (of_decide_eq_true hne), fun hmem => ?_⟩
      exact (hq.channel_apart c hc).2 ((List.filter_sublist.map _).subset hmem)

theorem tidy_onDevicedataChanged (hq : q.Tidy) (hown : q.Owned own) {user device : Int}
    (hn : user = own.user device) : (q.onDevicedataChanged user device).Tidy := by
  unfold onDevicedataChanged
  split
  · exact hq
  · rename_i h
    obtain ⟨h, hdevice⟩ := not_of_or_false h
    obtain ⟨hall, huser⟩ := not_of_or_false h
    rw [isUserQueued_iff] at huser
    rw [isDeviceQueued_iff] at hdevice
    refine ⟨fun h => absurd h hall, hq.users, ?_, ?_, ?_, ?_⟩
    · rw [List.map_append]
      exact nodup_append_new hq.devices hdevice
    · exact hq.channels.sublist (List.filter_sublist.map _)
    · intro d hd
      rcases List.mem_append.mp hd with hd | hd
      · exact hq.device_apart d hd
      · rw [List.mem_singleton.mp hd]
        exact huser
    · intro c hc
      obtain ⟨hc, hne⟩ := List.mem_filter.mp hc
      refine ⟨(hq.channel_apart c hc).1, fun hmem => ?_⟩
      rw [List.map_append] at hmem
      rcases List.mem_append.mp hmem with hmem | hmem
      · exact (hq.channel_apart c hc).2 hmem
      · -- a channel of the device is one of its user, so it was erased
        have hc' := hown _ (channel_mem hc)
        have hdev : c.deviceId = device := List.mem_singleton.mp hmem
        refine absurd ⟨?_, hdev⟩ (of_decide_eq_true hne)
        rw [hc'.2, hdev, hn]

theorem tidy_onChannelstateChanged (hq : q.Tidy) (user device channel : Int) :
    (q.onChannelstateChanged user device channel).Tidy := by
  unfold onChannelstateChanged
  split
  · exact hq
  · rename_i h
    obtain ⟨h, hchannel⟩ := not_of_or_false h
    obtain ⟨h, hdevice⟩ := not_of_or_false h
    obtain ⟨hall, huser⟩ := not_of_or_false h
    rw [isUserQueued_iff] at huser
    rw [isDeviceQueued_iff] at hdevice
    rw [isChannelQueued_iff] at hchannel
    refine ⟨fun h => absurd h hall, hq.users, hq.devices, ?_, hq.device_apart, ?_⟩
    · rw [List.map_append]
      exact nodup_append_new hq.channels hchannel
    · intro c hc
      rcases List.mem_append.mp hc with hc | hc
      · exact hq.channel_apart c hc
      · rw [List.mem_singleton.mp hc]
        exact ⟨huser, hdevice⟩

theorem tidy_notify (hq : q.Tidy) (hown : q.Owned own) (hn : own.Owns n.context) :
    (q.notify n).Tidy := by
  cases n with
  | brokerConnected =>
    simp only [notify, onBrokerConnected]
    split
    · exact hq
    · exact ⟨fun _ => ⟨rfl, rfl, rfl⟩, List.nodup_nil, List.nodup_nil, List.nodup_nil,
        fun d hd => absurd hd List.not_mem_nil, fun c hc => absurd hc List.not_mem_nil⟩
  | userdataChanged u => exact tidy_onUserdataChanged hq u
  | devicedataChanged u d => exact tidy_onDevicedataChanged hq hown hn
  | channelstateChanged u d c => exact tidy_onChannelstateChanged hq u d c

theorem tidy_take (hq : q.Tidy) (h : q.take = some (c, q')) : q'.Tidy := by
  unfold take at h
  split at h
  · cases h
    exact ⟨(by intro h; cases h), hq.users, hq.devices, hq.channels, hq.device_apart,
      hq.channel_apart⟩
  · rename_i hall
    split at h
    · rename_i u us hu
      cases h
      have hsub : ∀ {v : Int}, v ∉ q.userQueue → v ∉ us := fun hv hmem =>
        hv (hu ▸ List.mem_cons_of_mem _ hmem)
      exact ⟨fun h => absurd h hall, (hu ▸ hq.users).of_cons, hq.devices, hq.channels,
        fun d hd => hsub (hq.device_apart d hd),
        fun c hc => ⟨hsub (hq.channel_apart c hc).1, (hq.channel_apart c hc).2⟩⟩
    · split at h
      · rename_i d ds hd
        cases h
        have hdevices := hq.devices
        rw [hd, List.map_cons] at hdevices
        refine ⟨fun h => absurd h hall, hq.users, hdevices.of_cons, hq.channels,
          fun e he => hq.device_apart e (hd ▸ List.mem_cons_of_mem _ he), fun c hc => ?_⟩
        refine ⟨(hq.channel_apart c hc).1, fun hmem => (hq.channel_apart c hc).2 ?_⟩
        rw [hd, List.map_cons]
        exact List.mem_cons_of_mem _ hmem
      · split at h
        · rename_i ch cs hc
          cases h
          have hchannels := hq.channels
          rw [hc, List.map_cons] at hchannels
          exact ⟨fun h => absurd h hall, hq.users, hq.devices, hchannels.of_cons, hq.device_apart,
            fun e he => hq.channel_apart e (hc ▸ List.mem_cons_of_mem _ he)⟩
        · cases h

end Queues

/-! ## The runs -/

/-- What is noted and not yet taken is covered by what is queued, or by the context that is being
opened. -/
structure Datasource.Sound (s : Datasource) : Prop where
  covered : ∀ n ∈ s.noted, s.queues.Covers n.context ∨
    (∃ second, s.pc = .opening second) ∧ s.context.covers n.context = true
  tidy : s.queues.Tidy

/-- The notifications bring ids that belong together, and contexts are opened. -/
def Proper (own : Owner) (_ : Datasource) : Act → Prop
  | .notify n _ => own.Owns n.context
  | .contextOpen success => success = true
  | _ => True

theorem Datasource.Sound.step {own : Owner} {s s' : Datasource} (hs : s.Sound)
    (hown : s.queues.Owned own) {a : Act} (hok : Proper own s a) (h : s.step a = some s') :
    s'.Sound ∧ s'.queues.Owned own := by
  cases a with
  | notify n allowed =>
    rw [Datasource.step] at h
    split at h
    · cases h
      refine ⟨⟨fun m hm => ?_, Queues.tidy_notify hs.tidy hown hok⟩, Queues.owned_notify hown hok⟩
      rcases List.mem_cons.mp hm with rfl | hm
      · exact .inl (Queues.notify_covers hown hok)
      · exact (hs.covered m hm).imp Queues.notify_keeps fun h => h
    · cases h
      exact ⟨hs, hown⟩
  | fetch =>
    rw [Datasource.step] at h
    split at h
    · rename_i hpc
      cases h
      refine ⟨⟨fun m hm => (hs.covered m hm).imp (fun h => h) fun ⟨⟨second, hsec⟩, _⟩ => ?_,
        hs.tidy⟩, hown⟩
      rw [hpc] at hsec
      cases hsec
    · cases h
  | contextShouldBeOpened =>
    rw [Datasource.step] at h
    split at h
    · rename_i second hpc
      have hqueued : ∀ m ∈ s.noted, s.queues.Covers m.context := fun m hm =>
        (hs.covered m hm).resolve_right fun ⟨⟨_, hsec⟩, _⟩ => by
          rw [hpc] at hsec
          cases hsec
      split at h
      · cases h
        exact ⟨⟨fun m hm => .inl (hqueued m hm), hs.tidy⟩, hown⟩
      · split at h
        · rename_i c q htake
          cases h
          have hitems := Queues.take_items htake
          refine ⟨⟨fun m hm => ?_, Queues.tidy_take hs.tidy htake⟩, fun c hc => hown c ?_⟩
          · obtain ⟨i, hi, hcov⟩ := hqueued m hm
            rw [hitems] at hi
            rcases List.mem_cons.mp hi with rfl | hi
            · exact .inr ⟨⟨second, rfl⟩, hcov⟩
            · exact .inl ⟨i, hi, hcov⟩
          · rw [hitems]
            exact List.mem_cons_of_mem _ hc
        · cases h
          exact ⟨⟨fun m hm => .inl (hqueued m hm), hs.tidy⟩, hown⟩
    · cases h
  | contextOpen success =>
    rw [Datasource.step] at h
    split at h
    · rename_i second hpc
      cases h
      have hsuccess : success = true := hok
      subst hsuccess
      refine ⟨⟨fun m hm => .inl ?_, hs.tidy⟩, hown⟩
      obtain ⟨hm, hnot⟩ := List.mem_filter.mp hm
      refine (hs.covered m hm).resolve_right fun ⟨_, hcov⟩ => ?_
      rw [hcov] at hnot
      cases hnot
    · cases h
  | fetchNext result =>
    rw [Datasource.step] at h
    split at h
    · rename_i second hpc
      have hqueued : ∀ m ∈ s.noted, s.queues.Covers m.context := fun m hm =>
        (hs.covered m hm).resolve_right fun ⟨⟨_, hsec⟩, _⟩ => by
          rw [hpc] at hsec
          cases hsec
      split at h
      · split at h <;> cases h <;>
          exact ⟨⟨fun m hm => .inl (hqueued m hm), hs.tidy⟩, hown⟩
      · cases h
        exact ⟨⟨fun m hm => .inl (hqueued m hm), hs.tidy⟩, hown⟩
    · cases h
  | threadCleanup =>
    rw [Datasource.step] at h
    split at h
    · cases h
      exact ⟨⟨hs.covered, hs.tidy⟩, hown⟩
    · cases h

/-- **No queued change is lost or repeated**: in every run a notification is covered by the queues
once it was made and stays so until a context for it is taken and opened, the queues are empty when
all data is expected, and nothing is queued twice or beside what covers it. -/
theorem queues_sound {own : Owner} {s : Datasource} (h : Reach datasource (Proper own) s) :
    s.Sound ∧ ∀ n, own.Owns n.context → (s.queues.notify n).Covers n.context := by
  obtain ⟨hsound, hown⟩ : s.Sound ∧ s.queues.Owned own := by
    refine h.invariant (P := fun s => s.Sound ∧ s.queues.Owned own) ?_ ?_
    · rintro s rfl
      refine ⟨⟨fun n hn => absurd hn List.not_mem_nil, ?_⟩, fun c hc => absurd hc List.not_mem_nil⟩
      exact ⟨(by intro h; cases h), List.nodup_nil, List.nodup_nil, List.nodup_nil,
        fun d hd => absurd hd List.not_mem_nil, fun c hc => absurd hc List.not_mem_nil⟩
    · intro s s' a hok hs hstep
      exact hs.1.step hs.2 hok hstep
  exact ⟨hsound, fun n hn => Queues.notify_covers hown hn⟩

/-- A device is queued while the context of one of its channels is opened. -/
theorem queues_sound_device : ∃ s, datasource.run .init
      [.notify (.channelstateChanged 1 5 9) true, .fetch, .contextShouldBeOpened,
        .notify (.devicedataChanged 1 5) true, .contextOpen true] = some s ∧
    s.noted = [.devicedataChanged 1 5] ∧ s.queues.Covers (.device 1 5) := by
  have hinit : Reach datasource (Proper ⟨fun _ => 1, fun _ => 5⟩) .init := .init rfl
  have hopening := ((hinit.act (.notify (.channelstateChanged 1 5 9) true) ⟨rfl, rfl⟩ rfl).act
    .fetch trivial rfl).act .contextShouldBeOpened trivial rfl
  have hopen := (hopening.act (.notify (.devicedataChanged 1 5) true) rfl rfl).act
    (.contextOpen true) rfl rfl
  refine ⟨_, rfl, rfl, ?_⟩
  exact ((queues_sound hopen).1.covered _ List.mem_cons_self).resolve_right fun ⟨⟨_, h⟩, _⟩ => by
    cases h

end Mqtt
