import SuplaCore.Mqtt.ValueSetter

/-!
# What a command depends on

Every field that a parser or a callback reads is assigned for the call before it is read
(`parseChannel_congr`), but for the message in a refresh request: it is compared through the field
that the last command with a channel has left. So a refresh request is the only command that
depends on what came before (`interpreted_alone_iff`).
-/

namespace Mqtt

variable {topicPrefix topic message : List Char} {setpoint : List Char → Option Int}

namespace ValueSetter

variable {s₁ s₂ : ValueSetter}

/-! ## What is read -/

/-- What the callbacks ask for is the same. -/
structure SameIds (s₁ s₂ : ValueSetter) : Prop where
  suid : s₁.getSuid = s₂.getSuid
  deviceId : s₁.deviceId = s₂.deviceId
  channelId : s₁.channelId = s₂.channelId

theorem call_congr (h : SameIds s₁ s₂) (callback : ValueCallback) :
    (s₁.call callback).2 = (s₂.call callback).2 := by
  unfold call
  rw [h.suid, h.deviceId, h.channelId]

theorem parse_congr (h : SameIds s₁ s₂) (htopic : s₁.topicName = s₂.topicName)
    (hmessage : s₁.message = s₂.message) : (s₁.parse setpoint).2 = (s₂.parse setpoint).2 := by
  unfold parse
  rw [htopic, hmessage]
  simp only []
  split
  · exact call_congr h _
  · rfl
  · rfl

/-- The ids, the topic and the message are assigned on the way to the parsers. -/
theorem parseChannel_congr (h : s₁.getSuid = s₂.getSuid) :
    (s₁.parseChannel setpoint topic message).2 = (s₂.parseChannel setpoint topic message).2 := by
  unfold parseChannel
  split
  · rfl
  · split
    · rfl
    · split
      · rfl
      · split
        · rfl
        · exact parse_congr ⟨h, rfl, rfl⟩ rfl rfl

end ValueSetter

/-! ## Refresh requests -/

/-- A request to refresh all, with a message of the length of `all_existing`. -/
structure RefreshRequest (topicPrefix topic message : List Char) : Prop where
  length : message.length = 12
  topic : ∃ rest a, (afterPrefix topicPrefix topic).bind afterSupla = some rest ∧
    suidEnd rest = some a ∧ rest.drop (a + 1) = "refresh_request".toList

theorem RefreshRequest.ne_nil (h : RefreshRequest topicPrefix topic message) :
    ¬ (topic = [] ∨ message = []) := by
  rintro (rfl | rfl)
  · obtain ⟨rest, a, hrest, -⟩ := h.topic
    obtain ⟨t, ht, hsupla⟩ := Option.bind_eq_some_iff.mp hrest
    rw [afterPrefix] at ht
    split at ht
    · cases ht
      rw [afterSupla, if_neg (by decide)] at hsupla
      cases hsupla
    · rw [if_pos (show ([] : List Char).length ≤ _ from Nat.zero_le _)] at ht
      cases ht
  · cases h.length

/-- A refresh request is answered where the message left by the last command is equal. -/
theorem setValue_refresh (h : RefreshRequest topicPrefix topic message) (s : ValueSetter) :
    (s.setValue topicPrefix setpoint topic message).2.isSome =
      lcEqual s.message "all_existing" := by
  obtain ⟨rest, a, hrest, hend, hrefresh⟩ := h.topic
  unfold ValueSetter.setValue
  simp only [if_neg h.ne_nil, hrest, hend, hrefresh, if_true, h.length, true_and]
  split
  · rename_i heq
    exact heq.symm
  · rename_i heq
    exact (Bool.not_eq_true _ ▸ heq).symm

/-- Everything else is read from the topic and the message. -/
theorem setValue_congr {s₁ s₂ : ValueSetter}
    (h : RefreshRequest topicPrefix topic message →
      lcEqual s₁.message "all_existing" = lcEqual s₂.message "all_existing") :
    (s₁.setValue topicPrefix setpoint topic message).2 =
      (s₂.setValue topicPrefix setpoint topic message).2 := by
  unfold ValueSetter.setValue
  simp only []
  split
  · rfl
  · split
    · rfl
    · rename_i rest hrest
      split
      · rfl
      · rename_i a hend
        split
        · rename_i hrefresh
          by_cases hlen : message.length = 12
          · have hsame : lcEqual s₁.suidFree.message "all_existing" =
                lcEqual s₂.suidFree.message "all_existing" :=
              h ⟨hlen, rest, a, hrest, hend, hrefresh⟩
            rw [hsame]
            split
            · exact ValueSetter.call_congr ⟨rfl, rfl, rfl⟩ _
            · rfl
          · rw [if_neg fun hc => hlen hc.1, if_neg fun hc => hlen hc.1]
        · exact ValueSetter.parseChannel_congr rfl

/-- **A command is interpreted from its topic and message alone**, after any two histories, unless
it is a refresh request: then it is if, and only if, what the two instances hold as the last
message is both times equal to `all_existing` as far as it goes, or both times not. -/
theorem interpreted_alone_iff (topicPrefix : List Char) (setpoint : List Char → Option Int)
    (history₁ history₂ : List SetterEvent) (topic message : List Char) :
    ((ValueSetter.after topicPrefix setpoint history₁).setValue topicPrefix setpoint topic
        message).2 =
      ((ValueSetter.after topicPrefix setpoint history₂).setValue topicPrefix setpoint topic
        message).2 ↔
    (RefreshRequest topicPrefix topic message →
      lcEqual (ValueSetter.after topicPrefix setpoint history₁).message "all_existing" =
        lcEqual (ValueSetter.after topicPrefix setpoint history₂).message "all_existing") := by
  constructor
  · intro heq h
    rw [← @setValue_refresh topicPrefix topic message setpoint h, heq, setValue_refresh h]
  · exact setValue_congr

/-- A request to refresh all, of the user `u`. -/
def refreshTopic : List Char := "supla/u/refresh_request".toList

/-- **A command before a refresh request takes its effect away**: a fresh instance answers the
request, one that has switched a channel on does not. -/
theorem refresh_after_set_on :
    ((ValueSetter.after [] (fun _ => none) []).setValue [] (fun _ => none) refreshTopic
      "ALL_EXISTING".toList).2 = some ⟨.refreshAllExisting, some ['u'], 0, 0⟩ ∧
    ((ValueSetter.after [] (fun _ => none)
      [.setValue "supla/u/devices/5/channels/9/set/on".toList ['1']]).setValue [] (fun _ => none)
        refreshTopic "ALL_EXISTING".toList).2 = none := by
  constructor <;> decide

end Mqtt
