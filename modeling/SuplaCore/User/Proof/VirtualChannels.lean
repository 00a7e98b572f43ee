import Mathlib.Data.List.Nodup
import SuplaCore.User.VirtualChannels

/-!
# No update is missed

The merge keeps one entry for each channel, takes every channel of the query and leaves the others
(`merge_spec`). The time that is set after it is later than everything it has read; so nothing is
missed as long as no row is written during an update or in the second in which the last one ended,
and no update that has something to read fails to reach the database (`not_missed`). A write in the
second of the last update is never read (`update_missed`).
-/

namespace User

open Sys

variable {V : Type}

/-! ## What has to hold -/

/-- **Nothing is missed**: what was written last is cached, or a later update still reads it; and
the cache holds each channel once. -/
structure UserDevices.NotMissed (s : UserDevices V) : Prop where
  fresh : ∀ r ∈ s.rows, r.channel ∈ s.virtualChannels ∨ s.updateTime < r.updateTime
  once : (s.virtualChannels.map (·.channelId)).Nodup

/-- An update can read what there is to read. -/
def UserDevices.Readable (s : UserDevices V) (reachable : Bool) : Prop :=
  reachable = true ∨ ∀ r ∈ s.rows, r.updateTime ≤ s.updateTime

/-- **The condition**: rows are written while no update is in progress and after the second in
which the last one ended, and the database is reached when there is something to read. -/
def Timely (s : UserDevices V) : Act V → Prop
  | .write _ => s.progress = .none ∧ s.updateTime < tvSec s.now
  | .update reachable => s.Readable reachable
  | .updateIfNeverUpdated reachable => s.Readable reachable
  | _ => True

/-! ## The merge -/

section
variable {it : VirtualChannel V} {cached cached' channels : List (VirtualChannel V)}

/-- The channel takes the place of the one with its id. -/
theorem assign_some (h : assign it cached = some cached') :
    cached'.map (·.channelId) = cached.map (·.channelId) ∧ it ∈ cached' ∧
      ∀ tit ∈ cached, tit.channelId ≠ it.channelId → tit ∈ cached' := by
  induction cached generalizing cached' with
  | nil => cases h
  | cons tit cached ih =>
    rw [assign] at h
    split at h
    · rename_i heq
      cases h
      refine ⟨by rw [List.map_cons, List.map_cons, heq], List.mem_cons_self, fun x hx hne => ?_⟩
      rcases List.mem_cons.mp hx with rfl | hx
      · exact absurd heq.symm hne
      · exact List.mem_cons_of_mem _ hx
    · obtain ⟨rest, hrest, rfl⟩ := Option.map_eq_some_iff.mp h
      obtain ⟨hids, hmem, hothers⟩ := ih hrest
      refine ⟨by rw [List.map_cons, List.map_cons, hids], List.mem_cons_of_mem _ hmem,
        fun x hx hne => ?_⟩
      rcases List.mem_cons.mp hx with rfl | hx
      · exact List.mem_cons_self
      · exact List.mem_cons_of_mem _ (hothers x hx hne)

theorem assign_none (h : assign it cached = none) : it.channelId ∉ cached.map (·.channelId) := by
  induction cached with
  | nil => exact List.not_mem_nil
  | cons tit cached ih =>
    rw [assign] at h
    split at h
    · cases h
    · rename_i hne
      rw [List.map_cons, List.mem_cons]
      rintro (heq | hmem)
      · exact hne heq
      · exact ih (Option.map_eq_none_iff.mp h) hmem

/-- What the first loop leaves of the query and makes of the cache. -/
structure Assigned (channels cached : List (VirtualChannel V))
    (r : List (VirtualChannel V) × List (VirtualChannel V)) : Prop where
  ids : r.2.map (·.channelId) = cached.map (·.channelId)
  left : r.1.Sublist channels
  unknown : ∀ it ∈ r.1, it.channelId ∉ cached.map (·.channelId)
  taken : ∀ it ∈ channels, it ∈ r.1 ∨ it ∈ r.2
  others : ∀ tit ∈ cached, tit.channelId ∉ channels.map (·.channelId) → tit ∈ r.2

theorem assignAll_spec (hnodup : (channels.map (·.channelId)).Nodup) :
    Assigned channels cached (assignAll channels cached) := by
  induction channels generalizing cached with
  | nil =>
    exact ⟨rfl, .refl _, fun _ h => (by cases h), fun _ h => (by cases h), fun tit h _ => h⟩
  | cons it channels ih =>
    rw [List.map_cons, List.nodup_cons] at hnodup
    rw [assignAll]
    split
    · rename_i cached' hassign
      obtain ⟨hids, hmem, hothers⟩ := assign_some hassign
      have hrest := @ih cached' hnodup.2
      refine ⟨hrest.ids.trans hids, hrest.left.cons _, fun x hx => ?_, fun x hx => ?_,
        fun tit htit hnot => ?_⟩
      · rw [← hids]
        exact hrest.unknown x hx
      · rcases List.mem_cons.mp hx with rfl | hx
        · exact .inr (hrest.others x hmem hnodup.1)
        · exact hrest.taken x hx
      · rw [List.map_cons, List.mem_cons, not_or] at hnot
        exact hrest.others tit (hothers tit htit hnot.1) hnot.2
    · rename_i hassign
      have hrest := @ih cached hnodup.2
      refine ⟨hrest.ids, hrest.left.cons_cons _, fun x hx => ?_, fun x hx => ?_,
        fun tit htit hnot => ?_⟩
      · rcases List.mem_cons.mp hx with rfl | hx
        · exact assign_none hassign
        · exact hrest.unknown x hx
      · rcases List.mem_cons.mp hx with rfl | hx
        · exact .inl List.mem_cons_self
        · exact (hrest.taken x hx).imp_left (List.mem_cons_of_mem _)
      · rw [List.map_cons, List.mem_cons, not_or] at hnot
        exact hrest.others tit htit hnot.2

/-- **The merge** takes the channels of the query and keeps the others, each channel once. -/
theorem merge_spec (hnodup : (channels.map (·.channelId)).Nodup)
    (hcached : (cached.map (·.channelId)).Nodup) :
    ((merge channels cached).map (·.channelId)).Nodup ∧
      (∀ it ∈ channels, it ∈ merge channels cached) ∧
        ∀ tit ∈ cached, tit.channelId ∉ channels.map (·.channelId) →
          tit ∈ merge channels cached := by
  have h := @assignAll_spec V cached channels hnodup
  refine ⟨?_, fun it hit => ?_, fun tit htit hnot => ?_⟩
  · rw [merge, List.map_append, h.ids, List.nodup_append]
    refine ⟨hcached, hnodup.sublist (h.left.map _), fun id hid id' hid' heq => ?_⟩
    obtain ⟨it, hit, rfl⟩ := List.mem_map.mp hid'
    exact h.unknown it hit (heq ▸ hid)
  · exact List.mem_append.mpr (h.taken it hit).symm
  · exact List.mem_append_left _ (h.others tit htit hnot)

end

/-! ## Rows -/

section
variable {r row : Row V} {rows : List (Row V)}

theorem mem_writeRow (h : row ∈ writeRow r rows) : row = r ∨ row ∈ rows := by
  induction rows with
  | nil => exact .inl (List.mem_singleton.mp h)
  | cons row' rows ih =>
    rw [writeRow] at h
    split at h
    · exact (List.mem_cons.mp h).imp_right (List.mem_cons_of_mem _)
    · rcases List.mem_cons.mp h with rfl | h
      · exact .inr List.mem_cons_self
      · exact (ih h).imp_right (List.mem_cons_of_mem _)

theorem writeRow_nodup (h : (rows.map (·.channel.channelId)).Nodup) :
    ((writeRow r rows).map (·.channel.channelId)).Nodup := by
  induction rows with
  | nil => exact List.nodup_singleton _
  | cons row rows ih =>
    rw [List.map_cons, List.nodup_cons] at h
    rw [writeRow]
    split
    · rename_i heq
      rw [List.map_cons, List.nodup_cons, ← heq]
      exact h
    · rename_i hne
      rw [List.map_cons, List.nodup_cons]
      refine ⟨fun hmem => ?_, ih h.2⟩
      obtain ⟨row', hrow', heq⟩ := List.mem_map.mp hmem
      rcases mem_writeRow hrow' with rfl | hold
      · exact hne heq.symm
      · exact h.1 (List.mem_map.mpr ⟨row', hold, heq⟩)

theorem getVirtualChannels_nodup (since : Nat) (h : (rows.map (·.channel.channelId)).Nodup) :
    ((getVirtualChannels since rows).map (·.channelId)).Nodup := by
  rw [getVirtualChannels, List.map_map]
  exact h.sublist (List.filter_sublist.map _)

end

/-! ## The invariant -/

/-- The query has what is not cached, or everything is cached. -/
def UserDevices.Covered (s : UserDevices V) : Prop :=
  match s.progress with
  | .none => ∀ r ∈ s.rows, r.channel ∈ s.virtualChannels ∨ s.updateTime < r.updateTime
  | .queried channels => (channels.map (·.channelId)).Nodup ∧ ∀ r ∈ s.rows,
      r.channel ∈ channels ∨
        r.channel ∈ s.virtualChannels ∧ r.channel.channelId ∉ channels.map (·.channelId)
  | .merged => ∀ r ∈ s.rows, r.channel ∈ s.virtualChannels

structure Inv (s : UserDevices V) : Prop where
  rows : (s.rows.map (·.channel.channelId)).Nodup
  once : (s.virtualChannels.map (·.channelId)).Nodup
  covered : s.Covered

section
variable {s s' : UserDevices V}

theorem Inv.init (h : (userDevices V).init s) : Inv s := by
  obtain ⟨hrows, htimes, hcached, htime, hprogress⟩ := h
  refine ⟨hrows, by rw [hcached]; exact List.nodup_nil, ?_⟩
  rw [UserDevices.Covered, hprogress]
  intro r hr
  rw [htime]
  exact .inr (htimes r hr).1

/-- The rows that the query leaves out are cached. -/
theorem Inv.query (h : Inv s) (hprogress : s.progress = .none) {reachable : Bool}
    (hok : s.Readable reachable) : Inv (s.query reachable) := by
  have hcovered := h.covered
  rw [UserDevices.Covered, hprogress] at hcovered
  refine ⟨h.rows, h.once, ?_⟩
  cases reachable with
  | false =>
    have hread := hok.resolve_left Bool.false_ne_true
    refine ⟨List.nodup_nil, fun r hr => .inr ⟨?_, List.not_mem_nil⟩⟩
    exact (hcovered r hr).resolve_right (Nat.not_lt_of_le (hread r hr))
  | true =>
    refine ⟨getVirtualChannels_nodup _ h.rows, fun r hr => ?_⟩
    by_cases hnew : s.updateTime < r.updateTime
    · exact .inl (List.mem_map.mpr ⟨r, List.mem_filter.mpr ⟨hr, decide_eq_true hnew⟩, rfl⟩)
    · refine .inr ⟨(hcovered r hr).resolve_right hnew, fun hmem => ?_⟩
      obtain ⟨it, hit, hid⟩ := List.mem_map.mp hmem
      obtain ⟨r', hr', rfl⟩ := List.mem_map.mp hit
      obtain ⟨hr', hnew'⟩ := List.mem_filter.mp hr'
      -- rows of one channel are the same row
      have heq : r' = r := List.inj_on_of_nodup_map h.rows hr' hr hid
      exact hnew (heq ▸ of_decide_eq_true hnew')

theorem Inv.step {a : Act V} (hok : Timely s a) (h : Inv s)
    (hs : (userDevices V).step s a = some s') : Inv s' := by
  cases a with
  | tick us =>
    cases hs
    exact ⟨h.rows, h.once, h.covered⟩
  | write channel =>
    cases hs
    obtain ⟨hprogress, hlate⟩ := hok
    have hcovered := h.covered
    rw [UserDevices.Covered, hprogress] at hcovered
    refine ⟨writeRow_nodup h.rows, h.once, ?_⟩
    rw [UserDevices.Covered, hprogress]
    intro r hr
    rcases mem_writeRow hr with rfl | hr
    · exact .inr hlate
    · exact hcovered r hr
  | update reachable =>
    simp only [userDevices, UserDevices.step] at hs
    split at hs
    · rename_i hprogress
      cases hs
      exact h.query hprogress hok
    · cases hs
  | updateIfNeverUpdated reachable =>
    simp only [userDevices, UserDevices.step] at hs
    split at hs
    · rename_i hprogress
      split at hs
      · cases hs
        exact h.query hprogress hok
      · cases hs
        exact h
    · cases hs
  | merge =>
    simp only [userDevices, UserDevices.step] at hs
    split at hs
    · rename_i channels hprogress
      cases hs
      have hcovered := h.covered
      rw [UserDevices.Covered, hprogress] at hcovered
      obtain ⟨hnodup, hrows⟩ := hcovered
      obtain ⟨honce, htaken, hothers⟩ := merge_spec hnodup h.once
      refine ⟨h.rows, honce, fun r hr => ?_⟩
      rcases hrows r hr with hmem | ⟨hmem, hnot⟩
      · exact htaken _ hmem
      · exact hothers _ hmem hnot
    · cases hs
  | stamp =>
    simp only [userDevices, UserDevices.step] at hs
    split at hs
    · rename_i hprogress
      cases hs
      have hcovered := h.covered
      rw [UserDevices.Covered, hprogress] at hcovered
      exact ⟨h.rows, h.once, fun r hr => .inl (hcovered r hr)⟩
    · cases hs

end

/-- **No virtual channel update is missed** in the runs that meet the condition. -/
theorem not_missed (s : UserDevices V) (h : Reach (userDevices V) Timely s)
    (hidle : s.progress = .none) : s.NotMissed := by
  have hinv : Inv s := h.invariant (P := Inv) (fun _ => Inv.init) Inv.step
  have hcovered := hinv.covered
  rw [UserDevices.Covered, hidle] at hcovered
  exact ⟨hcovered, hinv.once⟩

/-! ## Scenarios -/

/-- A user without channels, ten seconds after the start of the clock. -/
def noChannels : UserDevices Nat := ⟨10000000, [], [], 0, .none⟩

theorem noChannels_init : (userDevices Nat).init noChannels :=
  ⟨List.nodup_nil, fun _ h => (by cases h), rfl, rfl, rfl⟩

/-- A value is written and read, and a second later another one is written. -/
theorem not_missed_later : ∃ s, Reach (userDevices Nat) Timely s ∧ s.rows = [⟨⟨1, 6⟩, 11⟩] ∧
    s.NotMissed := by
  have hinit : Reach (userDevices Nat) Timely _ := .init noChannels_init
  have hfirst := hinit.act (.write ⟨1, 5⟩) ⟨rfl, by decide⟩ rfl
  have hread := ((hfirst.act (.updateIfNeverUpdated true) (Or.inl rfl) rfl).act .merge trivial
    rfl).act .stamp trivial rfl
  have hlater := hread.act (.tick 1000000) trivial rfl
  have hwritten := hlater.act (.write ⟨1, 6⟩) ⟨rfl, by decide⟩ rfl
  exact ⟨_, hwritten, by decide, not_missed _ hwritten rfl⟩

/-- **An update is missed**: a value is written in the second in which the last update ended. -/
theorem update_missed : ∃ s, Reach (userDevices Nat) Any s ∧ s.progress = .none ∧
    ¬ s.NotMissed := by
  have hrun : (userDevices Nat).run noChannels
    [.update true, .merge, .stamp, .tick 500000, .write ⟨1, 5⟩] = some _ := rfl
  refine ⟨_, Reach.run (.init noChannels_init) hrun, rfl, fun hmissed => ?_⟩
  exact absurd (hmissed.fresh ⟨⟨1, 5⟩, 10⟩ (by decide)) (by decide)

end User
