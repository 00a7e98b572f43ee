import SuplaCore.Vbt.Fire

/-!
# The rate of the firings

A try is compared with the one before it, so two firings that are executed are far enough apart
(`SpacedInv`). The windows do not overlap and have no fixed length: one begins with the firing that
ends the last one, and its time is taken at the firing after that. So at most `fire_count_limit`
firings are executed in each, and all but the last `fire_count_limit - 1` of them are not later than
the time that was taken (`WindowInv.started`), which is why twice the limit spans a whole window.
-/

namespace Vbt

open Sys

variable {l : Limits} {s s' : Fired} {now : TimeVal}

/-- The values of the limits that are not switched off. -/
structure Limits.Positive (l : Limits) : Prop where
  minTime : 0 < l.minTimeBetweenFiringUsec
  count : 0 < l.fireCountLimit
  count_lt : l.fireCountLimit < uintSize
  window : 0 < l.timeWindowSec

/-- No call comes before an earlier one. -/
def InOrder (s : Fired) (now : TimeVal) : Prop := ∀ e ∈ s.log, e.1.usecs ≤ now.usecs

/-! ## What a call does -/

/-- The try is late enough to be counted. -/
def Limiter.Counts (l : Limits) (s : Limiter) (now : TimeVal) : Prop :=
  l.minTimeBetweenFiringUsec < now.usecs - s.lastFireTryTime.usecs

/-- The window is over. -/
def Limiter.Resets (l : Limits) (s : Limiter) (now : TimeVal) : Prop :=
  s.firstFireTime.sec ≠ 0 ∧ l.timeWindowSec ≤ now.sec - s.firstFireTime.sec

/-- The counter has a value for the try. -/
def NoWrap (l : Limits) (s : Fired) (now : TimeVal) : Prop :=
  s.limiter.Counts l now → ¬ s.limiter.Resets l now → s.limiter.fireCounter + 1 < uintSize

/-- The time of the window of a try that is counted in it. -/
def Limiter.windowStart (s : Limiter) (now : TimeVal) : TimeVal :=
  if s.firstFireTime.sec = 0 then now else s.firstFireTime

/-- The ways a call can go, with limits that are not switched off and a counter that does not
wrap. -/
inductive Fires (l : Limits) (s : Limiter) (now : TimeVal) : Limiter → Outcome → Prop
  | tooFast : ¬ s.Counts l now → Fires l s now { s with lastFireTryTime := now } .tooFast
  | reset : s.Counts l now → s.Resets l now → Fires l s now ⟨.zero, now, 1⟩ .executed
  | executed : s.Counts l now → ¬ s.Resets l now → s.fireCounter + 1 ≤ l.fireCountLimit →
      Fires l s now ⟨s.windowStart now, now, s.fireCounter + 1⟩ .executed
  | exceeded : s.Counts l now → ¬ s.Resets l now → s.fireCounter = l.fireCountLimit →
      Fires l s now ⟨now, now, s.fireCounter + 1⟩ .exceeded
  | ignored : s.Counts l now → ¬ s.Resets l now → l.fireCountLimit < s.fireCounter →
      Fires l s now ⟨s.windowStart now, now, s.fireCounter + 1⟩ .ignored

/-- A call notes its time, and executes nothing that is too fast. -/
theorem Limiter.fire_spaced (hl : l.Positive) (s : Limiter) (now : TimeVal) :
    (s.fire l now).1.lastFireTryTime = now ∧
      ((s.fire l now).2 = .executed → s.Counts l now) := by
  have hmin : l.minTimeBetweenFiringUsec ≠ 0 := Int.ne_of_gt hl.minTime
  have hlast : ∀ s : Limiter, (s.count l now).lastFireTryTime = s.lastFireTryTime := by
    intro s
    simp only [Limiter.count]
    split
    · rfl
    · split <;> rfl
  unfold Limiter.fire
  split
  · exact ⟨rfl, fun h => by cases h⟩
  · rename_i hlate
    rw [not_and] at hlate
    have hcounts : s.Counts l now := Int.not_le.mp (hlate hmin)
    dsimp only
    split
    · split
      · split
        · exact ⟨hlast _, fun _ => hcounts⟩
        · exact ⟨hlast _, fun _ => hcounts⟩
      · exact ⟨hlast _, fun _ => hcounts⟩
    · exact ⟨rfl, fun _ => hcounts⟩

theorem Limiter.fires (hl : l.Positive) (s : Limiter) (now : TimeVal)
    (hwrap : s.Counts l now → ¬ s.Resets l now → s.fireCounter + 1 < uintSize) :
    Fires l s now (s.fire l now).1 (s.fire l now).2 := by
  have hmin : l.minTimeBetweenFiringUsec ≠ 0 := Int.ne_of_gt hl.minTime
  have hcount : l.fireCountLimit ≠ 0 := Nat.pos_iff_ne_zero.mp hl.count
  by_cases hcounts : s.Counts l now
  · have hlate : ¬ (l.minTimeBetweenFiringUsec ≠ 0 ∧
        now.usecs - s.lastFireTryTime.usecs ≤ l.minTimeBetweenFiringUsec) :=
      fun h => absurd h.2 (Int.not_le.mpr hcounts)
    by_cases hreset : s.Resets l now
    · have hfire : s.fire l now = (⟨.zero, now, 1⟩, .executed) := by
        have hone : ¬ 1 > l.fireCountLimit := Nat.not_lt.mpr hl.count
        simp only [Limiter.fire, if_neg hlate, if_pos hmin, if_pos hcount, Limiter.count,
          if_neg hreset.1, ge_iff_le, if_pos hreset.2]
        exact if_neg hone
      rw [hfire]
      exact .reset hcounts hreset
    · have hcounter : (s.fireCounter + 1) % uintSize = s.fireCounter + 1 :=
        Nat.mod_eq_of_lt (hwrap hcounts hreset)
      have hwindow : Limiter.count l now { s with lastFireTryTime := now } =
          ⟨s.windowStart now, now, s.fireCounter + 1⟩ := by
        unfold Limiter.windowStart
        by_cases hfirst : s.firstFireTime.sec = 0
        · simp only [Limiter.count, if_pos hfirst, hcounter]
        · have hin : ¬ now.sec - s.firstFireTime.sec ≥ l.timeWindowSec :=
            fun h => hreset ⟨hfirst, h⟩
          simp only [Limiter.count, if_neg hfirst, if_neg hin, hcounter]
      have hfire : s.fire l now =
          if s.fireCounter + 1 > l.fireCountLimit then
            if s.fireCounter + 1 = (l.fireCountLimit + 1) % uintSize then
              (⟨now, now, s.fireCounter + 1⟩, .exceeded)
            else (⟨s.windowStart now, now, s.fireCounter + 1⟩, .ignored)
          else (⟨s.windowStart now, now, s.fireCounter + 1⟩, .executed) := by
        simp only [Limiter.fire, if_neg hlate, if_pos hmin, if_pos hcount, hwindow]
      rw [hfire]
      split
      · rename_i hover
        have hlt := hwrap hcounts hreset
        rw [Nat.mod_eq_of_lt (by omega)]
        split
        · exact .exceeded hcounts hreset (by omega)
        · exact .ignored hcounts hreset (by omega)
      · exact .executed hcounts hreset (by omega)
  · have hearly : l.minTimeBetweenFiringUsec ≠ 0 ∧
        now.usecs - s.lastFireTryTime.usecs ≤ l.minTimeBetweenFiringUsec :=
      ⟨hmin, Int.not_lt.mp hcounts⟩
    have hfire : s.fire l now = ({ s with lastFireTryTime := now }, .tooFast) := if_pos hearly
    rw [hfire]
    exact .tooFast hcounts

/-! ## The log -/

/-- The state after a call. -/
def Fired.call (l : Limits) (now : TimeVal) (s : Fired) : Fired :=
  ⟨(s.limiter.fire l now).1, s.log ++ [(now, (s.limiter.fire l now).2)]⟩

theorem executed_append (lim : Limiter) (log : List (TimeVal × Outcome)) (now : TimeVal)
    (o : Outcome) : Fired.executed ⟨lim, log ++ [(now, o)]⟩ =
      Fired.executed ⟨lim, log⟩ ++ if o = .executed then [now] else [] := by
  unfold Fired.executed
  rw [List.filter_append, List.map_append]
  by_cases ho : o = .executed
  · rw [if_pos ho, ho]
    rfl
  · rw [if_neg ho, List.filter_cons_of_neg (by rw [decide_eq_true_iff]; exact ho)]
    rfl

theorem mem_log_of_executed {t : TimeVal} (ht : t ∈ s.executed) : ∃ e ∈ s.log, e.1 = t := by
  obtain ⟨e, he, rfl⟩ := List.mem_map.mp ht
  exact ⟨e, List.mem_of_mem_filter he, rfl⟩

theorem InOrder.executed (h : InOrder s now) {t : TimeVal} (ht : t ∈ s.executed) :
    t.sec ≤ now.sec := by
  obtain ⟨e, he, rfl⟩ := mem_log_of_executed ht
  exact TimeVal.sec_le (h e he)

/-! ## The minimum time -/

/-- Any two firings that are executed are more than the minimum time apart. -/
def Fired.Spaced (l : Limits) (s : Fired) : Prop :=
  s.executed.Pairwise fun a b => l.minTimeBetweenFiringUsec < b.usecs - a.usecs

structure SpacedInv (l : Limits) (s : Fired) : Prop where
  lastTry : ∀ e ∈ s.log, e.1.usecs ≤ s.limiter.lastFireTryTime.usecs
  spaced : s.Spaced l

theorem SpacedInv.call (hl : l.Positive) (h : SpacedInv l s) (horder : InOrder s now) :
    SpacedInv l (s.call l now) := by
  obtain ⟨hlast, hcounts⟩ := Limiter.fire_spaced hl s.limiter now
  refine ⟨fun e he => ?_, ?_⟩
  · simp only [Fired.call, hlast]
    rcases List.mem_append.mp he with hmem | hnew
    · exact horder e hmem
    · exact Int.le_of_eq (congrArg (fun e => e.1.usecs) (List.mem_singleton.mp hnew))
  · rw [Fired.Spaced, Fired.call, executed_append]
    split
    · rename_i hexec
      refine List.pairwise_append.mpr ⟨h.spaced, List.pairwise_singleton _ _, ?_⟩
      intro a ha b hb
      obtain rfl := List.mem_singleton.mp hb
      obtain ⟨e, he, rfl⟩ := mem_log_of_executed ha
      have hlate : l.minTimeBetweenFiringUsec < b.usecs - s.limiter.lastFireTryTime.usecs :=
        hcounts hexec
      have hearlier := h.lastTry e he
      omega
    · rw [List.append_nil]
      exact h.spaced

/-! ## The windows -/

/-- Twice as many firings as the limit span a window of time. -/
def Fired.Windowed (l : Limits) (s : Fired) : Prop :=
  ∀ (i : Nat) (a b : TimeVal), s.executed[i]? = some a →
    s.executed[i + (2 * l.fireCountLimit - 1)]? = some b → a.sec + l.timeWindowSec ≤ b.sec

/-- Nothing is executed for a window of time after a firing that exceeds the limit. -/
def Fired.Blocked (l : Limits) (s : Fired) : Prop :=
  s.log.Pairwise fun a b =>
    a.2 = .exceeded → b.2 = .executed → a.1.sec + l.timeWindowSec ≤ b.1.sec

/-- The firings that were executed in the window that is open. -/
def Limiter.inWindow (l : Limits) (s : Limiter) : Nat := min s.fireCounter l.fireCountLimit

structure WindowInv (l : Limits) (s : Fired) : Prop where
  counted : s.limiter.firstFireTime.sec ≠ 0 → 0 < s.limiter.fireCounter
  /-- All but the last firings of the open window are not later than its time. -/
  started : s.limiter.firstFireTime.sec ≠ 0 →
    ∀ t ∈ s.executed.take (s.executed.length - (s.limiter.inWindow l - 1)),
      t.sec ≤ s.limiter.firstFireTime.sec
  /-- A whole window ended after the firings that are far enough behind. -/
  ended : ∀ t ∈ s.executed.take
      (s.executed.length - (s.limiter.inWindow l + (l.fireCountLimit - 1))),
    ∃ e ∈ s.log, t.sec + l.timeWindowSec ≤ e.1.sec
  /-- So did one after a firing that exceeded the limit, unless it is still open. -/
  exceeded : ∀ e ∈ s.log, e.2 = .exceeded →
    (∃ e' ∈ s.log, e.1.sec + l.timeWindowSec ≤ e'.1.sec) ∨
      l.fireCountLimit < s.limiter.fireCounter ∧
        (s.limiter.firstFireTime.sec ≠ 0 → e.1.sec ≤ s.limiter.firstFireTime.sec)
  windowed : s.Windowed l
  blocked : s.Blocked l

/-- One more firing that is executed. -/
theorem Fired.Windowed.append (hl : l.Positive) (h : s.Windowed l) {lim : Limiter}
    (hnow : ∀ t ∈ s.executed.take (s.executed.length - (2 * l.fireCountLimit - 2)),
      t.sec + l.timeWindowSec ≤ now.sec) :
    Fired.Windowed l ⟨lim, s.log ++ [(now, .executed)]⟩ := by
  have hpos := hl.count
  have hexec : Fired.executed ⟨lim, s.log ++ [(now, .executed)]⟩ = s.executed ++ [now] :=
    executed_append lim s.log now .executed
  rw [Fired.Windowed, hexec]
  intro i a b ha hb
  by_cases hin : i + (2 * l.fireCountLimit - 1) < s.executed.length
  · rw [List.getElem?_append_left (by omega)] at ha
    rw [List.getElem?_append_left hin] at hb
    exact h i a b ha hb
  · have hlast : i + (2 * l.fireCountLimit - 1) = s.executed.length := by
      have hlt := (List.getElem?_eq_some_iff.mp hb).1
      rw [List.length_append, List.length_singleton] at hlt
      omega
    rw [hlast, List.getElem?_concat_length] at hb
    cases hb
    rw [List.getElem?_append_left (by omega)] at ha
    refine hnow a (List.mem_of_getElem? (i := i) ?_)
    rw [List.getElem?_take_of_lt (by omega)]
    exact ha

/-- A call that executes nothing. -/
theorem WindowInv.idle (h : WindowInv l s) (hlater : ∀ e ∈ s.log, e.1.sec ≤ now.sec)
    {lim : Limiter} {o : Outcome} (ho : o ≠ .executed)
    (hcounted : lim.firstFireTime.sec ≠ 0 → 0 < lim.fireCounter)
    (hwindow : lim.inWindow l = s.limiter.inWindow l)
    (hstarted : lim.firstFireTime.sec ≠ 0 →
      ∀ t ∈ s.executed.take (s.executed.length - (s.limiter.inWindow l - 1)),
        t.sec ≤ lim.firstFireTime.sec)
    (hopen : ∀ t : TimeVal, t.sec ≤ now.sec → l.fireCountLimit < s.limiter.fireCounter ∧
        (s.limiter.firstFireTime.sec ≠ 0 → t.sec ≤ s.limiter.firstFireTime.sec) →
      l.fireCountLimit < lim.fireCounter ∧
        (lim.firstFireTime.sec ≠ 0 → t.sec ≤ lim.firstFireTime.sec))
    (hnew : o = .exceeded → l.fireCountLimit < lim.fireCounter ∧
      (lim.firstFireTime.sec ≠ 0 → now.sec ≤ lim.firstFireTime.sec)) :
    WindowInv l ⟨lim, s.log ++ [(now, o)]⟩ := by
  have hexec : Fired.executed ⟨lim, s.log ++ [(now, o)]⟩ = s.executed := by
    rw [executed_append, if_neg ho, List.append_nil]
    rfl
  refine ⟨hcounted, ?_, ?_, ?_, ?_, ?_⟩
  · rw [hexec, hwindow]
    exact hstarted
  · rw [hexec, hwindow]
    intro t ht
    obtain ⟨e, he, hle⟩ := h.ended t ht
    exact ⟨e, List.mem_append_left _ he, hle⟩
  · intro e he hout
    rcases List.mem_append.mp he with hmem | hlast
    · rcases h.exceeded e hmem hout with ⟨e', he', hle⟩ | hstill
      · exact .inl ⟨e', List.mem_append_left _ he', hle⟩
      · exact .inr (hopen e.1 (hlater e hmem) hstill)
    · rw [List.mem_singleton.mp hlast] at hout ⊢
      exact .inr (hnew hout)
  · rw [Fired.Windowed, hexec]
    exact h.windowed
  · refine List.pairwise_append.mpr ⟨h.blocked, List.pairwise_singleton _ _, ?_⟩
    intro a _ b hb _ hbexec
    rw [List.mem_singleton.mp hb] at hbexec
    exact absurd hbexec ho

/-- A call that executes the action. -/
theorem WindowInv.fired (hl : l.Positive) (h : WindowInv l s)
    (hlater : ∀ e ∈ s.log, e.1.sec ≤ now.sec) {lim : Limiter}
    (hcounted : lim.firstFireTime.sec ≠ 0 → 0 < lim.fireCounter)
    (hstarted : lim.firstFireTime.sec ≠ 0 →
      ∀ t ∈ (s.executed ++ [now]).take (s.executed.length + 1 - (lim.inWindow l - 1)),
        t.sec ≤ lim.firstFireTime.sec)
    (hended : ∀ t ∈ s.executed.take
        (s.executed.length + 1 - (lim.inWindow l + (l.fireCountLimit - 1))),
      t.sec + l.timeWindowSec ≤ now.sec)
    (hinWindow : 0 < lim.inWindow l ∧ lim.inWindow l ≤ l.fireCountLimit)
    (hover : ∀ t : TimeVal, l.fireCountLimit < s.limiter.fireCounter ∧
        (s.limiter.firstFireTime.sec ≠ 0 → t.sec ≤ s.limiter.firstFireTime.sec) →
      t.sec + l.timeWindowSec ≤ now.sec) :
    WindowInv l ⟨lim, s.log ++ [(now, .executed)]⟩ := by
  have hpos := hl.count
  have hexec : Fired.executed ⟨lim, s.log ++ [(now, .executed)]⟩ = s.executed ++ [now] :=
    executed_append lim s.log now .executed
  have hnew : (now, Outcome.executed) ∈ s.log ++ [(now, .executed)] :=
    List.mem_append_right _ (List.mem_singleton_self _)
  have hexceeded : ∀ e ∈ s.log, e.2 = .exceeded → e.1.sec + l.timeWindowSec ≤ now.sec := by
    intro e he hout
    rcases h.exceeded e he hout with ⟨e', he', hle⟩ | hstill
    · exact Int.le_trans hle (hlater e' he')
    · exact hover e.1 hstill
  refine ⟨hcounted, ?_, ?_, ?_, ?_, ?_⟩
  · rw [hexec, List.length_append, List.length_singleton]
    exact hstarted
  · have hle : s.executed.length + 1 - (lim.inWindow l + (l.fireCountLimit - 1)) ≤
        s.executed.length := by omega
    rw [hexec, List.length_append, List.length_singleton, List.take_append_of_le_length hle]
    exact fun t ht => ⟨_, hnew, hended t ht⟩
  · intro e he hout
    rcases List.mem_append.mp he with hmem | hlast
    · exact .inl ⟨_, hnew, hexceeded e hmem hout⟩
    · rw [List.mem_singleton.mp hlast] at hout
      cases hout
  · refine h.windowed.append hl fun t ht => hended t ?_
    exact List.take_subset_take_left _ (by omega) ht
  · refine List.pairwise_append.mpr ⟨h.blocked, List.pairwise_singleton _ _, ?_⟩
    intro a ha b hb haout _
    rw [List.mem_singleton.mp hb]
    exact hexceeded a ha haout

/-- What is not later than the time of an open window is not later than that of the next try. -/
theorem windowStart_le {lim : Limiter} {t : TimeVal} (hnow : t.sec ≤ now.sec)
    (hold : lim.firstFireTime.sec ≠ 0 → t.sec ≤ lim.firstFireTime.sec) :
    t.sec ≤ (lim.windowStart now).sec := by
  unfold Limiter.windowStart
  split
  · exact hnow
  · rename_i hfirst
    exact hold hfirst

/-- **A call keeps the windows**, unless the counter wraps. -/
theorem WindowInv.call (hl : l.Positive) (h : WindowInv l s) (horder : InOrder s now)
    (hwrap : NoWrap l s now) : WindowInv l (s.call l now) := by
  have hpos := hl.count
  have hfires := Limiter.fires hl s.limiter now hwrap
  have hlater : ∀ e ∈ s.log, e.1.sec ≤ now.sec := fun e he => TimeVal.sec_le (horder e he)
  unfold Fired.call
  generalize (s.limiter.fire l now).1 = lim, (s.limiter.fire l now).2 = o at hfires ⊢
  cases hfires with
  | tooFast _ =>
    exact h.idle hlater (by decide) h.counted rfl h.started (fun _ _ hopen => hopen)
      fun hout => by cases hout
  | reset _ hreset =>
    obtain ⟨hfirst, hover⟩ := hreset
    have hone : Limiter.inWindow l ⟨.zero, now, 1⟩ = 1 := Nat.min_eq_left hpos
    have hc : s.limiter.inWindow l ≤ l.fireCountLimit := Nat.min_le_right _ _
    refine h.fired hl hlater (fun hne => absurd rfl hne) (fun hne => absurd rfl hne) ?_ ?_ ?_
    · rw [hone]
      intro t ht
      have hle := h.started hfirst t (List.take_subset_take_left _ (by omega) ht)
      omega
    · rw [hone]
      exact ⟨Nat.one_pos, hpos⟩
    · rintro t ⟨-, hopen⟩
      have hle := hopen hfirst
      omega
  | executed _ _ hroom =>
    have hc : s.limiter.inWindow l = s.limiter.fireCounter :=
      Nat.min_eq_left (Nat.le_of_succ_le hroom)
    have hc' : Limiter.inWindow l ⟨s.limiter.windowStart now, now, s.limiter.fireCounter + 1⟩ =
        s.limiter.fireCounter + 1 := Nat.min_eq_left hroom
    refine h.fired hl hlater (fun _ => Nat.succ_pos _) (fun _ t ht => ?_) ?_ ?_ ?_
    · rw [hc'] at ht
      by_cases hfirst : s.limiter.firstFireTime.sec = 0
      · refine windowStart_le ?_ fun hne => absurd hfirst hne
        rcases List.mem_append.mp (List.mem_of_mem_take ht) with hmem | hnew
        · exact horder.executed hmem
        · exact Int.le_of_eq (congrArg TimeVal.sec (List.mem_singleton.mp hnew))
      · have hcount := h.counted hfirst
        rw [List.take_append_of_le_length (by omega)] at ht
        have hold := h.started hfirst t (by
          rw [hc]
          exact List.take_subset_take_left _ (by omega) ht)
        exact windowStart_le (horder.executed (List.mem_of_mem_take ht)) fun _ => hold
    · rw [hc']
      intro t ht
      obtain ⟨e, he, hle⟩ := h.ended t (by
        rw [hc]
        exact List.take_subset_take_left _ (by omega) ht)
      exact Int.le_trans hle (hlater e he)
    · rw [hc']
      exact ⟨Nat.succ_pos _, hroom⟩
    · rintro t ⟨hover, -⟩
      omega
  | exceeded _ _ hfull =>
    have hc : Limiter.inWindow l ⟨now, now, s.limiter.fireCounter + 1⟩ = s.limiter.inWindow l := by
      simp only [Limiter.inWindow]
      omega
    refine h.idle hlater (by decide) (fun _ => Nat.succ_pos _) hc (fun _ t ht => ?_) ?_ fun _ => ?_
    · exact horder.executed (List.mem_of_mem_take ht)
    · rintro t - ⟨hover, -⟩
      omega
    · exact ⟨Nat.lt_succ_of_le (Nat.le_of_eq hfull.symm), fun _ => Int.le_refl _⟩
  | ignored _ _ hover =>
    have hc : Limiter.inWindow l ⟨s.limiter.windowStart now, now, s.limiter.fireCounter + 1⟩ =
        s.limiter.inWindow l := by
      simp only [Limiter.inWindow]
      omega
    refine h.idle hlater (by decide) (fun _ => Nat.succ_pos _) hc (fun _ t ht => ?_) ?_
      fun hout => by cases hout
    · exact windowStart_le (horder.executed (List.mem_of_mem_take ht)) fun hne =>
        h.started hne t ht
    · rintro t ht ⟨-, hopen⟩
      exact ⟨Nat.lt_succ_of_lt hover, fun _ => windowStart_le ht hopen⟩

/-! ## All runs -/

/-- **The rate of the firings**: any two are more than the minimum time apart; and as long as the
counter of the tries does not wrap, twice as many firings as the limit span a window of time, and
nothing is executed for a window of time after a firing that exceeds the limit. -/
theorem rate_limited (hl : l.Positive) :
    (∀ s, Reach (firing l) InOrder s → s.Spaced l) ∧
      ∀ s, Reach (firing l) (fun s now => InOrder s now ∧ NoWrap l s now) s →
        s.Windowed l ∧ s.Blocked l := by
  constructor
  · intro s h
    refine (h.invariant (P := SpacedInv l) ?_ fun horder hinv hs => ?_).spaced
    · rintro s rfl
      exact ⟨fun e he => absurd he List.not_mem_nil, List.Pairwise.nil⟩
    · cases hs
      exact hinv.call hl horder
  · intro s h
    have hinv : WindowInv l s := by
      refine h.invariant (P := WindowInv l) ?_ fun hok hinv hs => ?_
      · rintro s rfl
        refine ⟨fun hne => absurd rfl hne, fun hne => absurd rfl hne, ?_, ?_, ?_, ?_⟩
        · exact fun t ht => absurd (List.mem_of_mem_take ht) List.not_mem_nil
        · exact fun e he => absurd he List.not_mem_nil
        · exact fun i a b ha => by cases ha
        · exact List.Pairwise.nil
      · cases hs
        exact hinv.call hl hok.1 hok.2
    exact ⟨hinv.windowed, hinv.blocked⟩

/-! ## A burst -/

/-- A call that is in order, with a counter that has room. -/
def allowed (s : Fired) (now : TimeVal) : Bool :=
  s.log.all (fun e => decide (e.1.usecs ≤ now.usecs)) &&
    decide (s.limiter.fireCounter + 1 < uintSize)

theorem allowed_ok (l : Limits) (s : Fired) (now : TimeVal) (h : allowed s now = true) :
    InOrder s now ∧ NoWrap l s now := by
  rw [allowed, Bool.and_eq_true, List.all_eq_true, decide_eq_true_iff] at h
  exact ⟨fun e he => of_decide_eq_true (h.1 e he), fun _ _ => h.2⟩

def tenth (sec : Int) (n : Fin 10) : TimeVal := ⟨sec, n * 100000, by omega⟩

/-- One firing, four at the end of its window and five at the beginning of the next one. -/
def burst : List TimeVal :=
  [tenth 1000 0, tenth 1004 2, tenth 1004 4, tenth 1004 6, tenth 1004 8, tenth 1005 0,
    tenth 1005 2, tenth 1005 4, tenth 1005 6, tenth 1005 8, tenth 1006 0]

theorem default_positive : Limits.default.Positive :=
  ⟨by decide, by decide, by decide, by decide⟩

/-- **Six firings within a second**, with a limit of five in five seconds. -/
theorem burst_straddles : ∃ s, Reach (firing .default) InOrder s ∧
    ∃ i a b, s.executed[i]? = some a ∧ s.executed[i + Limits.default.fireCountLimit]? = some b ∧
      ¬ a.sec + Limits.default.timeWindowSec ≤ b.sec := by
  have hrun : (firing .default).runWhere allowed ⟨.init, []⟩ burst = some _ := rfl
  have hreach := Reach.runWhere (fun s now h => (allowed_ok .default s now h).1) (.init rfl) hrun
  exact ⟨_, hreach, 1, tenth 1004 2, tenth 1005 2, rfl, rfl, by decide⟩

theorem rate_limited_burst : ∃ s,
    Reach (firing .default) (fun s now => InOrder s now ∧ NoWrap .default s now) s ∧
      s.executed.length = 10 ∧ s.Spaced .default ∧ s.Windowed .default ∧ s.Blocked .default := by
  have hrun : (firing .default).runWhere allowed ⟨.init, []⟩ burst = some _ := rfl
  have hreach := Reach.runWhere (allowed_ok .default) (.init rfl) hrun
  have horder := Reach.runWhere (fun s now h => (allowed_ok .default s now h).1) (.init rfl) hrun
  have hrate := rate_limited default_positive
  exact ⟨_, hreach, rfl, hrate.1 _ horder, hrate.2 _ hreach⟩

end Vbt
