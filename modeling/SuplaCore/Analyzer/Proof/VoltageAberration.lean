import SuplaCore.Analyzer.VoltageAberration
import Mathlib.Algebra.Order.Ring.Nat

/-!
# The accounts of the aberrations

What the counters say is compared with the blocks of the samples themselves (`durations`). From any
point on, the counters grow by the blocks that are still to come, of which the one that is running
began at `time` (`Aberration.run`).
-/

namespace Analyzer

/-! ## Blocks -/

/-- The whole milliseconds from one time to another. -/
def msecs (a b : TimeVal) : Nat := (b.usecs - a.usecs).toNat / 1000

/-- The first sample that is not aberrant, or `now`. -/
def endOf (now : TimeVal) (samples : List (TimeVal × Bool)) : TimeVal :=
  ((samples.find? fun s => !s.2).map (·.1)).getD now

/-- The durations of the maximal blocks of aberrant samples: one begins with each aberrant sample
that does not follow an aberrant one (`prev` says so of the first). -/
def durations (now : TimeVal) : Bool → List (TimeVal × Bool) → List Nat
  | _, [] => []
  | prev, s :: rest =>
    (if s.2 && !prev then [msecs s.1 (endOf now rest)] else []) ++ durations now s.2 rest

/-- Times that are not zero and do not go back, up to `now`. -/
def InTime {α : Type} (now : TimeVal) (samples : List (TimeVal × α)) : Prop :=
  (∀ s ∈ samples, s.1 ≠ .zero ∧ s.1.usecs ≤ now.usecs) ∧
    samples.Pairwise fun s s' => s.1.usecs ≤ s'.1.usecs

variable {now : TimeVal}

theorem InTime.tail {α : Type} {s : TimeVal × α} {rest : List (TimeVal × α)}
    (h : InTime now (s :: rest)) : InTime now rest :=
  ⟨fun s' hs' => h.1 s' (List.mem_cons_of_mem _ hs'), (List.pairwise_cons.mp h.2).2⟩

/-- Only the times matter. -/
theorem InTime.map {α β : Type} {samples : List (TimeVal × α)} (h : InTime now samples)
    (f : α → β) : InTime now (samples.map fun s => (s.1, f s.2)) := by
  refine ⟨fun s hs => ?_, List.pairwise_map.mpr h.2⟩
  obtain ⟨s', hs', rfl⟩ := List.mem_map.mp hs
  exact h.1 s' hs'

/-- Samples that all have one time. -/
theorem inTime_of_eq {α : Type} {t : TimeVal} (ht : t ≠ .zero) (hnow : t.usecs ≤ now.usecs)
    {samples : List (TimeVal × α)} (h : ∀ s ∈ samples, s.1 = t) : InTime now samples := by
  refine ⟨?_, List.pairwise_of_forall_mem_list ?_⟩
  · intro s hs
    rw [h s hs]
    exact ⟨ht, hnow⟩
  · intro s hs s' hs'
    rw [h s hs, h s' hs']

/-- A block ends after its first sample, and not after `now`. -/
theorem endOf_bounds {t : TimeVal} {a : Bool} {rest : List (TimeVal × Bool)}
    (h : InTime now ((t, a) :: rest)) :
    t.usecs ≤ (endOf now rest).usecs ∧ (endOf now rest).usecs ≤ now.usecs := by
  unfold endOf
  cases hfind : rest.find? fun s => !s.2 with
  | none => exact ⟨(h.1 _ List.mem_cons_self).2, Int.le_refl _⟩
  | some s =>
    have hmem := List.mem_of_find?_eq_some hfind
    exact ⟨(List.pairwise_cons.mp h.2).1 s hmem, (h.tail.1 s hmem).2⟩

theorem msecs_add_le {a b c : TimeVal} (hab : a.usecs ≤ b.usecs) (hbc : b.usecs ≤ c.usecs) :
    msecs a b + msecs b c ≤ msecs a c := by
  unfold msecs
  omega

theorem msecs_le {a b c : TimeVal} (hab : a.usecs ≤ b.usecs) (hbc : b.usecs ≤ c.usecs) :
    msecs b c ≤ msecs a c := Nat.le_of_add_left_le (msecs_add_le hab hbc)

/-- The blocks do not overlap. -/
theorem sum_durations_le (samples : List (TimeVal × Bool)) : InTime now samples →
    (∀ b : TimeVal, b.usecs ≤ now.usecs → (∀ s ∈ samples, b.usecs ≤ s.1.usecs) →
      (durations now false samples).sum ≤ msecs b now) ∧
    (durations now true samples).sum ≤ msecs (endOf now samples) now := by
  induction samples with
  | nil => exact fun _ => ⟨fun _ _ _ => Nat.zero_le _, Nat.zero_le _⟩
  | cons s rest ih =>
    obtain ⟨t, aberrant⟩ := s
    intro h
    obtain ⟨hfalse, htrue⟩ := ih h.tail
    have hnow : t.usecs ≤ now.usecs := (h.1 _ List.mem_cons_self).2
    have hrest : ∀ s ∈ rest, t.usecs ≤ s.1.usecs := (List.pairwise_cons.mp h.2).1
    cases aberrant with
    | true =>
      refine ⟨fun b _ hb => ?_, htrue⟩
      obtain ⟨hend, hend'⟩ := endOf_bounds h
      have hb' : b.usecs ≤ t.usecs := hb _ List.mem_cons_self
      have hsum : (durations now false ((t, true) :: rest)).sum =
          msecs t (endOf now rest) + (durations now true rest).sum := List.sum_cons
      have hblock := msecs_add_le hend hend'
      have hall := msecs_le hb' hnow
      omega
    | false =>
      refine ⟨fun b hb hbs => ?_, ?_⟩
      · exact hfalse b hb fun s hs => hbs s (List.mem_cons_of_mem _ hs)
      · exact hfalse t hnow hrest

/-! ## One of the thresholds -/

theorem timeDiff_eq {tv : TimeVal} (htv : tv ≠ .zero) (hle : tv.usecs ≤ now.usecs)
    (hfits : msecs tv now < uintSize) : timeDiff tv now = msecs tv now := by
  have hmicro : now.usecs - tv.usecs < 2 ^ 64 := by
    unfold msecs uintSize at hfits
    omega
  have hmod : (now.usecs - tv.usecs) % 2 ^ 64 = now.usecs - tv.usecs :=
    Int.emod_eq_of_lt (by omega) hmicro
  rw [timeDiff, if_pos htv, hmod]
  exact Nat.mod_eq_of_lt hfits

namespace Aberration

/-- The durations of the block that is running and of those that are still to come. -/
def ahead (now : TimeVal) (samples : List (TimeVal × Bool)) (a : Aberration) : List Nat :=
  if a.time = .zero then durations now false samples
  else msecs a.time (endOf now samples) :: durations now true samples

/-- The block that is running began before the samples that are still to come. -/
def Started (now : TimeVal) (samples : List (TimeVal × Bool)) (a : Aberration) : Prop :=
  a.time ≠ .zero → (∀ s ∈ samples, a.time.usecs ≤ s.1.usecs) ∧ a.time.usecs ≤ now.usecs

variable {a : Aberration} {t : TimeVal} {rest samples : List (TimeVal × Bool)}

theorem Started.tail {s : TimeVal × Bool} (h : a.Started now (s :: rest)) : a.Started now rest :=
  fun hrun => ⟨fun s' hs' => (h hrun).1 s' (List.mem_cons_of_mem _ hs'), (h hrun).2⟩

theorem ahead_idle (h : a.time = .zero) : a.ahead now samples = durations now false samples :=
  if_pos h

theorem ahead_running (h : a.time ≠ .zero) :
    a.ahead now samples = msecs a.time (endOf now samples) :: durations now true samples :=
  if_neg h

/-- The first sample of a block. -/
theorem addSample_begin (h : a.time = .zero) :
    a.addSample true t = { a with time := t, count := (a.count + 1) % uintSize } := by
  rw [addSample, if_pos rfl, if_pos h]

/-- An aberrant sample within a block. -/
theorem addSample_within (h : a.time ≠ .zero) : a.addSample true t = a := by
  rw [addSample, if_pos rfl, if_neg h]

/-- A sample that is not aberrant, while no block is running. -/
theorem addSample_idle (h : a.time = .zero) (hfits : a.totalMsec < uintSize) :
    a.addSample false t = a := by
  have hdiff : timeDiff a.time t = 0 := by
    rw [h]
    rfl
  rw [addSample, if_neg Bool.false_ne_true, hdiff]
  simp only [Nat.add_zero, Nat.mod_eq_of_lt hfits, gt_iff_lt, Nat.not_lt_zero, if_false, ← h]

/-- The sample that ends a block. -/
theorem addSample_end (h : a.time ≠ .zero) (hle : a.time.usecs ≤ t.usecs)
    (hfits : a.totalMsec + msecs a.time t < uintSize) :
    a.addSample false t = { a with
      time := .zero
      totalMsec := a.totalMsec + msecs a.time t
      maxMsec := max a.maxMsec (msecs a.time t) } := by
  have hdiff : timeDiff a.time t = msecs a.time t := timeDiff_eq h hle (by omega)
  rw [addSample, if_neg Bool.false_ne_true, hdiff]
  simp only [Nat.mod_eq_of_lt hfits]
  congr 1
  split <;> omega

/-! ## Runs -/

/-- The counters after some samples. -/
def run (samples : List (TimeVal × Bool)) (a : Aberration) : Aberration :=
  samples.foldl (fun a s => a.addSample s.2 s.1) a

theorem run_cons (t : TimeVal) (aberrant : Bool) (rest : List (TimeVal × Bool)) (a : Aberration) :
    a.run ((t, aberrant) :: rest) = (a.addSample aberrant t).run rest := rfl

/-- The blocks that begin with the samples to come. -/
def begun (now : TimeVal) (samples : List (TimeVal × Bool)) (a : Aberration) : Nat :=
  (durations now (a.time ≠ .zero) samples).length

theorem begun_cons_true (ht : t ≠ .zero) : a.begun now ((t, true) :: rest) =
    (if a.time = .zero then 1 else 0) + (a.addSample true t).begun now rest := by
  by_cases hidle : a.time = .zero
  · rw [addSample_begin hidle, if_pos hidle]
    simp only [begun, durations, hidle, ht, ne_eq, not_true_eq_false, not_false_eq_true,
      decide_true, decide_false, Bool.not_false, Bool.and_true, if_true, List.length_append,
      List.length_singleton]
  · rw [addSample_within hidle, if_neg hidle]
    simp only [begun, durations, hidle, ne_eq, not_false_eq_true, decide_true, Bool.not_true,
      Bool.and_false, Bool.false_eq_true, if_false, List.nil_append, Nat.zero_add]

theorem begun_cons_false : a.begun now ((t, false) :: rest) =
    (a.addSample false t).begun now rest := by
  simp only [begun, durations, addSample, Bool.false_and, Bool.false_eq_true, if_false,
    List.nil_append, ne_eq, not_true_eq_false, decide_false]

theorem run_count (samples : List (TimeVal × Bool)) : ∀ {a : Aberration},
    (∀ s ∈ samples, s.1 ≠ .zero) → a.count + a.begun now samples < uintSize →
    (a.run samples).count = a.count + a.begun now samples := by
  induction samples with
  | nil => exact fun _ _ => rfl
  | cons s rest ih =>
    obtain ⟨t, aberrant⟩ := s
    intro a htimes hfits
    have hrest : ∀ s ∈ rest, s.1 ≠ .zero := fun s hs => htimes s (List.mem_cons_of_mem _ hs)
    rw [run_cons]
    cases aberrant with
    | true =>
      have ht : t ≠ .zero := htimes _ List.mem_cons_self
      rw [begun_cons_true ht] at hfits ⊢
      by_cases hidle : a.time = .zero
      · have hcount : (a.addSample true t).count = a.count + 1 := by
          rw [addSample_begin hidle]
          exact Nat.mod_eq_of_lt (by rw [if_pos hidle] at hfits; omega)
        rw [if_pos hidle] at hfits ⊢
        rw [ih hrest (by omega), hcount, Nat.add_assoc]
      · have hcount : (a.addSample true t).count = a.count := by rw [addSample_within hidle]
        rw [if_neg hidle, Nat.zero_add] at hfits ⊢
        rw [ih hrest (by omega), hcount]
    | false =>
      have hcount : (a.addSample false t).count = a.count := rfl
      rw [begun_cons_false] at hfits ⊢
      rw [ih hrest (by omega), hcount]

/-- The accounts where no sample is to come: a block that has begun lasts until now. -/
theorem total_now (hstarted : a.Started now [])
    (hfits : a.totalMsec + (a.ahead now []).sum < uintSize) :
    a.getTotalMsec now = a.totalMsec + (a.ahead now []).sum ∧
      a.getMaxMsec now = (a.ahead now []).foldl max a.maxMsec := by
  by_cases hidle : a.time = .zero
  · have hdiff : timeDiff a.time now = 0 := by
      rw [hidle]
      rfl
    rw [ahead_idle hidle] at hfits ⊢
    refine ⟨?_, ?_⟩
    · exact (congrArg (fun d => (a.totalMsec + d) % uintSize) hdiff).trans
        (Nat.mod_eq_of_lt hfits)
    · simp only [getMaxMsec, hdiff, durations, List.foldl_nil, gt_iff_lt, Nat.not_lt_zero,
        if_false]
  · rw [ahead_running hidle] at hfits ⊢
    simp only [durations, List.sum_cons, List.sum_nil, endOf, List.find?_nil, Option.map_none,
      Option.getD_none, Nat.add_zero] at hfits ⊢
    have hdiff : timeDiff a.time now = msecs a.time now :=
      timeDiff_eq hidle (hstarted hidle).2 (by omega)
    refine ⟨?_, ?_⟩
    · exact (congrArg (fun d => (a.totalMsec + d) % uintSize) hdiff).trans
        (Nat.mod_eq_of_lt hfits)
    · simp only [List.foldl_nil, List.foldl_cons, getMaxMsec, hdiff]
      split <;> omega

/-- **The accounts of a run**: those so far, and the blocks that are still to come. -/
theorem run_total (samples : List (TimeVal × Bool)) : ∀ {a : Aberration},
    InTime now samples → a.Started now samples →
    a.totalMsec + (a.ahead now samples).sum < uintSize →
    (a.run samples).getTotalMsec now = a.totalMsec + (a.ahead now samples).sum ∧
      (a.run samples).getMaxMsec now = (a.ahead now samples).foldl max a.maxMsec := by
  induction samples with
  | nil => exact fun _ hstarted hfits => total_now hstarted hfits
  | cons s rest ih =>
    obtain ⟨t, aberrant⟩ := s
    intro a htimes hstarted hfits
    obtain ⟨ht, hnow⟩ := htimes.1 _ List.mem_cons_self
    rw [run_cons]
    cases aberrant with
    | true =>
      by_cases hidle : a.time = .zero
      · have hahead : a.ahead now ((t, true) :: rest) = (a.addSample true t).ahead now rest := by
          rw [ahead_idle hidle, addSample_begin hidle, ahead_running ht]
          rfl
        have hstarted' : (a.addSample true t).Started now rest := by
          rw [addSample_begin hidle]
          exact fun _ => ⟨(List.pairwise_cons.mp htimes.2).1, hnow⟩
        rw [hahead] at hfits ⊢
        have htotal : (a.addSample true t).totalMsec = a.totalMsec := by
          rw [addSample_begin hidle]
        have hmax : (a.addSample true t).maxMsec = a.maxMsec := by rw [addSample_begin hidle]
        rw [← htotal] at hfits ⊢
        rw [← hmax]
        exact ih htimes.tail hstarted' hfits
      · have hahead : a.ahead now ((t, true) :: rest) = a.ahead now rest := by
          rw [ahead_running hidle, ahead_running hidle]
          rfl
        rw [hahead] at hfits ⊢
        rw [addSample_within hidle]
        exact ih htimes.tail hstarted.tail hfits
    | false =>
      by_cases hidle : a.time = .zero
      · have hahead : a.ahead now ((t, false) :: rest) = a.ahead now rest := by
          rw [ahead_idle hidle, ahead_idle hidle]
          rfl
        rw [hahead] at hfits ⊢
        rw [addSample_idle hidle (by omega)]
        exact ih htimes.tail hstarted.tail hfits
      · have hahead : a.ahead now ((t, false) :: rest) =
            msecs a.time t :: durations now false rest := by
          rw [ahead_running hidle]
          rfl
        rw [hahead, List.sum_cons] at hfits ⊢
        rw [addSample_end (t := t) hidle ((hstarted hidle).1 _ List.mem_cons_self) (by omega)]
        have hover := ih (a := { a with
          time := .zero
          totalMsec := a.totalMsec + msecs a.time t
          maxMsec := max a.maxMsec (msecs a.time t) }) htimes.tail (fun h => absurd rfl h) (by
            rw [ahead_idle rfl]
            exact Eq.trans_lt (Nat.add_assoc _ _ _) hfits)
        rw [ahead_idle rfl, Nat.add_assoc] at hover
        exact hover

end Aberration
/-- What is said of one of the thresholds, with the samples that are past it. -/
structure Accounts (now : TimeVal) (samples : List (TimeVal × Bool)) (a : Aberration)
    (totalTimeMsec : Nat) : Prop where
  count : (durations now false samples).length < uintSize →
    a.count = (durations now false samples).length
  total : (durations now false samples).sum < uintSize →
    a.getTotalMsec now = (durations now false samples).sum
  max : (durations now false samples).sum < uintSize →
    a.getMaxMsec now = (durations now false samples).foldl Nat.max 0
  max_le_total : (durations now false samples).sum < uintSize →
    a.getMaxMsec now ≤ a.getTotalMsec now
  /-- The samples are counted and the time since the first one is measured without a wrap. -/
  total_le : samples.length ≤ uintSize → (∀ s ∈ samples.head?, msecs s.1 now < uintSize) →
    a.getTotalMsec now ≤ totalTimeMsec

theorem foldl_max_le_sum (l : List Nat) : ∀ {m : Nat}, l.foldl Nat.max m ≤ m + l.sum := by
  induction l with
  | nil => exact fun {m} => Nat.le_refl m
  | cons x l ih =>
    intro m
    have hrest := ih (m := Nat.max m x)
    have hmax : Nat.max m x ≤ m + x := Nat.max_le.mpr ⟨Nat.le_add_right _ _, Nat.le_add_left _ _⟩
    rw [List.foldl_cons, List.sum_cons]
    omega

theorem run_accounts {samples : List (TimeVal × Bool)} {totalTimeMsec : Nat}
    (htimes : InTime now samples)
    (htotal : samples.length ≤ uintSize → ∀ s ∈ samples.head?,
      msecs s.1 now < uintSize → totalTimeMsec = msecs s.1 now) :
    Accounts now samples (Aberration.zero.run samples) totalTimeMsec := by
  have hsum := Aberration.run_total (a := .zero) samples htimes fun h => absurd rfl h
  rw [Aberration.ahead_idle rfl] at hsum
  have hzero : ∀ n, Aberration.zero.totalMsec + n = n := Nat.zero_add
  rw [hzero] at hsum
  refine ⟨fun hfits => ?_, fun hfits => (hsum hfits).1, fun hfits => (hsum hfits).2, ?_, ?_⟩
  · have hcount : (Aberration.zero.run samples).count = 0 + Aberration.zero.begun now samples := by
      apply Aberration.run_count samples
      · intro s hs
        exact (htimes.1 s hs).1
      · rw [show Aberration.zero.count = 0 from rfl, Nat.zero_add]
        exact hfits
    exact hcount.trans (Nat.zero_add _)
  · intro hfits
    rw [(hsum hfits).1, (hsum hfits).2]
    exact Nat.le_trans (foldl_max_le_sum _) (Nat.le_of_eq (Nat.zero_add _))
  · intro hlength hfits
    cases samples with
    | nil =>
      rw [(hsum (show 0 < uintSize by decide)).1]
      exact Nat.zero_le _
    | cons s rest =>
      have helapsed := hfits s rfl
      have hle := (sum_durations_le (s :: rest) htimes).1 s.1
        (htimes.1 s List.mem_cons_self).2 fun s' hs' => by
          rcases List.mem_cons.mp hs' with rfl | hmem
          · exact Int.le_refl _
          · exact (List.pairwise_cons.mp htimes.2).1 s' hmem
      rw [(hsum (Nat.lt_of_le_of_lt hle helapsed)).1, htotal hlength s rfl helapsed]
      exact hle

/-! ## Both thresholds -/

namespace VoltageAberrationAnalyzer

open Aberration

variable {V : Type} [Double V]

/-- Which of the samples are above the threshold. -/
def aboveSamples (upper : V) (samples : List (TimeVal × V)) : List (TimeVal × Bool) :=
  samples.map fun s => (s.1, Double.lt upper s.2)

def belowSamples (lower : V) (samples : List (TimeVal × V)) : List (TimeVal × Bool) :=
  samples.map fun s => (s.1, Double.lt s.2 lower)

theorem addSamples_sides (samples : List (TimeVal × V)) : ∀ {a : VoltageAberrationAnalyzer V},
    Double.isZero a.upperThreshold = false → Double.isZero a.lowerThreshold = false →
    (a.addSamples samples).above = a.above.run (aboveSamples a.upperThreshold samples) ∧
      (a.addSamples samples).below = a.below.run (belowSamples a.lowerThreshold samples) := by
  induction samples with
  | nil => exact fun _ _ => ⟨rfl, rfl⟩
  | cons s rest ih =>
    intro a hupper hlower
    obtain ⟨habove, hbelow⟩ := ih (a := a.addSample s.2 s.1) hupper hlower
    constructor
    · rw [aboveSamples, List.map_cons, run_cons]
      refine habove.trans ?_
      simp only [addSample, hupper, Bool.false_eq_true, if_false, aboveSamples]
    · rw [belowSamples, List.map_cons, run_cons]
      refine hbelow.trans ?_
      simp only [addSample, hlower, Bool.false_eq_true, if_false, belowSamples]

/-- The time of the first sample is kept as long as the samples can be counted. -/
theorem addSamples_firstUpdateTime (samples : List (TimeVal × V)) :
    ∀ {a : VoltageAberrationAnalyzer V}, 0 < a.count → a.count + samples.length ≤ uintSize →
      (a.addSamples samples).firstUpdateTime = a.firstUpdateTime := by
  induction samples with
  | nil => exact fun _ _ => rfl
  | cons s rest ih =>
    intro a hpos hfits
    rw [List.length_cons] at hfits
    have hfirst : (a.addSample s.2 s.1).firstUpdateTime = a.firstUpdateTime :=
      if_neg (Nat.pos_iff_ne_zero.mp hpos)
    cases rest with
    | nil => exact hfirst
    | cons s' rest =>
      rw [List.length_cons] at hfits ih
      have hcount : (a.addSample s.2 s.1).count = a.count + 1 := Nat.mod_eq_of_lt (by omega)
      refine (ih (a := a.addSample s.2 s.1) ?_ ?_).trans hfirst
      · omega
      · omega

/-- The time since the first sample. -/
theorem getTotalTimeMsec_eq {a : VoltageAberrationAnalyzer V} {s : TimeVal × V}
    {rest : List (TimeVal × V)} {now : TimeVal} (htimes : InTime now (s :: rest))
    (hlength : (s :: rest).length ≤ uintSize) (hfits : msecs s.1 now < uintSize) :
    ((a.reset.addSamples (s :: rest)).getTotalTimeMsec now) = msecs s.1 now := by
  obtain ⟨hzero, hnow⟩ := htimes.1 s List.mem_cons_self
  have hfirst : (a.reset.addSamples (s :: rest)).firstUpdateTime = s.1 :=
    addSamples_firstUpdateTime rest (a := a.reset.addSample s.2 s.1) Nat.one_pos (by
      rw [List.length_cons] at hlength
      exact (Nat.add_comm _ _).trans_le hlength)
  rw [getTotalTimeMsec, hfirst]
  exact timeDiff_eq hzero hnow hfits

/-- **The accounts of the aberrations**: after a reset, the counters say of the samples since then
how many blocks of them were past each threshold, and for how long. -/
theorem aberrations_accounted (a : VoltageAberrationAnalyzer V) (now : TimeVal)
    (samples : List (TimeVal × V)) (hupper : Double.isZero a.upperThreshold = false)
    (hlower : Double.isZero a.lowerThreshold = false) (htimes : InTime now samples) :
    Accounts now (aboveSamples a.upperThreshold samples) (a.reset.addSamples samples).above
        ((a.reset.addSamples samples).getTotalTimeMsec now) ∧
      Accounts now (belowSamples a.lowerThreshold samples) (a.reset.addSamples samples).below
        ((a.reset.addSamples samples).getTotalTimeMsec now) := by
  obtain ⟨habove, hbelow⟩ := addSamples_sides samples (a := a.reset) hupper hlower
  have hside : ∀ f : V → Bool, Accounts now (samples.map fun s => (s.1, f s.2))
      (Aberration.zero.run (samples.map fun s => (s.1, f s.2)))
      ((a.reset.addSamples samples).getTotalTimeMsec now) := by
    intro f
    refine run_accounts (htimes.map f) fun hlength s hs hfits => ?_
    rw [List.length_map] at hlength
    cases samples with
    | nil => cases hs
    | cons s' rest =>
      cases hs
      exact getTotalTimeMsec_eq htimes hlength hfits
  rw [habove, hbelow]
  exact ⟨hside _, hside fun v => Double.lt v a.lowerThreshold⟩

/-! ## A scenario -/

/-- Samples at 10, 11, 12, 14 and 15 seconds: above, above, in between, below and above. -/
def fiveSamples : List (TimeVal × Nat) :=
  [(⟨10, 0, by decide⟩, 260), (⟨11, 0, by decide⟩, 255), (⟨12, 0, by decide⟩, 230),
    (⟨14, 0, by decide⟩, 200), (⟨15, 0, by decide⟩, 270)]

theorem aberrations_accounted_five :
    durations ⟨20, 0, by decide⟩ false (aboveSamples 250 fiveSamples) = [2000, 5000] ∧
      Accounts ⟨20, 0, by decide⟩ (aboveSamples 250 fiveSamples)
          ((new 210 250).reset.addSamples fiveSamples).above
          (((new 210 250).reset.addSamples fiveSamples).getTotalTimeMsec ⟨20, 0, by decide⟩) ∧
        Accounts ⟨20, 0, by decide⟩ (belowSamples 210 fiveSamples)
          ((new 210 250).reset.addSamples fiveSamples).below
          (((new 210 250).reset.addSamples fiveSamples).getTotalTimeMsec ⟨20, 0, by decide⟩) := by
  have htimes : InTime ⟨20, 0, by decide⟩ fiveSamples := by
    unfold InTime fiveSamples
    decide
  exact ⟨by decide, aberrations_accounted (new 210 250) _ fiveSamples rfl rfl htimes⟩

/-! ## Where a counter wraps -/

/-- The exact sums of the durations are below the size of an `unsigned int`. -/
def SumsFit (lower upper : V) (now : TimeVal) (samples : List (TimeVal × V)) : Prop :=
  InTime now samples ∧ (durations now false (aboveSamples upper samples)).sum < uintSize ∧
    (durations now false (belowSamples lower samples)).sum < uintSize

theorem timeDiff_self (t : TimeVal) : timeDiff t t = 0 := by
  unfold timeDiff
  split
  · rw [Int.sub_self]
    rfl
  · rfl

theorem durations_normal {samples : List (TimeVal × Bool)} {now : TimeVal}
    (h : ∀ s ∈ samples, s.2 = false) {prev : Bool} : durations now prev samples = [] := by
  induction samples generalizing prev with
  | nil => rfl
  | cons s rest ih =>
    obtain ⟨hs, hrest⟩ := List.forall_mem_cons.mp h
    rw [durations, hs, ih hrest]
    rfl

theorem durations_within {samples : List (TimeVal × Bool)} {now : TimeVal}
    (h : ∀ s ∈ samples, s.2 = true) : durations now true samples = [] := by
  induction samples with
  | nil => rfl
  | cons s rest ih =>
    obtain ⟨hs, hrest⟩ := List.forall_mem_cons.mp h
    rw [durations, hs, ih hrest]
    rfl

/-- A block that no sample ends. -/
theorem durations_open {t now : TimeVal} {rest : List (TimeVal × Bool)}
    (h : ∀ s ∈ rest, s.2 = true) : durations now false ((t, true) :: rest) = [msecs t now] := by
  have hnone : rest.find? (fun s => !s.2) = none := by
    rw [List.find?_eq_none]
    intro s hs
    simp [h s hs]
  have hend : endOf now rest = now := by rw [endOf, hnone, Option.map_none, Option.getD_none]
  rw [durations, durations_within h, hend]
  rfl

theorem run_open {t : TimeVal} (ht : t ≠ .zero) {rest : List (TimeVal × Bool)}
    (h : ∀ s ∈ rest, s.2 = true) : Aberration.zero.run ((t, true) :: rest) = ⟨1, t, 0, 0⟩ := by
  have hsame : ∀ {samples : List (TimeVal × Bool)}, (∀ s ∈ samples, s.2 = true) →
      Aberration.run samples ⟨1, t, 0, 0⟩ = ⟨1, t, 0, 0⟩ := by
    intro samples
    induction samples with
    | nil => exact fun _ => rfl
    | cons s rest ih =>
      intro hsamples
      obtain ⟨hs, hrest⟩ := List.forall_mem_cons.mp hsamples
      rw [show s = (s.1, s.2) from rfl, run_cons, hs, addSample_within ht]
      exact ih hrest
  rw [run_cons, addSample_begin rfl]
  exact hsame h

theorem addSamples_count (samples : List (TimeVal × V)) :
    ∀ {a : VoltageAberrationAnalyzer V}, a.count < uintSize →
      (a.addSamples samples).count = (a.count + samples.length) % uintSize := by
  induction samples with
  | nil => exact fun h => (Nat.mod_eq_of_lt h).symm
  | cons s rest ih =>
    intro a _
    have hcount : (a.addSample s.2 s.1).count = (a.count + 1) % uintSize := rfl
    have hrest := ih (a := a.addSample s.2 s.1) (hcount ▸ Nat.mod_lt _ (by decide))
    refine hrest.trans ?_
    rw [hcount, Nat.mod_add_mod, List.length_cons, Nat.add_assoc, Nat.add_comm 1]

/-- A voltage above the threshold and a normal one in turn, all at one time. -/
def flicker (t : TimeVal) : Nat → List (TimeVal × Nat)
  | 0 => []
  | n + 1 => (t, 260) :: (t, 230) :: flicker t n

theorem mem_flicker {t : TimeVal} {n : Nat} {s : TimeVal × Nat} (h : s ∈ flicker t n) :
    s.1 = t ∧ 210 ≤ s.2 := by
  induction n with
  | zero => cases h
  | succ n ih =>
    rw [flicker, List.mem_cons, List.mem_cons] at h
    obtain rfl | rfl | h := h
    · exact ⟨rfl, show 210 ≤ 260 by decide⟩
    · exact ⟨rfl, show 210 ≤ 230 by decide⟩
    · exact ih h

theorem durations_flicker (t : TimeVal) (n : Nat) :
    durations t false (aboveSamples 250 (flicker t n)) = List.replicate n 0 := by
  induction n with
  | zero => rfl
  | succ n ih =>
    have hself : msecs t t = 0 := by
      rw [msecs, Int.sub_self]
      rfl
    rw [List.replicate_succ, ← ih, ← hself]
    rfl

theorem run_flicker (t : TimeVal) (n : Nat) : ∀ k,
    Aberration.run (aboveSamples 250 (flicker t n)) ⟨k % uintSize, .zero, 0, 0⟩ =
      ⟨(k + n) % uintSize, .zero, 0, 0⟩ := by
  induction n with
  | zero => exact fun k => rfl
  | succ n ih =>
    intro k
    have hpair : Aberration.addSample false t
        (Aberration.addSample true t ⟨k % uintSize, .zero, 0, 0⟩) =
          ⟨(k + 1) % uintSize, .zero, 0, 0⟩ := by
      rw [addSample_begin rfl, Aberration.addSample, timeDiff_self, Nat.mod_add_mod]
      rfl
    show Aberration.run (aboveSamples 250 (flicker t n)) (Aberration.addSample false t
      (Aberration.addSample true t ⟨k % uintSize, .zero, 0, 0⟩)) = _
    rw [hpair, ih (k + 1), Nat.add_assoc, Nat.add_comm 1]

def second (n : Int) : TimeVal := { TimeVal.zero with sec := n }

/-- A normal voltage, and one above the threshold more than 49 days later. -/
def lateSamples : List (TimeVal × Nat) := [(second 10, 230), (second 4294977, 260)]

/-- A voltage above the threshold `n + 2` times, once a second later. -/
def steady (n : Nat) : List (TimeVal × Nat) :=
  (second 10, 260) :: (List.replicate n (second 10, 260) ++ [(second 11, 260)])

theorem lateSamples_wrap : SumsFit 210 250 (second 4294978) lateSamples ∧
    ((new 210 250).reset.addSamples lateSamples).above.getTotalMsec (second 4294978) = 1000 ∧
    ((new 210 250).reset.addSamples lateSamples).getTotalTimeMsec (second 4294978) = 704 := by
  refine ⟨?_, by decide, by decide⟩
  unfold SumsFit InTime lateSamples
  decide

theorem flicker_wraps : SumsFit 210 250 (second 10) (flicker (second 10) uintSize) ∧
    (durations (second 10) false (aboveSamples 250 (flicker (second 10) uintSize))).length =
      uintSize ∧
    ((new 210 250).reset.addSamples (flicker (second 10) uintSize)).above.count = 0 := by
  have hbelow : ∀ s ∈ belowSamples 210 (flicker (second 10) uintSize), s.2 = false := by
    intro s hs
    obtain ⟨s', hs', rfl⟩ := List.mem_map.mp hs
    exact decide_eq_false (Nat.not_lt_of_le (mem_flicker hs').2)
  refine ⟨⟨?_, ?_, ?_⟩, ?_, ?_⟩
  · exact inTime_of_eq (by decide) (Int.le_refl _) fun s hs => (mem_flicker hs).1
  · rw [durations_flicker, List.sum_replicate_nat, Nat.mul_zero]
    decide
  · rw [durations_normal hbelow]
    decide
  · rw [durations_flicker, List.length_replicate]
  · rw [(addSamples_sides _ rfl rfl).1]
    exact congrArg Aberration.count (run_flicker (second 10) uintSize 0)

theorem mem_steady {n : Nat} {s : TimeVal × Nat}
    (h : s ∈ List.replicate n (second 10, 260) ++ [(second 11, 260)]) :
    (s.1 = second 10 ∨ s.1 = second 11) ∧ s.2 = 260 := by
  rw [List.mem_append, List.mem_singleton] at h
  obtain h | rfl := h
  · rw [List.eq_of_mem_replicate h]
    exact ⟨.inl rfl, rfl⟩
  · exact ⟨.inr rfl, rfl⟩

theorem inTime_steady (n : Nat) : InTime (second 11) (steady n) := by
  have htimes : ∀ s ∈ steady n, s.1 = second 10 ∨ s.1 = second 11 := by
    intro s hs
    obtain rfl | hs := List.mem_cons.mp hs
    · exact .inl rfl
    · exact (mem_steady hs).1
  have hfirst : ∀ s ∈ (second 10, 260) :: List.replicate n (second 10, 260),
      s.1 = second 10 := by
    intro s hs
    rw [← List.replicate_succ] at hs
    rw [List.eq_of_mem_replicate hs]
  refine ⟨?_, ?_⟩
  · intro s hs
    obtain h | h := htimes s hs
    · rw [h]
      decide
    · rw [h]
      decide
  · rw [steady, ← List.cons_append]
    refine List.pairwise_append.mpr ⟨?_, List.pairwise_singleton _ _, ?_⟩
    · have hin : InTime (second 11)
          ((second 10, 260) :: List.replicate n (second 10, 260)) :=
        inTime_of_eq (by decide) (by decide) hfirst
      exact hin.2
    · intro s hs s' hs'
      rw [hfirst s hs, List.mem_singleton.mp hs']
      decide

/-- The counter of the samples wraps before the last one, which counts as the first. -/
theorem steady_wraps {n : Nat} (hn : n + 1 = uintSize) : SumsFit 210 250 (second 11) (steady n) ∧
    ((new 210 250).reset.addSamples (steady n)).above.getTotalMsec (second 11) = 1000 ∧
    ((new 210 250).reset.addSamples (steady n)).getTotalTimeMsec (second 11) = 0 := by
  have habove : ∀ s ∈ aboveSamples 250
      (List.replicate n (second 10, 260) ++ [(second 11, 260)]), s.2 = true := by
    intro s hs
    obtain ⟨s', hs', rfl⟩ := List.mem_map.mp hs
    rw [(mem_steady hs').2]
    rfl
  have hbelow : ∀ s ∈ belowSamples 210 (steady n), s.2 = false := by
    intro s hs
    obtain ⟨s', hs', rfl⟩ := List.mem_map.mp hs
    obtain rfl | hs' := List.mem_cons.mp hs'
    · rfl
    · rw [(mem_steady hs').2]
      rfl
  have hcount : ((new 210 250).reset.addSamples
      ((second 10, 260) :: List.replicate n (second 10, 260))).count = 0 := by
    rw [addSamples_count _ (by decide), List.length_cons, List.length_replicate, hn]
    decide
  have hfirst : ((new 210 250).reset.addSamples (steady n)).firstUpdateTime = second 11 := by
    rw [steady, addSamples, ← List.cons_append, List.foldl_append]
    exact if_pos hcount
  refine ⟨⟨inTime_steady n, ?_, ?_⟩, ?_, ?_⟩
  · rw [steady, aboveSamples, List.map_cons]
    refine (congrArg (fun l => l.sum < uintSize) (durations_open habove)).mpr ?_
    decide
  · rw [durations_normal hbelow]
    decide
  · rw [(addSamples_sides _ rfl rfl).1]
    exact congrArg (Aberration.getTotalMsec (second 11)) (run_open (by decide) habove)
  · rw [getTotalTimeMsec, hfirst, timeDiff_self]

theorem counters_wrap :
    (SumsFit 210 250 (second 4294978) lateSamples ∧
      ((new 210 250).reset.addSamples lateSamples).above.getTotalMsec (second 4294978) = 1000 ∧
      ((new 210 250).reset.addSamples lateSamples).getTotalTimeMsec (second 4294978) = 704) ∧
    (SumsFit 210 250 (second 10) (flicker (second 10) uintSize) ∧
      (durations (second 10) false (aboveSamples 250 (flicker (second 10) uintSize))).length =
        uintSize ∧
      ((new 210 250).reset.addSamples (flicker (second 10) uintSize)).above.count = 0) ∧
    (SumsFit 210 250 (second 11) (steady (uintSize - 1)) ∧
      ((new 210 250).reset.addSamples (steady (uintSize - 1))).above.getTotalMsec (second 11) =
        1000 ∧
      ((new 210 250).reset.addSamples (steady (uintSize - 1))).getTotalTimeMsec (second 11) = 0) :=
  ⟨lateSamples_wrap, flicker_wraps, steady_wraps (by decide)⟩

end VoltageAberrationAnalyzer

end Analyzer
