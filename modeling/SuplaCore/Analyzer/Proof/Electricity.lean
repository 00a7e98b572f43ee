import SuplaCore.Analyzer.Electricity

/-!
# Judgements on voltages

A voltage is above the upper threshold, below the lower one, or neither. The analyzer of a phase
judges by the thresholds it was created with (`judged`), the configuration may know others
(`dueJudgement`).
-/

namespace Analyzer

variable {D : Type} [JsonDouble D]

namespace VoltageAberrationAnalyzer

/-- Whether a value is above the upper threshold, and whether it is below the lower one. -/
def judgement (value : D) (a : VoltageAberrationAnalyzer D) : Bool × Bool :=
  (!Double.isZero a.upperThreshold && Double.lt a.upperThreshold value,
    !Double.isZero a.lowerThreshold && Double.lt value a.lowerThreshold)

/-- The judgement is what `add_sample` goes by, above ... -/
theorem addSample_above (value : D) (now : TimeVal) {a : VoltageAberrationAnalyzer D}
    (h : Double.isZero a.upperThreshold = false) :
    (a.addSample value now).above = a.above.addSample (a.judgement value).1 now := by
  simp [addSample, judgement, h]

/-- ... and below. -/
theorem addSample_below (value : D) (now : TimeVal) {a : VoltageAberrationAnalyzer D}
    (h : Double.isZero a.lowerThreshold = false) :
    (a.addSample value now).below = a.below.addSample (a.judgement value).2 now := by
  simp [addSample, judgement, h]

theorem judgement_congr {a b : VoltageAberrationAnalyzer D} (value : D)
    (hlower : a.lowerThreshold = b.lowerThreshold) (hupper : a.upperThreshold = b.upperThreshold) :
    a.judgement value = b.judgement value := by
  rw [judgement, judgement, hlower, hupper]

theorem addSample_count_ne (value : D) (now : TimeVal) (a : VoltageAberrationAnalyzer D) :
    a.count ≠ (a.addSample value now).count := by
  show a.count ≠ (a.count + 1) % uintSize
  unfold uintSize
  omega

end VoltageAberrationAnalyzer

/-- The judgement of the analyzer of a phase on a sample, if it took the sample at all: then it has
counted it. -/
def judged (value : D) (before after : Option (VoltageAberrationAnalyzer D)) : Bool × Bool :=
  match after with
  | some va =>
    if before.elim 0 (·.count) ≠ va.count then va.judgement value else (false, false)
  | none => (false, false)

theorem judged_self (value : D) (va : Option (VoltageAberrationAnalyzer D)) :
    judged value va va = (false, false) := by
  cases va with
  | none => rfl
  | some va => exact if_neg (not_not_intro rfl)

/-- The judgement by the thresholds of a configuration. -/
def dueJudgement (value : D) (config : Option (Json.Node D)) : Bool × Bool :=
  match config with
  | some root =>
    (VoltageAberrationAnalyzer.new (getLowerVoltageThreshold root)
      (getUpperVoltageThreshold root)).judgement value
  | none => (false, false)

section
variable {lower upper : D} (value : D) (now : TimeVal) {va : Option (VoltageAberrationAnalyzer D)}

/-- Without thresholds there is no analysis. -/
theorem addVoltage_zero (hlower : Double.isZero lower = true)
    (hupper : Double.isZero upper = true) :
    addVoltage lower upper value now va = va := by
  simp [addVoltage, hlower, hupper]

theorem judgement_zero (hlower : Double.isZero lower = true) (hupper : Double.isZero upper = true) :
    (VoltageAberrationAnalyzer.new lower upper).judgement value = (false, false) := by
  simp [VoltageAberrationAnalyzer.judgement, VoltageAberrationAnalyzer.new, hlower, hupper]

/-- A sample is judged by the thresholds of its time, if the analyzer has none yet or the same. -/
theorem judged_addVoltage
    (hsame : ∀ a, va = some a → a.lowerThreshold = lower ∧ a.upperThreshold = upper) :
    judged value va (addVoltage lower upper value now va) =
      (VoltageAberrationAnalyzer.new lower upper).judgement value := by
  by_cases hzero : Double.isZero lower = true ∧ Double.isZero upper = true
  · rw [addVoltage_zero value now hzero.1 hzero.2, judged_self,
      judgement_zero value hzero.1 hzero.2]
  · have hany : (!Double.isZero lower || !Double.isZero upper) = true := by
      simpa [imp_iff_not_or] using hzero
    have hcount : va.elim 0 (·.count) = (va.getD (.new lower upper)).count := by
      cases va <;> rfl
    have hthresholds : (va.getD (.new lower upper)).lowerThreshold = lower ∧
        (va.getD (.new lower upper)).upperThreshold = upper := by
      cases va with
      | none => exact ⟨rfl, rfl⟩
      | some a => exact hsame a rfl
    rw [addVoltage, if_pos hany]
    refine (if_pos ?_).trans ?_
    · rw [hcount]
      exact VoltageAberrationAnalyzer.addSample_count_ne _ _ _
    · exact VoltageAberrationAnalyzer.judgement_congr value hthresholds.1 hthresholds.2

end

end Analyzer
