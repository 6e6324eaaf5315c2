import Mathlib.Tactic.Linarith
import DbsMonitor.AlertRules

/-!
# Where a rule triggers and where it recovers

An accepted rule has separate ranges when it triggers above or below its threshold, or when its
metric is a category. The check for `=` and `!=` only looks whether the two conditions are the same,
so rules pass that trigger and recover at the same value, or never recover.
-/

namespace DbsMonitor

def RuleMetrics.values (metrics : RuleMetrics) (metricId : MetricId) : Set ℚ :=
  match metrics.encodings metricId with
  | none => Set.univ
  | some encodings => {value | value ∈ encodings}

structure AlertRuleInput.Separates (rule : AlertRuleInput) (recoveryThreshold : ℚ)
    (values : Set ℚ) : Prop where
  disjoint : ∀ value ∈ values, compare value rule.operator rule.threshold = true →
    compare value rule.recoveryOperator recoveryThreshold = false
  breaches : ∃ value ∈ values, evaluate value rule.operator rule.threshold rule.recoveryOperator
    recoveryThreshold = .breaching
  recovers : ∃ value ∈ values, evaluate value rule.operator rule.threshold rule.recoveryOperator
    recoveryThreshold = .recovering

def RecoversElsewhere (operator : Operator) (threshold : ℚ) (recoveryOperator : Operator)
    (recoveryThreshold : ℚ) : Prop :=
  match operator with
  | .gt | .ge | .lt | .le => True
  | .eq => compare threshold recoveryOperator recoveryThreshold = false
  | .ne => recoveryOperator = .eq ∧ recoveryThreshold = threshold

variable {rule : AlertRuleInput} {recoveryThreshold : ℚ} {values : Set ℚ}

theorem separates_of_disjoint
    (hdisjoint : ∀ value ∈ values, compare value rule.operator rule.threshold = true →
      compare value rule.recoveryOperator recoveryThreshold = false)
    (htrigger : ∃ value ∈ values, compare value rule.operator rule.threshold = true)
    (hrecovery : ∃ value ∈ values,
      compare value rule.recoveryOperator recoveryThreshold = true) :
    rule.Separates recoveryThreshold values := by
  obtain ⟨trigger, htrigger, hbreaching⟩ := htrigger
  obtain ⟨recovery, hrecovery, hrecovering⟩ := hrecovery
  have hquiet : ¬ compare recovery rule.operator rule.threshold = true := by
    intro h
    rw [hdisjoint recovery hrecovery h] at hrecovering
    cases hrecovering
  refine ⟨hdisjoint, ⟨trigger, htrigger, ?_⟩, recovery, hrecovery, ?_⟩
  · rw [evaluate, if_pos hbreaching]
  · rw [evaluate, if_neg hquiet, if_pos hrecovering]

theorem exists_compare_ne {operator : Operator} {threshold other : ℚ}
    (h : ¬ (operator = .eq ∧ threshold = other)) :
    ∃ value, value ≠ other ∧ compare value operator threshold = true := by
  have hmax : threshold < max threshold other + 1 ∧ other < max threshold other + 1 :=
    ⟨by linarith [le_max_left threshold other], by linarith [le_max_right threshold other]⟩
  have hmin : min threshold other - 1 < threshold ∧ min threshold other - 1 < other :=
    ⟨by linarith [min_le_left threshold other], by linarith [min_le_right threshold other]⟩
  cases operator with
  | gt => exact ⟨_, hmax.2.ne', decide_eq_true hmax.1⟩
  | ge => exact ⟨_, hmax.2.ne', decide_eq_true hmax.1.le⟩
  | lt => exact ⟨_, hmin.2.ne, decide_eq_true hmin.1⟩
  | le => exact ⟨_, hmin.2.ne, decide_eq_true hmin.1.le⟩
  | eq => exact ⟨threshold, fun heq => h ⟨rfl, heq⟩, decide_eq_true rfl⟩
  | ne => exact ⟨_, hmax.2.ne', decide_eq_true hmax.1.ne'⟩

theorem exists_compare (operator : Operator) (threshold : ℚ) :
    ∃ value, compare value operator threshold = true := by
  have hother : ¬ (operator = .eq ∧ threshold = threshold + 1) := fun h => by linarith [h.2]
  obtain ⟨value, -, hvalue⟩ := exists_compare_ne hother
  exact ⟨value, hvalue⟩

theorem disjoint_iff {operator recoveryOperator : Operator} {threshold recoveryThreshold : ℚ}
    (h : validHysteresis operator threshold recoveryOperator recoveryThreshold = true) :
    (∀ value, compare value operator threshold = true →
      compare value recoveryOperator recoveryThreshold = false)
      ↔ RecoversElsewhere operator threshold recoveryOperator recoveryThreshold := by
  cases operator with
  | gt | ge | lt | le =>
    refine iff_of_true (fun value htrigger => ?_) trivial
    cases recoveryOperator <;>
      simp only [validHysteresis, compare, reduceCtorEq, decide_true, decide_false, Bool.or_false,
        Bool.false_or, Bool.true_and, Bool.false_and, Bool.or_true, Bool.false_eq_true,
        decide_eq_true_eq, decide_eq_false_iff_not] at h htrigger ⊢ <;> linarith
  | eq =>
    constructor
    · intro hdisjoint
      exact hdisjoint threshold (decide_eq_true rfl)
    · intro helsewhere value htrigger
      obtain rfl : value = threshold := of_decide_eq_true htrigger
      exact helsewhere
  | ne =>
    constructor
    · intro hdisjoint
      by_contra hother
      obtain ⟨value, hne, hrecovery⟩ := exists_compare_ne hother
      rw [hdisjoint value (decide_eq_true hne)] at hrecovery
      cases hrecovery
    · rintro ⟨rfl, rfl⟩ value htrigger
      exact decide_eq_false (of_decide_eq_true htrigger)

theorem numeric_separates_iff
    (h : validHysteresis rule.operator rule.threshold rule.recoveryOperator recoveryThreshold
      = true) :
    rule.Separates recoveryThreshold Set.univ
      ↔ RecoversElsewhere rule.operator rule.threshold rule.recoveryOperator recoveryThreshold := by
  rw [← disjoint_iff h]
  constructor
  · exact fun hseparates value => hseparates.disjoint value trivial
  · intro hdisjoint
    obtain ⟨trigger, htrigger⟩ := exists_compare rule.operator rule.threshold
    obtain ⟨recovery, hrecovery⟩ := exists_compare rule.recoveryOperator recoveryThreshold
    exact separates_of_disjoint (fun value _ => hdisjoint value) ⟨trigger, trivial, htrigger⟩
      ⟨recovery, trivial, hrecovery⟩

theorem categorical_separates {encodings : List ℚ}
    (h : validCategoricalRecovery encodings rule.operator rule.threshold rule.recoveryOperator
      recoveryThreshold = true) :
    rule.Separates recoveryThreshold {value | value ∈ encodings} := by
  simp only [validCategoricalRecovery, Bool.and_eq_true, Bool.not_eq_true', List.any_eq_false,
    List.any_eq_true] at h
  obtain ⟨⟨hdisjoint, htrigger⟩, hrecovery⟩ := h
  refine separates_of_disjoint (fun value hvalue hbreaching => ?_) htrigger hrecovery
  simpa [hbreaching] using hdisjoint value hvalue

/-- A rule that is accepted on a numeric metric passes `validHysteresis`, and one on a categorical
metric `validCategoricalRecovery`. -/
theorem recovery_of_accepted {metrics : RuleMetrics} (h : validateAlertRule metrics rule = []) :
    ∃ recoveryThreshold, rule.recoveryThreshold = some recoveryThreshold
      ∧ match metrics.encodings rule.metricId with
        | none => validHysteresis rule.operator rule.threshold rule.recoveryOperator
            recoveryThreshold = true
        | some encodings => validCategoricalRecovery encodings rule.operator rule.threshold
            rule.recoveryOperator recoveryThreshold = true := by
  unfold validateAlertRule at h
  simp only [List.append_eq_nil_iff] at h
  obtain ⟨⟨⟨⟨⟨⟨⟨-, hmetric⟩, -⟩, -⟩, -⟩, -⟩, -⟩, hrecovery⟩ := h
  have hexists : (metrics.alertability rule.metricId).isNone = false := by
    have hnone := fieldErrorIf_eq_nil hmetric
    cases hdefinition : metrics.alertability rule.metricId with
    | none => simp [hdefinition] at hnone
    | some alertability => rfl
  unfold recoveryErrors at hrecovery
  split at hrecovery
  · cases hrecovery
  · rename_i recoveryThreshold hthreshold
    refine ⟨recoveryThreshold, hthreshold, ?_⟩
    rw [hexists, if_neg Bool.false_ne_true] at hrecovery
    cases hencodings : metrics.encodings rule.metricId with
    | none =>
      rw [hencodings] at hrecovery
      simpa using fieldErrorIf_eq_nil hrecovery
    | some encodings =>
      rw [hencodings] at hrecovery
      simpa using fieldErrorIf_eq_nil (List.append_eq_nil_iff.mp hrecovery).2

/-- An accepted rule has separate ranges for triggering and recovering exactly if its metric is
categorical or it recovers elsewhere than it triggers. -/
theorem accepted_separates_iff (metrics : RuleMetrics) (rule : AlertRuleInput)
    (h : validateAlertRule metrics rule = []) :
    ∃ recoveryThreshold, rule.recoveryThreshold = some recoveryThreshold
      ∧ (rule.Separates recoveryThreshold (metrics.values rule.metricId)
        ↔ (metrics.encodings rule.metricId).isSome = true
          ∨ RecoversElsewhere rule.operator rule.threshold rule.recoveryOperator
              recoveryThreshold) := by
  obtain ⟨recoveryThreshold, hthreshold, hvalid⟩ := recovery_of_accepted h
  refine ⟨recoveryThreshold, hthreshold, ?_⟩
  unfold RuleMetrics.values
  split at hvalid
  · rename_i hencodings
    rw [hencodings]
    simpa using numeric_separates_iff hvalid
  · rename_i encodings hencodings
    rw [hencodings]
    exact iff_of_true (categorical_separates hvalid) (.inl rfl)

def oneMetric : RuleMetrics :=
  { alertability := fun _ => some .yes, encodings := fun _ => none }

def rangeRule (operator : Operator) (threshold : ℚ) (recoveryOperator : Operator)
    (recoveryThreshold : ℚ) : AlertRuleInput :=
  { name := "connections", metricId := "pg.connection.active", aggregation := .latest
    operator := operator, threshold := threshold, recoveryOperator := recoveryOperator
    recoveryThreshold := some recoveryThreshold, windowSeconds := 60, consecutiveCount := 1
    recoveryConsecutiveCount := none, severity := .warning, noDataPolicy := .ignore, scope := .all
    instanceIds := [], evaluationIntervalSeconds := 15, enabled := true
    notificationPolicyId := none }

theorem accepted_separates_above :
    validateAlertRule oneMetric (rangeRule .gt 80 .lt 70) = []
      ∧ ∃ recoveryThreshold, (rangeRule .gt 80 .lt 70).recoveryThreshold = some recoveryThreshold
        ∧ (rangeRule .gt 80 .lt 70).Separates recoveryThreshold
            (oneMetric.values "pg.connection.active") := by
  have haccepted : validateAlertRule oneMetric (rangeRule .gt 80 .lt 70) = [] := by decide +kernel
  obtain ⟨recoveryThreshold, hthreshold, hseparates⟩ :=
    accepted_separates_iff oneMetric (rangeRule .gt 80 .lt 70) haccepted
  exact ⟨haccepted, recoveryThreshold, hthreshold, hseparates.mpr (.inr trivial)⟩

/-- The rule that triggers at all values but zero and recovers at one is accepted. At one it
triggers too, and no value lets it recover. -/
theorem accepted_never_recovers :
    validateAlertRule oneMetric (rangeRule .ne 0 .eq 1) = []
      ∧ (compare 1 .ne 0 = true ∧ compare 1 .eq 1 = true)
      ∧ ∀ value, evaluate value .ne 0 .eq 1 ≠ .recovering := by
  refine ⟨by decide +kernel, by decide +kernel, fun value hrecovering => ?_⟩
  unfold evaluate at hrecovering
  split_ifs at hrecovering with htrigger hrecovery
  obtain rfl : value = 1 := of_decide_eq_true hrecovery
  exact htrigger (by decide +kernel)

end DbsMonitor
