import DbsMonitor.RequestNumbers

/-!
# Numbers that are stored as other numbers

The checks of a request bound its numbers from below. What is given to the database are their last
32 bits, so a number that is accepted is stored as it is if and only if it fits.
-/

namespace DbsMonitor

theorem int32_spec (n : ℤ) :
    -2 ^ 31 ≤ int32 n ∧ int32 n < 2 ^ 31 ∧ (n - int32 n) % 2 ^ 32 = 0 := by
  simp only [int32, Int.bmod]
  split <;> omega

theorem int32_eq_iff {n : ℤ} (h : 0 ≤ n) : int32 n = n ↔ n < 2 ^ 31 := by
  obtain ⟨hlow, hhigh, hmod⟩ := int32_spec n
  omega

theorem duration_of_accepted {quote : String → String} {id : TaskId} {seconds given : ℤ}
    (h : updateCollectionTaskInterval quote id seconds = .ok given) :
    given = int32 seconds ∧ minimumTaskInterval ≤ durationOfSeconds seconds := by
  unfold updateCollectionTaskInterval at h
  split at h
  · cases h
  · rename_i hvalid
    cases h
    unfold validateTaskInterval at hvalid
    split_ifs at hvalid with htask hshort
    exact ⟨rfl, not_lt.mp hshort⟩

theorem durationOfSeconds_eq {seconds : ℤ} (h : -2 ^ 31 ≤ seconds) (h' : seconds < 2 ^ 31) :
    durationOfSeconds seconds = seconds * second := by
  unfold durationOfSeconds second
  exact int64_eq (by omega) (by omega)

theorem interval_unchanged_iff {quote : String → String} {id : TaskId} {seconds given : ℤ}
    (h : updateCollectionTaskInterval quote id seconds = .ok given) :
    given = seconds ∧ durationOfSeconds seconds = seconds * second
      ↔ 0 ≤ seconds ∧ seconds < 2 ^ 31 := by
  obtain ⟨rfl, hduration⟩ := duration_of_accepted h
  constructor
  · rintro ⟨hsame, hexact⟩
    obtain ⟨-, hhigh, -⟩ := int32_spec seconds
    rw [hexact] at hduration
    unfold minimumTaskInterval second at hduration
    omega
  · rintro ⟨hlow, hhigh⟩
    exact ⟨(int32_eq_iff hlow).mpr hhigh, durationOfSeconds_eq (by omega) hhigh⟩

def AlertRuleInput.numbers (input : AlertRuleInput) : List ℤ :=
  [input.windowSeconds, input.consecutiveCount, DbsMonitor.recoveryConsecutiveCount input,
    input.evaluationIntervalSeconds]

def AlertRuleRow.numbers (row : AlertRuleRow) : List ℤ :=
  [row.windowSeconds, row.consecutiveCount, row.recoveryConsecutiveCount,
    row.evaluationIntervalSeconds]

theorem numbers_withInput (row : AlertRuleRow) (input : AlertRuleInput) :
    (AlertingTables.withInput row input).numbers = input.numbers.map int32 := rfl

theorem nonneg_of_accepted {metrics : RuleMetrics} {input : AlertRuleInput}
    (h : validateAlertRule metrics input = []) : ∀ n ∈ input.numbers, 0 ≤ n := by
  simp only [validateAlertRule, List.append_eq_nil_iff] at h
  obtain ⟨⟨⟨⟨⟨⟨-, hwindow⟩, hcount⟩, hrecovery⟩, hinterval⟩, -⟩, -⟩ := h
  have hwindow := of_decide_eq_false (fieldErrorIf_eq_nil hwindow)
  have hcount := of_decide_eq_false (fieldErrorIf_eq_nil hcount)
  have hrecovery := fieldErrorIf_eq_nil hrecovery
  have hinterval := of_decide_eq_false (fieldErrorIf_eq_nil hinterval)
  have hrecoveryCount : 0 ≤ recoveryConsecutiveCount input := by
    unfold recoveryConsecutiveCount
    rcases hgiven : input.recoveryConsecutiveCount with _ | count
    · simp only [Option.getD_none]
      omega
    · rw [hgiven] at hrecovery
      have := of_decide_eq_false hrecovery
      simp only [Option.getD_some]
      omega
  intro n hn
  simp only [AlertRuleInput.numbers, List.mem_cons, List.not_mem_nil, or_false] at hn
  rcases hn with rfl | rfl | rfl | rfl <;> omega

theorem map_eq_self_iff {f : ℤ → ℤ} : ∀ {l : List ℤ}, l.map f = l ↔ ∀ n ∈ l, f n = n
  | [] => by simp
  | n :: l => by
    rw [List.map_cons, List.cons.injEq, map_eq_self_iff, List.forall_mem_cons]

theorem rule_unchanged_iff {metrics : RuleMetrics} {input : AlertRuleInput}
    (h : validateAlertRule metrics input = []) (row : AlertRuleRow) :
    (AlertingTables.withInput row input).numbers = input.numbers
      ↔ ∀ n ∈ input.numbers, n < 2 ^ 31 := by
  rw [numbers_withInput, map_eq_self_iff]
  exact forall₂_congr fun n hn => int32_eq_iff (nonneg_of_accepted h n hn)

theorem params_eq_iff {pagination : Pagination} (hlimit : 1 ≤ pagination.limit)
    (hlimit' : pagination.limit ≤ 200) (hoffset : 0 ≤ pagination.offset) :
    pagination.params = pagination ↔ pagination.offset < 2 ^ 31 := by
  have hfits : int32 pagination.limit = pagination.limit := (int32_eq_iff (by omega)).mpr (by omega)
  rw [← int32_eq_iff hoffset]
  unfold Pagination.params
  rw [hfits]
  exact ⟨fun h => congrArg Pagination.offset h, fun h => by rw [h]⟩

theorem alertObservationPage_unchanged_iff {requestedLimit requestedOffset : Option ℤ}
    {page : Pagination} (h : alertObservationPage requestedLimit requestedOffset = .ok page) :
    page = ⟨requestedLimit.getD 50, requestedOffset.getD 0⟩
      ↔ requestedOffset.getD 0 < 2 ^ 31 := by
  unfold alertObservationPage at h
  split at h
  · cases h
  · rename_i pagination hparsed
    cases h
    obtain ⟨rfl, hvalid⟩ := Prod.mk.inj hparsed
    simp only [Bool.and_eq_true, decide_eq_true_eq] at hvalid
    exact params_eq_iff hvalid.1.1 hvalid.1.2 hvalid.2

theorem sortedPage_unchanged_iff {orders : List String} {defaultOrder order : String}
    {requestedLimit requestedOffset : Option ℤ} {requestedSort : Option String} {page : Pagination}
    (h : sortedPage orders defaultOrder requestedLimit requestedOffset requestedSort
      = .ok (page, order)) :
    page = ⟨requestedLimit.getD 50, requestedOffset.getD 0⟩
      ↔ requestedOffset.getD 0 < 2 ^ 31 := by
  simp only [sortedPage] at h
  split_ifs at h with hinvalid
  cases h
  simp only [Bool.or_eq_true, decide_eq_true_eq, not_or, not_lt] at hinvalid
  obtain ⟨⟨⟨hlimit, hlimit'⟩, hoffset⟩, -⟩ := hinvalid
  exact params_eq_iff hlimit hlimit' hoffset

/-- What is accepted is given to the database unchanged exactly when it fits in 32 bits. -/
theorem accepted_unchanged_iff (quote : String → String) (id : TaskId) (seconds : ℤ)
    (metrics : RuleMetrics) (input : AlertRuleInput) (limit offset : Option ℤ) (page : Pagination) :
    (∀ given, updateCollectionTaskInterval quote id seconds = .ok given →
      (given = seconds ∧ durationOfSeconds seconds = seconds * second
        ↔ 0 ≤ seconds ∧ seconds < 2 ^ 31))
    ∧ (validateAlertRule metrics input = [] → ∀ row,
      ((AlertingTables.withInput row input).numbers = input.numbers
        ↔ ∀ n ∈ input.numbers, n < 2 ^ 31))
    ∧ (alertObservationPage limit offset = .ok page →
      (page = ⟨limit.getD 50, offset.getD 0⟩ ↔ offset.getD 0 < 2 ^ 31))
    ∧ (∀ sort order, longQueryPage limit offset sort = .ok (page, order)
        ∨ performanceEventPage limit offset sort = .ok (page, order) →
      (page = ⟨limit.getD 50, offset.getD 0⟩ ↔ offset.getD 0 < 2 ^ 31)) := by
  refine ⟨fun _ h => interval_unchanged_iff h, fun h row => rule_unchanged_iff h row,
    fun h => alertObservationPage_unchanged_iff h, ?_⟩
  rintro sort order (h | h)
  · exact sortedPage_unchanged_iff h
  · exact sortedPage_unchanged_iff h

def monthlyRule : AlertRuleInput :=
  { name := "connections", metricId := "pg.connection.active", aggregation := .latest
    operator := .gt, threshold := 80, recoveryOperator := .lt, recoveryThreshold := some 70
    windowSeconds := 2592000, consecutiveCount := 3, recoveryConsecutiveCount := none
    severity := .warning, noDataPolicy := .ignore, scope := .all, instanceIds := []
    evaluationIntervalSeconds := 15, enabled := true, notificationPolicyId := none }

theorem accepted_unchanged_monthly :
    updateCollectionTaskInterval id "pg.probe" 60 = .ok 60
      ∧ durationOfSeconds 60 = 60 * second
      ∧ validateAlertRule ⟨fun _ => some .yes, fun _ => none⟩ monthlyRule = []
      ∧ (∀ row, (AlertingTables.withInput row monthlyRule).numbers = monthlyRule.numbers)
      ∧ alertObservationPage none (some 100) = .ok ⟨50, 100⟩
      ∧ longQueryPage none (some 100) none = .ok (⟨50, 100⟩, "-sampled_at") := by
  obtain ⟨hinterval, hrule, hpage, hsorted⟩ := accepted_unchanged_iff id "pg.probe" 60
    ⟨fun _ => some .yes, fun _ => none⟩ monthlyRule none (some 100) (Pagination.params ⟨50, 100⟩)
  have haccepted : validateAlertRule ⟨fun _ => some .yes, fun _ => none⟩ monthlyRule = [] := by
    decide +kernel
  refine ⟨by decide +kernel, ((hinterval 60 (by decide +kernel)).mpr (by decide)).2, haccepted,
    fun row => (hrule haccepted row).mpr (by decide), ?_, ?_⟩
  · have hgiven : alertObservationPage none (some 100) = .ok (Pagination.params ⟨50, 100⟩) := rfl
    rw [hgiven, (hpage hgiven).mpr (by decide)]
    rfl
  · have hgiven : longQueryPage none (some 100) none
        = .ok (Pagination.params ⟨50, 100⟩, "-sampled_at") := by decide +kernel
    rw [hgiven, (hsorted _ _ (.inl hgiven)).mpr (by decide)]
    rfl

/-- An interval of 136 years is stored as one minute, as is the window of a rule, and the page after
the first 2³² rows is the first one. -/
theorem accepted_stored_as_another :
    updateCollectionTaskInterval id "pg.probe" (2 ^ 32 + 60) = .ok 60
      ∧ updateCollectionTaskInterval id "pg.probe" (60 - 2 ^ 55) = .ok 60
      ∧ validateAlertRule ⟨fun _ => some .yes, fun _ => none⟩
          { monthlyRule with windowSeconds := 2 ^ 32 + 60 } = []
      ∧ (AlertingTables.createdRule "rule" { monthlyRule with windowSeconds := 2 ^ 32 + 60 }
          none).windowSeconds = 60
      ∧ alertObservationPage none (some (2 ^ 32)) = .ok ⟨50, 0⟩ := by
  decide +kernel

end DbsMonitor
