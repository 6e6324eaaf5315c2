import Mathlib.Algebra.Order.BigOperators.Group.List
import Mathlib.Algebra.Order.Ring.Rat
import DbsMonitor.Evaluator
import DbsMonitor.Proofs.Watermark

/-!
# One error code for all tasks

Any recording that is not a success sets the error code of the instance, and only an advance of the
watermark over every task clears it. A task that stays blocked therefore hides the samples of every
other task from the rules (`blocked_task_hides_samples`).
-/

namespace DbsMonitor

open Machine CollectStore

section Dictionary

theorem controlPlane_not_pg : ∀ item ∈ metrics, item.producer = .controlPlane →
    "pg.".toList.isPrefixOf item.id.toList = false := by
  decide

theorem producerFor_pg {metricId : MetricId}
    (hpg : "pg.".toList.isPrefixOf metricId.toList = true) :
    producerFor metricId ≠ some .controlPlane := by
  intro h
  obtain ⟨item, hitem, hproducer⟩ := Option.map_eq_some_iff.mp h
  have hid : item.id = metricId := by simpa using List.find?_some hitem
  have hnot := controlPlane_not_pg item (List.mem_of_find?_eq_some hitem) hproducer
  rw [hid, hpg] at hnot
  exact absurd hnot (by simp)

end Dictionary

section Samples

def Stored (t : ℤ) : Prop := timestamptz t = t

theorem stored_timestamptz (t : ℤ) : Stored (timestamptz t) := by
  unfold Stored timestamptz
  omega

theorem insertSample_stored {s : CollectStore} (hs : ∀ x ∈ s.samples, Stored x.ts)
    (finished : ℤ) (sample : CollectedSample) :
    ∀ x ∈ (s.insertSample finished sample).samples, Stored x.ts := by
  intro x hx
  simp only [insertSample, List.mem_append, List.mem_singleton] at hx
  rcases hx with hx | rfl
  · exact hs x hx
  · exact stored_timestamptz finished

theorem foldl_insertSample_stored (finished : ℤ) :
    ∀ (batch : List CollectedSample) (s : CollectStore), (∀ x ∈ s.samples, Stored x.ts) →
      ∀ x ∈ (batch.foldl (fun s sample => s.insertSample finished sample) s).samples, Stored x.ts
  | [], _, hs => hs
  | sample :: batch, s, hs =>
    foldl_insertSample_stored finished batch (s.insertSample finished sample)
      (insertSample_stored hs finished sample)

theorem ensureTaskStates_samples (ids : List TaskId) (s : CollectStore) :
    (s.ensureTaskStates ids).samples = s.samples := by
  obtain ⟨tasks, htasks⟩ := exists_ensureTaskStates ids s
  rw [htasks]

theorem commit_stored {s : CollectStore} (hs : ∀ x ∈ s.samples, Stored x.ts) (tx : Tx) :
    ∀ x ∈ (s.commit tx).samples, Stored x.ts := by
  cases tx
  case ensureTaskStates ids => simpa [commit, ensureTaskStates_samples] using hs
  case setPaused => exact hs
  case failure run result code connectionFailure finished =>
    simp only [commit, recordFailure, whenActive]
    split_ifs
    all_goals try simpa using hs
    all_goals exact insertSample_stored (by simpa using hs) finished unreachableSample
  case success run batch finished =>
    have hfold := foldl_insertSample_stored finished batch.samples s hs
    simp only [commit, recordSuccess, whenActive]
    split_ifs
    all_goals first | exact hs | simpa using hfold
  all_goals
    simp only [commit, recordStarted, recordUnmet, recordCapabilityBlocked,
      recordCapabilityNotApplicable, recordPlatformDatabaseCapacityEmergency, whenActive]
    split_ifs <;> simpa using hs

theorem history_stored {ids : List TaskId} {txs : List Tx} {h : History}
    (hrun : run History.step (History.init ids) txs = some h) :
    ∀ x ∈ h.store.samples, Stored x.ts := by
  refine run_invariant History.step (I := fun h => ∀ x ∈ h.store.samples, Stored x.ts)
    (fun s tx t hs hstep => ?_) txs ?_ hrun
  · rw [History.store_step hstep]
    exact commit_stored hs tx
  · simp [History.init, ensureTaskStates_samples]

end Samples

section Window

/-- A sample of the metric lies in the window; for a weighted average, with a positive weight,
as the collector stores the two together. -/
def SamplesInWindow (samples : List Sample) (metricId : MetricId) (dimensionKey : String)
    (now window : ℤ) : Prop :=
  ∃ sample ∈ samples, sample.metricId = metricId ∧ sample.labelsKey = dimensionKey
    ∧ inWindow now window sample.ts = true
    ∧ ∀ weightMetric ∈ weightMetricFor metricId,
        ∃ weight ∈ weightsOf samples weightMetric sample, 0 < weight.value

variable {samples : List Sample} {metricId : MetricId} {dimensionKey : String} {now window : ℤ}

theorem mem_samplesOf {sample : Sample} (hmem : sample ∈ samples)
    (hmetric : sample.metricId = metricId) (hlabels : sample.labelsKey = dimensionKey)
    (hwindow : inWindow now window sample.ts = true) (hstored : Stored sample.ts) :
    sample ∈ samplesOf samples metricId dimensionKey (timestamptz (now - window))
      (timestamptz now) := by
  simp only [inWindow, Bool.and_eq_true, decide_eq_true_eq] at hwindow
  have hstart : timestamptz (now - window) < sample.ts :=
    Int.lt_of_le_of_lt (timestamptz_le _) hwindow.1
  have hend : sample.ts ≤ timestamptz now := by
    have := timestamptz_mono hwindow.2
    rwa [hstored] at this
  simp [samplesOf, hmem, hmetric, hlabels, hstart, hend]

theorem weights_total_pos {weightMetric : MetricId} {rows : List Sample} {sample weight : Sample}
    (hrow : sample ∈ rows) (hweight : weight ∈ weightsOf samples weightMetric sample)
    (hpos : 0 < weight.value) :
    0 < (((rows.flatMap fun row => (weightsOf samples weightMetric row).map
      fun weight => (row.value, weight.value))).map Prod.snd).sum := by
  refine lt_of_lt_of_le hpos (List.single_le_sum (fun x hx => ?_) _ ?_)
  · simp only [List.mem_map, List.mem_flatMap] at hx
    obtain ⟨_, ⟨row, -, w, hw, rfl⟩, rfl⟩ := hx
    simp only [weightsOf, List.mem_filter, Bool.and_eq_true, decide_eq_true_eq] at hw
    exact hw.2.2
  · simp only [List.mem_map, List.mem_flatMap]
    exact ⟨_, ⟨sample, hrow, weight, hweight, rfl⟩, rfl⟩

theorem exists_ruleWindowPoint (hstored : ∀ x ∈ samples, Stored x.ts)
    (h : SamplesInWindow samples metricId dimensionKey now window) :
    ∃ point ∈ ruleWindowPoints samples metricId dimensionKey now window,
      inWindow now window point.timestamp = true := by
  obtain ⟨sample, hmem, hmetric, hlabels, hwindow, hweights⟩ := h
  have hrow := mem_samplesOf hmem hmetric hlabels hwindow (hstored sample hmem)
  have hts := mem_groupInstants.mpr ⟨sample, hrow, rfl⟩
  unfold ruleWindowPoints
  rcases hw : weightMetricFor metricId with _ | weightMetric
  · exact ⟨_, List.mem_map.mpr ⟨sample.ts, hts, rfl⟩, hwindow⟩
  · obtain ⟨weight, hweight, hpos⟩ := hweights weightMetric hw
    have hsame : sample ∈ (samplesOf samples metricId dimensionKey
        (timestamptz (now - window)) (timestamptz now)).filter fun row => row.ts = sample.ts := by
      simpa using hrow
    have htotal := weights_total_pos hsame hweight hpos
    exact ⟨_, List.mem_filterMap.mpr ⟨sample.ts, hts, if_pos htotal⟩, hwindow⟩

theorem evaluateSamples_isSome {target : EvaluationTarget} (hstored : ∀ x ∈ samples, Stored x.ts)
    (h : SamplesInWindow samples target.metricId dimensionKey now target.window) :
    ∃ result, evaluateSamples target samples dimensionKey now = some result
      ∧ result.outcome ≠ .missing := by
  obtain ⟨value, hvalue⟩ := Option.isSome_iff_exists.mp
    ((aggregateWindow_isSome target.aggregation).mpr (exists_ruleWindowPoint hstored h))
  refine ⟨target.evaluate value, by simp [evaluateSamples, hvalue], ?_⟩
  exact evaluate_ne_missing _ _ _ _ _

end Window

theorem evaluateMetric_eq_samples_iff (ids : List TaskId) (txs : List Tx) (h : History)
    (hrun : run History.step (History.init ids) txs = some h) (target : EvaluationTarget)
    (hpg : "pg.".toList.isPrefixOf target.metricId.toList = true)
    (hreachable : target.metricId ≠ "pg.availability.reachable")
    (hcode : target.lastErrorCode = h.store.source.lastErrorCode) (agent : AgentFacts)
    (dimensionKey : String) (now : ℤ)
    (hsamples : SamplesInWindow h.store.samples target.metricId dimensionKey now target.window) :
    ∃ result, evaluateSamples target h.store.samples dimensionKey now = some result
      ∧ result.outcome ≠ .missing
      ∧ (evaluateMetric target h.store.source agent h.store.samples dimensionKey now = result
          ↔ h.store.source.lastErrorCode = none) := by
  obtain ⟨result, hresult, hne⟩ := evaluateSamples_isSome (history_stored hrun) hsamples
  refine ⟨result, hresult, hne, ?_⟩
  have hblocks : collectionFailureBlocksSamples target.metricId target.lastErrorCode
      = h.store.source.lastErrorCode.isSome := by
    rw [collectionFailureBlocksSamples, hpg, hcode]
    simp [hreachable]
  rw [evaluateMetric, if_neg (producerFor_pg hpg), hblocks]
  rcases h.store.source.lastErrorCode with _ | code
  · simp [hresult]
  · simp only [Option.isSome_some, ↓reduceIte, reduceCtorEq, iff_false]
    rintro rfl
    exact hne rfl

theorem oneMinute_pos : 0 < 60 := by decide

def tpsRule (lastErrorCode : Option ErrorCode) : EvaluationTarget :=
  { metricId := "pg.tps", aggregation := .latest, operator := .gt, threshold := 50
    recoveryOperator := .le, recoveryThreshold := 50, windowSeconds := 60
    windowSeconds_pos := oneMinute_pos, lastErrorCode := lastErrorCode }

def tpsBatch : CollectedBatch :=
  { samples := [{ metricId := "pg.tps", value := 80, databaseName := "orders" }] }

def noAgent : AgentFacts := { expected := false, lastReportAt := none, lastErrorCode := none }

/-- `pg.stat_database` succeeds at 5.2 s; `pg.stat_statements` lacks its extension at 6.1 s. -/
def blockedTask : List Tx :=
  [ .started (History.ordersRun taskStatDatabase 50 51),
    .success (History.ordersRun taskStatDatabase 50 51) tpsBatch (52 * 100 * millisecond),
    .capabilityBlocked (History.ordersRun taskQueryStatistics 60 60) .extensionMissing
      (61 * 100 * millisecond) ]

/-- The latest run of the task of `pg.tps` succeeded without a counter reset and its sample is
in the window, yet the rule sees no data. -/
theorem blocked_task_hides_samples :
    ∃ h, run History.step (History.init ["pg.stat_database", "pg.stat_statements"]) blockedTask
        = some h
      ∧ (h.latest "pg.stat_database").any Record.succeeded = true
      ∧ ((h.store.tasks.lookup "pg.stat_database").map TaskStateRow.lastErrorCode) = some none
      ∧ (∃ result, evaluateSamples (tpsRule h.store.source.lastErrorCode) h.store.samples
          "\x7b\x7d" (10 * second) = some result ∧ result.outcome = .breaching)
      ∧ (evaluateMetric (tpsRule h.store.source.lastErrorCode) h.store.source noAgent
          h.store.samples "\x7b\x7d" (10 * second)).outcome = .missing := by
  exact ⟨_, rfl, by decide, by decide, ⟨_, rfl, by decide +kernel⟩, by decide⟩

theorem evaluateMetric_eq_samples_iff_tps :
    ∃ result, evaluateSamples (tpsRule none) [⟨"pg.tps", "orders", "\x7b\x7d", 5200000000, 80⟩]
        "\x7b\x7d" (10 * second) = some result
      ∧ result.outcome ≠ .missing
      ∧ (evaluateMetric (tpsRule none) { lastSuccessAt := some 5200000000 } noAgent
          [⟨"pg.tps", "orders", "\x7b\x7d", 5200000000, 80⟩] "\x7b\x7d" (10 * second) = result
          ↔ (none : Option ErrorCode) = none) :=
  evaluateMetric_eq_samples_iff ["pg.stat_database"] (blockedTask.take 2) _ rfl (tpsRule none)
    (by decide) (by decide) rfl noAgent "\x7b\x7d" (10 * second)
    ⟨_, List.mem_cons_self, rfl, rfl, by decide, by decide⟩

end DbsMonitor
