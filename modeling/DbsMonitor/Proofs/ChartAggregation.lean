import DbsMonitor.Chart
import DbsMonitor.Proofs.EngineResolution
import Mathlib.Algebra.BigOperators.Group.List.Basic

/-!
# Charts and rules aggregate alike

At an instant both paths have the rows of the metric there. The chart has them series by series,
each paired with the weight in the map for its database, and the query has them in one group, joined
with the rows of the weight. Where a database has one weight at an instant the pairs are the same up
to order, and so are the sums.
-/

namespace DbsMonitor

open Grouping

def summed (values : List ℚ) : Option ℚ := if values = [] then none else some values.sum

def weightedAverage (pairs : List (ℚ × ℚ)) : Option ℚ :=
  let total := (pairs.map Prod.snd).sum
  if 0 < total then some ((pairs.map fun pair => pair.1 * pair.2).sum / total) else none

theorem summed_perm {values values' : List ℚ} (h : values.Perm values') :
    summed values = summed values' := by
  unfold summed
  have hnil : values = [] ↔ values' = [] := by
    rw [← List.length_eq_zero_iff, ← List.length_eq_zero_iff, h.length_eq]
  simp only [hnil, h.sum_eq]

theorem weightedAverage_perm {pairs pairs' : List (ℚ × ℚ)} (h : pairs.Perm pairs') :
    weightedAverage pairs = weightedAverage pairs' := by
  unfold weightedAverage
  rw [(h.map Prod.snd).sum_eq, (h.map fun pair => pair.1 * pair.2).sum_eq]

def weighed (values : List DatabaseValue) : List (ℚ × ℚ) :=
  (values.filter fun value => 0 ≤ value.weight).map fun value => (value.value, value.weight)

theorem weighed_perm {values values' : List DatabaseValue} (h : values.Perm values') :
    (weighed values).Perm (weighed values') :=
  (h.filter _).map _

theorem weightedLoop_eq (values : List DatabaseValue) :
    weightedLoop values
      = (((weighed values).map fun pair => pair.1 * pair.2).sum,
          ((weighed values).map Prod.snd).sum) := by
  suffices h : ∀ sums : ℚ × ℚ, values.foldl (fun (sums : ℚ × ℚ) value =>
      if value.weight < 0 then sums
      else (sums.1 + value.value * value.weight, sums.2 + value.weight)) sums
        = (sums.1 + ((weighed values).map fun pair => pair.1 * pair.2).sum,
            sums.2 + ((weighed values).map Prod.snd).sum) by
    simpa [weightedLoop] using h (0, 0)
  induction values with
  | nil => simp [weighed]
  | cons value values ih =>
    intro sums
    rw [List.foldl_cons, ih]
    by_cases hweight : value.weight < 0
    · simp [weighed, hweight]
    · have hweight' : 0 ≤ value.weight := not_lt.mp hweight
      simp [weighed, hweight, hweight', add_assoc]

theorem aggregateToInstance_sum (values : List DatabaseValue) :
    (aggregateToInstance .sum values).toOption = summed (values.map DatabaseValue.value) := by
  unfold aggregateToInstance summed
  split_ifs with hnil hmap hmap
  · rfl
  · exact absurd (by simp [hnil]) hmap
  · exact absurd (List.map_eq_nil_iff.mp hmap) hnil
  · simp only [Except.toOption, List.sum_eq_foldl, List.foldl_map]

theorem aggregateToInstance_weightedAverage (values : List DatabaseValue) :
    (aggregateToInstance .weightedAverage values).toOption = weightedAverage (weighed values) := by
  unfold aggregateToInstance weightedAverage
  simp only [weightedLoop_eq]
  split_ifs with hnil htotal htotal hpos
  · simp [hnil, weighed] at htotal
  · rfl
  · exact absurd htotal (not_le.mpr ‹_›)
  · rfl
  · rfl
  · exact absurd (not_lt.mp ‹_›) ‹_›

theorem mem_instantsOf {series : List DatabaseSeries} {instant : ℤ} :
    instant ∈ instantsOf series ↔ valuesAt series instant ≠ [] := by
  simp only [instantsOf, valuesAt, List.mem_dedup, List.mem_flatMap, List.mem_map, ne_eq,
    List.flatMap_eq_nil_iff, List.map_eq_nil_iff, List.filter_eq_nil_iff, decide_eq_true_eq]
  push Not
  rfl

theorem mem_aggregateDatabaseSeries {aggregation : MetricAggregation}
    {series : List DatabaseSeries} {point : Point} :
    point ∈ aggregateDatabaseSeries aggregation series
      ↔ (aggregateToInstance aggregation (valuesAt series point.timestamp)).toOption
          = some point.value := by
  unfold aggregateDatabaseSeries
  rw [List.mem_insertionSort, List.mem_filterMap]
  constructor
  · rintro ⟨instant, -, h⟩
    obtain ⟨value, hvalue, rfl⟩ := Option.map_eq_some_iff.mp h
    exact hvalue
  · intro h
    refine ⟨point.timestamp, mem_instantsOf.mpr fun hnil => ?_, by rw [h]; rfl⟩
    rw [hnil] at h
    simp [aggregateToInstance, Except.toOption] at h

theorem nodup_aggregateDatabaseSeries {aggregation : MetricAggregation}
    {series : List DatabaseSeries} : (aggregateDatabaseSeries aggregation series).Nodup := by
  refine (List.perm_insertionSort _ _).nodup_iff.mpr ?_
  refine (List.nodup_dedup _).filterMap fun instant instant' point h h' => ?_
  obtain ⟨value, -, rfl⟩ := Option.map_eq_some_iff.mp h
  obtain ⟨value', -, hpoint⟩ := Option.map_eq_some_iff.mp h'
  exact (congrArg Point.timestamp hpoint).symm

section Window

variable {samples : List Sample} {metricId weightMetric : MetricId} {dimensionKey : String}
  {windowStart windowEnd : ℤ} {point : Point}

theorem mem_groupInstants_iff {rows : List Sample} {ts : ℤ} :
    ts ∈ groupInstants rows ↔ (rows.filter fun row => row.ts = ts) ≠ [] := by
  rw [mem_groupInstants, ne_eq, List.filter_eq_nil_iff]
  push Not
  simp

theorem nodup_groupInstants {rows : List Sample} : (groupInstants rows).Nodup :=
  (List.perm_insertionSort _ _).nodup_iff.mpr (List.nodup_dedup _)

theorem mem_samplesInRuleWindow_iff :
    point ∈ samplesInRuleWindow samples metricId dimensionKey windowStart windowEnd
      ↔ summed (((samplesOf samples metricId dimensionKey windowStart windowEnd).filter
          fun row => row.ts = point.timestamp).map Sample.value) = some point.value := by
  unfold samplesInRuleWindow summed
  rw [List.mem_map]
  constructor
  · rintro ⟨ts, hts, rfl⟩
    rw [if_neg fun h => mem_groupInstants_iff.mp hts (List.map_eq_nil_iff.mp h)]
  · intro h
    split_ifs at h with hnil
    refine ⟨point.timestamp, mem_groupInstants_iff.mpr fun h => hnil (by simp [h]), ?_⟩
    rw [Option.some.inj h]

def joinedAt (samples : List Sample) (weightMetric : MetricId) (rows : List Sample) (ts : ℤ) :
    List (ℚ × ℚ) :=
  (rows.filter fun row => row.ts = ts).flatMap fun row =>
    (weightsOf samples weightMetric row).map fun weight => (row.value, weight.value)

theorem mem_weightedSamplesInRuleWindow_iff :
    point ∈ weightedSamplesInRuleWindow samples metricId weightMetric dimensionKey windowStart
        windowEnd
      ↔ weightedAverage (joinedAt samples weightMetric
          (samplesOf samples metricId dimensionKey windowStart windowEnd) point.timestamp)
            = some point.value := by
  unfold weightedSamplesInRuleWindow
  rw [List.mem_filterMap]
  constructor
  · rintro ⟨ts, -, h⟩
    simp only [Option.ite_none_right_eq_some, Option.some.injEq] at h
    obtain ⟨hpos, rfl⟩ := h
    exact if_pos hpos
  · intro h
    refine ⟨point.timestamp, mem_groupInstants_iff.mpr fun hnil => ?_, ?_⟩
    · simp [joinedAt, hnil, weightedAverage] at h
    · unfold weightedAverage at h
      simp only [Option.ite_none_right_eq_some, Option.some.injEq] at h ⊢
      exact ⟨h.1, congrArg (Point.mk point.timestamp) h.2⟩

theorem nodup_samplesInRuleWindow :
    (samplesInRuleWindow samples metricId dimensionKey windowStart windowEnd).Nodup := by
  refine nodup_groupInstants.map fun ts ts' h => ?_
  exact congrArg Point.timestamp h

theorem nodup_weightedSamplesInRuleWindow :
    (weightedSamplesInRuleWindow samples metricId weightMetric dimensionKey windowStart
      windowEnd).Nodup := by
  refine nodup_groupInstants.filterMap fun ts ts' point h h' => ?_
  simp only [Option.mem_def, Option.ite_none_right_eq_some, Option.some.injEq] at h h'
  obtain ⟨-, rfl⟩ := h
  exact (congrArg Point.timestamp h'.2).symm

end Window

/-- The series of the metric have no labels, and a database has one sample at most at an instant. -/
structure OneSeriesPerDatabase (samples : List Sample) (metricId : MetricId) : Prop where
  labels : ∀ sample ∈ samplesOfMetric samples metricId, sample.labelsKey = "\x7b\x7d"
  nodup : ((samplesOfMetric samples metricId).map fun sample =>
    (sample.databaseName, sample.ts)).Nodup

section Instant

variable {samples : List Sample} {metricId weightMetric : MetricId} {start stop ts : ℤ}

def weighRow (weight : String → ℤ → Option ℚ) (row : Sample) : Option DatabaseValue :=
  (weight row.databaseName row.ts).map fun weight =>
    { databaseName := row.databaseName, value := row.value, weight := weight }

theorem values_convertSeries (weight : String → ℤ → Option ℚ) (series : SeriesKey)
    (hstart : timestamptz start ≤ ts) (hstop : ts ≤ timestamptz stop) :
    (((Dictionary.convertSeries weight
        { databaseName := series.1
          points := pointsInRange samples metricId series (timestamptz start)
            (timestamptz stop) }).points.filter fun point => point.instant = ts).map fun point =>
      ({ databaseName := series.1, value := point.value, weight := point.weight } :
        DatabaseValue)).Perm
      ((((samplesOfMetric samples metricId).filter fun row => row.ts = ts).filter fun row =>
        row.seriesKey = series).filterMap (weighRow weight)) := by
  unfold Dictionary.convertSeries pointsInRange
  refine ((((List.perm_insertionSort _ _).filterMap _).filter _).map _).trans (.of_eq ?_)
  rw [List.filterMap_map, List.filterMap_filter, List.filter_filterMap, List.map_filterMap,
    List.filterMap_filter, List.filterMap_filter]
  refine List.filterMap_congr fun row _ => ?_
  by_cases hts : row.ts = ts
  · by_cases hseries : row.seriesKey = series
    · subst hts hseries
      cases hweight : weight row.databaseName row.ts <;>
        simp [weighRow, Sample.seriesKey, hstart, hstop, hweight]
    · simp [hts, hseries]
  · cases hweight : weight series.1 row.ts <;> split_ifs <;> simp_all

theorem valuesAt_readMetricSeries (weight : String → ℤ → Option ℚ)
    (hstart : timestamptz start ≤ ts) (hstop : ts ≤ timestamptz stop) :
    (valuesAt ((readMetricSeries samples metricId start stop).map
        (Dictionary.convertSeries weight)) ts).Perm
      (((samplesOfMetric samples metricId).filter fun row => row.ts = ts).filterMap
        (weighRow weight)) := by
  unfold valuesAt readMetricSeries
  rw [List.map_map, List.flatMap_map]
  refine (List.Perm.flatMap_left _ fun series _ =>
    values_convertSeries weight series hstart hstop).trans ?_
  rw [← List.filterMap_flatMap]
  refine List.Perm.filterMap _ (perm_flatMap_filter Sample.seriesKey ?_ fun row hrow => ?_)
  · exact (List.perm_insertionSort _ _).nodup_iff.mpr (List.nodup_dedup _)
  · rw [seriesForMetric, List.mem_insertionSort, List.mem_dedup]
    exact List.mem_map_of_mem (List.mem_filter.mp hrow).1

namespace OneSeriesPerDatabase

theorem nodup_seriesForMetric (h : OneSeriesPerDatabase samples metricId) :
    ((seriesForMetric samples metricId).map Prod.fst).Nodup := by
  have hlabels : ∀ series ∈ seriesForMetric samples metricId, series.2 = "\x7b\x7d" := by
    intro series hseries
    rw [seriesForMetric, List.mem_insertionSort, List.mem_dedup] at hseries
    obtain ⟨row, hrow, rfl⟩ := List.mem_map.mp hseries
    exact h.labels row hrow
  refine List.Nodup.map_on (fun series hseries series' hseries' hname => ?_) ?_
  · exact Prod.ext hname ((hlabels series hseries).trans (hlabels series' hseries').symm)
  · exact (List.perm_insertionSort _ _).nodup_iff.mpr (List.nodup_dedup _)

theorem mem_pointsInRange {series : SeriesKey} {start stop : ℤ} {point : Point} :
    point ∈ pointsInRange samples metricId series start stop
      ↔ ∃ row ∈ samplesOfMetric samples metricId, row.seriesKey = series ∧
          (start ≤ row.ts ∧ row.ts ≤ stop) ∧ ⟨row.ts, row.value⟩ = point := by
  unfold pointsInRange
  rw [List.mem_insertionSort, List.mem_map]
  simp only [List.mem_filter, Bool.and_eq_true, decide_eq_true_eq, and_assoc]

theorem nodup_pointsInRange (h : OneSeriesPerDatabase samples metricId) (series : SeriesKey)
    (start stop : ℤ) :
    ((pointsInRange samples metricId series start stop).map Point.timestamp).Nodup := by
  refine ((List.perm_insertionSort _ _).map _).nodup_iff.mpr ?_
  rw [List.map_map]
  refine List.Nodup.map_on (fun row hrow row' hrow' hts => ?_) (h.nodup.of_map.filter _)
  simp only [List.mem_filter, Bool.and_eq_true, decide_eq_true_eq] at hrow hrow'
  have hname : row.seriesKey.1 = row'.seriesKey.1 := by rw [hrow.2.1.1, hrow'.2.1.1]
  exact List.inj_on_of_nodup_map h.nodup hrow.1 hrow'.1 (Prod.ext hname hts)

theorem assigned_pointsInRange (h : OneSeriesPerDatabase samples metricId) {series : SeriesKey}
    {start stop : ℤ} {value : ℚ} :
    assigned ((pointsInRange samples metricId series start stop).map fun point =>
        (point.timestamp, point.value)) ts = some value
      ↔ ∃ row ∈ samplesOfMetric samples metricId, row.seriesKey = series ∧
          (start ≤ row.ts ∧ row.ts ≤ stop) ∧ row.ts = ts ∧ row.value = value := by
  have hnodup : (((pointsInRange samples metricId series start stop).map fun point =>
      (point.timestamp, point.value)).map Prod.fst).Nodup := by
    rw [List.map_map]
    exact h.nodup_pointsInRange series start stop
  rw [assigned_eq_some hnodup, List.mem_map]
  constructor
  · rintro ⟨point, hpoint, hpair⟩
    obtain ⟨row, hrow, hseries, hrange, rfl⟩ := mem_pointsInRange.mp hpoint
    exact ⟨row, hrow, hseries, hrange, congrArg Prod.fst hpair, congrArg Prod.snd hpair⟩
  · rintro ⟨row, hrow, hseries, hrange, rfl, rfl⟩
    exact ⟨_, mem_pointsInRange.mpr ⟨row, hrow, hseries, hrange, rfl⟩, rfl⟩

theorem weightAt_eq_some (h : OneSeriesPerDatabase samples weightMetric)
    (hstart : timestamptz start ≤ ts) (hstop : ts ≤ timestamptz stop) {databaseName : String}
    {value : ℚ} :
    Dictionary.weightAt (Dictionary.weightsByDatabase
        (readMetricSeries samples weightMetric start stop)) databaseName ts = some value
      ↔ ∃ row ∈ samplesOfMetric samples weightMetric,
          (row.databaseName, row.ts) = (databaseName, ts) ∧ row.value = value := by
  have hnames : ((Dictionary.weightsByDatabase
      (readMetricSeries samples weightMetric start stop)).map Prod.fst).Nodup := by
    unfold Dictionary.weightsByDatabase readMetricSeries
    rw [List.map_map, List.map_map]
    exact h.nodup_seriesForMetric
  unfold Dictionary.weightAt
  simp only [Option.bind_eq_some_iff, assigned_eq_some hnames]
  unfold Dictionary.weightsByDatabase readMetricSeries
  simp only [List.map_map, List.mem_map, Function.comp_apply, Prod.mk.injEq]
  constructor
  · rintro ⟨byTime, ⟨series, hseries, rfl, rfl⟩, hvalue⟩
    obtain ⟨row, hrow, rfl, -, hts, hvalue⟩ := h.assigned_pointsInRange.mp hvalue
    exact ⟨row, hrow, ⟨rfl, hts⟩, hvalue⟩
  · rintro ⟨row, hrow, ⟨rfl, rfl⟩, rfl⟩
    refine ⟨_, ⟨row.seriesKey, ?_, rfl, rfl⟩, ?_⟩
    · rw [seriesForMetric, List.mem_insertionSort, List.mem_dedup]
      exact List.mem_map_of_mem hrow
    · exact h.assigned_pointsInRange.mpr ⟨row, hrow, rfl, ⟨hstart, hstop⟩, rfl, rfl⟩

theorem map_weightsOf (h : OneSeriesPerDatabase samples weightMetric) {row : Sample}
    (hlabels : row.labelsKey = "\x7b\x7d") (hstart : timestamptz start ≤ row.ts)
    (hstop : row.ts ≤ timestamptz stop) :
    (weightsOf samples weightMetric row).map Sample.value
      = (Dictionary.weightAt (Dictionary.weightsByDatabase
          (readMetricSeries samples weightMetric start stop)) row.databaseName row.ts).toList.filter
            fun weight => 0 ≤ weight := by
  have hrows : weightsOf samples weightMetric row
      = ((samplesOfMetric samples weightMetric).filter fun weight =>
          (weight.databaseName, weight.ts) = (row.databaseName, row.ts)).filter fun weight =>
            0 ≤ weight.value := by
    unfold weightsOf samplesOfMetric
    rw [List.filter_filter, List.filter_filter]
    refine List.filter_congr fun weight hweight => ?_
    by_cases hmetric : weight.metricId = weightMetric
    · have := h.labels weight (List.mem_filter.mpr ⟨hweight, by simpa using hmetric⟩)
      simp [hmetric, this, hlabels, Bool.and_comm, Bool.and_assoc]
    · simp [hmetric]
  rw [hrows]
  cases hvalue : Dictionary.weightAt (Dictionary.weightsByDatabase
      (readMetricSeries samples weightMetric start stop)) row.databaseName row.ts with
  | none =>
    have hnone : ((samplesOfMetric samples weightMetric).filter fun weight =>
        (weight.databaseName, weight.ts) = (row.databaseName, row.ts)) = [] := by
      refine List.filter_eq_nil_iff.mpr fun weight hweight hkey => ?_
      have hsome := (h.weightAt_eq_some hstart hstop).mpr
        ⟨weight, hweight, of_decide_eq_true hkey, rfl⟩
      rw [hvalue] at hsome
      cases hsome
    rw [hnone]
    rfl
  | some value =>
    obtain ⟨weight, hweight, hkey, rfl⟩ := (h.weightAt_eq_some hstart hstop).mp hvalue
    have hone : ((samplesOfMetric samples weightMetric).filter fun weight =>
        (weight.databaseName, weight.ts) = (row.databaseName, row.ts)) = [weight] := by
      refine filter_eq_singleton h.nodup.of_map hweight fun weight' hweight' => ?_
      rw [decide_eq_true_eq, ← hkey]
      exact ⟨fun heq => List.inj_on_of_nodup_map h.nodup hweight' hweight heq, fun heq => heq ▸ rfl⟩
    rw [hone]
    by_cases hnonneg : 0 ≤ weight.value <;> simp [hnonneg]

end OneSeriesPerDatabase

theorem weighed_filterMap (weight : String → ℤ → Option ℚ) (rows : List Sample) :
    weighed (rows.filterMap (weighRow weight))
      = rows.flatMap fun row => ((weight row.databaseName row.ts).toList.filter fun weight =>
          0 ≤ weight).map fun weight => (row.value, weight) := by
  induction rows with
  | nil => rfl
  | cons row rows ih =>
    rw [List.flatMap_cons, ← ih]
    cases hweight : weight row.databaseName row.ts with
    | none => simp [weighed, weighRow, hweight]
    | some value =>
      by_cases hnonneg : 0 ≤ value <;> simp [weighed, weighRow, hweight, hnonneg]

theorem OneSeriesPerDatabase.filter_samplesOf (h : OneSeriesPerDatabase samples metricId)
    {windowStart windowEnd : ℤ} (hstart : windowStart < ts) (hend : ts ≤ windowEnd) :
    ((samplesOf samples metricId "\x7b\x7d" windowStart windowEnd).filter fun row => row.ts = ts)
      = (samplesOfMetric samples metricId).filter fun row => row.ts = ts := by
  have hrows : samplesOf samples metricId "\x7b\x7d" windowStart windowEnd
      = (samplesOfMetric samples metricId).filter fun row =>
          windowStart < row.ts && row.ts ≤ windowEnd := by
    unfold samplesOf samplesOfMetric
    rw [List.filter_filter]
    refine List.filter_congr fun row hrow => ?_
    by_cases hmetric : row.metricId = metricId
    · have hlabels := h.labels row (List.mem_filter.mpr ⟨hrow, by simpa using hmetric⟩)
      simp [hmetric, hlabels]
    · simp [hmetric]
  rw [hrows, List.filter_filter]
  refine List.filter_congr fun row _ => ?_
  by_cases hts : row.ts = ts <;> simp [hts, hstart, hend]

end Instant

def sharedInstant (start stop now window ts : ℤ) : Bool :=
  timestamptz start ≤ ts && ts ≤ timestamptz stop
    && timestamptz (now - window) < ts && ts ≤ timestamptz now

namespace Dictionary

variable {dictionary : Dictionary} {item : CatalogMetric} {samples : List Sample}
  {start stop now window : ℤ}

theorem levelFor_eq (hitem : item ∈ dictionary.metrics) :
    dictionary.levelFor item.id = item.level := by
  rw [levelFor, lookup_eq hitem]
  rfl

theorem aggregationFor_eq (hitem : item ∈ dictionary.metrics) :
    dictionary.aggregationFor item.id = item.aggregation := by
  rw [aggregationFor, lookup_eq hitem]
  rfl

theorem weightMetricFor_eq_some (hitem : item ∈ dictionary.metrics)
    (hweighted : item.aggregation = .weightedAverage) :
    dictionary.weightMetricFor item.id = some item.weight := by
  rw [weightMetricFor, lookup_eq hitem]
  exact if_neg (item.weight_iff.mp hweighted)

theorem weightMetricFor_eq_none (hitem : item ∈ dictionary.metrics)
    (hweighted : item.aggregation ≠ .weightedAverage) :
    dictionary.weightMetricFor item.id = none := by
  rw [weightMetricFor, lookup_eq hitem]
  exact if_pos (not_not.mp fun h => hweighted (item.weight_iff.mpr h))

theorem nodup_aggregateSeriesToInstance {metricId : MetricId} {series : List FetchedSeries} :
    (dictionary.aggregateSeriesToInstance samples metricId start stop series).Nodup := by
  unfold aggregateSeriesToInstance
  dsimp only
  split_ifs
  · split
    · exact List.nodup_nil
    · exact nodup_aggregateDatabaseSeries
  · exact nodup_aggregateDatabaseSeries

theorem nodup_ruleWindowPoints {metricId : MetricId} {dimensionKey : String} :
    (dictionary.ruleWindowPoints samples metricId dimensionKey now window).Nodup := by
  unfold ruleWindowPoints
  dsimp only
  split
  · exact nodup_weightedSamplesInRuleWindow
  · exact nodup_samplesInRuleWindow

section Shared

variable {point : Point} (hitem : item ∈ dictionary.metrics)
  (hvalues : OneSeriesPerDatabase samples item.id)
  (hshared : sharedInstant start stop now window point.timestamp = true)

include hitem hvalues hshared

theorem mem_chart_iff_of_sum (hsum : item.aggregation = .sum) :
    point ∈ dictionary.aggregateSeriesToInstance samples item.id start stop
        (readMetricSeries samples item.id start stop)
      ↔ point ∈ dictionary.ruleWindowPoints samples item.id "\x7b\x7d" now window := by
  simp only [sharedInstant, Bool.and_eq_true, decide_eq_true_eq] at hshared
  obtain ⟨⟨⟨hstart, hstop⟩, hwindow⟩, hnow⟩ := hshared
  have hweighted : item.aggregation ≠ .weightedAverage := by simp [hsum]
  simp only [aggregateSeriesToInstance, ruleWindowPoints, aggregationFor_eq hitem,
    weightMetricFor_eq_none hitem hweighted, hsum, reduceCtorEq, if_false]
  rw [mem_aggregateDatabaseSeries, mem_samplesInRuleWindow_iff, aggregateToInstance_sum,
    hvalues.filter_samplesOf hwindow hnow,
    summed_perm ((valuesAt_readMetricSeries _ hstart hstop).map _), List.map_filterMap]
  simp [weighRow, List.filterMap_eq_map']

theorem mem_chart_iff_of_weightedAverage (hweighted : item.aggregation = .weightedAverage)
    (hweights : OneSeriesPerDatabase samples item.weight) :
    point ∈ dictionary.aggregateSeriesToInstance samples item.id start stop
        (readMetricSeries samples item.id start stop)
      ↔ point ∈ dictionary.ruleWindowPoints samples item.id "\x7b\x7d" now window := by
  simp only [sharedInstant, Bool.and_eq_true, decide_eq_true_eq] at hshared
  obtain ⟨⟨⟨hstart, hstop⟩, hwindow⟩, hnow⟩ := hshared
  simp only [aggregateSeriesToInstance, ruleWindowPoints, aggregationFor_eq hitem,
    weightMetricFor_eq_some hitem hweighted, hweighted, if_true]
  rw [mem_aggregateDatabaseSeries, mem_weightedSamplesInRuleWindow_iff,
    aggregateToInstance_weightedAverage, joinedAt, hvalues.filter_samplesOf hwindow hnow]
  rw [weightedAverage_perm (weighed_perm (valuesAt_readMetricSeries _ hstart hstop)),
    weighed_filterMap]
  -- both have the pairs of the rows of the instant, in the same order
  refine Eq.congr (congrArg weightedAverage (List.flatMap_congr fun row hrow => ?_)) rfl
  simp only [List.mem_filter, decide_eq_true_eq] at hrow
  obtain ⟨hrow, hts⟩ := hrow
  rw [← hts] at hstart hstop
  rw [← hweights.map_weightsOf (hvalues.labels row hrow) hstart hstop, List.map_map]
  rfl

end Shared

/-- On the instants that both reach. -/
theorem chart_points_perm_rule_points (hitem : item ∈ dictionary.metrics)
    (hlevel : item.level = .databaseLevel) (hvalues : OneSeriesPerDatabase samples item.id)
    (hweights : ∀ weightMetric, dictionary.weightMetricFor item.id = some weightMetric →
      OneSeriesPerDatabase samples weightMetric) (start stop now window : ℤ) :
    ∃ points, dictionary.chartSeries samples item.id start stop
        = [{ databaseName := "", points := points }] ∧
      (points.filter fun point => sharedInstant start stop now window point.timestamp).Perm
        ((dictionary.ruleWindowPoints samples item.id "\x7b\x7d" now window).filter fun point =>
          sharedInstant start stop now window point.timestamp) := by
  refine ⟨_, if_pos ((levelFor_eq hitem).trans hlevel), ?_⟩
  refine (List.perm_ext_iff_of_nodup (nodup_aggregateSeriesToInstance.filter _)
    (nodup_ruleWindowPoints.filter _)).mpr fun point => ?_
  rw [List.mem_filter, List.mem_filter]
  refine and_congr_left fun hshared => ?_
  cases haggregation : item.aggregation with
  | none => cases hlevel.symm.trans (item.aggregation_iff.mp haggregation)
  | sum => exact mem_chart_iff_of_sum hitem hvalues hshared haggregation
  | weightedAverage =>
    exact mem_chart_iff_of_weightedAverage hitem hvalues hshared haggregation
      (hweights _ (weightMetricFor_eq_some hitem haggregation))

end Dictionary

def cacheHitRatio : CatalogMetric where
  id := "pg.cache.hit_ratio"
  displayName := "缓存命中率"
  engine := enginePostgreSQL
  level := .databaseLevel
  aggregation := .weightedAverage
  weight := "pg.cache.block_access_per_sec"
  unit := "percent"
  aggregation_iff := by decide
  weight_iff := by decide

def cacheBlockAccess : CatalogMetric where
  id := "pg.cache.block_access_per_sec"
  displayName := "缓存块访问速率"
  engine := enginePostgreSQL
  level := .databaseLevel
  aggregation := .sum
  unit := "blocks/s"
  aggregation_iff := by decide
  weight_iff := by decide

def cacheDictionary : Dictionary where
  metrics := [cacheHitRatio, cacheBlockAccess]
  slots := []
  metrics_nodup := by decide
  slots_nodup := by decide
  bound_once := by decide
  declared := by decide

def cacheSamples : List Sample :=
  let ratio databaseName ts value : Sample :=
    { metricId := cacheHitRatio.id, databaseName := databaseName, labelsKey := "\x7b\x7d"
      ts := ts, value := value }
  let accessed databaseName ts value : Sample :=
    { metricId := cacheBlockAccess.id, databaseName := databaseName, labelsKey := "\x7b\x7d"
      ts := ts, value := value }
  [ratio "app" 5000 (1 / 2), ratio "audit" 5000 1, ratio "idle" 5000 1, ratio "old" 5000 0,
    accessed "app" 5000 3, accessed "audit" 5000 1, accessed "old" 5000 (-1),
    ratio "app" 6000 1, accessed "app" 6000 0]

theorem chart_points_perm_rule_points_cache :
    (cacheDictionary.ruleWindowPoints cacheSamples cacheHitRatio.id "\x7b\x7d" 9000 8000).filter
        (fun point => sharedInstant 2000 7000 9000 8000 point.timestamp)
      = [{ timestamp := 5000, value := 5 / 8 }] ∧
    ∃ points, cacheDictionary.chartSeries cacheSamples cacheHitRatio.id 2000 7000
        = [{ databaseName := "", points := points }] ∧
      (points.filter fun point => sharedInstant 2000 7000 9000 8000 point.timestamp).Perm
        ((cacheDictionary.ruleWindowPoints cacheSamples cacheHitRatio.id "\x7b\x7d" 9000
            8000).filter fun point => sharedInstant 2000 7000 9000 8000 point.timestamp) := by
  refine ⟨by decide +kernel, ?_⟩
  refine Dictionary.chart_points_perm_rule_points (by decide) rfl
    ⟨by decide +kernel, by decide +kernel⟩ ?_ 2000 7000 9000 8000
  intro weightMetric hweight
  obtain rfl : weightMetric = cacheBlockAccess.id := by
    have hsome : cacheDictionary.weightMetricFor cacheHitRatio.id
        = some cacheBlockAccess.id := by decide
    rw [hsome] at hweight
    exact (Option.some.inj hweight).symm
  exact ⟨by decide +kernel, by decide +kernel⟩

end DbsMonitor
