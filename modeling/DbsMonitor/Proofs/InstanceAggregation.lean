import Mathlib.Algebra.BigOperators.Ring.List
import Mathlib.Algebra.Order.BigOperators.Group.List
import Mathlib.Algebra.Order.Field.Basic
import Mathlib.Algebra.Order.Field.Rat
import Mathlib.Data.Finset.Max
import DbsMonitor.Listing
import DbsMonitor.Proofs.ChartAggregation

/-!
# Aggregation to the instance

An instant comes once, so the sorted series is the only one with its points, whatever the order of
the databases, their points and the map. What stands at an instant is the aggregate of the values
there (`valueAt_aggregate`).
-/

namespace DbsMonitor

open Listing

def aggregateInOrder (aggregation : MetricAggregation) (series : List DatabaseSeries)
    (instants : List ℤ) : List Point :=
  (instants.filterMap fun instant =>
    (aggregateToInstance aggregation (valuesAt series instant)).toOption.map fun value =>
      { timestamp := instant, value := value }).insertionSort fun left right =>
        left.timestamp ≤ right.timestamp

theorem aggregateDatabaseSeries_eq (aggregation : MetricAggregation)
    (series : List DatabaseSeries) :
    aggregateDatabaseSeries aggregation series
      = aggregateInOrder aggregation series (instantsOf series) := rfl

def Reordered (series series' : List DatabaseSeries) : Prop :=
  ∃ between, series.Perm between ∧ List.Forall₂ (fun item item' =>
    item.databaseName = item'.databaseName ∧ item.points.Perm item'.points) between series'

theorem valuesAt_cons (item : DatabaseSeries) (series : List DatabaseSeries) (instant : ℤ) :
    valuesAt (item :: series) instant
      = ((item.points.filter fun point => point.instant = instant).map fun point =>
          { databaseName := item.databaseName, value := point.value, weight := point.weight })
        ++ valuesAt series instant := rfl

theorem Reordered.valuesAt_perm {series series' : List DatabaseSeries}
    (h : Reordered series series') (instant : ℤ) :
    (valuesAt series instant).Perm (valuesAt series' instant) := by
  obtain ⟨between, hperm, hsame⟩ := h
  refine (hperm.flatMap_right _).trans ?_
  clear hperm
  induction hsame with
  | nil => exact .refl _
  | @cons item item' between series' hitem _ ih =>
    change (valuesAt (item :: between) instant).Perm _
    rw [valuesAt_cons, valuesAt_cons, hitem.1]
    exact ((hitem.2.filter _).map _).append ih

theorem aggregateToInstance_perm {values values' : List DatabaseValue} (h : values.Perm values')
    (aggregation : MetricAggregation) :
    (aggregateToInstance aggregation values).toOption
      = (aggregateToInstance aggregation values').toOption := by
  cases aggregation with
  | none =>
    unfold aggregateToInstance
    split_ifs <;> rfl
  | sum =>
    rw [aggregateToInstance_sum, aggregateToInstance_sum]
    exact summed_perm (h.map _)
  | weightedAverage =>
    rw [aggregateToInstance_weightedAverage, aggregateToInstance_weightedAverage]
    exact weightedAverage_perm (weighed_perm h)

theorem listed_aggregateInOrder (aggregation : MetricAggregation) (series : List DatabaseSeries)
    {instants : List ℤ} (hnodup : instants.Nodup) :
    Listed (fun left right : Point => left.timestamp < right.timestamp)
      (instants.filterMap fun instant =>
        (aggregateToInstance aggregation (valuesAt series instant)).toOption.map fun value =>
          { timestamp := instant, value := value })
      (aggregateInOrder aggregation series instants) := by
  refine listed_insertionSort Point.timestamp (fun _ _ => Iff.rfl) (fun _ _ => not_lt.symm) ?_
  rw [List.map_filterMap]
  refine hnodup.filterMap fun instant instant' timestamp h h' => ?_
  simp only [Option.map_map, Option.mem_def, Option.map_eq_some_iff, Function.comp_apply] at h h'
  obtain ⟨_, -, rfl⟩ := h
  obtain ⟨_, -, h'⟩ := h'
  exact h'.symm

theorem nodup_instantsOf (series : List DatabaseSeries) : (instantsOf series).Nodup :=
  List.nodup_dedup _

theorem aggregateInOrder_eq {aggregation : MetricAggregation} {series series' : List DatabaseSeries}
    (h : Reordered series' series) {instants : List ℤ}
    (hinstants : instants.Perm (instantsOf series')) :
    aggregateInOrder aggregation series' instants = aggregateDatabaseSeries aggregation series := by
  have hvalues := h.valuesAt_perm
  have hperm : instants.Perm (instantsOf series) := by
    refine hinstants.trans ?_
    rw [List.perm_ext_iff_of_nodup (nodup_instantsOf _) (nodup_instantsOf _)]
    intro instant
    rw [mem_instantsOf, mem_instantsOf, ne_eq, ne_eq, ← List.length_eq_zero_iff,
      ← List.length_eq_zero_iff, (hvalues instant).length_eq]
  have hsame : (fun instant =>
        (aggregateToInstance aggregation (valuesAt series' instant)).toOption.map fun value =>
          ({ timestamp := instant, value := value } : Point))
      = fun instant =>
        (aggregateToInstance aggregation (valuesAt series instant)).toOption.map fun value =>
          { timestamp := instant, value := value } := by
    funext instant
    rw [aggregateToInstance_perm (hvalues instant)]
  have hlisted := listed_aggregateInOrder aggregation series'
    (hperm.nodup_iff.mpr (nodup_instantsOf _))
  rw [hsame] at hlisted
  exact (hlisted.of_perm (hperm.filterMap _)).unique (fun _ _ hlt => not_lt.mpr hlt.le)
    (listed_aggregateInOrder aggregation series (nodup_instantsOf series))

def valueAt (points : List Point) (instant : ℤ) : Option ℚ :=
  (points.find? fun point => point.timestamp = instant).map (·.value)

theorem valueAt_aggregate (aggregation : MetricAggregation) (series : List DatabaseSeries)
    (instant : ℤ) :
    valueAt (aggregateDatabaseSeries aggregation series) instant
      = (aggregateToInstance aggregation (valuesAt series instant)).toOption := by
  unfold valueAt
  cases hfind : (aggregateDatabaseSeries aggregation series).find?
      fun point => point.timestamp = instant with
  | none =>
    rw [List.find?_eq_none] at hfind
    cases hvalue : (aggregateToInstance aggregation (valuesAt series instant)).toOption with
    | none => rfl
    | some value =>
      have hmem : (⟨instant, value⟩ : Point) ∈ aggregateDatabaseSeries aggregation series :=
        mem_aggregateDatabaseSeries.mpr hvalue
      exact absurd (by simp) (hfind _ hmem)
  | some point =>
    have hmem := mem_aggregateDatabaseSeries.mp (List.mem_of_find?_eq_some hfind)
    have hinstant : point.timestamp = instant := by simpa using List.find?_some hfind
    rw [hinstant] at hmem
    rw [hmem]
    rfl

def Aggregatable (values : List DatabaseValue) : MetricAggregation → Prop
  | .none => False
  | .sum => values ≠ []
  | .weightedAverage => ∃ value ∈ values, 0 < value.weight

theorem weights_nonneg {values : List DatabaseValue} {pair : ℚ × ℚ} (h : pair ∈ weighed values) :
    0 ≤ pair.2 := by
  simp only [weighed, List.mem_map, List.mem_filter, decide_eq_true_eq] at h
  obtain ⟨value, ⟨-, hweight⟩, rfl⟩ := h
  exact hweight

theorem sum_pos_iff : ∀ {pairs : List (ℚ × ℚ)}, (∀ pair ∈ pairs, 0 ≤ pair.2) →
    (0 < (pairs.map Prod.snd).sum ↔ ∃ pair ∈ pairs, 0 < pair.2)
  | [], _ => by simp
  | pair :: pairs, h => by
    have ih := sum_pos_iff fun other hother => h other (List.mem_cons_of_mem _ hother)
    have hrest : 0 ≤ (pairs.map Prod.snd).sum :=
      List.sum_nonneg fun weight hweight => by
        obtain ⟨other, hother, rfl⟩ := List.mem_map.mp hweight
        exact h other (List.mem_cons_of_mem _ hother)
    have hpair := h pair (by simp)
    rw [List.map_cons, List.sum_cons, List.exists_mem_cons_iff, ← ih]
    constructor
    · intro hsum
      rcases hpair.lt_or_eq with hpos | hzero
      · exact .inl hpos
      · rw [← hzero, zero_add] at hsum
        exact .inr hsum
    · rintro (hpos | hsum)
      · exact add_pos_of_pos_of_nonneg hpos hrest
      · exact add_pos_of_nonneg_of_pos hpair hsum

theorem mul_sum_le {low : ℚ} : ∀ {pairs : List (ℚ × ℚ)},
    (∀ pair ∈ pairs, 0 ≤ pair.2 ∧ (0 < pair.2 → low ≤ pair.1)) →
      low * (pairs.map Prod.snd).sum ≤ (pairs.map fun pair => pair.1 * pair.2).sum
  | [], _ => by simp
  | pair :: pairs, h => by
    have ih := mul_sum_le fun other hother => h other (List.mem_cons_of_mem _ hother)
    obtain ⟨hweight, hvalue⟩ := h pair (by simp)
    have hpair : low * pair.2 ≤ pair.1 * pair.2 := by
      rcases hweight.lt_or_eq with hpos | hzero
      · exact mul_le_mul_of_nonneg_right (hvalue hpos) hweight
      · simp [← hzero]
    simp only [List.map_cons, List.sum_cons, mul_add]
    exact add_le_add hpair ih

theorem sum_le_mul {high : ℚ} {pairs : List (ℚ × ℚ)}
    (h : ∀ pair ∈ pairs, 0 ≤ pair.2 ∧ (0 < pair.2 → pair.1 ≤ high)) :
    (pairs.map fun pair => pair.1 * pair.2).sum ≤ high * (pairs.map Prod.snd).sum := by
  -- the bound from below of the opposite values
  have hneg : ∀ pair ∈ pairs.map fun pair => (-pair.1, pair.2),
      0 ≤ pair.2 ∧ (0 < pair.2 → -high ≤ pair.1) := by
    intro _ hopposite
    obtain ⟨pair, hpair, rfl⟩ := List.mem_map.mp hopposite
    exact ⟨(h pair hpair).1, fun hpos => neg_le_neg ((h pair hpair).2 hpos)⟩
  have hsum := mul_sum_le hneg
  have hopposite : (pairs.map fun pair => -(pair.1 * pair.2)).sum
      = -(pairs.map fun pair => pair.1 * pair.2).sum := by
    rw [List.sum_neg, List.map_map]
    rfl
  simp only [List.map_map, Function.comp_def, neg_mul, hopposite] at hsum
  exact neg_le_neg_iff.mp hsum

theorem weightedAverage_le {pairs : List (ℚ × ℚ)} {average low high : ℚ}
    (haverage : weightedAverage pairs = some average)
    (h : ∀ pair ∈ pairs, 0 ≤ pair.2 ∧ (0 < pair.2 → low ≤ pair.1 ∧ pair.1 ≤ high)) :
    low ≤ average ∧ average ≤ high := by
  simp only [weightedAverage] at haverage
  split_ifs at haverage with htotal
  rw [Option.some.injEq] at haverage
  subst haverage
  constructor
  · rw [le_div_iff₀ htotal]
    exact mul_sum_le fun pair hpair => ⟨(h pair hpair).1, fun hpos => ((h pair hpair).2 hpos).1⟩
  · rw [div_le_iff₀ htotal]
    exact sum_le_mul fun pair hpair => ⟨(h pair hpair).1, fun hpos => ((h pair hpair).2 hpos).2⟩

theorem weightedAverage_append_zero (pairs : List (ℚ × ℚ)) {more : List (ℚ × ℚ)}
    (h : ∀ pair ∈ more, pair.2 = 0) :
    weightedAverage (pairs ++ more) = weightedAverage pairs := by
  have hweights : (more.map Prod.snd).sum = 0 :=
    List.sum_eq_zero fun weight hweight => by
      obtain ⟨pair, hpair, rfl⟩ := List.mem_map.mp hweight
      exact h pair hpair
  have hvalues : (more.map fun pair => pair.1 * pair.2).sum = 0 :=
    List.sum_eq_zero fun product hproduct => by
      obtain ⟨pair, hpair, rfl⟩ := List.mem_map.mp hproduct
      rw [h pair hpair, mul_zero]
  simp only [weightedAverage, List.map_append, List.sum_append, hweights, hvalues, add_zero]

theorem weightedAverage_scale (pairs : List (ℚ × ℚ)) {factor : ℚ} (h : 0 < factor) :
    weightedAverage (pairs.map fun pair => (pair.1, factor * pair.2)) = weightedAverage pairs := by
  have hweights : ((pairs.map fun pair => (pair.1, factor * pair.2)).map Prod.snd).sum
      = factor * (pairs.map Prod.snd).sum := by
    rw [← List.sum_map_mul_left, List.map_map]
    rfl
  have hvalues : ((pairs.map fun pair => (pair.1, factor * pair.2)).map fun pair =>
        pair.1 * pair.2).sum
      = factor * (pairs.map fun pair => pair.1 * pair.2).sum := by
    rw [← List.sum_map_mul_left, List.map_map]
    simp only [Function.comp_def, mul_left_comm]
  simp only [weightedAverage, hweights, hvalues, mul_pos_iff_of_pos_left h,
    mul_div_mul_left _ _ h.ne']

theorem valuesAt_append (series more : List DatabaseSeries) (instant : ℤ) :
    valuesAt (series ++ more) instant = valuesAt series instant ++ valuesAt more instant :=
  List.flatMap_append

theorem weighed_append (values more : List DatabaseValue) :
    weighed (values ++ more) = weighed values ++ weighed more := by
  simp only [weighed, List.filter_append, List.map_append]

theorem mem_weighed {values : List DatabaseValue} {pair : ℚ × ℚ} :
    pair ∈ weighed values
      ↔ ∃ value ∈ values, 0 ≤ value.weight ∧ (value.value, value.weight) = pair := by
  simp only [weighed, List.mem_map, List.mem_filter, decide_eq_true_eq, and_assoc]

theorem isSome_weightedAverage_iff (values : List DatabaseValue) :
    (weightedAverage (weighed values)).isSome ↔ ∃ value ∈ values, 0 < value.weight := by
  have htotal : (weightedAverage (weighed values)).isSome
      ↔ 0 < ((weighed values).map Prod.snd).sum := by
    simp only [weightedAverage]
    split_ifs with h <;> simp [h]
  rw [htotal, sum_pos_iff fun _ => weights_nonneg]
  constructor
  · rintro ⟨_, hpair, hpos⟩
    obtain ⟨value, hvalue, -, rfl⟩ := mem_weighed.mp hpair
    exact ⟨value, hvalue, hpos⟩
  · rintro ⟨value, hvalue, hpos⟩
    exact ⟨(value.value, value.weight), mem_weighed.mpr ⟨value, hvalue, hpos.le, rfl⟩, hpos⟩

theorem isSome_valueAt_iff (aggregation : MetricAggregation) (series : List DatabaseSeries)
    (instant : ℤ) :
    (valueAt (aggregateDatabaseSeries aggregation series) instant).isSome
      ↔ Aggregatable (valuesAt series instant) aggregation := by
  rw [valueAt_aggregate]
  cases aggregation with
  | none =>
    unfold aggregateToInstance
    split_ifs <;> simp [Aggregatable, Except.toOption]
  | sum =>
    rw [aggregateToInstance_sum]
    by_cases hnil : valuesAt series instant = [] <;> simp [summed, Aggregatable, hnil]
  | weightedAverage =>
    rw [aggregateToInstance_weightedAverage]
    exact isSome_weightedAverage_iff _

def weightyAt (series : List DatabaseSeries) (instant : ℤ) : List DatabaseValue :=
  (valuesAt series instant).filter fun value => 0 < value.weight

theorem average_mem_hull {series : List DatabaseSeries} {instant : ℤ} {average : ℚ}
    (h : valueAt (aggregateDatabaseSeries .weightedAverage series) instant = some average) :
    ∃ lowest ∈ weightyAt series instant, ∃ highest ∈ weightyAt series instant,
      (∀ value ∈ weightyAt series instant,
        lowest.value ≤ value.value ∧ value.value ≤ highest.value) ∧
      lowest.value ≤ average ∧ average ≤ highest.value := by
  rw [valueAt_aggregate, aggregateToInstance_weightedAverage] at h
  have hweighty : ∃ value, value ∈ weightyAt series instant := by
    have hsome := (isSome_weightedAverage_iff (valuesAt series instant)).mp (by rw [h]; rfl)
    simpa [weightyAt] using hsome
  have hnonempty : (weightyAt series instant).toFinset.Nonempty := by
    obtain ⟨value, hvalue⟩ := hweighty
    exact ⟨value, List.mem_toFinset.mpr hvalue⟩
  obtain ⟨lowest, hlowest, hlow⟩ := Finset.exists_min_image _ DatabaseValue.value hnonempty
  obtain ⟨highest, hhighest, hhigh⟩ := Finset.exists_max_image _ DatabaseValue.value hnonempty
  simp only [List.mem_toFinset] at hlowest hlow hhighest hhigh
  refine ⟨lowest, hlowest, highest, hhighest,
    fun value hvalue => ⟨hlow value hvalue, hhigh value hvalue⟩,
    weightedAverage_le h fun pair hpair => ⟨weights_nonneg hpair, fun hpos => ?_⟩⟩
  obtain ⟨value, hvalue, -, rfl⟩ := mem_weighed.mp hpair
  have hmem : value ∈ weightyAt series instant :=
    List.mem_filter.mpr ⟨hvalue, decide_eq_true hpos⟩
  exact ⟨hlow value hmem, hhigh value hmem⟩

theorem average_append_weightless (series : List DatabaseSeries) {more : List DatabaseSeries}
    {instant : ℤ} (h : ∀ value ∈ valuesAt more instant, value.weight = 0) :
    valueAt (aggregateDatabaseSeries .weightedAverage (series ++ more)) instant
      = valueAt (aggregateDatabaseSeries .weightedAverage series) instant := by
  rw [valueAt_aggregate, valueAt_aggregate, aggregateToInstance_weightedAverage,
    aggregateToInstance_weightedAverage, valuesAt_append, weighed_append]
  refine weightedAverage_append_zero _ fun pair hpair => ?_
  obtain ⟨value, hvalue, -, rfl⟩ := mem_weighed.mp hpair
  exact h value hvalue

def scaleWeights (instant : ℤ) (factor : ℚ) (series : List DatabaseSeries) : List DatabaseSeries :=
  series.map fun item =>
    { item with
      points := item.points.map fun point =>
        if point.instant = instant then { point with weight := factor * point.weight }
        else point }

theorem valuesAt_scaleWeights (instant : ℤ) (factor : ℚ) (series : List DatabaseSeries) :
    valuesAt (scaleWeights instant factor series) instant
      = (valuesAt series instant).map fun value =>
          { value with weight := factor * value.weight } := by
  unfold valuesAt scaleWeights
  rw [List.flatMap_map, List.map_flatMap]
  refine List.flatMap_congr fun item _ => ?_
  induction item.points with
  | nil => rfl
  | cons point points ih =>
    by_cases hinstant : point.instant = instant
    · simpa [hinstant] using ih
    · simpa [hinstant] using ih

theorem average_scaleWeights (series : List DatabaseSeries) (instant : ℤ) {factor : ℚ}
    (h : 0 < factor) :
    valueAt (aggregateDatabaseSeries .weightedAverage (scaleWeights instant factor series)) instant
      = valueAt (aggregateDatabaseSeries .weightedAverage series) instant := by
  rw [valueAt_aggregate, valueAt_aggregate, aggregateToInstance_weightedAverage,
    aggregateToInstance_weightedAverage, valuesAt_scaleWeights,
    ← weightedAverage_scale (weighed (valuesAt series instant)) h]
  congr 1
  simp only [weighed, List.filter_map, List.map_map, Function.comp_def,
    mul_nonneg_iff_of_pos_left h]

theorem sum_append (series more : List DatabaseSeries) (instant : ℤ) :
    valueAt (aggregateDatabaseSeries .sum (series ++ more)) instant
      = (valueAt (aggregateDatabaseSeries .sum series) instant).merge (· + ·)
          (valueAt (aggregateDatabaseSeries .sum more) instant) := by
  simp only [valueAt_aggregate, aggregateToInstance_sum, valuesAt_append, List.map_append, summed,
    List.append_eq_nil_iff, List.sum_append]
  by_cases hseries : (valuesAt series instant).map DatabaseValue.value = []
  · by_cases hmore : (valuesAt more instant).map DatabaseValue.value = []
    · simp [hseries, hmore]
    · simp [hseries, hmore]
  · by_cases hmore : (valuesAt more instant).map DatabaseValue.value = []
    · simp [hseries, hmore]
    · simp [hseries, hmore]

/-- Whatever the order of the databases, of their points and of the map's keys. -/
theorem instance_aggregation_sound (aggregation : MetricAggregation)
    (series : List DatabaseSeries) :
    (aggregateDatabaseSeries aggregation series).Pairwise
      (fun left right => left.timestamp < right.timestamp) ∧
    (∀ series' instants, Reordered series' series → instants.Perm (instantsOf series') →
      aggregateInOrder aggregation series' instants
        = aggregateDatabaseSeries aggregation series) ∧
    ∀ instant,
      ((∃ point ∈ aggregateDatabaseSeries aggregation series, point.timestamp = instant)
        ↔ Aggregatable (valuesAt series instant) aggregation) ∧
      (∀ average, valueAt (aggregateDatabaseSeries .weightedAverage series) instant = some average →
        ∃ lowest ∈ weightyAt series instant, ∃ highest ∈ weightyAt series instant,
          (∀ value ∈ weightyAt series instant,
            lowest.value ≤ value.value ∧ value.value ≤ highest.value) ∧
          lowest.value ≤ average ∧ average ≤ highest.value) ∧
      (∀ more, (∀ value ∈ valuesAt more instant, value.weight = 0) →
        valueAt (aggregateDatabaseSeries .weightedAverage (series ++ more)) instant
          = valueAt (aggregateDatabaseSeries .weightedAverage series) instant) ∧
      (∀ factor, 0 < factor →
        valueAt (aggregateDatabaseSeries .weightedAverage (scaleWeights instant factor series))
            instant
          = valueAt (aggregateDatabaseSeries .weightedAverage series) instant) ∧
      ∀ left right, Reordered (left ++ right) series →
        valueAt (aggregateDatabaseSeries .sum series) instant
          = (valueAt (aggregateDatabaseSeries .sum left) instant).merge (· + ·)
              (valueAt (aggregateDatabaseSeries .sum right) instant) := by
  refine ⟨(listed_aggregateInOrder aggregation series (nodup_instantsOf series)).2,
    fun series' instants hseries hinstants => aggregateInOrder_eq hseries hinstants,
    fun instant => ⟨?_, fun average => average_mem_hull,
      fun more => average_append_weightless series,
      fun factor => average_scaleWeights series instant, fun left right hgroups => ?_⟩⟩
  · rw [← isSome_valueAt_iff, valueAt, Option.isSome_map, List.find?_isSome]
    simp only [decide_eq_true_eq]
  · rw [← sum_append, ← aggregateInOrder_eq hgroups (List.Perm.refl _), aggregateDatabaseSeries_eq]

end DbsMonitor
