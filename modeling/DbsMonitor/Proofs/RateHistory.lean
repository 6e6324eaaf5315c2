import Mathlib.Algebra.Order.Field.Basic
import Mathlib.Tactic.FieldSimp
import Mathlib.Tactic.Linarith
import Mathlib.Tactic.Ring
import DbsMonitor.DatabaseRates

/-!
# Rates over a history of snapshots

A snapshot is compared with the last accepted one of its instance, which is what the state keeps
(`previous_after`). A rate times the elapsed time is the increase of its counter, so over a history
without resets these sum up to the increase from the first accepted snapshot to the last.
-/

namespace DbsMonitor

theorem seconds_pos {duration : ℤ} (h : 0 < duration) : 0 < seconds duration := by
  have hcast : (0 : ℚ) < duration := by exact_mod_cast h
  exact div_pos hcast (by norm_num)

def ratesBetween (before now : StatDatabaseCounters) (elapsed : ℤ) : StatDatabaseCounters :=
  fun index => (now index - before index) / seconds elapsed

namespace StatDatabaseCounter

theorem mem_all (index : StatDatabaseCounter) : index ∈ all := by
  cases index <;> decide

theorem eq_of_metric_eq {index other : StatDatabaseCounter} {metricId : MetricId}
    (h : index.metric = some metricId) (hother : other.metric = some metricId) :
    other = index := by
  have hall : ∀ index ∈ all, ∀ other ∈ all, index.metric.isSome →
      index.metric = other.metric → other = index := by decide
  exact hall index (mem_all index) other (mem_all other) (by simp [h]) (h.trans hother.symm)

theorem metric_notMem {index : StatDatabaseCounter} {metricId : MetricId}
    (h : index.metric = some metricId) :
    metricId ∉ ["pg.tps", "pg.cache.block_access_per_sec", "pg.cache.hit_ratio"] := by
  have hall : ∀ index ∈ all, ∀ other ∈
      ["pg.tps", "pg.cache.block_access_per_sec", "pg.cache.hit_ratio"],
      index.metric ≠ some other := by decide
  exact fun hmem => hall index (mem_all index) metricId hmem h

end StatDatabaseCounter

section Rates

variable {before now : StatDatabaseCounters} {elapsed : ℤ} (helapsed : 0 < elapsed)

include helapsed

theorem ratesLoop_ok : ∀ (indices : List StatDatabaseCounter) (rates : StatDatabaseCounters),
    (∀ index ∈ indices, before index ≤ now index) →
      ratesLoop before now elapsed indices rates
        = .ok fun index =>
            if index ∈ indices then ratesBetween before now elapsed index else rates index
  | [], rates, _ => by simp [ratesLoop]
  | index :: indices, rates, h => by
    have hrate : rate (before index) (now index) elapsed
        = .ok (ratesBetween before now elapsed index) := by
      rw [rate, if_neg (by omega), if_neg (not_lt.mpr (h index (by simp)))]
      rfl
    rw [ratesLoop, hrate]
    dsimp only
    rw [ratesLoop_ok indices _ fun other hother => h other (List.mem_cons_of_mem _ hother)]
    congr 1
    funext other
    by_cases hother : other = index
    · subst hother
      simp
    · simp [hother]

theorem ratesLoop_error : ∀ (indices : List StatDatabaseCounter) (rates : StatDatabaseCounters),
    (∃ index ∈ indices, now index < before index) →
      ratesLoop before now elapsed indices rates = .error .counter
  | [], rates, h => by simp at h
  | index :: indices, rates, h => by
    rw [ratesLoop, rate, if_neg (by omega)]
    by_cases hindex : now index < before index
    · rw [if_pos hindex]
    · rw [if_neg hindex]
      refine ratesLoop_error indices _ ?_
      obtain ⟨other, hother, hlt⟩ := h
      rcases List.mem_cons.mp hother with rfl | hother
      · exact absurd hlt hindex
      · exact ⟨other, hother, hlt⟩

theorem ratesLoop_all (h : ∀ index, before index ≤ now index) :
    ratesLoop before now elapsed StatDatabaseCounter.all (fun _ => 0)
      = .ok (ratesBetween before now elapsed) := by
  rw [ratesLoop_ok helapsed _ _ fun index _ => h index]
  simp [StatDatabaseCounter.mem_all]

theorem ratesBetween_nonneg (h : ∀ index, before index ≤ now index)
    (index : StatDatabaseCounter) : 0 ≤ ratesBetween before now elapsed index :=
  div_nonneg (sub_nonneg.mpr (h index)) (seconds_pos helapsed).le

end Rates

def Decreased (previous current : StatDatabaseSnapshot) : Prop :=
  ∃ name before now, previous.counters name = some before ∧ current.counters name = some now
    ∧ ∃ index, now index < before index

theorem isSome_lookup_iff {α : Type*} {name : String} : ∀ {rows : List (String × α)},
    (rows.lookup name).isSome ↔ name ∈ rows.map Prod.fst
  | [] => by simp
  | (other, row) :: rows => by
    rw [List.lookup_cons]
    cases h : name == other with
    | true => simp [beq_iff_eq.mp h]
    | false => simp [isSome_lookup_iff, beq_eq_false_iff_ne.mp h]

theorem mem_commonDatabases {previous current : StatDatabaseSnapshot} {name : String} :
    name ∈ commonDatabases previous current
      ↔ (previous.counters name).isSome ∧ (current.counters name).isSome := by
  rw [commonDatabases, List.mem_insertionSort, List.mem_filter, and_comm]
  exact and_congr_right fun _ => isSome_lookup_iff.symm

theorem nodup_commonDatabases (previous current : StatDatabaseSnapshot) :
    (commonDatabases previous current).Nodup :=
  (List.perm_insertionSort _ _).nodup_iff.mpr (current.names_nodup.filter _)

def ratesOf (previous current : StatDatabaseSnapshot) (name : String) : StatDatabaseCounters :=
  ratesBetween ((previous.counters name).getD fun _ => 0)
    ((current.counters name).getD fun _ => 0) (current.observedAt - previous.observedAt)

section Round

variable {previous current : StatDatabaseSnapshot}
  (hnewer : previous.observedAt < current.observedAt)

include hnewer

theorem samplesLoop_rates : ∀ (names : List String) (samples : List CollectedSample),
    (∀ name ∈ names, ∀ index, ((previous.counters name).getD fun _ => 0) index
      ≤ ((current.counters name).getD fun _ => 0) index) →
    samplesLoop previous current (current.observedAt - previous.observedAt) names samples
      = { samples := samples ++ names.flatMap fun name =>
            databaseSamples name (ratesOf previous current name) }
  | [], samples, _ => by simp [samplesLoop]
  | name :: names, samples, h => by
    rw [samplesLoop, ratesLoop_all (by omega) (h name (by simp))]
    dsimp only
    rw [samplesLoop_rates names _ fun other hother => h other (List.mem_cons_of_mem _ hother)]
    simp [ratesOf]

theorem samplesLoop_reset : ∀ (names : List String) (samples : List CollectedSample),
    (∃ name ∈ names, ∃ index, ((current.counters name).getD fun _ => 0) index
      < ((previous.counters name).getD fun _ => 0) index) →
    samplesLoop previous current (current.observedAt - previous.observedAt) names samples
      = { counterReset := true }
  | [], samples, h => by simp at h
  | name :: names, samples, h => by
    rw [samplesLoop]
    by_cases hname : ∃ index, ((current.counters name).getD fun _ => 0) index
        < ((previous.counters name).getD fun _ => 0) index
    · obtain ⟨index, hlt⟩ := hname
      rw [ratesLoop_error (by omega) _ _ ⟨index, StatDatabaseCounter.mem_all index, hlt⟩]
      rfl
    · push Not at hname
      rw [ratesLoop_all (by omega) hname]
      refine samplesLoop_reset names _ ?_
      obtain ⟨other, hother, index, hlt⟩ := h
      rcases List.mem_cons.mp hother with rfl | hother
      · exact absurd (hname index) (not_le.mpr hlt)
      · exact ⟨other, hother, index, hlt⟩

theorem round_reset (h : Decreased previous current) :
    samplesLoop previous current (current.observedAt - previous.observedAt)
        (commonDatabases previous current) []
      = { counterReset := true } := by
  obtain ⟨name, before, now, hbefore, hnow, index, hlt⟩ := h
  refine samplesLoop_reset hnewer _ _ ⟨name, ?_, index, ?_⟩
  · rw [mem_commonDatabases, hbefore, hnow]
    exact ⟨rfl, rfl⟩
  · simpa [hbefore, hnow] using hlt

omit hnewer in
theorem le_of_not_decreased (h : ¬ Decreased previous current) {name : String}
    (hname : name ∈ commonDatabases previous current) (index : StatDatabaseCounter) :
    ((previous.counters name).getD fun _ => 0) index
      ≤ ((current.counters name).getD fun _ => 0) index := by
  obtain ⟨hbefore, hnow⟩ := mem_commonDatabases.mp hname
  obtain ⟨before, hbefore⟩ := Option.isSome_iff_exists.mp hbefore
  obtain ⟨now, hnow⟩ := Option.isSome_iff_exists.mp hnow
  simp only [hbefore, hnow, Option.getD_some]
  exact not_lt.mp fun hlt => h ⟨name, before, now, hbefore, hnow, index, hlt⟩

theorem round_rates (h : ¬ Decreased previous current) :
    samplesLoop previous current (current.observedAt - previous.observedAt)
        (commonDatabases previous current) []
      = { samples := (commonDatabases previous current).flatMap fun name =>
            databaseSamples name (ratesOf previous current name) } := by
  rw [samplesLoop_rates hnewer _ _ fun name hname => le_of_not_decreased h hname]
  simp

theorem ratesOf_nonneg (h : ¬ Decreased previous current) {name : String}
    (hname : name ∈ commonDatabases previous current) (index : StatDatabaseCounter) :
    0 ≤ ratesOf previous current name index :=
  ratesBetween_nonneg (by omega) (le_of_not_decreased h hname) index

end Round

theorem mem_databaseSamples {name : String} {rates : StatDatabaseCounters}
    {sample : CollectedSample} :
    sample ∈ databaseSamples name rates
      ↔ sample = { metricId := "pg.tps", databaseName := name
                   value := rates .xactCommit + rates .xactRollback }
        ∨ (∃ index metricId, index.metric = some metricId
          ∧ sample = { metricId := metricId, databaseName := name, value := rates index })
        ∨ sample = { metricId := "pg.cache.block_access_per_sec", databaseName := name
                     value := rates .blocksHit + rates .blocksRead }
        ∨ 0 < rates .blocksHit + rates .blocksRead
          ∧ sample =
            { metricId := "pg.cache.hit_ratio", databaseName := name
              value := rates .blocksHit * 100 / (rates .blocksHit + rates .blocksRead) } := by
  have hratio : sample ∈ (if 0 < rates .blocksHit + rates .blocksRead then
      [{ metricId := "pg.cache.hit_ratio", databaseName := name
         value := rates .blocksHit * 100 / (rates .blocksHit + rates .blocksRead) }] else [])
      ↔ 0 < rates .blocksHit + rates .blocksRead ∧ sample =
        { metricId := "pg.cache.hit_ratio", databaseName := name
          value := rates .blocksHit * 100 / (rates .blocksHit + rates .blocksRead) } := by
    split_ifs with h <;> simp [h]
  simp only [databaseSamples, List.mem_append, List.mem_singleton, List.mem_filterMap,
    Option.map_eq_some_iff, hratio, StatDatabaseCounter.mem_all, true_and, or_assoc]
  refine or_congr_right (or_congr_left ?_)
  constructor
  · rintro ⟨index, metricId, hmetric, rfl⟩
    exact ⟨index, metricId, hmetric, rfl⟩
  · rintro ⟨index, metricId, hmetric, rfl⟩
    exact ⟨index, metricId, hmetric, rfl⟩

theorem databaseName_of_mem {name : String} {rates : StatDatabaseCounters}
    {sample : CollectedSample} (h : sample ∈ databaseSamples name rates) :
    sample.databaseName = name := by
  obtain rfl | ⟨_, _, -, rfl⟩ | rfl | ⟨-, rfl⟩ := mem_databaseSamples.mp h <;> rfl

theorem filter_flatMap_databaseSamples (rates : String → StatDatabaseCounters) {name : String} :
    ∀ {names : List String}, names.Nodup → name ∈ names →
      (names.flatMap fun name => databaseSamples name (rates name)).filter
          (fun sample => sample.databaseName = name)
        = databaseSamples name (rates name)
  | first :: names, hnodup, hname => by
    rw [List.nodup_cons] at hnodup
    rw [List.flatMap_cons, List.filter_append]
    by_cases h : first = name
    · subst h
      rw [List.filter_eq_self.mpr fun sample hsample => by simp [databaseName_of_mem hsample],
        List.filter_eq_nil_iff.mpr fun sample hsample => ?_, List.append_nil]
      obtain ⟨other, hother, hsample⟩ := List.mem_flatMap.mp hsample
      rw [databaseName_of_mem hsample, decide_eq_true_eq]
      exact fun h => hnodup.1 (h ▸ hother)
    · rw [List.filter_eq_nil_iff.mpr fun sample hsample => by
        simp [databaseName_of_mem hsample, h], List.nil_append]
      exact filter_flatMap_databaseSamples rates hnodup.2
        ((List.mem_cons.mp hname).resolve_left (Ne.symm h))

def rateMetricIds : List MetricId :=
  ["pg.tps", "pg.xact.commit_per_sec", "pg.xact.rollback_per_sec", "pg.tuples.read_per_sec",
    "pg.tuples.write_per_sec", "pg.temp.files_per_sec", "pg.temp.bytes_per_sec",
    "pg.deadlock.count", "pg.cache.block_access_per_sec"]

theorem map_metricId_databaseSamples (name : String) (rates : StatDatabaseCounters) :
    (databaseSamples name rates).map (·.metricId)
      = rateMetricIds
        ++ if 0 < rates .blocksHit + rates .blocksRead then ["pg.cache.hit_ratio"] else [] := by
  unfold databaseSamples
  dsimp only
  split_ifs <;> rfl

structure FullSets (previous current : StatDatabaseSnapshot) (samples : List CollectedSample) :
    Prop where
  common : ∀ sample ∈ samples, (previous.counters sample.databaseName).isSome
    ∧ (current.counters sample.databaseName).isSome
  metrics : ∀ name, (previous.counters name).isSome → (current.counters name).isSome →
    (samples.filter fun sample => sample.databaseName = name).map (·.metricId)
      = rateMetricIds
        ++ if 0 < ratesOf previous current name .blocksHit
            + ratesOf previous current name .blocksRead
          then ["pg.cache.hit_ratio"] else []
  nonneg : ∀ sample ∈ samples, 0 ≤ sample.value
  counter : ∀ sample ∈ samples, ∀ index, index.metric = some sample.metricId →
    sample.value = ratesOf previous current sample.databaseName index
  tps : ∀ sample ∈ samples, sample.metricId = "pg.tps" →
    sample.value = ratesOf previous current sample.databaseName .xactCommit
      + ratesOf previous current sample.databaseName .xactRollback
  access : ∀ sample ∈ samples, sample.metricId = "pg.cache.block_access_per_sec" →
    sample.value = ratesOf previous current sample.databaseName .blocksHit
      + ratesOf previous current sample.databaseName .blocksRead
  hitRatio : ∀ sample ∈ samples, sample.metricId = "pg.cache.hit_ratio" →
    0 ≤ sample.value ∧ sample.value ≤ 100
      ∧ sample.value = ratesOf previous current sample.databaseName .blocksHit * 100
        / (ratesOf previous current sample.databaseName .blocksHit
          + ratesOf previous current sample.databaseName .blocksRead)

theorem fullSets_round {previous current : StatDatabaseSnapshot}
    (hnewer : previous.observedAt < current.observedAt) (h : ¬ Decreased previous current) :
    FullSets previous current ((commonDatabases previous current).flatMap fun name =>
      databaseSamples name (ratesOf previous current name)) := by
  have hnonneg {name : String} (hname : name ∈ commonDatabases previous current) :=
    ratesOf_nonneg hnewer h hname
  constructor
  case common =>
    intro sample hsample
    obtain ⟨name, hname, hsample⟩ := List.mem_flatMap.mp hsample
    rw [databaseName_of_mem hsample]
    exact mem_commonDatabases.mp hname
  case metrics =>
    intro name hprevious hcurrent
    rw [filter_flatMap_databaseSamples (ratesOf previous current)
      (nodup_commonDatabases previous current) (mem_commonDatabases.mpr ⟨hprevious, hcurrent⟩),
      map_metricId_databaseSamples]
  all_goals
    intro sample hsample
    obtain ⟨name, hname, hsample⟩ := List.mem_flatMap.mp hsample
    have hrates := hnonneg hname
  case nonneg =>
    obtain rfl | ⟨index, _, -, rfl⟩ | rfl | ⟨haccess, rfl⟩ := mem_databaseSamples.mp hsample
    · exact add_nonneg (hrates _) (hrates _)
    · exact hrates index
    · exact add_nonneg (hrates _) (hrates _)
    · exact div_nonneg (mul_nonneg (hrates _) (by norm_num)) haccess.le
  case counter =>
    intro index hindex
    have hmetric := StatDatabaseCounter.metric_notMem hindex
    obtain rfl | ⟨other, _, hother, rfl⟩ | rfl | ⟨-, rfl⟩ := mem_databaseSamples.mp hsample
    · simp at hmetric
    · rw [StatDatabaseCounter.eq_of_metric_eq hindex hother]
    · simp at hmetric
    · simp at hmetric
  case tps =>
    intro hmetric
    obtain rfl | ⟨_, _, hother, rfl⟩ | rfl | ⟨-, rfl⟩ := mem_databaseSamples.mp hsample
    · rfl
    · exact absurd (by simp_all) (StatDatabaseCounter.metric_notMem hother)
    · simp at hmetric
    · simp at hmetric
  case access =>
    intro hmetric
    obtain rfl | ⟨_, _, hother, rfl⟩ | rfl | ⟨-, rfl⟩ := mem_databaseSamples.mp hsample
    · simp at hmetric
    · exact absurd (by simp_all) (StatDatabaseCounter.metric_notMem hother)
    · rfl
    · simp at hmetric
  case hitRatio =>
    intro hmetric
    obtain rfl | ⟨_, _, hother, rfl⟩ | rfl | ⟨haccess, rfl⟩ := mem_databaseSamples.mp hsample
    · simp at hmetric
    · exact absurd (by simp_all) (StatDatabaseCounter.metric_notMem hother)
    · simp at hmetric
    · refine ⟨div_nonneg (mul_nonneg (hrates _) (by norm_num)) haccess.le, ?_, rfl⟩
      rw [div_le_iff₀ haccess]
      have hread := hrates .blocksRead
      linarith

abbrev RateHistory := List (InstanceId × StatDatabaseSnapshot)

def snapshotsOf (history : RateHistory) (instanceId : InstanceId) : List StatDatabaseSnapshot :=
  (history.filter fun entry => entry.1 = instanceId).map Prod.snd

def acceptedAfter : Option StatDatabaseSnapshot → List StatDatabaseSnapshot →
    List StatDatabaseSnapshot
  | _, [] => []
  | last, snapshot :: snapshots =>
    if last.all fun last => last.observedAt < snapshot.observedAt then
      snapshot :: acceptedAfter (some snapshot) snapshots
    else acceptedAfter last snapshots

def accepted (history : RateHistory) (instanceId : InstanceId) : List StatDatabaseSnapshot :=
  acceptedAfter none (snapshotsOf history instanceId)

theorem snapshotsOf_cons_self (instanceId : InstanceId) (snapshot : StatDatabaseSnapshot)
    (history : RateHistory) :
    snapshotsOf ((instanceId, snapshot) :: history) instanceId
      = snapshot :: snapshotsOf history instanceId := by
  simp [snapshotsOf]

theorem snapshotsOf_cons_of_ne {instanceId other : InstanceId} (h : other ≠ instanceId)
    (snapshot : StatDatabaseSnapshot) (history : RateHistory) :
    snapshotsOf ((other, snapshot) :: history) instanceId = snapshotsOf history instanceId := by
  simp [snapshotsOf, h]

namespace StatDatabaseRateState

variable {state : StatDatabaseRateState} {instanceId : InstanceId}
  {previous current : StatDatabaseSnapshot}

def keep (state : StatDatabaseRateState) (instanceId : InstanceId)
    (current : StatDatabaseSnapshot) : StatDatabaseRateState where
  previous := Function.update state.previous instanceId (some current)

@[simp] theorem previous_keep :
    (state.keep instanceId current).previous instanceId = some current :=
  Function.update_self _ _ _

theorem previous_keep_of_ne {other : InstanceId} (h : instanceId ≠ other) :
    (state.keep other current).previous instanceId = state.previous instanceId :=
  Function.update_of_ne h _ _

theorem observe_first (h : state.previous instanceId = none) :
    state.observe instanceId current = (state.keep instanceId current, {}) := by
  simp [observe, h, keep]

theorem observe_stale (h : state.previous instanceId = some previous)
    (hstale : current.observedAt ≤ previous.observedAt) :
    state.observe instanceId current = (state, {}) := by
  simp [observe, h, hstale]

theorem observe_newer (h : state.previous instanceId = some previous)
    (hnewer : previous.observedAt < current.observedAt) :
    state.observe instanceId current
      = (state.keep instanceId current,
        samplesLoop previous current (current.observedAt - previous.observedAt)
          (commonDatabases previous current) []) := by
  simp [observe, h, not_le.mpr hnewer, keep]

theorem previous_observe (state : StatDatabaseRateState) (instanceId : InstanceId)
    (current : StatDatabaseSnapshot) :
    (state.observe instanceId current).1
      = if (state.previous instanceId).all fun last => last.observedAt < current.observedAt
        then state.keep instanceId current else state := by
  cases h : state.previous instanceId with
  | none => simp [observe_first h]
  | some previous =>
    by_cases hnewer : previous.observedAt < current.observedAt
    · simp [observe_newer h hnewer, hnewer]
    · simp [observe_stale h (not_lt.mp hnewer), hnewer]

theorem previous_observe_of_ne {other : InstanceId} (h : instanceId ≠ other) :
    (state.observe other current).1.previous instanceId = state.previous instanceId := by
  rw [previous_observe]
  split_ifs
  · exact previous_keep_of_ne h
  · rfl

theorem previous_after (instanceId : InstanceId) : ∀ (history : RateHistory)
    (state : StatDatabaseRateState),
    (state.after history).previous instanceId
      = ((state.previous instanceId).toList
        ++ acceptedAfter (state.previous instanceId) (snapshotsOf history instanceId)).getLast?
  | [], state => by
    cases h : state.previous instanceId <;> simp [after, snapshotsOf, acceptedAfter, h]
  | (other, current) :: history, state => by
    have ih := previous_after instanceId history (state.observe other current).1
    rw [after, List.foldl_cons, ← after, ih]
    by_cases hother : other = instanceId
    · subst hother
      rw [snapshotsOf_cons_self, previous_observe, acceptedAfter]
      split_ifs with haccepted
      · rw [previous_keep]
        simp [List.getLast?_cons]
      · rfl
    · rw [previous_observe_of_ne (Ne.symm hother), snapshotsOf_cons_of_ne hother]

def batches : StatDatabaseRateState → RateHistory → List (InstanceId × CollectedBatch)
  | _, [] => []
  | state, (instanceId, current) :: history =>
    (instanceId, (state.observe instanceId current).2)
      :: batches (state.observe instanceId current).1 history

end StatDatabaseRateState

def CollectedBatch.valueOf (batch : CollectedBatch) (name : String) (metricId : MetricId) : ℚ :=
  ((batch.samples.filter fun sample =>
    sample.metricId = metricId && sample.databaseName = name).map (·.value)).sum

def databaseRateMetrics : List (MetricId × List StatDatabaseCounter) :=
  [("pg.tps", [.xactCommit, .xactRollback]),
    ("pg.xact.commit_per_sec", [.xactCommit]),
    ("pg.xact.rollback_per_sec", [.xactRollback]),
    ("pg.tuples.read_per_sec", [.tuplesRead]),
    ("pg.tuples.write_per_sec", [.tuplesWrite]),
    ("pg.temp.files_per_sec", [.tempFiles]),
    ("pg.temp.bytes_per_sec", [.tempBytes]),
    ("pg.deadlock.count", [.deadlocks]),
    ("pg.cache.block_access_per_sec", [.blocksHit, .blocksRead])]

def total (counters : StatDatabaseCounters) (indices : List StatDatabaseCounter) : ℚ :=
  (indices.map counters).sum

namespace StatDatabaseRateState

/-- The sum over the history of a rate times the time since the last accepted snapshot. -/
def increase (instanceId : InstanceId) (name : String) (metricId : MetricId) :
    StatDatabaseRateState → RateHistory → ℚ
  | _, [] => 0
  | state, (other, current) :: history =>
    (if other = instanceId then
        (state.observe other current).2.valueOf name metricId
          * seconds (current.observedAt
            - ((state.previous other).map (·.observedAt)).getD current.observedAt)
      else 0)
      + increase instanceId name metricId (state.observe other current).1 history

end StatDatabaseRateState

theorem valueOf_databaseSamples (name : String) (rates : StatDatabaseCounters)
    {entry : MetricId × List StatDatabaseCounter} (h : entry ∈ databaseRateMetrics) :
    (((databaseSamples name rates).filter fun sample =>
      sample.metricId = entry.1).map (·.value)).sum = total rates entry.2 := by
  simp only [databaseRateMetrics, List.mem_cons, List.not_mem_nil, or_false] at h
  by_cases haccess : 0 < rates .blocksHit + rates .blocksRead <;>
    obtain rfl | rfl | rfl | rfl | rfl | rfl | rfl | rfl | rfl := h <;>
    simp [databaseSamples, StatDatabaseCounter.all, StatDatabaseCounter.metric, total, haccess]

theorem total_ratesBetween {before now : StatDatabaseCounters} {elapsed : ℤ} (h : 0 < elapsed) :
    ∀ indices : List StatDatabaseCounter,
      total (ratesBetween before now elapsed) indices * seconds elapsed
        = total now indices - total before indices
  | [] => by simp [total]
  | index :: indices => by
    have ih : total (ratesBetween before now elapsed) indices * seconds elapsed
        = total now indices - total before indices := total_ratesBetween h indices
    have hindex : ratesBetween before now elapsed index * seconds elapsed
        = now index - before index := by
      rw [ratesBetween, div_mul_cancel₀ _ (seconds_pos h).ne']
    simp only [total, List.map_cons, List.sum_cons] at ih ⊢
    rw [add_mul, ih, hindex]
    ring

theorem valueOf_round {previous current : StatDatabaseSnapshot}
    (hnewer : previous.observedAt < current.observedAt) (h : ¬ Decreased previous current)
    {name : String} {before now : StatDatabaseCounters}
    (hbefore : previous.counters name = some before)
    (hnow : current.counters name = some now) {entry : MetricId × List StatDatabaseCounter}
    (hentry : entry ∈ databaseRateMetrics) :
    (samplesLoop previous current (current.observedAt - previous.observedAt)
        (commonDatabases previous current) []).valueOf name entry.1
        * seconds (current.observedAt - previous.observedAt)
      = total now entry.2 - total before entry.2 := by
  have hcommon : name ∈ commonDatabases previous current := by
    rw [mem_commonDatabases, hbefore, hnow]
    exact ⟨rfl, rfl⟩
  rw [round_rates hnewer h, CollectedBatch.valueOf, ← List.filter_filter,
    filter_flatMap_databaseSamples (ratesOf previous current)
      (nodup_commonDatabases previous current) hcommon,
    valueOf_databaseSamples name _ hentry]
  simp only [ratesOf, hbefore, hnow, Option.getD_some]
  exact total_ratesBetween (by omega) entry.2

theorem counterReset_round_iff {previous current : StatDatabaseSnapshot}
    (hnewer : previous.observedAt < current.observedAt) :
    (samplesLoop previous current (current.observedAt - previous.observedAt)
        (commonDatabases previous current) []).counterReset = true
      ↔ Decreased previous current := by
  by_cases h : Decreased previous current
  · simp [round_reset hnewer h, h]
  · simp [round_rates hnewer h, h]

section Increase

variable {instanceId : InstanceId} {name : String}
  {entry : MetricId × List StatDatabaseCounter} (hentry : entry ∈ databaseRateMetrics)

include hentry

theorem increase_eq : ∀ (history : RateHistory) {state : StatDatabaseRateState}
    {previous last : StatDatabaseSnapshot} {before now : StatDatabaseCounters},
    state.previous instanceId = some previous → previous.counters name = some before →
    (∀ snapshot ∈ acceptedAfter (some previous) (snapshotsOf history instanceId),
      (snapshot.counters name).isSome) →
    (∀ batch ∈ state.batches history, batch.1 = instanceId → batch.2.counterReset = false) →
    (previous :: acceptedAfter (some previous) (snapshotsOf history instanceId)).getLast?
      = some last →
    last.counters name = some now →
    state.increase instanceId name entry.1 history = total now entry.2 - total before entry.2
  | [], state, previous, last, before, now, _, hbefore, _, _, hlast, hnow => by
    simp only [snapshotsOf, List.filter_nil, List.map_nil, acceptedAfter, List.getLast?_singleton,
      Option.some.injEq] at hlast
    subst hlast
    rw [hbefore, Option.some.injEq] at hnow
    simp [StatDatabaseRateState.increase, hnow]
  | (other, current) :: history, state, previous, last, before, now, hprevious, hbefore, hpresent,
      hreset, hlast, hnow => by
    simp only [StatDatabaseRateState.batches, List.mem_cons, forall_eq_or_imp] at hreset
    rw [StatDatabaseRateState.increase]
    by_cases hother : other = instanceId
    · obtain rfl := hother.symm
      rw [snapshotsOf_cons_self, acceptedAfter] at hpresent hlast
      by_cases hnewer : previous.observedAt < current.observedAt
      · simp only [Option.all_some, hnewer, decide_true, if_true, List.mem_cons,
          forall_eq_or_imp] at hpresent hlast
        obtain ⟨next, hnext⟩ := Option.isSome_iff_exists.mp hpresent.1
        have hobserve := StatDatabaseRateState.observe_newer hprevious hnewer
        have hdecreased : ¬ Decreased previous current := by
          have hfirst := hreset.1 rfl
          rw [hobserve] at hfirst
          exact fun h => by simp [(counterReset_round_iff hnewer).mpr h] at hfirst
        have hvalue := valueOf_round hnewer hdecreased hbefore hnext hentry
        have ih := @increase_eq history (state.keep instanceId current) _ _ _ _
          StatDatabaseRateState.previous_keep hnext hpresent.2
          (by rw [hobserve] at hreset; exact hreset.2)
          (by rwa [List.getLast?_cons_cons] at hlast) hnow
        simp only [if_true, hobserve, hprevious, Option.map_some, Option.getD_some, hvalue, ih]
        ring
      · simp only [Option.all_some, hnewer, decide_false, Bool.false_eq_true, if_false]
          at hpresent hlast
        have hobserve := StatDatabaseRateState.observe_stale hprevious (not_lt.mp hnewer)
        rw [hobserve] at hreset ⊢
        rw [increase_eq history hprevious hbefore hpresent hreset.2 hlast hnow]
        simp [CollectedBatch.valueOf]
    · rw [snapshotsOf_cons_of_ne hother] at hpresent hlast
      rw [if_neg hother, zero_add]
      exact increase_eq history
        ((StatDatabaseRateState.previous_observe_of_ne (Ne.symm hother)).trans hprevious)
        hbefore hpresent hreset.2 hlast hnow

theorem increase_new_eq : ∀ (history : RateHistory) {state : StatDatabaseRateState}
    {first last : StatDatabaseSnapshot} {before now : StatDatabaseCounters},
    state.previous instanceId = none →
    (∀ snapshot ∈ acceptedAfter none (snapshotsOf history instanceId),
      (snapshot.counters name).isSome) →
    (∀ batch ∈ state.batches history, batch.1 = instanceId → batch.2.counterReset = false) →
    (acceptedAfter none (snapshotsOf history instanceId)).head? = some first →
    (acceptedAfter none (snapshotsOf history instanceId)).getLast? = some last →
    first.counters name = some before → last.counters name = some now →
    state.increase instanceId name entry.1 history = total now entry.2 - total before entry.2
  | [], _, _, _, _, _, _, _, _, hfirst, _, _, _ => by simp [snapshotsOf, acceptedAfter] at hfirst
  | (other, current) :: history, state, first, last, before, now, hprevious, hpresent, hreset,
      hfirst, hlast, hbefore, hnow => by
    simp only [StatDatabaseRateState.batches, List.mem_cons, forall_eq_or_imp] at hreset
    rw [StatDatabaseRateState.increase]
    by_cases hother : other = instanceId
    · subst hother
      have hobserve : state.observe other current = (state.keep other current, {}) :=
        StatDatabaseRateState.observe_first hprevious
      rw [snapshotsOf_cons_self, acceptedAfter] at hpresent hfirst hlast
      simp only [Option.all_none, if_true, List.mem_cons, forall_eq_or_imp, List.head?_cons,
        Option.some.injEq] at hpresent hfirst hlast
      subst hfirst
      rw [hobserve] at hreset ⊢
      rw [increase_eq hentry history StatDatabaseRateState.previous_keep hbefore hpresent.2
        hreset.2 hlast hnow]
      simp [CollectedBatch.valueOf]
    · rw [snapshotsOf_cons_of_ne hother] at hpresent hfirst hlast
      rw [if_neg hother, zero_add]
      exact increase_new_eq history
        ((StatDatabaseRateState.previous_observe_of_ne (Ne.symm hother)).trans hprevious)
        hpresent hreset.2 hfirst hlast hbefore hnow

end Increase

/-- What a round gives: a reset, or the rates of all databases in both snapshots. -/
structure SoundRound (previous current : StatDatabaseSnapshot) (batch : CollectedBatch) : Prop where
  reset : Decreased previous current → batch.counterReset = true ∧ batch.samples = []
  rates : ¬ Decreased previous current →
    batch.counterReset = false ∧ FullSets previous current batch.samples

theorem database_rates_over_histories (history : RateHistory) :
    (∀ instanceId, (newStatDatabaseRateState.after history).previous instanceId
      = (accepted history instanceId).getLast?)
    ∧ (∀ instanceId current,
      (∀ last, (accepted history instanceId).getLast? = some last →
        current.observedAt ≤ last.observedAt →
        (newStatDatabaseRateState.after history).observe instanceId current
          = (newStatDatabaseRateState.after history, {}))
      ∧ ((accepted history instanceId).getLast? = none →
        ((newStatDatabaseRateState.after history).observe instanceId current).2 = {})
      ∧ ∀ last, (accepted history instanceId).getLast? = some last →
        last.observedAt < current.observedAt →
        SoundRound last current
          ((newStatDatabaseRateState.after history).observe instanceId current).2)
    ∧ ∀ instanceId name first last before now,
      (∀ snapshot ∈ accepted history instanceId, (snapshot.counters name).isSome) →
      (∀ batch ∈ newStatDatabaseRateState.batches history,
        batch.1 = instanceId → batch.2.counterReset = false) →
      (accepted history instanceId).head? = some first →
      (accepted history instanceId).getLast? = some last →
      first.counters name = some before → last.counters name = some now →
      ∀ entry ∈ databaseRateMetrics,
        newStatDatabaseRateState.increase instanceId name entry.1 history
          = total now entry.2 - total before entry.2 := by
  have hprevious (instanceId : InstanceId) :
      (newStatDatabaseRateState.after history).previous instanceId
        = (accepted history instanceId).getLast? :=
    StatDatabaseRateState.previous_after instanceId history newStatDatabaseRateState
  refine ⟨hprevious, fun instanceId current => ⟨fun last hlast hstale => ?_, fun hlast => ?_,
    fun last hlast hnewer => ?_⟩, ?_⟩
  · exact StatDatabaseRateState.observe_stale ((hprevious instanceId).trans hlast) hstale
  · rw [StatDatabaseRateState.observe_first ((hprevious instanceId).trans hlast)]
  · rw [StatDatabaseRateState.observe_newer ((hprevious instanceId).trans hlast) hnewer]
    constructor
    · intro hdecreased
      rw [round_reset hnewer hdecreased]
      exact ⟨rfl, rfl⟩
    · intro hdecreased
      rw [round_rates hnewer hdecreased]
      exact ⟨rfl, fullSets_round hnewer hdecreased⟩
  · intro instanceId name first last before now hpresent hreset hfirst hlast hbefore hnow entry
      hentry
    exact increase_new_eq hentry history rfl hpresent hreset hfirst hlast hbefore hnow

end DbsMonitor
