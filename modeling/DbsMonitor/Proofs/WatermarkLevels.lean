import Mathlib.Tactic.NormNum
import DbsMonitor.Hysteresis
import DbsMonitor.PlatformHealth

/-!
# A level is the highest of three switches

Each threshold is a switch of its own. They share the hysteresis, so the switches are nested
(`Switch.Below`): the level says which of them are on, also when the hysteresis is wider than the
gaps between the thresholds.
-/

namespace DbsMonitor.PlatformHealth

open Hysteresis

def highest (warning critical emergency : Bool) : DiskLevel :=
  if emergency then .emergency else if critical then .critical
  else if warning then .warning else .normal

namespace DiskThresholds

variable (thresholds : DiskThresholds)

def switch (threshold : ℚ) : Switch ℚ := ⟨threshold, threshold - thresholds.hysteresis⟩

def warningSwitch : Switch ℚ := thresholds.switch thresholds.warning

def criticalSwitch : Switch ℚ := thresholds.switch thresholds.critical

def emergencySwitch : Switch ℚ := thresholds.switch thresholds.emergency

def levelAfter (readings : List (Option ℚ)) : DiskLevel :=
  highest (thresholds.warningSwitch.after readings) (thresholds.criticalSwitch.after readings)
    (thresholds.emergencySwitch.after readings)

variable {thresholds}

theorem below_of_validate (h : thresholds.validate = none) :
    thresholds.warningSwitch.Below thresholds.criticalSwitch
      ∧ thresholds.criticalSwitch.Below thresholds.emergencySwitch := by
  unfold validate at h
  split_ifs at h with hordered hhysteresis
  simp only [not_or, not_le] at hordered
  obtain ⟨-, hcritical, hemergency, -⟩ := hordered
  exact ⟨⟨hcritical.le, sub_le_sub_right hcritical.le _⟩,
    ⟨hemergency.le, sub_le_sub_right hemergency.le _⟩⟩

theorem levelAfter_spec (h : thresholds.validate = none) (readings : List (Option ℚ)) :
    (thresholds.levelAfter readings = .emergency
      ↔ thresholds.emergencySwitch.after readings = true)
    ∧ (thresholds.levelAfter readings = .emergency ∨ thresholds.levelAfter readings = .critical
      ↔ thresholds.criticalSwitch.after readings = true)
    ∧ (thresholds.levelAfter readings ≠ .normal
      ↔ thresholds.warningSwitch.after readings = true) := by
  obtain ⟨hwarning, hcritical⟩ := below_of_validate h
  have hwarning : thresholds.criticalSwitch.after readings = true →
      thresholds.warningSwitch.after readings = true := hwarning.after
  have hcritical : thresholds.emergencySwitch.after readings = true →
      thresholds.criticalSwitch.after readings = true := hcritical.after
  unfold levelAfter highest
  split_ifs <;> simp_all

theorem classifyWatermarkLevel_levelAfter (h : thresholds.validate = none)
    (readings : List (Option ℚ)) (usagePercent : ℚ) :
    classifyWatermarkLevel usagePercent (thresholds.levelAfter readings) thresholds
      = thresholds.levelAfter (readings ++ [some usagePercent]) := by
  obtain ⟨hemergency, hcritical, hwarning⟩ := levelAfter_spec h readings
  unfold classifyWatermarkLevel
  simp only [hcritical]
  simp only [hemergency, hwarning]
  simp only [levelAfter, highest, Switch.after_concat, Switch.next_some_iff, ite_or]
  rfl

def nextLevel (thresholds : DiskThresholds) (previousLevel : DiskLevel) : Option ℚ → DiskLevel
  | none => previousLevel
  | some usagePercent => classifyWatermarkLevel usagePercent previousLevel thresholds

theorem nextLevel_levelAfter (h : thresholds.validate = none) (readings : List (Option ℚ))
    (reading : Option ℚ) :
    thresholds.nextLevel (thresholds.levelAfter readings) reading
      = thresholds.levelAfter (readings ++ [reading]) := by
  cases reading with
  | none =>
    simp only [levelAfter, Switch.after_concat]
    rfl
  | some usagePercent => exact classifyWatermarkLevel_levelAfter h readings usagePercent

end DiskThresholds

def DiskReading.usable : DiskReading → Option ℚ
  | failed => none
  | usage usedPercent => usedPercent.filter fun percent => 0 ≤ percent ∧ percent ≤ 100

/-- The usage of the platform database in percent of its budget, when both are known. -/
def CapacityReading.usable (budgetBytes : Option ℤ) : CapacityReading → Option ℚ
  | failed => none
  | used usedBytes =>
    budgetBytes.bind fun budgetBytes =>
      if 0 ≤ usedBytes ∧ 0 < budgetBytes then some (usedBytes / budgetBytes * 100) else none

variable {monitors : Monitors} {previousLevel : DiskLevel}

theorem DiskReading.fact_source (reading : DiskReading) :
    (reading.fact monitors previousLevel).source = .disk := by
  cases reading with
  | failed => rfl
  | usage usedPercent =>
    cases usedPercent with
    | none => rfl
    | some percent =>
      simp only [fact, diskSource]
      split_ifs <;> rfl

theorem DiskReading.fact_diskLevel (reading : DiskReading) :
    (reading.fact monitors previousLevel).diskLevel
      = some (monitors.diskThresholds.nextLevel previousLevel reading.usable) := by
  cases reading with
  | failed => rfl
  | usage usedPercent =>
    cases usedPercent with
    | none => rfl
    | some percent =>
      simp only [fact, diskSource, usable, Option.filter_some]
      split_ifs with hrange husable husable
      · simp only [decide_eq_true_iff] at husable
        rcases hrange with hrange | hrange
        · exact absurd husable.1 (not_le.mpr hrange)
        · exact absurd husable.2 (not_le.mpr hrange)
      · rfl
      · rfl
      · simp only [decide_eq_true_iff, not_and_or, not_le] at husable
        exact absurd husable hrange

theorem CapacityReading.fact_source (reading : CapacityReading) :
    (reading.fact monitors previousLevel).source = .platformDatabaseCapacity := by
  unfold fact
  cases monitors.capacityBudgetBytes with
  | none => rfl
  | some budgetBytes =>
    cases reading with
    | failed => rfl
    | used usedBytes =>
      simp only [platformDatabaseCapacitySource]
      split_ifs <;> rfl

theorem CapacityReading.fact_capacityLevel (reading : CapacityReading) {budgetBytes : ℤ}
    (hbudget : monitors.capacityBudgetBytes = some budgetBytes) :
    (reading.fact monitors previousLevel).capacityLevel
      = some (monitors.capacityThresholds.nextLevel previousLevel
        (reading.usable monitors.capacityBudgetBytes)) := by
  unfold fact
  rw [hbudget]
  cases reading with
  | failed => rfl
  | used usedBytes =>
    simp only [platformDatabaseCapacitySource, usable, Option.bind_some]
    by_cases hnumbers : 0 ≤ usedBytes ∧ 0 < budgetBytes
    · have hused : (0 : ℚ) ≤ usedBytes := Int.cast_nonneg hnumbers.1
      have hbudget : (0 : ℚ) ≤ budgetBytes := Int.cast_nonneg hnumbers.2.le
      have hpercent : (0 : ℚ) ≤ usedBytes / budgetBytes * 100 :=
        mul_nonneg (div_nonneg hused hbudget) (by norm_num)
      rw [if_pos hnumbers, if_neg (by omega), if_neg (not_lt.mpr hpercent)]
      rfl
    · rw [if_neg hnumbers, if_pos (by omega)]
      rfl

def HealthAction.diskReading : HealthAction → Option (Option ℚ)
  | refreshDiskHealth reading => some reading.usable
  | refreshPlatformDatabaseCapacityHealth _ | update _ => none

def HealthAction.capacityReading (budgetBytes : Option ℤ) : HealthAction → Option (Option ℚ)
  | refreshPlatformDatabaseCapacityHealth reading => some (reading.usable budgetBytes)
  | refreshDiskHealth _ | update _ => none

namespace Store

variable {store : Store} {fact : SourceSnapshot}

theorem sources_update : (store.update fact).sources fact.source = fact :=
  Function.update_self ..

theorem sources_update_of_ne {source : Source} (h : fact.source ≠ source) :
    (store.update fact).sources source = store.sources source :=
  Function.update_of_ne h.symm ..

theorem diskLevel_update (h : fact.source = .disk) :
    (store.update fact).diskLevel = fact.diskLevel.getD .normal := by
  rw [diskLevel, ← h, sources_update]

theorem diskLevel_update_of_ne (h : fact.source ≠ .disk) :
    (store.update fact).diskLevel = store.diskLevel := by
  rw [diskLevel, sources_update_of_ne h, diskLevel]

theorem platformDatabaseCapacityLevel_update (h : fact.source = .platformDatabaseCapacity) :
    (store.update fact).platformDatabaseCapacityLevel = fact.capacityLevel.getD .normal := by
  rw [platformDatabaseCapacityLevel, ← h, sources_update]

theorem platformDatabaseCapacityLevel_update_of_ne (h : fact.source ≠ .platformDatabaseCapacity) :
    (store.update fact).platformDatabaseCapacityLevel = store.platformDatabaseCapacityLevel := by
  rw [platformDatabaseCapacityLevel, sources_update_of_ne h, platformDatabaseCapacityLevel]

end Store

/-- The levels of the store are those of the switches after the readings. Without a budget no
reading of the capacity is usable and there is no level of it. -/
structure Tracks (monitors : Monitors) (store : Store)
    (diskReadings capacityReadings : List (Option ℚ)) : Prop where
  disk : store.diskLevel = monitors.diskThresholds.levelAfter diskReadings
  capacity : store.platformDatabaseCapacityLevel
    = monitors.capacityThresholds.levelAfter capacityReadings
  unconfigured : monitors.capacityBudgetBytes = none →
    ∀ reading ∈ capacityReadings, reading = none

namespace Tracks

variable {store store' : Store} {diskReadings capacityReadings : List (Option ℚ)}

theorem refreshDisk (hvalid : monitors.diskThresholds.validate = none)
    (h : Tracks monitors store diskReadings capacityReadings) (reading : DiskReading) :
    Tracks monitors (store.update (reading.fact monitors store.diskLevel))
      (diskReadings ++ [reading.usable]) capacityReadings where
  disk := by
    rw [Store.diskLevel_update reading.fact_source, reading.fact_diskLevel, h.disk,
      DiskThresholds.nextLevel_levelAfter hvalid, Option.getD_some]
  capacity := by
    rw [Store.platformDatabaseCapacityLevel_update_of_ne (by rw [reading.fact_source]; decide),
      h.capacity]
  unconfigured := h.unconfigured

theorem refreshCapacity (hvalid : monitors.capacityThresholds.validate = none)
    (h : Tracks monitors store diskReadings capacityReadings) (reading : CapacityReading) :
    Tracks monitors (store.update (reading.fact monitors store.platformDatabaseCapacityLevel))
      diskReadings (capacityReadings ++ [reading.usable monitors.capacityBudgetBytes]) := by
  have hunconfigured : monitors.capacityBudgetBytes = none →
      ∀ r ∈ capacityReadings ++ [reading.usable monitors.capacityBudgetBytes], r = none := by
    intro hbudget r hr
    rcases List.mem_append.mp hr with hr | hr
    · exact h.unconfigured hbudget r hr
    · rw [List.mem_singleton.mp hr, hbudget]
      cases reading <;> rfl
  refine ⟨?_, ?_, hunconfigured⟩
  · rw [Store.diskLevel_update_of_ne (by rw [reading.fact_source]; decide), h.disk]
  · rw [Store.platformDatabaseCapacityLevel_update reading.fact_source]
    cases hbudget : monitors.capacityBudgetBytes with
    | none =>
      have hoff := hunconfigured hbudget
      rw [hbudget] at hoff
      simp only [DiskThresholds.levelAfter, Switch.after_of_forall_none hoff]
      simp [CapacityReading.fact, hbudget, platformDatabaseCapacityUnconfiguredSource, highest]
    | some budgetBytes =>
      rw [reading.fact_capacityLevel hbudget, h.capacity,
        DiskThresholds.nextLevel_levelAfter hvalid, Option.getD_some, hbudget]

theorem step (hdisk : monitors.diskThresholds.validate = none)
    (hcapacity : monitors.capacityThresholds.validate = none)
    (h : Tracks monitors store diskReadings capacityReadings) {action : HealthAction}
    (hstep : PlatformHealth.step monitors store action = some store') :
    Tracks monitors store' (diskReadings ++ action.diskReading.toList)
      (capacityReadings ++ (action.capacityReading monitors.capacityBudgetBytes).toList) := by
  cases action with
  | refreshDiskHealth reading =>
    cases hstep
    simpa [HealthAction.diskReading, HealthAction.capacityReading] using h.refreshDisk hdisk reading
  | refreshPlatformDatabaseCapacityHealth reading =>
    cases hstep
    simpa [HealthAction.diskReading, HealthAction.capacityReading]
      using h.refreshCapacity hcapacity reading
  | update fact =>
    obtain ⟨_, hguard, hstep⟩ := Option.bind_eq_some_iff.mp hstep
    cases hstep
    have hsource := Machine.of_guard hguard
    rw [HealthAction.diskReading, HealthAction.capacityReading, Option.toList_none, List.append_nil,
      List.append_nil]
    refine ⟨?_, ?_, h.unconfigured⟩
    · rw [Store.diskLevel_update_of_ne hsource.1, h.disk]
    · rw [Store.platformDatabaseCapacityLevel_update_of_ne hsource.2, h.capacity]

theorem run (hdisk : monitors.diskThresholds.validate = none)
    (hcapacity : monitors.capacityThresholds.validate = none) :
    ∀ {store store' : Store} {diskReadings capacityReadings : List (Option ℚ)}
      {actions : List HealthAction}, Tracks monitors store diskReadings capacityReadings →
      Machine.run (PlatformHealth.step monitors) store actions = some store' →
      Tracks monitors store' (diskReadings ++ actions.filterMap HealthAction.diskReading)
        (capacityReadings
          ++ actions.filterMap (HealthAction.capacityReading monitors.capacityBudgetBytes))
  | store, store', diskReadings, capacityReadings, [], h, hrun => by
    cases hrun
    simpa using h
  | store, store', diskReadings, capacityReadings, action :: actions, h, hrun => by
    obtain ⟨next, hstep, hrun⟩ := (Machine.run_cons _).mp hrun
    have hcons : ∀ f : HealthAction → Option (Option ℚ),
        (action :: actions).filterMap f = (f action).toList ++ actions.filterMap f := by
      intro f
      cases hf : f action <;> simp [hf]
    rw [hcons, hcons, ← List.append_assoc, ← List.append_assoc]
    exact run hdisk hcapacity (h.step hdisk hcapacity hstep) hrun

end Tracks

theorem tracks_start (hdisk : monitors.diskThresholds.validate = none) (reading : DiskReading) :
    Tracks monitors (start monitors reading) [reading.usable] [] := by
  have h : Tracks monitors newStore [] [] := by
    refine ⟨rfl, rfl, ?_⟩
    intro _ reading hreading
    cases hreading
  exact h.refreshDisk hdisk reading

/-- In every run each of the two levels is the highest of three switches. -/
theorem levels_are_switches (monitors : Monitors)
    (hdisk : monitors.diskThresholds.validate = none)
    (hcapacity : monitors.capacityThresholds.validate = none) (reading : DiskReading)
    (actions : List HealthAction) (store : Store)
    (hrun : Machine.run (step monitors) (start monitors reading) actions = some store) :
    let disk := reading.usable :: actions.filterMap HealthAction.diskReading
    let capacity :=
      actions.filterMap (HealthAction.capacityReading monitors.capacityBudgetBytes)
    store.diskLevel
        = highest (monitors.diskThresholds.warningSwitch.after disk)
          (monitors.diskThresholds.criticalSwitch.after disk)
          (monitors.diskThresholds.emergencySwitch.after disk)
      ∧ store.platformDatabaseCapacityLevel
        = highest (monitors.capacityThresholds.warningSwitch.after capacity)
          (monitors.capacityThresholds.criticalSwitch.after capacity)
          (monitors.capacityThresholds.emergencySwitch.after capacity)
      ∧ store.rejectLocalLargeWrites = monitors.diskThresholds.emergencySwitch.after disk
      ∧ store.rejectSampleWrites = monitors.capacityThresholds.emergencySwitch.after capacity := by
  intro disk capacity
  have h : Tracks monitors store disk capacity :=
    (tracks_start hdisk reading).run hdisk hcapacity hrun
  refine ⟨h.disk, h.capacity, ?_, ?_⟩
  · rw [Store.rejectLocalLargeWrites, h.disk, Bool.eq_iff_iff, decide_eq_true_iff]
    exact (DiskThresholds.levelAfter_spec hdisk disk).1
  · rw [Store.rejectSampleWrites, h.capacity, Bool.eq_iff_iff, decide_eq_true_iff]
    exact (DiskThresholds.levelAfter_spec hcapacity capacity).1

/-- With a hysteresis wider than the gaps between the thresholds: the emergency of the disk ends at
a reading that keeps the warning. -/
theorem levels_wide_hysteresis :
    let thresholds : DiskThresholds :=
      { warning := 80, critical := 90, emergency := 95, hysteresis := 20 }
    ∃ store, Machine.run (step ⟨thresholds, thresholds, some 1000⟩)
        (start ⟨thresholds, thresholds, some 1000⟩ (.usage (some 96)))
        [.refreshDiskHealth .failed, .refreshPlatformDatabaseCapacityHealth (.used 990),
          .refreshDiskHealth (.usage (some 65))] = some store
      ∧ store.diskLevel = .warning ∧ store.rejectLocalLargeWrites = false
      ∧ store.rejectSampleWrites = true := by
  intro thresholds
  obtain ⟨hlevel, -, hlocal, hsamples⟩ := levels_are_switches ⟨thresholds, thresholds, some 1000⟩
    (by decide +kernel) (by decide +kernel) (.usage (some 96))
    [.refreshDiskHealth .failed, .refreshPlatformDatabaseCapacityHealth (.used 990),
      .refreshDiskHealth (.usage (some 65))] _ rfl
  refine ⟨_, rfl, hlevel.trans ?_, hlocal.trans ?_, hsamples.trans ?_⟩
  · decide +kernel
  · decide +kernel
  · decide +kernel

end DbsMonitor.PlatformHealth
