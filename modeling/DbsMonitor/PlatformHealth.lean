import Mathlib.Algebra.Order.Field.Rat
import DbsMonitor.Machine

/-!
# The health of the platform: the watermarks of the disk and of the platform database

A reading of the disk or of the capacity is classified together with the level of the fact before
it; a reading that is not available keeps the level. The numbers are exact.
-/

namespace DbsMonitor.PlatformHealth

inductive Status
  | ok
  | degraded
  | failed
  | unknown
  deriving DecidableEq, Repr

inductive Source
  | serverProcess
  | platformDatabase
  | collectionScheduler
  | partitionMaintenance
  | tlsCertificate
  | agentIngress
  | disk
  | credentialKeyring
  | platformDatabaseCapacity
  deriving DecidableEq, Repr

inductive DiskLevel
  | normal
  | warning
  | critical
  | emergency
  deriving DecidableEq, Repr

structure DiskThresholds where
  warning : ℚ
  critical : ℚ
  emergency : ℚ
  hysteresis : ℚ
  deriving DecidableEq

def defaultDiskThresholds : DiskThresholds :=
  { warning := 80, critical := 90, emergency := 95, hysteresis := 2 }

def DiskThresholds.validate (thresholds : DiskThresholds) : Option String :=
  if thresholds.warning ≤ 0 ∨ thresholds.critical ≤ thresholds.warning
      ∨ thresholds.emergency ≤ thresholds.critical ∨ 100 < thresholds.emergency then
    some "disk thresholds must be ordered between 0 and 100"
  else if thresholds.hysteresis < 0 ∨ thresholds.warning ≤ thresholds.hysteresis then
    some "disk hysteresis must be non-negative and below the warning threshold"
  else none

theorem validate_defaultDiskThresholds : defaultDiskThresholds.validate = none := by
  decide +kernel

def classifyWatermarkLevel (usagePercent : ℚ) (previousLevel : DiskLevel)
    (thresholds : DiskThresholds) : DiskLevel :=
  if thresholds.emergency ≤ usagePercent then .emergency
  else if previousLevel = .emergency
      ∧ thresholds.emergency - thresholds.hysteresis ≤ usagePercent then .emergency
  else if thresholds.critical ≤ usagePercent then .critical
  else if (previousLevel = .emergency ∨ previousLevel = .critical)
      ∧ thresholds.critical - thresholds.hysteresis ≤ usagePercent then .critical
  else if thresholds.warning ≤ usagePercent then .warning
  else if previousLevel ≠ .normal
      ∧ thresholds.warning - thresholds.hysteresis ≤ usagePercent then .warning
  else .normal

structure SourceSnapshot where
  source : Source
  status : Status
  code : String
  diskLevel : Option DiskLevel := none
  diskUsagePercent : Option ℚ := none
  diskThresholds : Option DiskThresholds := none
  capacityLevel : Option DiskLevel := none
  capacityUsedBytes : Option ℤ := none
  capacityBudgetBytes : Option ℤ := none
  capacityUsagePercent : Option ℚ := none
  capacityThresholds : Option DiskThresholds := none
  deriving DecidableEq

def DiskLevel.status : DiskLevel → Status
  | normal => .ok
  | warning | critical => .degraded
  | emergency => .failed

def DiskLevel.code (subject : String) : DiskLevel → String
  | normal => subject ++ "_NORMAL"
  | warning => subject ++ "_WARNING_WATERMARK"
  | critical => subject ++ "_CRITICAL_WATERMARK"
  | emergency => subject ++ "_EMERGENCY_WATERMARK"

def diskUnavailableSource (lastKnownLevel : DiskLevel) : SourceSnapshot :=
  { source := .disk, status := .unknown, code := "DISK_USAGE_UNAVAILABLE"
    diskLevel := some lastKnownLevel }

def diskSource (usagePercent : Option ℚ) (previousLevel : DiskLevel)
    (thresholds : DiskThresholds) : SourceSnapshot :=
  match usagePercent with
  | none => diskUnavailableSource previousLevel
  | some usagePercent =>
    if usagePercent < 0 ∨ 100 < usagePercent then diskUnavailableSource previousLevel
    else
      let level := classifyWatermarkLevel usagePercent previousLevel thresholds
      { source := .disk, status := level.status, code := level.code "DISK"
        diskLevel := some level
        diskUsagePercent := some usagePercent
        diskThresholds := some thresholds }

def platformDatabaseCapacityUnavailableSource (lastKnownLevel : DiskLevel) : SourceSnapshot :=
  { source := .platformDatabaseCapacity, status := .unknown
    code := "PLATFORM_DATABASE_CAPACITY_USAGE_UNAVAILABLE", capacityLevel := some lastKnownLevel }

def platformDatabaseCapacityUnconfiguredSource : SourceSnapshot :=
  { source := .platformDatabaseCapacity, status := .unknown
    code := "PLATFORM_DATABASE_CAPACITY_BUDGET_UNCONFIGURED" }

def platformDatabaseCapacitySource (usedBytes budgetBytes : ℤ) (previousLevel : DiskLevel)
    (thresholds : DiskThresholds) : SourceSnapshot :=
  if usedBytes < 0 ∨ budgetBytes ≤ 0 then platformDatabaseCapacityUnavailableSource previousLevel
  else
    let usagePercent : ℚ := usedBytes / budgetBytes * 100
    if usagePercent < 0 then platformDatabaseCapacityUnavailableSource previousLevel
    else
      let level := classifyWatermarkLevel usagePercent previousLevel thresholds
      { source := .platformDatabaseCapacity, status := level.status
        code := level.code "PLATFORM_DATABASE_CAPACITY"
        capacityLevel := some level
        capacityUsedBytes := some usedBytes
        capacityBudgetBytes := some budgetBytes
        capacityUsagePercent := some usagePercent
        capacityThresholds := some thresholds }

structure Store where
  sources : Source → SourceSnapshot

def newStore : Store where
  sources source :=
    match source with
    | .serverProcess =>
      { source := .serverProcess, status := .ok, code := "SERVER_PROCESS_RUNNING" }
    | source => { source := source, status := .unknown, code := "FACT_UNAVAILABLE" }

namespace Store

variable (store : Store)

def update (source : SourceSnapshot) : Store where
  sources := Function.update store.sources source.source source

def diskLevel : DiskLevel := (store.sources .disk).diskLevel.getD .normal

def platformDatabaseCapacityLevel : DiskLevel :=
  (store.sources .platformDatabaseCapacity).capacityLevel.getD .normal

def rejectSampleWrites : Bool := store.platformDatabaseCapacityLevel = .emergency

def rejectLocalLargeWrites : Bool := store.diskLevel = .emergency

end Store

inductive DiskReading
  | failed
  | usage (usedPercent : Option ℚ)
  deriving DecidableEq

inductive CapacityReading
  | failed
  | used (usedBytes : ℤ)
  deriving DecidableEq, Repr

structure Monitors where
  diskThresholds : DiskThresholds
  capacityThresholds : DiskThresholds
  capacityBudgetBytes : Option ℤ

inductive HealthAction
  | refreshDiskHealth (reading : DiskReading)
  | refreshPlatformDatabaseCapacityHealth (reading : CapacityReading)
  | update (fact : SourceSnapshot)

variable (monitors : Monitors)

def DiskReading.fact (reading : DiskReading) (previousLevel : DiskLevel) : SourceSnapshot :=
  match reading with
  | failed => diskUnavailableSource previousLevel
  | usage usedPercent => diskSource usedPercent previousLevel monitors.diskThresholds

def CapacityReading.fact (reading : CapacityReading) (previousLevel : DiskLevel) :
    SourceSnapshot :=
  match monitors.capacityBudgetBytes with
  | none => platformDatabaseCapacityUnconfiguredSource
  | some budgetBytes =>
    match reading with
    | failed => platformDatabaseCapacityUnavailableSource previousLevel
    | used usedBytes =>
      platformDatabaseCapacitySource usedBytes budgetBytes previousLevel
        monitors.capacityThresholds

def start (reading : DiskReading) : Store := newStore.update (reading.fact monitors .normal)

def step (store : Store) : HealthAction → Option Store
  | .refreshDiskHealth reading => some (store.update (reading.fact monitors store.diskLevel))
  | .refreshPlatformDatabaseCapacityHealth reading =>
    some (store.update (reading.fact monitors store.platformDatabaseCapacityLevel))
  | .update fact => do
    guard (fact.source ≠ .disk ∧ fact.source ≠ .platformDatabaseCapacity)
    some (store.update fact)

end DbsMonitor.PlatformHealth
