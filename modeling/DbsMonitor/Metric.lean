import Mathlib.Algebra.Group.Int.Defs
import Mathlib.Algebra.Group.Nat.Defs
import Mathlib.Data.List.Basic
import Mathlib.Data.Rat.Defs

/-!
# The metric dictionary

Instants and durations are integers, in nanoseconds. A collection task carries the proof that its
interval is positive, so that its schedule always moves forward. Of a metric the dictionary keeps
what the evaluator reads: who produces it and, for a weighted average, its weight metric.
-/

namespace DbsMonitor

abbrev MetricId := String
abbrev TaskId := String
abbrev InstanceId := String

def millisecond : ℤ := 1000000
def second : ℤ := 1000000000
def minute : ℤ := 60000000000

/-- The result of an operation on `int64`, which is what a `time.Duration` is. -/
def int64 (n : ℤ) : ℤ := n.bmod (2 ^ 64)

theorem int64_spec (n : ℤ) :
    -2 ^ 63 ≤ int64 n ∧ int64 n < 2 ^ 63 ∧ (n - int64 n) % 2 ^ 64 = 0 := by
  simp only [int64, Int.bmod]
  split <;> omega

theorem int64_eq {n : ℤ} (h : -2 ^ 63 ≤ n) (h' : n < 2 ^ 63) : int64 n = n := by
  obtain ⟨hlow, hhigh, hmod⟩ := int64_spec n
  omega

/-- The resolution of a `timestamptz` column: what of an instant the platform database keeps. -/
def timestamptz (t : ℤ) : ℤ := t - t % 1000

theorem timestamptz_mono {s t : ℤ} (h : s ≤ t) : timestamptz s ≤ timestamptz t := by
  unfold timestamptz
  omega

@[simp] theorem timestamptz_timestamptz (t : ℤ) : timestamptz (timestamptz t) = timestamptz t := by
  unfold timestamptz
  omega

theorem timestamptz_le (t : ℤ) : timestamptz t ≤ t := by
  unfold timestamptz
  omega

inductive TaskKind
  | probe
  | sql
  | agentDerived
  deriving DecidableEq, Repr

inductive CapabilityId
  | rolePgMonitor
  | extensionPgStatStatements
  | topologyHasReplication
  | topologyHasSlot
  deriving DecidableEq, Repr

inductive CapabilityStatus
  | present
  | missing
  | notApplicable
  | unknown
  deriving DecidableEq, Repr

inductive CapabilityBlockReason
  | collectionFailed
  | permissionDenied
  | extensionMissing
  | featureDisabled
  | notApplicableRole
  deriving DecidableEq, Repr

structure Task where
  id : TaskId
  kind : TaskKind
  requires : List CapabilityId
  interval : ℤ
  yields : List MetricId
  interval_pos : 0 < interval
  deriving DecidableEq

def taskProbe : Task :=
  { id := "pg.probe", kind := .probe, requires := [], interval := 5 * second
    yields := ["pg.availability.reachable", "pg.probe.latency_ms"]
    interval_pos := by decide }

def taskStatDatabase : Task :=
  { id := "pg.stat_database", kind := .sql, requires := [.rolePgMonitor], interval := 5 * second
    yields := ["pg.tps", "pg.xact.commit_per_sec", "pg.xact.rollback_per_sec",
      "pg.tuples.read_per_sec", "pg.tuples.write_per_sec", "pg.temp.files_per_sec",
      "pg.temp.bytes_per_sec", "pg.cache.hit_ratio", "pg.cache.block_access_per_sec",
      "pg.deadlock.count"]
    interval_pos := by decide }

def taskStatActivity : Task :=
  { id := "pg.stat_activity", kind := .sql, requires := [.rolePgMonitor], interval := 5 * second
    yields := ["pg.connection.total", "pg.connection.active", "pg.connection.idle_in_transaction",
      "pg.transaction.long_count", "pg.transaction.max_duration_sec", "pg.lock.waiting_count",
      "pg.session.blocked_count", "pg.query.long_running_count",
      "pg.connection.saturation_percent"]
    interval_pos := by decide }

def taskReplication : Task :=
  { id := "pg.replication", kind := .sql, requires := [.rolePgMonitor, .topologyHasReplication]
    interval := 5 * second
    yields := ["pg.replication.connection_state", "pg.replication.replay_lag_ms",
      "pg.replication.wal_lag_bytes"]
    interval_pos := by decide }

def taskReplicationSlot : Task :=
  { id := "pg.replication_slot", kind := .sql, requires := [.rolePgMonitor, .topologyHasSlot]
    interval := 5 * second, yields := ["pg.replication_slot.retained_wal_bytes"]
    interval_pos := by decide }

def taskPreparedXacts : Task :=
  { id := "pg.prepared_xacts", kind := .sql, requires := [], interval := 5 * minute
    yields := ["pg.prepared_xacts.count"], interval_pos := by decide }

def taskRole : Task :=
  { id := "pg.role", kind := .sql, requires := [], interval := 5 * minute
    yields := ["pg.replication.role"], interval_pos := by decide }

def taskSettings : Task :=
  { id := "pg.settings", kind := .sql, requires := [], interval := 5 * minute
    yields := ["pg.connection.max"], interval_pos := by decide }

def taskDatabaseSize : Task :=
  { id := "pg.database_size", kind := .sql, requires := [.rolePgMonitor], interval := 5 * minute
    yields := ["pg.database.size_bytes"], interval_pos := by decide }

def taskQueryStatistics : Task :=
  { id := "pg.stat_statements", kind := .sql, requires := [.extensionPgStatStatements]
    interval := 5 * minute, yields := [], interval_pos := by decide }

def tasks : List Task :=
  [taskProbe, taskStatDatabase, taskStatActivity, taskReplication, taskReplicationSlot,
    taskPreparedXacts, taskRole, taskSettings, taskDatabaseSize, taskQueryStatistics]

def taskForMetric (metricId : MetricId) : Option Task :=
  tasks.find? fun task => task.yields.contains metricId

def taskCapabilityBlockReasonOf (states : CapabilityId → CapabilityStatus) :
    List CapabilityId → Option CapabilityBlockReason
  | [] => none
  | required :: rest =>
    match states required, required with
    | .present, _ => taskCapabilityBlockReasonOf states rest
    | .missing, .rolePgMonitor => some .permissionDenied
    | .missing, .extensionPgStatStatements => some .extensionMissing
    | .notApplicable, .topologyHasReplication => some .notApplicableRole
    | .notApplicable, .topologyHasSlot => some .notApplicableRole
    | _, _ => some .collectionFailed

/-- The first required capability that is not present decides why a task is blocked. -/
def taskCapabilityBlockReason (task : Task) (states : CapabilityId → CapabilityStatus) :
    Option CapabilityBlockReason :=
  taskCapabilityBlockReasonOf states task.requires

inductive MetricProducer
  | serverTask
  | agent
  | controlPlane
  deriving DecidableEq, Repr

structure Metric where
  id : MetricId
  producer : MetricProducer
  weight : Option MetricId := none
  deriving DecidableEq

def metrics : List Metric :=
  [ { id := "pg.availability.reachable", producer := .serverTask },
    { id := "pg.probe.latency_ms", producer := .serverTask },
    { id := "collector.last_success_time", producer := .controlPlane },
    { id := "agent.status", producer := .controlPlane },
    { id := "host.cpu.usage_percent", producer := .agent },
    { id := "host.memory.usage_percent", producer := .agent },
    { id := "host.disk.usage_percent", producer := .agent },
    { id := "host.disk.free_bytes", producer := .agent },
    { id := "host.disk.iops", producer := .agent },
    { id := "host.disk.throughput_bytes_per_sec", producer := .agent },
    { id := "host.network.bytes_per_sec", producer := .agent },
    { id := "pg.connection.total", producer := .serverTask },
    { id := "pg.connection.active", producer := .serverTask },
    { id := "pg.connection.idle_in_transaction", producer := .serverTask },
    { id := "pg.connection.max", producer := .serverTask },
    { id := "pg.connection.saturation_percent", producer := .serverTask },
    { id := "pg.tps", producer := .serverTask },
    { id := "pg.xact.commit_per_sec", producer := .serverTask },
    { id := "pg.xact.rollback_per_sec", producer := .serverTask },
    { id := "pg.tuples.read_per_sec", producer := .serverTask },
    { id := "pg.tuples.write_per_sec", producer := .serverTask },
    { id := "pg.temp.files_per_sec", producer := .serverTask },
    { id := "pg.temp.bytes_per_sec", producer := .serverTask },
    { id := "pg.transaction.long_count", producer := .serverTask },
    { id := "pg.transaction.max_duration_sec", producer := .serverTask },
    { id := "pg.lock.waiting_count", producer := .serverTask },
    { id := "pg.session.blocked_count", producer := .serverTask },
    { id := "pg.query.long_running_count", producer := .serverTask },
    { id := "pg.prepared_xacts.count", producer := .serverTask },
    { id := "pg.replication.role", producer := .serverTask },
    { id := "pg.replication.connection_state", producer := .serverTask },
    { id := "pg.replication.replay_lag_ms", producer := .serverTask },
    { id := "pg.replication.wal_lag_bytes", producer := .serverTask },
    { id := "pg.replication_slot.retained_wal_bytes", producer := .serverTask },
    { id := "pg.cache.hit_ratio", producer := .serverTask,
      weight := some "pg.cache.block_access_per_sec" },
    { id := "pg.cache.block_access_per_sec", producer := .serverTask },
    { id := "pg.database.size_bytes", producer := .serverTask },
    { id := "pg.deadlock.count", producer := .serverTask } ]

def lookup (id : MetricId) : Option Metric :=
  metrics.find? fun item => item.id = id

def producerFor (id : MetricId) : Option MetricProducer :=
  (lookup id).map Metric.producer

def weightMetricFor (id : MetricId) : Option MetricId :=
  (lookup id).bind Metric.weight

end DbsMonitor
