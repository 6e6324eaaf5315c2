import Mathlib.Algebra.Field.Rat
import DbsMonitor.Metric

/-!
# Alert evaluation

How the samples of a rule's window become one value, the value an outcome, and the outcome a
step of the alert's state. A rule's aggregation and comparison operators are the ones the
database constraints of `alert_rule` admit. Sample values are exact rationals.
-/

namespace DbsMonitor

inductive AlertState
  | empty
  | ok
  | pending
  | firing
  | noData
  | recovered
  deriving DecidableEq, Repr

inductive Evaluation
  | breaching
  | recovering
  | stable
  | missing
  | missingIgnored
  deriving DecidableEq, Repr

structure Snapshot where
  state : AlertState
  stateBeforeNoData : AlertState := .empty
  breachCount : ℕ := 0
  recoveryCount : ℕ := 0
  noDataCount : ℕ := 0
  deriving DecidableEq, Repr

inductive Aggregation
  | latest
  | avg
  | sum
  | max
  | min
  | count
  deriving DecidableEq, Repr

inductive Operator
  | gt
  | ge
  | lt
  | le
  | eq
  | ne
  deriving DecidableEq, Repr

structure Point where
  timestamp : ℤ
  value : ℚ
  deriving DecidableEq

structure WindowValue where
  value : ℚ := 0
  latestTimestamp : Option ℤ := none
  sampleCount : ℕ := 0

def WindowValue.add (aggregation : Aggregation) (acc : WindowValue) (point : Point) :
    WindowValue :=
  let acc := { acc with sampleCount := acc.sampleCount + 1 }
  match aggregation with
  | .latest =>
    if acc.latestTimestamp.all (· < point.timestamp) then
      { acc with latestTimestamp := some point.timestamp, value := point.value }
    else acc
  | .avg | .sum => { acc with value := acc.value + point.value }
  | .max =>
    if acc.sampleCount = 1 ∨ acc.value < point.value then { acc with value := point.value } else acc
  | .min =>
    if acc.sampleCount = 1 ∨ point.value < acc.value then { acc with value := point.value } else acc
  | .count => { acc with value := acc.sampleCount }

def inWindow (now window : ℤ) (timestamp : ℤ) : Bool :=
  now - window < timestamp && timestamp ≤ now

def aggregateWindow (points : List Point) (now window : ℤ) (aggregation : Aggregation) :
    Option ℚ :=
  let acc := (points.filter fun point => inWindow now window point.timestamp).foldl
    (WindowValue.add aggregation) {}
  if acc.sampleCount = 0 then none
  else if aggregation = .avg then some (acc.value / acc.sampleCount)
  else some acc.value

def compare (value : ℚ) (operator : Operator) (threshold : ℚ) : Bool :=
  match operator with
  | .gt => threshold < value
  | .ge => threshold ≤ value
  | .lt => value < threshold
  | .le => value ≤ threshold
  | .eq => value = threshold
  | .ne => value ≠ threshold

def evaluate (value : ℚ) (operator : Operator) (threshold : ℚ) (recoveryOperator : Operator)
    (recoveryThreshold : ℚ) : Evaluation :=
  if compare value operator threshold then .breaching
  else if compare value recoveryOperator recoveryThreshold then .recovering
  else .stable

namespace Snapshot

variable (current : Snapshot) (triggerCount recoveryCount : ℕ)

def stepValue (evaluation : Evaluation) : Snapshot :=
  if evaluation = .stable then
    { current with
      breachCount := 0
      recoveryCount := 0
      state := if current.state = .pending then .ok else current.state }
  else if evaluation = .breaching then
    let current := { current with recoveryCount := 0 }
    match current.state with
    | .ok | .pending | .recovered =>
      let breachCount := current.breachCount + 1
      { current with
        breachCount := breachCount
        state := if triggerCount ≤ breachCount then .firing else .pending }
    | _ => current
  else
    let current := { current with breachCount := 0 }
    match current.state with
    | .pending => { current with state := .ok }
    | .firing =>
      let count := current.recoveryCount + 1
      { current with
        recoveryCount := count
        state := if recoveryCount ≤ count then .recovered else .firing }
    | _ => current

def step (evaluation : Evaluation) : Snapshot :=
  match evaluation with
  | .missingIgnored => { current with breachCount := 0, recoveryCount := 0, noDataCount := 0 }
  | .missing =>
    if current.state = .recovered then current
    else
      let current :=
        { current with
          breachCount := 0
          recoveryCount := 0
          noDataCount := current.noDataCount + 1 }
      if 2 ≤ current.noDataCount ∧ current.state ≠ .noData then
        { current with stateBeforeNoData := current.state, state := .noData }
      else current
  | .breaching | .recovering | .stable =>
    let current := { current with noDataCount := 0 }
    if current.state = .noData then
      { current with state := current.stateBeforeNoData, stateBeforeNoData := .empty }
    else current.stepValue triggerCount recoveryCount evaluation

end Snapshot

/-- While collection is paused the alert stays as it is, and none is created. -/
def stepCollection (current : Option Snapshot) (evaluation : Evaluation) (paused : Bool)
    (triggerCount recoveryCount : ℕ) : Option Snapshot :=
  if paused then current
  else some ((current.getD { state := .ok }).step triggerCount recoveryCount evaluation)

inductive EventKind
  | pendingStarted
  | fired
  | updated
  | recovered
  | noDataEntered
  | noDataExited
  | frozen
  | unfrozen
  | acked
  | ignored
  | instanceRemoved
  | notificationSent
  | notificationFailed
  | maintenanceSuppressed
  deriving DecidableEq, Repr

def stateEvents (before after : AlertState) : List EventKind :=
  if before = .noData ∧ after ≠ .noData then
    .noDataExited :: if after = .recovered then [.recovered] else []
  else if before ≠ .pending ∧ after = .pending then [.pendingStarted]
  else if before ≠ .firing ∧ after = .firing then [.fired]
  else if before = .firing ∧ after = .firing then [.updated]
  else if before ≠ .recovered ∧ after = .recovered then [.recovered]
  else if before ≠ .noData ∧ after = .noData then [.noDataEntered]
  else []

inductive PerformanceEventType
  | lockBlocking
  | longTransaction
  | idleInTransaction
  | activeSessionsHigh
  | replicationLag
  | tempFilesSurge
  deriving DecidableEq, Repr

def performanceEventTypeForMetric (metricId : MetricId) : Option PerformanceEventType :=
  if metricId ∈ ["pg.lock.waiting_count", "pg.session.blocked_count"] then some .lockBlocking
  else if metricId ∈ ["pg.transaction.long_count", "pg.transaction.max_duration_sec"] then
    some .longTransaction
  else if metricId = "pg.connection.idle_in_transaction" then some .idleInTransaction
  else if metricId = "pg.connection.active" then some .activeSessionsHigh
  else if metricId = "pg.replication.wal_lag_bytes" then some .replicationLag
  else if metricId ∈ ["pg.temp.files_per_sec", "pg.temp.bytes_per_sec"] then
    some .tempFilesSurge
  else none

inductive TriggerSnapshotScope
  | lockBlocking
  | longTransactions
  | idleInTransaction
  | activeSessions
  deriving DecidableEq, Repr

def triggerSnapshotScopeForMetric (metricId : MetricId) : Option TriggerSnapshotScope :=
  if metricId = "pg.connection.active" then some .activeSessions
  else if metricId = "pg.connection.idle_in_transaction" then some .idleInTransaction
  else if metricId ∈ ["pg.transaction.long_count", "pg.transaction.max_duration_sec"] then
    some .longTransactions
  else if metricId ∈ ["pg.lock.waiting_count", "pg.session.blocked_count"] then some .lockBlocking
  else none

theorem evaluate_ne_missing (value : ℚ) (operator : Operator) (threshold : ℚ)
    (recoveryOperator : Operator) (recoveryThreshold : ℚ) :
    evaluate value operator threshold recoveryOperator recoveryThreshold ≠ .missing := by
  unfold evaluate
  split_ifs <;> simp

theorem sampleCount_foldl_add (aggregation : Aggregation) :
    ∀ (points : List Point) (acc : WindowValue),
      (points.foldl (WindowValue.add aggregation) acc).sampleCount
        = acc.sampleCount + points.length
  | [], acc => rfl
  | point :: points, acc => by
    have hadd : (acc.add aggregation point).sampleCount = acc.sampleCount + 1 := by
      cases aggregation <;> simp only [WindowValue.add] <;> split_ifs <;> rfl
    rw [List.foldl_cons, sampleCount_foldl_add aggregation points, hadd, List.length_cons]
    omega

theorem aggregateWindow_isSome {points : List Point} {now window : ℤ} (aggregation : Aggregation) :
    (aggregateWindow points now window aggregation).isSome
      ↔ ∃ point ∈ points, inWindow now window point.timestamp = true := by
  have hcount := sampleCount_foldl_add aggregation
    (points.filter fun point => inWindow now window point.timestamp) {}
  rw [show ({} : WindowValue).sampleCount = 0 from rfl, Nat.zero_add] at hcount
  have hlen : (points.filter fun point => inWindow now window point.timestamp).length = 0
      ↔ ¬ ∃ point ∈ points, inWindow now window point.timestamp = true := by
    simp [List.length_eq_zero_iff, List.filter_eq_nil_iff]
  simp only [aggregateWindow]
  split_ifs with hzero
  · simp only [Option.isSome_none, Bool.false_eq_true, false_iff]
    exact hlen.mp (by omega)
  all_goals
    simp only [Option.isSome_some, true_iff]
    by_contra hno
    have := hlen.mpr hno
    omega

end DbsMonitor
