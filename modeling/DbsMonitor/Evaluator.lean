import Mathlib.Data.List.Dedup
import Mathlib.Data.List.Sort
import DbsMonitor.Alerting
import DbsMonitor.CollectState

/-!
# The evaluator's view of a metric

`evaluateMetric` reads the samples of a rule's window and evaluates the rule on their aggregate.
A `pg.*` metric is not read at all while the instance's source row carries an error code; the
metrics of the control plane are projected from the state rows instead of samples.
-/

namespace DbsMonitor

structure EvaluationTarget where
  metricId : MetricId
  aggregation : Aggregation
  operator : Operator
  threshold : ℚ
  recoveryOperator : Operator
  recoveryThreshold : ℚ
  windowSeconds : ℕ
  windowSeconds_pos : 0 < windowSeconds
  lastErrorCode : Option ErrorCode

inductive Unavailability
  | noSamplesYet
  | code (code : ErrorCode)
  deriving DecidableEq, Repr

structure MetricEvaluation where
  outcome : Evaluation := .missing
  currentValue : Option ℚ := none
  unavailability : Option Unavailability := some .noSamplesYet
  deriving DecidableEq

/-- The agent's columns of the control-plane facts; `none` for the zero time and the empty
code. -/
structure AgentFacts where
  expected : Bool
  lastReportAt : Option ℤ
  lastErrorCode : Option String

def agentOfflineAfter : ℤ := 60 * second

/-- `AgentStatusAt` with the encoding of its result in `AgentStatusEncodings`. -/
def agentStatusAt (facts : AgentFacts) (now : ℤ) : ℚ :=
  if !facts.expected then 2
  else if facts.lastErrorCode = some "PERMISSION_DENIED" then 3
  else if facts.lastErrorCode.isSome then 4
  else if facts.lastReportAt.any fun reported => now - reported ≤ agentOfflineAfter then 1
  else 0

/-- `ProjectControlPlaneMetric`, then `controlPlaneRuleValue`: the seconds since the last
success. -/
def controlPlaneValue (metricId : MetricId) (source : SourceState) (agent : AgentFacts)
    (now : ℤ) : Option ℚ :=
  if metricId = "collector.last_success_time" then
    source.lastSuccessAt.map fun success => ((now - success / second * second : ℤ) : ℚ) / second
  else if metricId = "agent.status" then some (agentStatusAt agent now)
  else none

def collectionFailureBlocksSamples (metricId : MetricId) (lastErrorCode : Option ErrorCode) :
    Bool :=
  "pg.".toList.isPrefixOf metricId.toList && metricId ≠ "pg.availability.reachable"
    && lastErrorCode.isSome

def groupInstants (rows : List Sample) : List ℤ :=
  (rows.map Sample.ts).dedup.insertionSort (· ≥ ·)

theorem mem_groupInstants {rows : List Sample} {ts : ℤ} :
    ts ∈ groupInstants rows ↔ ∃ row ∈ rows, row.ts = ts := by
  rw [groupInstants, List.mem_insertionSort, List.mem_dedup, List.mem_map]

def samplesOf (samples : List Sample) (metricId : MetricId) (dimensionKey : String)
    (windowStart windowEnd : ℤ) : List Sample :=
  samples.filter fun sample => sample.metricId = metricId && sample.labelsKey = dimensionKey
    && windowStart < sample.ts && sample.ts ≤ windowEnd

def samplesInRuleWindow (samples : List Sample) (metricId : MetricId) (dimensionKey : String)
    (windowStart windowEnd : ℤ) : List Point :=
  let rows := samplesOf samples metricId dimensionKey windowStart windowEnd
  (groupInstants rows).map fun ts =>
    { timestamp := ts, value := ((rows.filter fun row => row.ts = ts).map Sample.value).sum }

/-- The weights a sample is paired with: those of the weight metric for the same database and
labels at the same instant. -/
def weightsOf (samples : List Sample) (weightMetric : MetricId) (sample : Sample) : List Sample :=
  samples.filter fun weight => weight.metricId = weightMetric
    && weight.databaseName = sample.databaseName && weight.labelsKey = sample.labelsKey
    && weight.ts = sample.ts && 0 ≤ weight.value

def weightedSamplesInRuleWindow (samples : List Sample) (metricId weightMetric : MetricId)
    (dimensionKey : String) (windowStart windowEnd : ℤ) : List Point :=
  let rows := samplesOf samples metricId dimensionKey windowStart windowEnd
  (groupInstants rows).filterMap fun ts =>
    let pairs := (rows.filter fun row => row.ts = ts).flatMap fun row =>
      (weightsOf samples weightMetric row).map fun weight => (row.value, weight.value)
    let total := (pairs.map Prod.snd).sum
    if 0 < total then
      some { timestamp := ts, value := (pairs.map fun pair => pair.1 * pair.2).sum / total }
    else none

def ruleWindowPoints (samples : List Sample) (metricId : MetricId) (dimensionKey : String)
    (now window : ℤ) : List Point :=
  let windowStart := timestamptz (now - window)
  let windowEnd := timestamptz now
  match weightMetricFor metricId with
  | some weightMetric =>
    weightedSamplesInRuleWindow samples metricId weightMetric dimensionKey windowStart windowEnd
  | none => samplesInRuleWindow samples metricId dimensionKey windowStart windowEnd

def EvaluationTarget.evaluate (target : EvaluationTarget) (value : ℚ) : MetricEvaluation :=
  { outcome := DbsMonitor.evaluate value target.operator target.threshold
      target.recoveryOperator target.recoveryThreshold
    currentValue := some value
    unavailability := none }

def EvaluationTarget.window (target : EvaluationTarget) : ℤ := target.windowSeconds * second

def evaluateSamples (target : EvaluationTarget) (samples : List Sample) (dimensionKey : String)
    (now : ℤ) : Option MetricEvaluation :=
  let points := ruleWindowPoints samples target.metricId dimensionKey now target.window
  (aggregateWindow points now target.window target.aggregation).map target.evaluate

def evaluateMetric (target : EvaluationTarget) (source : SourceState) (agent : AgentFacts)
    (samples : List Sample) (dimensionKey : String) (now : ℤ) : MetricEvaluation :=
  if producerFor target.metricId = some .controlPlane then
    ((controlPlaneValue target.metricId source agent now).map target.evaluate).getD {}
  else if collectionFailureBlocksSamples target.metricId target.lastErrorCode then
    { unavailability := target.lastErrorCode.map .code }
  else (evaluateSamples target samples dimensionKey now).getD {}

end DbsMonitor
