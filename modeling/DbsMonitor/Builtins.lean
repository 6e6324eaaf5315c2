import DbsMonitor.AlertStore

/-!
# The built-in rules

The three rules that every platform has from its first start on, and what the evaluator reads of
such a rule and of an instance.
-/

namespace DbsMonitor

structure BuiltinRule where
  id : String
  identifier : String
  name : String
  metricId : MetricId
  aggregation : Aggregation
  operator : Operator
  threshold : ℚ
  recoveryOperator : Operator
  recoveryThreshold : ℚ
  windowSeconds : ℕ
  windowSeconds_pos : 0 < windowSeconds
  consecutiveCount : ℕ
  recoveryConsecutiveCount : ℕ
  severity : Severity
  noDataPolicy : NoDataPolicy
  evaluationIntervalSeconds : ℕ
  enabled : Bool

namespace BuiltinRule

def databaseUnreachable : BuiltinRule :=
  { id := "00000000-0000-0000-0000-000000063001", identifier := "database_unreachable"
    name := "数据库不可达", metricId := "pg.availability.reachable", aggregation := .latest
    operator := .eq, threshold := 0, recoveryOperator := .eq, recoveryThreshold := 1
    windowSeconds := 30, windowSeconds_pos := by decide, consecutiveCount := 3
    recoveryConsecutiveCount := 3, severity := .critical, noDataPolicy := .markNoData
    evaluationIntervalSeconds := 30, enabled := true }

def agentOffline : BuiltinRule :=
  { id := "00000000-0000-0000-0000-000000063002", identifier := "agent_offline"
    name := "Agent 离线", metricId := "agent.status", aggregation := .latest
    operator := .eq, threshold := 0, recoveryOperator := .eq, recoveryThreshold := 1
    windowSeconds := 30, windowSeconds_pos := by decide, consecutiveCount := 3
    recoveryConsecutiveCount := 3, severity := .critical, noDataPolicy := .markNoData
    evaluationIntervalSeconds := 30, enabled := true }

def dataStale : BuiltinRule :=
  { id := "00000000-0000-0000-0000-000000063003", identifier := "data_stale"
    name := "数据过期", metricId := "collector.last_success_time", aggregation := .latest
    operator := .gt, threshold := 600, recoveryOperator := .lt, recoveryThreshold := 450
    windowSeconds := 60, windowSeconds_pos := by decide, consecutiveCount := 2
    recoveryConsecutiveCount := 2, severity := .warning, noDataPolicy := .markNoData
    evaluationIntervalSeconds := 60, enabled := true }

variable (rule : BuiltinRule) (lastErrorCode : Option ErrorCode)

def target : EvaluationTarget :=
  { metricId := rule.metricId, aggregation := rule.aggregation, operator := rule.operator
    threshold := rule.threshold, recoveryOperator := rule.recoveryOperator
    recoveryThreshold := rule.recoveryThreshold, windowSeconds := rule.windowSeconds
    windowSeconds_pos := rule.windowSeconds_pos, lastErrorCode := lastErrorCode }

end BuiltinRule

def builtinCollectionRules : List BuiltinRule :=
  [.databaseUnreachable, .agentOffline, .dataStale]

end DbsMonitor
