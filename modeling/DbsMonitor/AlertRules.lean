import DbsMonitor.Accounts
import DbsMonitor.Builtins
import DbsMonitor.Catalog
import DbsMonitor.Notify

/-!
# The input of an alert rule

The checks of `validateAlertRule`, in the order of their errors, those of the references, and the
restrictions of a built-in rule. Aggregations, operators, severities, policies and scopes are
enumerations, so the checks that they are supported cannot fail. Thresholds are rationals.
-/

namespace DbsMonitor

abbrev RuleId := String

def trimSpace (text : String) : String :=
  String.ofList ((text.toList.dropWhile Accounts.isSpace).reverse.dropWhile
    Accounts.isSpace).reverse

def int32 (n : ℤ) : ℤ := n.bmod (2 ^ 32)

inductive RuleScope
  | all
  | instances
  deriving DecidableEq, Repr

inductive Alertability
  | yes
  | no
  | conditional
  deriving DecidableEq, Repr

structure RuleMetrics where
  alertability : MetricId → Option Alertability
  encodings : MetricId → Option (List ℚ)

structure AlertRuleInput where
  name : String
  metricId : MetricId
  aggregation : Aggregation
  operator : Operator
  threshold : ℚ
  recoveryOperator : Operator
  recoveryThreshold : Option ℚ
  windowSeconds : ℤ
  consecutiveCount : ℤ
  recoveryConsecutiveCount : Option ℤ
  severity : Severity
  noDataPolicy : NoDataPolicy
  scope : RuleScope
  instanceIds : List InstanceId
  evaluationIntervalSeconds : ℤ
  enabled : Bool
  notificationPolicyId : Option PolicyId
  deriving DecidableEq

def validHysteresis (operator : Operator) (threshold : ℚ) (recoveryOperator : Operator)
    (recoveryThreshold : ℚ) : Bool :=
  match operator with
  | .gt =>
    ((recoveryOperator = .lt || recoveryOperator = .le) && recoveryThreshold < threshold)
      || (recoveryOperator = .eq && recoveryThreshold = threshold)
  | .ge => (recoveryOperator = .lt || recoveryOperator = .le) && recoveryThreshold < threshold
  | .lt | .le => (recoveryOperator = .gt || recoveryOperator = .ge) && threshold < recoveryThreshold
  | .eq | .ne => operator ≠ recoveryOperator || threshold ≠ recoveryThreshold

def validCategoricalRecovery (encodings : List ℚ) (operator : Operator) (threshold : ℚ)
    (recoveryOperator : Operator) (recoveryThreshold : ℚ) : Bool :=
  let trigger value := compare value operator threshold
  let recovery value := compare value recoveryOperator recoveryThreshold
  !(encodings.any fun value => trigger value && recovery value)
    && encodings.any trigger && encodings.any recovery

def fieldErrorIf (fails : Bool) (field message : String) : List FieldError :=
  if fails then [{ field := field, message := message }] else []

theorem fieldErrorIf_eq_nil {fails : Bool} {field message : String}
    (h : fieldErrorIf fails field message = []) : fails = false := by
  cases fails with
  | false => rfl
  | true => cases h

def scopeErrors (rule : AlertRuleInput) : List FieldError :=
  match rule.scope with
  | .all => fieldErrorIf (rule.instanceIds ≠ []) "instance_ids" "must be empty for ALL scope"
  | .instances =>
    fieldErrorIf (rule.instanceIds = []) "instance_ids" "must contain at least one instance"
      ++ fieldErrorIf (¬rule.instanceIds.Nodup) "instance_ids" "must not contain duplicates"

def recoveryErrors (metrics : RuleMetrics) (rule : AlertRuleInput) : List FieldError :=
  match rule.recoveryThreshold with
  | none => [{ field := "recovery_threshold", message := "is required" }]
  | some recoveryThreshold =>
    if (metrics.alertability rule.metricId).isNone then []
    else
      match metrics.encodings rule.metricId with
      | none =>
        fieldErrorIf (!validHysteresis rule.operator rule.threshold rule.recoveryOperator
          recoveryThreshold) "recovery_threshold" "must define a separate recovery range"
      | some encodings =>
        fieldErrorIf (rule.aggregation ≠ .latest) "aggregation"
            "categorical metrics require latest aggregation"
          ++ fieldErrorIf (!validCategoricalRecovery encodings rule.operator rule.threshold
              rule.recoveryOperator recoveryThreshold) "recovery_threshold"
            "must define the opposite recovery state"

def validateAlertRule (metrics : RuleMetrics) (rule : AlertRuleInput) : List FieldError :=
  let definition := metrics.alertability rule.metricId
  fieldErrorIf (trimSpace rule.name = "") "name" "must not be blank"
    ++ fieldErrorIf (definition = none || definition = some .no) "metric_id"
      "must identify an alertable metric"
    ++ fieldErrorIf (rule.windowSeconds < 1) "window_seconds" "must be positive"
    ++ fieldErrorIf (rule.consecutiveCount < 1) "consecutive_count" "must be positive"
    ++ fieldErrorIf (rule.recoveryConsecutiveCount.any (· < 1)) "recovery_consecutive_count"
      "must be positive"
    ++ fieldErrorIf (rule.evaluationIntervalSeconds < 5) "evaluation_interval_seconds"
      "must be at least 5 seconds"
    ++ scopeErrors rule ++ recoveryErrors metrics rule

def recoveryConsecutiveCount (rule : AlertRuleInput) : ℤ :=
  rule.recoveryConsecutiveCount.getD rule.consecutiveCount

inductive BuiltinRuleError
  | deleteForbidden
  | disableForbidden
  | severityTooLow
  deriving DecidableEq, Repr

structure BuiltinRuleChange where
  delete : Bool := false
  enabled : Option Bool := none
  severity : Option Severity := none

def builtinRuleRestriction (isBuiltin : Bool) (change : BuiltinRuleChange) :
    Option BuiltinRuleError :=
  if !isBuiltin then none
  else if change.delete then some .deleteForbidden
  else if change.enabled = some false then some .disableForbidden
  else if change.severity = some .info then some .severityTooLow
  else none

structure RuleTemplate where
  identifier : String
  version : ℤ
  name : String
  metricId : MetricId
  aggregation : Aggregation
  operator : Operator
  threshold : ℚ
  recoveryOperator : Operator
  recoveryThreshold : ℚ
  windowSeconds : ℤ
  consecutiveCount : ℤ
  recoveryConsecutiveCount : ℤ
  severity : Severity
  noDataPolicy : NoDataPolicy
  evaluationIntervalSeconds : ℤ
  deriving DecidableEq

structure TemplateOverrides where
  name : Option String := none
  threshold : Option ℚ := none
  recoveryThreshold : Option ℚ := none
  consecutiveCount : Option ℤ := none
  recoveryConsecutiveCount : Option ℤ := none
  severity : Option Severity := none
  scope : Option RuleScope := none
  instanceIds : Option (List InstanceId) := none
  notificationPolicyId : Option PolicyId := none
  enabled : Option Bool := none
  deriving DecidableEq

def RuleTemplate.input (template : RuleTemplate) : AlertRuleInput :=
  { name := template.name, metricId := template.metricId, aggregation := template.aggregation
    operator := template.operator, threshold := template.threshold
    recoveryOperator := template.recoveryOperator
    recoveryThreshold := some template.recoveryThreshold, windowSeconds := template.windowSeconds
    consecutiveCount := template.consecutiveCount
    recoveryConsecutiveCount := some template.recoveryConsecutiveCount
    severity := template.severity, noDataPolicy := template.noDataPolicy, scope := .all
    instanceIds := [], evaluationIntervalSeconds := template.evaluationIntervalSeconds
    enabled := true, notificationPolicyId := none }

def applyTemplateOverrides (input : AlertRuleInput) (overrides : TemplateOverrides) :
    AlertRuleInput :=
  { input with
    name := overrides.name.getD input.name
    threshold := overrides.threshold.getD input.threshold
    recoveryThreshold := overrides.recoveryThreshold <|> input.recoveryThreshold
    consecutiveCount := overrides.consecutiveCount.getD input.consecutiveCount
    recoveryConsecutiveCount :=
      overrides.recoveryConsecutiveCount <|> input.recoveryConsecutiveCount
    severity := overrides.severity.getD input.severity
    scope := overrides.scope.getD input.scope
    instanceIds := overrides.instanceIds.getD input.instanceIds
    notificationPolicyId := overrides.notificationPolicyId <|> input.notificationPolicyId
    enabled := overrides.enabled.getD input.enabled }

end DbsMonitor
