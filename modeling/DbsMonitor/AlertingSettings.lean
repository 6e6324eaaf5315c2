import DbsMonitor.AlertRules
import DbsMonitor.Machine

/-!
# Alert rules, notification policies and their seeds

A request is one transaction: it leaves the tables as its handler does, or fails and leaves them
unchanged. Times and actors are left out; of the channels only what a policy refers to is here.
-/

namespace DbsMonitor

structure AlertRuleRow where
  id : RuleId
  name : String
  metricId : MetricId
  aggregation : Aggregation
  operator : Operator
  threshold : ℚ
  recoveryOperator : Operator
  recoveryThreshold : ℚ
  windowSeconds : ℤ
  consecutiveCount : ℤ
  recoveryConsecutiveCount : ℤ
  severity : Severity
  noDataPolicy : NoDataPolicy
  enabled : Bool
  version : ℕ
  scope : RuleScope := .all
  instanceIds : List InstanceId := []
  evaluationIntervalSeconds : ℤ
  builtinIdentifier : Option String := none
  notificationPolicyId : Option PolicyId := none
  sourceTemplate : Option (String × ℤ) := none
  deleted : Bool := false
  deriving DecidableEq

def AlertRuleRow.checked (row : AlertRuleRow) : Bool :=
  row.name ≠ "" && 0 < row.windowSeconds && 0 < row.consecutiveCount
    && 0 < row.recoveryConsecutiveCount && 5 ≤ row.evaluationIntervalSeconds

structure AlertRuleVersion where
  ruleId : RuleId
  version : ℕ
  snapshot : AlertRuleRow
  effectiveNotificationPolicyName : String
  deriving DecidableEq

def AlertRuleVersion.key (row : AlertRuleVersion) : RuleId × ℕ := (row.ruleId, row.version)

structure NotificationPolicyRow where
  id : PolicyId
  identifier : String
  name : String
  isDefault : Bool
  severityFilter : List Severity := [.critical, .warning, .info]
  notifyOnFire : Bool := true
  notifyOnRecovery : Bool := true
  repeatInterval : ℤ := 3600
  templateId : Option String := none
  contactIds : List ContactId := []
  contactGroupIds : List ContactGroupId := []
  deriving DecidableEq

def NotificationPolicyRow.checked (row : NotificationPolicyRow) : Bool :=
  row.name ≠ "" && row.severityFilter ≠ [] && 1 ≤ row.repeatInterval && row.repeatInterval ≤ 86400

structure AlertingTables where
  rules : List AlertRuleRow := []
  versions : List AlertRuleVersion := []
  templates : List RuleTemplate := []
  policies : List NotificationPolicyRow := []
  policyChannels : List (PolicyId × PolicyChannel) := []
  smtp : Option SMTPChannel := none
  webhooks : List (WebhookId × WebhookTarget) := []
  deriving DecidableEq

structure AlertingConfig where
  metrics : RuleMetrics
  dictionary : Dictionary
  quote : String → String
  instances : InstanceId → Option (String × Engine)
  contacts : List ContactId
  contactGroups : List ContactGroupId
  notificationRepeatMinimum : ℤ
  templates : List RuleTemplate

inductive EditError
  | validationFailed (message : String) (fieldErrors : List FieldError := [])
  | builtinRule (error : BuiltinRuleError) (message : String)
  | notFound (message : String)
  | conflict (message : String)
  | noRows
  | database
  deriving DecidableEq

namespace AlertingTables

variable (config : AlertingConfig) (tables : AlertingTables)

def getAlertRule (id : RuleId) : Option AlertRuleRow :=
  tables.rules.find? fun row => row.id = id && !row.deleted

def getNotificationPolicy (id : PolicyId) : Option NotificationPolicyRow :=
  tables.policies.find? fun row => row.id = id

def getDefaultNotificationPolicy : Option NotificationPolicyRow :=
  tables.policies.find? NotificationPolicyRow.isDefault

def validateAlertRuleReferences (rule : AlertRuleInput) : List FieldError :=
  let unknown : Option FieldError := rule.instanceIds.findSome? fun id =>
    match config.instances id with
    | none => some { field := "instance_ids", message := "contains an unknown instance" }
    | some (name, engine) =>
      alertRuleScopeEngineError config.dictionary config.quote rule.metricId name engine
  if rule.scope = .instances ∧ unknown.isSome then unknown.toList
  else if rule.notificationPolicyId.any fun id => (tables.getNotificationPolicy id).isNone then
    [{ field := "notification_policy_id"
       message := "must identify an existing notification policy" }]
  else []

def effectiveNotificationPolicyName (row : AlertRuleRow) : Option String :=
  match row.notificationPolicyId with
  | some id => (tables.getNotificationPolicy id).map NotificationPolicyRow.name
  | none => tables.getDefaultNotificationPolicy.map fun policy => policy.name ++ "（继承）"

def saveAlertRuleVersion (row : AlertRuleRow) : Except EditError AlertingTables :=
  match tables.effectiveNotificationPolicyName row with
  | none => .error .noRows
  | some name =>
    if (row.id, row.version) ∈ tables.versions.map AlertRuleVersion.key then .error .database
    else .ok { tables with versions := tables.versions ++
      [{ ruleId := row.id, version := row.version, snapshot := row
         effectiveNotificationPolicyName := name }] }

def withInput (row : AlertRuleRow) (input : AlertRuleInput) : AlertRuleRow :=
  { row with
    name := trimSpace input.name, metricId := input.metricId, aggregation := input.aggregation
    operator := input.operator, threshold := input.threshold
    recoveryOperator := input.recoveryOperator
    recoveryThreshold := input.recoveryThreshold.getD 0
    windowSeconds := int32 input.windowSeconds, consecutiveCount := int32 input.consecutiveCount
    recoveryConsecutiveCount := int32 (recoveryConsecutiveCount input)
    severity := input.severity, noDataPolicy := input.noDataPolicy, scope := input.scope
    instanceIds := input.instanceIds
    evaluationIntervalSeconds := int32 input.evaluationIntervalSeconds
    notificationPolicyId := input.notificationPolicyId }

def createdRule (id : RuleId) (input : AlertRuleInput) (sourceTemplate : Option (String × ℤ)) :
    AlertRuleRow :=
  withInput
    { id := id, name := "", metricId := "", aggregation := .latest, operator := .gt, threshold := 0
      recoveryOperator := .lt, recoveryThreshold := 0, windowSeconds := 0, consecutiveCount := 0
      recoveryConsecutiveCount := 0, severity := .info, noDataPolicy := .ignore
      enabled := input.enabled, version := 1, evaluationIntervalSeconds := 0
      sourceTemplate := sourceTemplate } input

def createAlertRule (id : RuleId) (input : AlertRuleInput)
    (sourceTemplate : Option (String × ℤ) := none) : Except EditError AlertingTables :=
  let fieldErrors := validateAlertRule config.metrics input
  let references := tables.validateAlertRuleReferences config input
  let row := createdRule id input sourceTemplate
  if fieldErrors ≠ [] then .error (.validationFailed "alert rule validation failed" fieldErrors)
  else if references ≠ [] then .error (.validationFailed "alert rule validation failed" references)
  else if id ∈ tables.rules.map AlertRuleRow.id ∨ row.checked = false then .error .database
  else { tables with rules := tables.rules ++ [row] }.saveAlertRuleVersion row

def createAlertRuleFromTemplate (id : RuleId) (templateId : String)
    (overrides : TemplateOverrides) : Except EditError AlertingTables :=
  match tables.templates.find? fun template => template.identifier = templateId with
  | none => .error (.notFound "alert rule template not found")
  | some template =>
    tables.createAlertRule config id (applyTemplateOverrides template.input overrides)
      (some (template.identifier, template.version))

def copyInput (row : AlertRuleRow) (name : Option String) : AlertRuleInput :=
  { name := name.getD (row.name ++ " 副本"), metricId := row.metricId
    aggregation := row.aggregation, operator := row.operator, threshold := row.threshold
    recoveryOperator := row.recoveryOperator, recoveryThreshold := some row.recoveryThreshold
    windowSeconds := row.windowSeconds, consecutiveCount := row.consecutiveCount
    recoveryConsecutiveCount := some row.recoveryConsecutiveCount, severity := row.severity
    noDataPolicy := row.noDataPolicy, scope := row.scope, instanceIds := row.instanceIds
    evaluationIntervalSeconds := row.evaluationIntervalSeconds, enabled := row.enabled
    notificationPolicyId := row.notificationPolicyId }

def copyAlertRule (newId id : RuleId) (name : Option String) : Except EditError AlertingTables :=
  match tables.getAlertRule id with
  | none => .error (.notFound "alert rule not found")
  | some row => tables.createAlertRule config newId (copyInput row name)

def updateRule (id : RuleId) (f : AlertRuleRow → AlertRuleRow) : AlertingTables :=
  { tables with rules := tables.rules.map fun row =>
      if row.id = id && !row.deleted then f row else row }

def updateError (existing : AlertRuleRow) (input : AlertRuleInput) : Option EditError :=
  let isBuiltin := existing.builtinIdentifier.isSome
  let references := tables.validateAlertRuleReferences config input
  let invalid errors := EditError.validationFailed "alert rule validation failed" errors
  if input.enabled ≠ existing.enabled then
    some (invalid [{ field := "enabled"
                     message := "must be changed through the enablement endpoint" }])
  else if let some error := builtinRuleRestriction isBuiltin { severity := input.severity } then
    some (.builtinRule error "built-in collection rules must remain warning or critical")
  else if isBuiltin ∧ input.metricId ≠ existing.metricId then
    some (invalid [{ field := "metric_id", message := "cannot be changed for a built-in rule" }])
  else if isBuiltin ∧ input.scope ≠ .all then
    some (invalid [{ field := "scope", message := "must remain ALL for a built-in rule" }])
  else if references ≠ [] then some (invalid references)
  else none

def updatedRule (input : AlertRuleInput) (row : AlertRuleRow) : AlertRuleRow :=
  { withInput row input with version := row.version + 1 }

def updateAlertRule (id : RuleId) (input : AlertRuleInput) : Except EditError AlertingTables :=
  let fieldErrors := validateAlertRule config.metrics input
  if fieldErrors ≠ [] then .error (.validationFailed "alert rule validation failed" fieldErrors)
  else
    match tables.getAlertRule id with
    | none => .error (.notFound "alert rule not found")
    | some existing =>
      match tables.updateError config existing input with
      | some error => .error error
      | none =>
        let row := updatedRule input existing
        if row.checked = false then .error .database
        else
          match (tables.updateRule id (updatedRule input)).saveAlertRuleVersion row with
          -- it is the policy that is not found
          | .error .noRows => .error (.notFound "alert rule not found")
          | result => result

def updateAlertRuleEnabled (id : RuleId) (enabled : Bool) : Except EditError AlertingTables :=
  match tables.getAlertRule id with
  | none => .error (.notFound "alert rule not found")
  | some existing =>
    if let some error := builtinRuleRestriction existing.builtinIdentifier.isSome
        { enabled := some enabled } then
      .error (.builtinRule error "built-in collection rules cannot be disabled")
    else .ok (tables.updateRule id fun row => { row with enabled := enabled })

def deleteAlertRule (id : RuleId) : Except EditError AlertingTables :=
  match tables.getAlertRule id with
  | none => .error (.notFound "alert rule not found")
  | some existing =>
    if let some error := builtinRuleRestriction existing.builtinIdentifier.isSome
        { delete := true } then
      .error (.builtinRule error "built-in collection rules cannot be deleted")
    else .ok (tables.updateRule id fun row =>
      if row.builtinIdentifier.isNone then { row with enabled := false, deleted := true } else row)

end AlertingTables

structure NotificationPolicyInput where
  name : String
  contactIds : List ContactId
  contactGroupIds : List ContactGroupId
  channels : List PolicyChannel
  severityFilter : List Severity
  notifyOnFire : Bool
  notifyOnRecovery : Bool
  repeatInterval : ℤ
  templateId : Option String
  deriving DecidableEq

def maximumNotificationRepeatIntervalSeconds : ℤ := 86400

/-- The checks of `notificationPolicyValues`; the values are those of the input, trimmed. -/
def AlertingConfig.validPolicy (config : AlertingConfig) (input : NotificationPolicyInput) : Bool :=
  config.notificationRepeatMinimum ≤ input.repeatInterval
    && input.repeatInterval ≤ maximumNotificationRepeatIntervalSeconds
    && trimSpace input.name ≠ "" && input.contactIds.Nodup && input.contactGroupIds.Nodup
    && input.severityFilter ≠ [] && input.severityFilter.Nodup
    && input.channels ≠ [] && input.channels.Nodup
    && input.templateId.all fun templateId => trimSpace templateId ≠ ""

namespace AlertingTables

variable (config : AlertingConfig) (tables : AlertingTables)

def notificationPolicyReferencesExist (input : NotificationPolicyInput) : Bool :=
  input.contactIds.all (· ∈ config.contacts)
    && input.contactGroupIds.all (· ∈ config.contactGroups)
    && input.channels.all fun channel =>
      match channel with
      | .smtp => true
      | .webhook targetId => targetId ∈ tables.webhooks.map Prod.fst

def withPolicyInput (row : NotificationPolicyRow) (input : NotificationPolicyInput) :
    NotificationPolicyRow :=
  { row with
    name := trimSpace input.name, severityFilter := input.severityFilter
    notifyOnFire := input.notifyOnFire, notifyOnRecovery := input.notifyOnRecovery
    repeatInterval := int32 input.repeatInterval, templateId := input.templateId.map trimSpace
    contactIds := input.contactIds, contactGroupIds := input.contactGroupIds }

def replaceNotificationPolicyChannels (id : PolicyId) (channels : List PolicyChannel) :
    AlertingTables :=
  { tables with policyChannels :=
      (tables.policyChannels.filter fun channel => channel.1 ≠ id)
        ++ channels.map fun channel => (id, channel) }

def checkPolicy (input : NotificationPolicyInput) : Except EditError Unit :=
  if config.validPolicy input = false then
    .error (.validationFailed
      "valid policy recipients, channels, severity filter, and repeat interval are required")
  else if tables.notificationPolicyReferencesExist config input = false then
    .error (.validationFailed "policy contains an unknown contact, group, or Webhook target")
  else .ok ()

def createNotificationPolicy (id : PolicyId) (input : NotificationPolicyInput) :
    Except EditError AlertingTables := do
  tables.checkPolicy config input
  let row := withPolicyInput { id := id, identifier := id, name := "", isDefault := false } input
  if tables.policies.any (fun policy => policy.id = id || policy.identifier = id)
      ∨ row.checked = false then .error .database
  else .ok ({ tables with
    policies := tables.policies ++ [row] }.replaceNotificationPolicyChannels id input.channels)

def updateNotificationPolicy (id : PolicyId) (input : NotificationPolicyInput) :
    Except EditError AlertingTables := do
  tables.checkPolicy config input
  match tables.getNotificationPolicy id with
  | none => .error (.notFound "notification policy not found")
  | some existing =>
    if (withPolicyInput existing input).checked then
      let policies := tables.policies.map fun row =>
        if row.id = id then withPolicyInput row input else row
      .ok ({ tables with policies := policies }.replaceNotificationPolicyChannels id input.channels)
    else .error .database

/-- A rule that refers to the policy, deleted or not, restricts its deletion. -/
def deleteNotificationPolicy (id : PolicyId) : Except EditError AlertingTables :=
  match tables.getNotificationPolicy id with
  | none => .error (.notFound "notification policy not found")
  | some policy =>
    if policy.isDefault then .error (.conflict "the default notification policy cannot be deleted")
    else if tables.rules.any fun rule => rule.notificationPolicyId = some id then .error .database
    else .ok { tables with
      policies := tables.policies.filter fun row => row.id ≠ id || row.isDefault
      policyChannels := tables.policyChannels.filter fun channel => channel.1 ≠ id }

def createWebhookTarget (id : WebhookId) (target : WebhookTarget) :
    Except EditError AlertingTables :=
  if id ∈ tables.webhooks.map Prod.fst then .error .database
  else .ok { tables with webhooks := tables.webhooks ++ [(id, target)] }

def updateWebhookTarget (id : WebhookId) (target : WebhookTarget) :
    Except EditError AlertingTables :=
  if id ∈ tables.webhooks.map Prod.fst then
    .ok { tables with webhooks := tables.webhooks.map fun row =>
      if row.1 = id then (id, target) else row }
  else .error (.notFound "Webhook target not found")

def deleteWebhookTarget (id : WebhookId) : Except EditError AlertingTables :=
  if id ∈ tables.webhooks.map Prod.fst then
    .ok { tables with
      webhooks := tables.webhooks.filter fun row => row.1 ≠ id
      policyChannels := tables.policyChannels.filter fun channel => channel.2 ≠ .webhook id }
  else .error (.notFound "Webhook target not found")

end AlertingTables

def defaultNotificationPolicyId : PolicyId := "00000000-0000-0000-0000-000000063000"
def defaultNotificationPolicyIdentifier : String := "default"
def defaultNotificationPolicyName : String := "默认策略"

def BuiltinRule.row (rule : BuiltinRule) : AlertRuleRow :=
  { id := rule.id, name := rule.name, metricId := rule.metricId, aggregation := rule.aggregation
    operator := rule.operator, threshold := rule.threshold
    recoveryOperator := rule.recoveryOperator, recoveryThreshold := rule.recoveryThreshold
    windowSeconds := rule.windowSeconds, consecutiveCount := rule.consecutiveCount
    recoveryConsecutiveCount := rule.recoveryConsecutiveCount, severity := rule.severity
    noDataPolicy := rule.noDataPolicy, enabled := rule.enabled, version := 1
    evaluationIntervalSeconds := rule.evaluationIntervalSeconds
    builtinIdentifier := some rule.identifier }

namespace AlertingTables

/-- `ON CONFLICT DO NOTHING`, on the key, the identifier and the index of the default policy. -/
def seedDefaultPolicy (tables : AlertingTables) : AlertingTables :=
  if tables.policies.any fun row => row.id = defaultNotificationPolicyId
      || row.identifier = defaultNotificationPolicyIdentifier || row.isDefault then tables
  else { tables with policies := tables.policies ++
    [{ id := defaultNotificationPolicyId, identifier := defaultNotificationPolicyIdentifier
       name := defaultNotificationPolicyName, isDefault := true }] }

/-- `ON CONFLICT DO NOTHING`, on `notification_policy_smtp_channel_idx`. -/
def insertSMTPChannel (channels : List (PolicyId × PolicyChannel)) (id : PolicyId) :
    List (PolicyId × PolicyChannel) :=
  if (id, .smtp) ∈ channels then channels else channels ++ [(id, .smtp)]

def seedDefaultPolicyChannel (tables : AlertingTables) : AlertingTables :=
  let selected := (tables.policies.filter NotificationPolicyRow.isDefault).map
    NotificationPolicyRow.id
  { tables with policyChannels := selected.foldl insertSMTPChannel tables.policyChannels }

def seedRule (tables : AlertingTables) (rule : BuiltinRule) : AlertingTables :=
  if tables.rules.any fun row => row.id = rule.id || row.builtinIdentifier = some rule.identifier
  then tables
  else { tables with rules := tables.rules ++ [rule.row] }

def seedRuleVersion (defaultPolicyName : String) (tables : AlertingTables) (rule : BuiltinRule) :
    AlertingTables :=
  match tables.rules.find? fun row => row.id = rule.id with
  | none => tables
  | some row =>
    if (row.id, row.version) ∈ tables.versions.map AlertRuleVersion.key then tables
    else { tables with versions := tables.versions ++
      [{ ruleId := row.id, version := row.version, snapshot := { row with instanceIds := [] }
         effectiveNotificationPolicyName := defaultPolicyName ++ "（继承）" }] }

end AlertingTables

inductive AlertingSeedError
  | readDefaultNotificationPolicy
  deriving DecidableEq, Repr

def AlertingSeedError.message : AlertingSeedError → String
  | .readDefaultNotificationPolicy => "read default notification policy"

def reconcileAlertingSeeds (templates : List RuleTemplate) (tables : AlertingTables) :
    Except AlertingSeedError AlertingTables :=
  let tables := tables.seedDefaultPolicy.seedDefaultPolicyChannel
  match tables.getDefaultNotificationPolicy with
  | none => .error .readDefaultNotificationPolicy
  | some policy =>
    let tables := builtinCollectionRules.foldl
      (fun tables rule => (tables.seedRule rule).seedRuleVersion policy.name rule) tables
    .ok { tables with templates := templates }

inductive AlertingEdit
  | createAlertRule (id : RuleId) (input : AlertRuleInput)
  | createAlertRuleFromTemplate (id : RuleId) (templateId : String) (overrides : TemplateOverrides)
  | copyAlertRule (newId id : RuleId) (name : Option String)
  | updateAlertRule (id : RuleId) (input : AlertRuleInput)
  | updateAlertRuleEnabled (id : RuleId) (enabled : Bool)
  | deleteAlertRule (id : RuleId)
  | createNotificationPolicy (id : PolicyId) (input : NotificationPolicyInput)
  | updateNotificationPolicy (id : PolicyId) (input : NotificationPolicyInput)
  | deleteNotificationPolicy (id : PolicyId)
  | updateSMTPChannel (channel : SMTPChannel)
  | createWebhookTarget (id : WebhookId) (target : WebhookTarget)
  | updateWebhookTarget (id : WebhookId) (target : WebhookTarget)
  | deleteWebhookTarget (id : WebhookId)
  deriving DecidableEq

inductive EditSubject
  | rule (id : RuleId)
  | policy (id : PolicyId)
  | policyChannels (id : PolicyId)
  deriving DecidableEq, Repr

namespace AlertingEdit

def subjects : AlertingEdit → List EditSubject
  | .createAlertRule id _ | .createAlertRuleFromTemplate id _ _ | .copyAlertRule id _ _
  | .updateAlertRule id _ | .updateAlertRuleEnabled id _ | .deleteAlertRule id => [.rule id]
  | .createNotificationPolicy id _ | .updateNotificationPolicy id _
  | .deleteNotificationPolicy id => [.policy id, .policyChannels id]
  | .updateSMTPChannel _ | .createWebhookTarget _ _ | .updateWebhookTarget _ _
  | .deleteWebhookTarget _ => []

def perform (config : AlertingConfig) (tables : AlertingTables) :
    AlertingEdit → Except EditError AlertingTables
  | .createAlertRule id input => tables.createAlertRule config id input
  | .createAlertRuleFromTemplate id templateId overrides =>
    tables.createAlertRuleFromTemplate config id templateId overrides
  | .copyAlertRule newId id name => tables.copyAlertRule config newId id name
  | .updateAlertRule id input => tables.updateAlertRule config id input
  | .updateAlertRuleEnabled id enabled => tables.updateAlertRuleEnabled id enabled
  | .deleteAlertRule id => tables.deleteAlertRule id
  | .createNotificationPolicy id input => tables.createNotificationPolicy config id input
  | .updateNotificationPolicy id input => tables.updateNotificationPolicy config id input
  | .deleteNotificationPolicy id => tables.deleteNotificationPolicy id
  | .updateSMTPChannel channel => .ok { tables with smtp := some channel }
  | .createWebhookTarget id target => tables.createWebhookTarget id target
  | .updateWebhookTarget id target => tables.updateWebhookTarget id target
  | .deleteWebhookTarget id => tables.deleteWebhookTarget id

end AlertingEdit

structure AlertingPlatform where
  tables : AlertingTables
  edited : List EditSubject := []
  deriving DecidableEq

inductive PlatformAction
  | edit (edit : AlertingEdit)
  | restart
  deriving DecidableEq

namespace AlertingPlatform

/-- A request that is refused, and a start that fails, leave the tables as they are. -/
def step (config : AlertingConfig) (s : AlertingPlatform) :
    PlatformAction → Option AlertingPlatform
  | .edit edit =>
    match edit.perform config s.tables with
    | .ok tables => some { tables := tables, edited := edit.subjects ++ s.edited }
    | .error _ => some s
  | .restart =>
    match reconcileAlertingSeeds config.templates s.tables with
    | .ok tables => some { s with tables := tables }
    | .error _ => some s

/-- What the migrations leave in an empty database: the rule of migration 5 and its version. -/
def migratedTables : AlertingTables :=
  let rule : AlertRuleRow :=
    { id := "00000000-0000-0000-0000-000000000061", name := "PostgreSQL connection total"
      metricId := "pg.connection.total", aggregation := .latest, operator := .ge, threshold := 20
      recoveryOperator := .lt, recoveryThreshold := 15, windowSeconds := 5, consecutiveCount := 2
      recoveryConsecutiveCount := 2, severity := .critical, noDataPolicy := .markNoData
      enabled := true, version := 1, evaluationIntervalSeconds := 5 }
  { rules := [rule]
    versions := [{ ruleId := rule.id, version := 1, snapshot := rule
                   effectiveNotificationPolicyName := "" }] }

end AlertingPlatform

end DbsMonitor
