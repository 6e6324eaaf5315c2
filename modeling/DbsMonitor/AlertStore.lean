import Mathlib.Data.List.MinMax
import Mathlib.Data.Prod.Lex
import DbsMonitor.Evaluator

/-!
# Alerts and their evaluation

The rows of `alert_instance` with the events, trigger snapshots and performance events that refer to
them, the statements that write them, and `evaluateRule`. Between its read and its writes other
transactions may commit. Identifiers are numbers, given out in order.
-/

namespace DbsMonitor

abbrev AlertId := ℕ

inductive Severity
  | critical
  | warning
  | info
  deriving DecidableEq, Repr

inductive NoDataPolicy
  | ignore
  | markNoData
  deriving DecidableEq, Repr

/-- What an alert is about: the columns of `alert_instance_unresolved_dedup_idx`. -/
structure AlertKey where
  ruleId : String
  instanceId : InstanceId
  metricDimensionKey : String
  deriving DecidableEq, Repr

inductive Disposition
  | none
  | acked
  | ignored
  deriving DecidableEq, Repr

structure DispositionColumns where
  disposition : Disposition := .none
  dispositionBy : Option String := none
  dispositionAt : Option ℤ := none
  dispositionNote : Option String := none
  ignoreReasonCode : Option String := none
  ignoreReasonDetail : Option String := none
  deriving DecidableEq, Repr

structure AlertColumns where
  metricId : MetricId
  status : AlertState
  ruleVersion : ℕ
  severity : Severity
  currentValue : Option ℚ
  ruleSnapshot : String
  breachCount : ℕ
  recoveryCount : ℕ
  noDataCount : ℕ
  stateBeforeNoData : Option AlertState
  unavailability : Option Unavailability
  updatedAt : ℤ
  inMaintenance : Bool
  maintenanceWindowId : Option String
  deriving DecidableEq

structure AlertRow extends AlertColumns where
  key : AlertKey
  firstTriggeredAt : Option ℤ := none
  firstRuleVersion : Option ℕ := none
  firstRuleSnapshot : Option String := none
  recoveredAt : Option ℤ := none
  dispositions : DispositionColumns := {}
  deriving DecidableEq

def AlertRow.unresolved (row : AlertRow) : Bool := row.status ≠ .recovered

structure DispositionEvent where
  actedAt : ℤ
  fromDisposition : Disposition
  toDisposition : Disposition
  dispositionNote : Option String
  ignoreReasonCode : Option String
  ignoreReasonDetail : Option String
  deriving DecidableEq, Repr

structure AlertEvent where
  alertInstanceId : AlertId
  ruleId : String
  ruleVersion : ℕ
  kind : EventKind
  fromState : AlertState
  toState : AlertState
  currentValue : Option ℚ
  unavailability : Option Unavailability
  ruleSnapshot : String
  evaluatedAt : ℤ
  triggerSnapshotId : Option ℕ := none
  inMaintenance : Bool := false
  maintenanceWindowId : Option String := none
  actorId : Option String := none
  disposed : Option DispositionEvent := none
  deriving DecidableEq

def AlertEvent.isDisposition (event : AlertEvent) : Bool :=
  event.kind = .acked || event.kind = .ignored

def AlertEvent.actedAt (event : AlertEvent) : ℤ := (event.disposed.map (·.actedAt)).getD 0

structure AlertDispositionEvent extends DispositionEvent where
  kind : EventKind
  actorId : String
  ruleVersion : ℕ
  currentValue : Option ℚ
  ruleSnapshot : String
  evaluatedAt : ℤ
  deriving DecidableEq

/-- The columns of a disposition are not null: `alert_event_disposition_check`. -/
def AlertEvent.dispositionEvent (event : AlertEvent) : Option AlertDispositionEvent := do
  let disposed ← event.disposed
  let actorId ← event.actorId
  return { disposed with
    kind := event.kind, actorId := actorId, ruleVersion := event.ruleVersion
    currentValue := event.currentValue, ruleSnapshot := event.ruleSnapshot
    evaluatedAt := event.evaluatedAt }

structure AlertDispositionDetail extends DispositionColumns where
  stopsRepeatNotifications : Bool
  excludedFromHealthRollup : Bool
  history : List AlertDispositionEvent

def AlertRow.event (row : AlertRow) (id : AlertId) (kind : EventKind) (toState : AlertState)
    (evaluatedAt : ℤ) : AlertEvent :=
  { alertInstanceId := id, ruleId := row.key.ruleId, ruleVersion := row.ruleVersion, kind := kind
    fromState := row.status, toState := toState, currentValue := row.currentValue
    unavailability := row.unavailability, ruleSnapshot := row.ruleSnapshot
    evaluatedAt := evaluatedAt }

/-- `triggerSnapshotCapture` without the sessions: what became of reading the monitored
instance. -/
structure TriggerSnapshotCapture where
  succeeded : Bool
  failureReason : Option String
  originalMatchCount : ℕ
  truncated : Bool
  deriving DecidableEq, Repr

structure TriggerSnapshot where
  alertInstanceId : AlertId
  capturedAt : ℤ
  capture : TriggerSnapshotCapture
  deriving DecidableEq, Repr

structure PerformanceEvent where
  alertInstanceId : AlertId
  eventType : PerformanceEventType
  derivedAt : ℤ
  deriving DecidableEq, Repr

structure AlertStore where
  alerts : AList fun _ : AlertId => AlertRow := ∅
  nextId : AlertId := 0
  events : List AlertEvent := []
  triggerSnapshots : List TriggerSnapshot := []
  performanceEvents : List PerformanceEvent := []

namespace AlertStore

variable (s : AlertStore)

def updateAlert (id : AlertId) (f : AlertRow → AlertRow) : AlertStore :=
  match s.alerts.lookup id with
  | none => s
  | some row => { s with alerts := s.alerts.insert id (f row) }

def createAlertEvent (event : AlertEvent) : AlertStore :=
  { s with events := s.events ++ [event] }

def unresolvedAlert (key : AlertKey) : Option AlertId :=
  (s.alerts.entries.find? fun entry => entry.2.key = key && entry.2.unresolved).map Sigma.fst

structure SaveAlertSnapshotParams extends AlertColumns where
  key : AlertKey
  firstTriggeredAt : Option ℤ
  firstRuleVersion : Option ℕ
  firstRuleSnapshot : Option String
  recoveredAt : Option ℤ

/-- A new alert, or the columns of the unresolved one; the first trigger stays. -/
def saveAlertSnapshot (p : SaveAlertSnapshotParams) : AlertStore × AlertId :=
  match s.unresolvedAlert p.key with
  | some id =>
    (s.updateAlert id fun row =>
      { row with
        toAlertColumns := p.toAlertColumns
        firstTriggeredAt := row.firstTriggeredAt.or p.firstTriggeredAt
        firstRuleVersion := row.firstRuleVersion.or p.firstRuleVersion
        firstRuleSnapshot := row.firstRuleSnapshot.or p.firstRuleSnapshot
        recoveredAt := p.recoveredAt }, id)
  | none =>
    ({ s with
        alerts := s.alerts.insert s.nextId
          { toAlertColumns := p.toAlertColumns, key := p.key
            firstTriggeredAt := p.firstTriggeredAt, firstRuleVersion := p.firstRuleVersion
            firstRuleSnapshot := p.firstRuleSnapshot, recoveredAt := p.recoveredAt }
        nextId := s.nextId + 1 }, s.nextId)

/-- `none` when no unresolved alert has the identifier, or the instant is null. -/
def recoverAlertSnapshot (id : Option AlertId) (columns : AlertColumns)
    (recoveredAt : Option ℤ) : Option (AlertStore × AlertId) := do
  let id ← id
  let row ← s.alerts.lookup id
  let recoveredAt ← recoveredAt
  guard row.unresolved
  return (s.updateAlert id fun row =>
    { row with
      toAlertColumns :=
        { columns with
          status := .recovered
          stateBeforeNoData := none
          unavailability := none
          updatedAt := recoveredAt }
      recoveredAt := some recoveredAt }, id)

def resetIgnoredMissingAlert (id : AlertId) (columns : AlertColumns) : AlertStore :=
  s.updateAlert id fun row =>
    if row.unresolved then
      { row with
        ruleVersion := columns.ruleVersion
        severity := columns.severity
        ruleSnapshot := columns.ruleSnapshot
        breachCount := columns.breachCount
        recoveryCount := columns.recoveryCount
        noDataCount := columns.noDataCount
        updatedAt := columns.updatedAt
        inMaintenance := columns.inMaintenance
        maintenanceWindowId := columns.maintenanceWindowId }
    else row

def createTriggerSnapshot (snapshot : TriggerSnapshot) : Option (AlertStore × ℕ) :=
  if s.triggerSnapshots.any (·.alertInstanceId = snapshot.alertInstanceId) then none
  else some ({ s with triggerSnapshots := s.triggerSnapshots ++ [snapshot] },
    s.triggerSnapshots.length)

def createPerformanceEvent (event : PerformanceEvent) : AlertStore :=
  if s.performanceEvents.any (·.alertInstanceId = event.alertInstanceId) then s
  else { s with performanceEvents := s.performanceEvents ++ [event] }

def recordMaintenanceSuppressed (id : AlertId) (windowId : Option String) (evaluatedAt : ℤ) :
    AlertStore :=
  match s.alerts.lookup id with
  | none => s
  | some row =>
    (s.updateAlert id fun row =>
      { row with inMaintenance := true, maintenanceWindowId := windowId }).createAlertEvent
      { row.event id .maintenanceSuppressed row.status (timestamptz evaluatedAt) with
        inMaintenance := true
        maintenanceWindowId := windowId }

/-- `UpdateAlertDisposition`, with the columns of a validated request; `none` when it is
refused. -/
def updateAlertDisposition (id : AlertId) (columns : DispositionColumns) (actorId : String)
    (actedAt : ℤ) : Option AlertStore := do
  guard (columns.disposition ≠ .none)
  let current ← s.alerts.lookup id
  guard current.unresolved
  let columns :=
    { columns with dispositionBy := some actorId, dispositionAt := some (timestamptz actedAt) }
  let kind := if columns.disposition = .ignored then EventKind.ignored else .acked
  return (s.updateAlert id fun row => { row with dispositions := columns }).createAlertEvent
    { current.event id kind current.status current.updatedAt with
      actorId := some actorId
      disposed := some
        { actedAt := timestamptz actedAt
          fromDisposition := current.dispositions.disposition
          toDisposition := columns.disposition
          dispositionNote := columns.dispositionNote
          ignoreReasonCode := columns.ignoreReasonCode
          ignoreReasonDetail := columns.ignoreReasonDetail } }

def listAlertDispositionEvents (id : AlertId) : List AlertEvent :=
  (s.events.filter fun event => event.alertInstanceId = id && event.isDisposition).insertionSort
    fun event event' => event.actedAt ≤ event'.actedAt

def loadAlertDispositionDetail (id : AlertId) (row : AlertRow) : AlertDispositionDetail :=
  { row.dispositions with
    stopsRepeatNotifications := row.dispositions.disposition = .acked
    excludedFromHealthRollup := row.dispositions.disposition = .ignored
    history := (s.listAlertDispositionEvents id).filterMap AlertEvent.dispositionEvent }

def getAlertDisposition (id : AlertId) : Option AlertDispositionDetail :=
  (s.alerts.lookup id).map (s.loadAlertDispositionDetail id)

def unresolvedOfInstance (instanceId : InstanceId) : List AlertId :=
  (s.alerts.entries.filter fun entry =>
    entry.2.key.instanceId = instanceId && entry.2.unresolved).map Sigma.fst

def closeAlert (removedAt : ℤ) (actorId : String) (s : AlertStore) (id : AlertId) : AlertStore :=
  match s.alerts.lookup id with
  | none => s
  | some row =>
    (s.updateAlert id fun row =>
      { row with
        status := .recovered
        stateBeforeNoData := none
        unavailability := none
        updatedAt := timestamptz removedAt
        recoveredAt := some (timestamptz removedAt) }).createAlertEvent
      { row.event id .instanceRemoved .recovered (timestamptz removedAt) with
        actorId := some actorId }

def closeAlertsForInstanceRemoval (instanceId : InstanceId) (removedAt : ℤ) (actorId : String) :
    AlertStore :=
  (s.unresolvedOfInstance instanceId).foldl (closeAlert removedAt actorId) s

end AlertStore

structure EvaluationAlert where
  alertInstanceId : AlertId
  status : AlertState
  evaluatedRuleVersion : ℕ
  breachCount : ℕ
  recoveryCount : ℕ
  noDataCount : ℕ
  stateBeforeNoData : Option AlertState
  deriving DecidableEq, Repr

structure EvaluationRule where
  metricId : MetricId
  consecutiveCount : ℕ
  recoveryConsecutiveCount : ℕ
  severity : Severity
  noDataPolicy : NoDataPolicy
  version : ℕ
  ruleSnapshot : String
  lastErrorCode : Option ErrorCode
  agentMetricsEnabled : Bool
  agentExpected : Bool

structure EvaluationTargetRow where
  key : AlertKey
  rule : EvaluationRule
  alert : Option EvaluationAlert

def AlertStore.candidate (s : AlertStore) (key : AlertKey) : Option (AlertId × AlertRow) :=
  -- of the instances of this order, one that computes
  letI : Preorder (Bool ×ₗ ℤ) := (Prod.Lex.instLinearOrder Bool ℤ).toPreorder
  ((s.alerts.entries.map fun entry => (entry.1, entry.2)).filter fun entry =>
    entry.2.key = key).argmax fun entry => toLex (entry.2.unresolved, entry.2.updatedAt)

def AlertStore.getEvaluationTarget (s : AlertStore) (key : AlertKey) (rule : EvaluationRule) :
    EvaluationTargetRow :=
  { key := key, rule := rule
    alert := (s.candidate key).map fun (id, row) =>
      { alertInstanceId := id, status := row.status, evaluatedRuleVersion := row.ruleVersion
        breachCount := row.breachCount, recoveryCount := row.recoveryCount
        noDataCount := row.noDataCount, stateBeforeNoData := row.stateBeforeNoData } }

def snapshotFromEvaluationTarget (target : EvaluationTargetRow) : Snapshot :=
  match target.alert with
  | none => { state := .ok }
  | some alert =>
    let same := alert.evaluatedRuleVersion = target.rule.version
    { state := alert.status
      stateBeforeNoData := alert.stateBeforeNoData.getD .empty
      breachCount := if same then alert.breachCount else 0
      recoveryCount := if same then alert.recoveryCount else 0
      noDataCount := if same then alert.noDataCount else 0 }

def structurallyNotApplicable (rule : EvaluationRule) : Bool :=
  if rule.lastErrorCode = some .notApplicableRole then true
  else if rule.agentMetricsEnabled && rule.agentExpected then false
  else if rule.metricId = "agent.status" then true
  else producerFor rule.metricId = some .agent

def startsFiringLifecycle (current next : Snapshot) : Bool :=
  current.state ≠ .firing
    && !(current.state = .noData && current.stateBeforeNoData = .firing)
    && next.state = .firing

/-- What an evaluation finds outside the alert tables: the result of `evaluateMetric`, the active
maintenance window, the sessions of the instance, and whether a notification policy applies. -/
structure Findings where
  metric : MetricEvaluation
  maintenance : Option String
  capture : TriggerSnapshotCapture
  enqueued : Bool

section EvaluateRule

variable (target : EvaluationTargetRow) (found : Findings) (now : ℤ) (current next : Snapshot)

def evaluationUnavailability : Option Unavailability :=
  if next.state ≠ .noData then none else found.metric.unavailability

def evaluationColumns : AlertColumns :=
  { metricId := target.rule.metricId, status := next.state, ruleVersion := target.rule.version
    severity := target.rule.severity, currentValue := found.metric.currentValue
    ruleSnapshot := target.rule.ruleSnapshot, breachCount := next.breachCount
    recoveryCount := next.recoveryCount, noDataCount := next.noDataCount
    stateBeforeNoData := if next.stateBeforeNoData ≠ .empty then some next.stateBeforeNoData
      else none
    unavailability := evaluationUnavailability found next, updatedAt := timestamptz now
    inMaintenance := found.maintenance.isSome, maintenanceWindowId := found.maintenance }

def saveEvaluation (s : AlertStore) : Option (AlertStore × AlertId) :=
  let columns := evaluationColumns target found now next
  let starts := startsFiringLifecycle current next
  let recoveredAt :=
    if current.state ≠ .recovered ∧ next.state = .recovered then some (timestamptz now) else none
  if next.state = .recovered then
    s.recoverAlertSnapshot (target.alert.map EvaluationAlert.alertInstanceId) columns recoveredAt
  else
    some (s.saveAlertSnapshot
      { toAlertColumns := columns, key := target.key
        firstTriggeredAt := if starts then some (timestamptz now) else none
        firstRuleVersion := if starts then some target.rule.version else none
        firstRuleSnapshot := if starts then some target.rule.ruleSnapshot else none
        recoveredAt := recoveredAt })

def saveTriggerSnapshot (s : AlertStore) (id : AlertId) : Option (AlertStore × Option ℕ) :=
  if (triggerSnapshotScopeForMetric target.rule.metricId).isSome then
    (s.createTriggerSnapshot { alertInstanceId := id, capturedAt := timestamptz now
                               capture := found.capture }).map fun (s, n) => (s, some n)
  else some (s, none)

def saveTrigger (s : AlertStore) (id : AlertId) : Option (AlertStore × Option ℕ) :=
  if !startsFiringLifecycle current next then some (s, none)
  else do
    let (s, snapshotId) ← saveTriggerSnapshot target found now s id
    match performanceEventTypeForMetric target.rule.metricId with
    | some eventType =>
      return (s.createPerformanceEvent { alertInstanceId := id, eventType := eventType
                                         derivedAt := timestamptz now }, snapshotId)
    | none => return (s, snapshotId)

/-- One turn of the loop over `StateEvents`: the event, and for a change of the firing state its
notifications, unless suppressed by maintenance. -/
def saveEvent (id : AlertId) (snapshotId : Option ℕ) (s : AlertStore) (kind : EventKind) :
    AlertStore :=
  if kind = .updated ∧ found.metric.currentValue = none then s
  else
    let s := s.createAlertEvent
      { alertInstanceId := id, ruleId := target.key.ruleId, ruleVersion := target.rule.version
        kind := kind, fromState := current.state, toState := next.state
        currentValue := found.metric.currentValue
        unavailability := evaluationUnavailability found next
        ruleSnapshot := target.rule.ruleSnapshot, evaluatedAt := timestamptz now
        triggerSnapshotId := if kind = .fired then snapshotId else none
        inMaintenance := found.maintenance.isSome, maintenanceWindowId := found.maintenance }
    if (kind = .fired ∨ kind = .recovered) ∧ found.maintenance.isSome ∧ found.enqueued then
      s.recordMaintenanceSuppressed id found.maintenance now
    else s

/-- An evaluation with something to write, in one transaction: `none` when a statement fails. -/
def writeEvaluation (s : AlertStore) : Option AlertStore := do
  let (s, id) ← saveEvaluation target found now current next s
  let (s, snapshotId) ← saveTrigger target found now current next s id
  return (stateEvents current.state next.state).foldl
    (saveEvent target found now current next id snapshotId) s

/-- Without a value, under a rule that ignores it: the counts of the alert start over. -/
def resetEvaluation (s : AlertStore) : AlertStore :=
  match target.alert with
  | none => s
  | some alert =>
    if current.state = .recovered then s
    else s.resetIgnoredMissingAlert alert.alertInstanceId
      (evaluationColumns target found now next)

def nextSnapshot (evaluation : Evaluation) : Snapshot :=
  (stepCollection (some current) evaluation false target.rule.consecutiveCount
    target.rule.recoveryConsecutiveCount).getD current

def evaluateRule (s : AlertStore) : Option AlertStore :=
  let current := snapshotFromEvaluationTarget target
  if structurallyNotApplicable target.rule then some s
  else if found.metric.outcome = .missing ∧ target.rule.noDataPolicy = .ignore then
    some (resetEvaluation target found now current (nextSnapshot target current .missingIgnored) s)
  else if current.state = .recovered ∧ found.metric.outcome ≠ .breaching then some s
  else
    writeEvaluation target found now current (nextSnapshot target current found.metric.outcome) s

end EvaluateRule

/-- `reading` is the target of the evaluation that is going on, as it was read. -/
structure Alerts where
  store : AlertStore := {}
  reading : Option EvaluationTargetRow := none
  removed : InstanceId → Bool := fun _ => false

namespace Alerts

inductive Action
  | read (key : AlertKey) (rule : EvaluationRule)
  | evaluate (found : Findings) (now : ℤ)
  | abandon
  | dispose (id : AlertId) (columns : DispositionColumns) (actorId : String) (actedAt : ℤ)
  | suppress (id : AlertId) (windowId : Option String) (evaluatedAt : ℤ)
  | remove (instanceId : InstanceId) (actorId : String) (removedAt : ℤ)

def step (s : Alerts) : Action → Option Alerts
  | .read key rule =>
    if s.reading.isSome || s.removed key.instanceId then none
    else some { s with reading := some (s.store.getEvaluationTarget key rule) }
  | .evaluate found now => do
    let target ← s.reading
    let store ← evaluateRule target found now s.store
    return { s with store := store, reading := none }
  | .abandon => some { s with reading := none }
  | .dispose id columns actorId actedAt => do
    let store ← s.store.updateAlertDisposition id columns actorId actedAt
    return { s with store := store }
  | .suppress id windowId evaluatedAt =>
    some { s with store := s.store.recordMaintenanceSuppressed id windowId evaluatedAt }
  | .remove instanceId actorId removedAt =>
    if s.removed instanceId || s.reading.any (·.key.instanceId = instanceId) then none
    else some { s with
      store := s.store.closeAlertsForInstanceRemoval instanceId removedAt actorId
      removed := Function.update s.removed instanceId true }

end Alerts

end DbsMonitor
