import DbsMonitor.CollectionPause
import DbsMonitor.Health
import DbsMonitor.Notify

/-!
# The list of instances and the view of one

`ListInstances` and the overview of the fleet read all instances with their alerts and project the
health of each; `GetInstance` reads one, and it looks up whether a maintenance window is in effect.
The rows of the tables are those of one instant.
-/

namespace DbsMonitor

structure InstanceRow where
  name : String
  engine : String
  host : String
  port : ℤ
  databaseName : Option String
  username : String
  agentVersion : Option String
  agentExpected : Bool
  deriving DecidableEq

structure CollectionConfig where
  agentMetricsEnabled : Bool
  collectionPaused : Bool
  pause : PauseColumns := {}
  deriving DecidableEq

structure CollectStateRow where
  lastSuccessAt : Option ℤ := none
  lastReportAt : Option ℤ := none
  lastErrorCode : Option String := none
  deriving DecidableEq, Repr

structure HealthTables where
  instances : AList fun _ : InstanceId => InstanceRow
  configs : InstanceId → Option CollectionConfig := fun _ => none
  serverStates : InstanceId → Option CollectStateRow := fun _ => none
  agentStates : InstanceId → Option CollectStateRow := fun _ => none
  capabilities : InstanceId → Option CapabilitySnapshot := fun _ => none
  alerts : AlertStore := {}
  ruleNames : String → Option String := fun _ => none
  windows : List MaintenanceWindow := []

/-- A row of `ListInstances` and of `GetInstance`, which select the same columns. -/
structure InstanceQueryRow extends InstanceRow, CollectionConfig where
  id : InstanceId
  collectorLastSuccessAt : Option ℤ
  agentLastReportAt : Option ℤ
  agentLastErrorCode : Option String
  capability : Option CapabilitySnapshot

structure HealthAlertRow where
  alertId : AlertId
  instanceId : InstanceId
  status : AlertState
  severity : Severity
  currentValue : Option ℚ
  firstTriggeredAt : ℤ
  recoveredAt : Option ℤ
  disposition : Disposition
  ruleName : String
  deriving DecidableEq

def HealthAlertRow.le (row row' : HealthAlertRow) : Prop :=
  row.instanceId < row'.instanceId ∨ row.instanceId = row'.instanceId
    ∧ (row.firstTriggeredAt < row'.firstTriggeredAt
      ∨ row.firstTriggeredAt = row'.firstTriggeredAt ∧ row.alertId ≤ row'.alertId)

instance : DecidableRel HealthAlertRow.le := fun _ _ => inferInstanceAs (Decidable (_ ∨ _))

namespace HealthTables

variable (tables : HealthTables)

def joined (id : InstanceId) (row : InstanceRow) : Option InstanceQueryRow :=
  (tables.configs id).map fun config =>
    { row, config with
      id := id
      collectorLastSuccessAt := (tables.serverStates id).bind CollectStateRow.lastSuccessAt
      agentLastReportAt := (tables.agentStates id).bind CollectStateRow.lastReportAt
      agentLastErrorCode := (tables.agentStates id).bind CollectStateRow.lastErrorCode
      capability := tables.capabilities id }

def listInstances : List InstanceQueryRow :=
  (tables.instances.entries.filterMap fun entry => tables.joined entry.1 entry.2).insertionSort
    fun row row' => row.name < row'.name ∨ row.name = row'.name ∧ row.id ≤ row'.id

def getInstance (id : InstanceId) : Option InstanceQueryRow :=
  (tables.instances.lookup id).bind (tables.joined id)

def healthAlert (id : AlertId) (alert : AlertRow) : Option HealthAlertRow :=
  (tables.ruleNames alert.key.ruleId).map fun ruleName =>
    { alertId := id, instanceId := alert.key.instanceId, status := alert.status
      severity := alert.severity, currentValue := alert.currentValue
      firstTriggeredAt := alert.firstTriggeredAt.getD alert.updatedAt
      recoveredAt := alert.recoveredAt, disposition := alert.dispositions.disposition
      ruleName := ruleName }

def listInstanceHealthAlerts (recoveredSince : ℤ) : List HealthAlertRow :=
  ((tables.alerts.alerts.entries.filterMap fun entry => tables.healthAlert entry.1 entry.2).filter
    fun row => row.status ≠ .recovered || row.recoveredAt.any (recoveredSince ≤ ·)).insertionSort
      HealthAlertRow.le

def loadInstanceHealthAlerts (now : ℤ) (id : InstanceId) : List HealthAlertRow :=
  (tables.listInstanceHealthAlerts (timestamptz (now - recentRecoveryWindow))).filter
    fun row => row.instanceId = id

end HealthTables

structure InstanceHealthProjectionInput where
  paused : Bool
  collectorLastSuccessAt : Option ℤ
  agentExpected : Bool
  agentLastReportAt : Option ℤ
  agentLastErrorCode : Option String
  capability : Option CapabilitySnapshot
  alerts : List HealthAlertRow := []
  inMaintenance : Bool := false
  now : ℤ

/-- `agentStatus` is the number that `AgentStatusEncodings` gives to the status. -/
structure InstanceHealthProjection where
  health : HealthRollup
  alertStatus : AlertState
  agentStatus : ℚ
  lastCollectedAt : Option ℤ
  dataFreshnessSeconds : Option ℤ
  deriving DecidableEq

def toHealthAlert (row : HealthAlertRow) : HealthAlert :=
  { ruleName := row.ruleName, severity := row.severity, state := row.status
    firstTriggeredAt := row.firstTriggeredAt, currentValue := row.currentValue
    recoveredAt := row.recoveredAt, ignored := row.disposition = .ignored }

def alertStateRank : AlertState → ℕ
  | .firing => 5
  | .noData => 4
  | .pending => 3
  | .recovered => 2
  | .ok | .empty => 1

def legacyAlertStatus (rows : List HealthAlertRow) : AlertState :=
  rows.foldl (fun status row =>
    if alertStateRank status < alertStateRank row.status then row.status else status) .ok

def projectInstanceHealth (input : InstanceHealthProjectionInput) :
    Option InstanceHealthProjection :=
  (configurationMissingCount input.capability input.now).map fun configurationMissing =>
    { health := rollupInstanceHealth
        { paused := input.paused
          everCollected := input.collectorLastSuccessAt.isSome
          inMaintenance := input.inMaintenance
          configurationMissing := configurationMissing
          now := input.now
          alerts := input.alerts.map toHealthAlert }
      alertStatus := legacyAlertStatus input.alerts
      agentStatus := agentStatusAt
        { expected := input.agentExpected
          lastReportAt := input.agentLastReportAt.filter (· ≠ zeroTime)
          lastErrorCode := input.agentLastErrorCode.filter (· ≠ "") } input.now
      lastCollectedAt := input.collectorLastSuccessAt
      dataFreshnessSeconds := input.collectorLastSuccessAt.map fun collected =>
        max 0 ((input.now - collected).tdiv second) }

structure CollectionPauseStatus extends PauseColumns where
  paused : Bool
  deriving DecidableEq

structure ApiInstance extends InstanceHealthProjection where
  id : InstanceId
  name : String
  engine : String
  host : String
  port : ℤ
  database : String
  username : String
  agentVersion : Option String
  agentMetricsEnabled : Bool
  collectionPause : CollectionPauseStatus
  deriving DecidableEq

def toAPIInstance (row : InstanceQueryRow) (projection : InstanceHealthProjection) : ApiInstance :=
  { projection with
    id := row.id
    name := row.name
    engine := row.engine
    host := row.host
    port := row.port
    database := row.databaseName.getD ""
    username := row.username
    agentVersion := row.agentVersion
    agentMetricsEnabled := row.agentMetricsEnabled
    collectionPause := { row.pause with paused := row.collectionPaused } }

def InstanceQueryRow.projectionInput (row : InstanceQueryRow) (now : ℤ) :
    InstanceHealthProjectionInput :=
  { paused := row.collectionPaused
    collectorLastSuccessAt := row.collectorLastSuccessAt
    agentExpected := row.agentExpected
    agentLastReportAt := row.agentLastReportAt
    agentLastErrorCode := row.agentLastErrorCode
    capability := row.capability
    now := now }

namespace HealthTables

variable (tables : HealthTables) (now : ℤ)

def listedInstance (row : InstanceQueryRow) : Option ApiInstance :=
  (projectInstanceHealth
    { row.projectionInput now with alerts := tables.loadInstanceHealthAlerts now row.id }).map
      (toAPIInstance row)

def listInstancesWithHealth : Option (List ApiInstance) :=
  tables.listInstances.mapM (tables.listedInstance now)

def loadInstanceHealthProjection (id : InstanceId) (input : InstanceHealthProjectionInput) :
    Option InstanceHealthProjection :=
  projectInstanceHealth
    { input with
      alerts := tables.loadInstanceHealthAlerts now id
      inMaintenance := (findActiveMaintenanceWindow tables.windows id now).isSome
      now := now }

def getInstanceWithHealth (id : InstanceId) : Option ApiInstance :=
  (tables.getInstance id).bind fun row =>
    (tables.loadInstanceHealthProjection now row.id (row.projectionInput now)).map
      (toAPIInstance row)

end HealthTables

inductive InstanceFlag
  | noData
  | maintenance
  | recentlyRecovered
  | ignored
  | configurationMissing
  | staleData
  | agentOffline
  deriving DecidableEq, Repr

def staleDataAfterSeconds : ℤ := 600

def instanceDataIsStale (item : ApiInstance) : Bool :=
  item.health.status ≠ .paused && item.dataFreshnessSeconds.all (staleDataAfterSeconds < ·)

def instanceHasFlag (item : ApiInstance) : InstanceFlag → Bool
  | .noData => item.health.flags.noData
  | .maintenance => item.health.flags.inMaintenance
  | .recentlyRecovered => item.health.flags.recentlyRecovered
  | .ignored => 0 < item.health.flags.ignored
  | .configurationMissing => 0 < item.health.flags.configurationMissing
  | .staleData => instanceDataIsStale item
  | .agentOffline => item.agentStatus = 0

def instanceHasSeverity (item : ApiInstance) : Severity → Bool
  | .critical => 0 < item.health.counts.critical
  | .warning => 0 < item.health.counts.warning
  | .info => 0 < item.health.counts.info

/-- The filter of a request. `search` is in lower case and without blanks around it. -/
structure InstanceListQuery where
  search : String := ""
  engines : List String := []
  statuses : List HealthStatus := []
  flags : List InstanceFlag := []
  severities : List Severity := []

section

variable (toLower : String → String)

def instanceMatchesSearch (item : ApiInstance) (search : String) : Bool :=
  let address := item.host ++ ":" ++ toString item.port
  search.toList <:+: (toLower item.name).toList || search.toList <:+: (toLower address).toList

def instanceMatches (item : ApiInstance) (query : InstanceListQuery) : Bool :=
  (query.search = "" || instanceMatchesSearch toLower item query.search)
    && (query.engines.isEmpty || query.engines.contains item.engine)
    && (query.statuses.isEmpty || query.statuses.contains item.health.status)
    && query.flags.all (instanceHasFlag item)
    && (query.severities.isEmpty || query.severities.any (instanceHasSeverity item))

end

end DbsMonitor
