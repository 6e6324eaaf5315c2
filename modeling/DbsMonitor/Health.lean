import DbsMonitor.AlertStore

/-!
# The health of an instance

`RollupInstanceHealth` turns the alerts of an instance into its status, its counts, its flags and
the one alert that the status is attributed to. The capabilities it lacks by configuration are
counted from the last capability snapshot, if that is fresh and complete.
-/

namespace DbsMonitor

def recentRecoveryWindow : ℤ := 24 * 60 * minute

inductive HealthStatus
  | critical
  | warning
  | unknown
  | healthy
  | paused
  deriving DecidableEq, Repr

inductive HealthAlertExclusion
  | included
  | structurallyNotApplicable
  | configurationMissing
  deriving DecidableEq, Repr

structure HealthAlert where
  ruleName : String
  severity : Severity
  state : AlertState
  firstTriggeredAt : ℤ
  currentValue : Option ℚ
  recoveredAt : Option ℤ
  ignored : Bool
  exclusion : HealthAlertExclusion := .included
  deriving DecidableEq

structure HealthRollupInput where
  paused : Bool
  everCollected : Bool
  inMaintenance : Bool
  configurationMissing : ℕ
  now : ℤ
  alerts : List HealthAlert

structure HealthAttribution where
  ruleName : String
  currentValue : Option ℚ
  deriving DecidableEq

structure HealthAlertCounts where
  critical : ℕ := 0
  warning : ℕ := 0
  info : ℕ := 0
  deriving DecidableEq, Repr

structure HealthFlags where
  noData : Bool := false
  inMaintenance : Bool := false
  recentlyRecovered : Bool := false
  ignored : ℕ := 0
  configurationMissing : ℕ := 0
  deriving DecidableEq, Repr

structure HealthRollup where
  status : HealthStatus
  attribution : Option HealthAttribution
  counts : HealthAlertCounts
  flags : HealthFlags
  deriving DecidableEq

def recoveredRecently (recoveredAt : Option ℤ) (now : ℤ) : Bool :=
  recoveredAt.any fun recovered => now - recentRecoveryWindow ≤ recovered && recovered ≤ now

def severityRank : Severity → ℕ
  | .critical => 3
  | .warning => 2
  | .info => 1

def hasHigherAttributionPriority (candidate current : HealthAlert) : Bool :=
  if severityRank candidate.severity ≠ severityRank current.severity then
    severityRank current.severity < severityRank candidate.severity
  else candidate.firstTriggeredAt < current.firstTriggeredAt

def HealthAlertCounts.add (counts : HealthAlertCounts) : Severity → HealthAlertCounts
  | .critical => { counts with critical := counts.critical + 1 }
  | .warning => { counts with warning := counts.warning + 1 }
  | .info => { counts with info := counts.info + 1 }

structure RollupState where
  counts : HealthAlertCounts := {}
  flags : HealthFlags
  attributed : Option HealthAlert := none

def RollupState.add (now : ℤ) (acc : RollupState) (alert : HealthAlert) : RollupState :=
  if alert.exclusion ≠ .included then acc
  else if alert.state = .recovered then
    if recoveredRecently alert.recoveredAt now then { acc with flags.recentlyRecovered := true }
    else acc
  else if alert.state ≠ .firing ∧ alert.state ≠ .noData then acc
  else
    let acc := if alert.state = .noData then { acc with flags.noData := true } else acc
    if alert.ignored then { acc with flags.ignored := acc.flags.ignored + 1 }
    else
      { acc with
        counts := acc.counts.add alert.severity
        attributed :=
          if acc.attributed.all (hasHigherAttributionPriority alert) then some alert
          else acc.attributed }

def HealthRollupInput.loop (input : HealthRollupInput) : RollupState :=
  input.alerts.foldl (RollupState.add input.now)
    { flags := { inMaintenance := input.inMaintenance
                 configurationMissing := input.configurationMissing } }

def rollupInstanceHealth (input : HealthRollupInput) : HealthRollup :=
  let acc := input.loop
  { status :=
      if input.paused then .paused
      else if 0 < acc.counts.critical then .critical
      else if 0 < acc.counts.warning then .warning
      else if !input.everCollected then .unknown
      else .healthy
    attribution := acc.attributed.map fun alert =>
      { ruleName := alert.ruleName, currentValue := alert.currentValue }
    counts := acc.counts
    flags := acc.flags }

def zeroTime : ℤ := -62135596800 * second

def capabilitySnapshotTTL : ℤ := 5 * minute

inductive CapabilityClass
  | fixable
  | structural
  deriving DecidableEq, Repr

namespace CapabilityId

def text : CapabilityId → String
  | rolePgMonitor => "role.pg_monitor"
  | extensionPgStatStatements => "ext.pg_stat_statements"
  | topologyHasReplication => "topo.has_replication"
  | topologyHasSlot => "topo.has_slot"

def kind : CapabilityId → CapabilityClass
  | rolePgMonitor | extensionPgStatStatements => .fixable
  | topologyHasReplication | topologyHasSlot => .structural

end CapabilityId

def capabilities : List CapabilityId :=
  [.rolePgMonitor, .extensionPgStatStatements, .topologyHasReplication, .topologyHasSlot]

def CapabilityStatus.ofText : String → Option CapabilityStatus
  | "PRESENT" => some .present
  | "MISSING" => some .missing
  | "NOT_APPLICABLE" => some .notApplicable
  | "UNKNOWN" => some .unknown
  | _ => none

/-- A member of a JSON object, as decoding it into a string tells them apart. -/
inductive JsonMember
  | text (value : String)
  | null
  | other
  deriving DecidableEq, Repr

/-- A row of `instance_capability_snapshot`. The column admits only an object, and `jsonb` keeps
one member of a name. -/
structure CapabilitySnapshot where
  observedAt : ℤ
  states : List (String × JsonMember)
  names_nodup : (states.map Prod.fst).Nodup

def decodeCapabilitySnapshot (states : List (String × JsonMember)) :
    Option (List (String × String)) :=
  states.mapM fun (name, member) =>
    match member with
    | .text value => some (name, value)
    | .null => some (name, "")
    | .other => none

def capabilityState (states : List (String × String)) (capability : CapabilityId) :
    Option CapabilityStatus :=
  (states.lookup capability.text).bind CapabilityStatus.ofText

def completeCapabilitySnapshot (states : List (String × String)) : Bool :=
  states.length = capabilities.length
    && capabilities.all fun capability => (capabilityState states capability).isSome

def projectCapabilitySnapshot (states : List (String × String)) (observedAt now : ℤ)
    (capability : CapabilityId) : CapabilityStatus :=
  if observedAt = zeroTime ∨ capabilitySnapshotTTL < now - observedAt
      ∨ completeCapabilitySnapshot states = false then .unknown
  else (capabilityState states capability).getD .unknown

def configurationMissingCount (snapshot : Option CapabilitySnapshot) (now : ℤ) : Option ℕ :=
  match snapshot with
  | none => some 0
  | some snapshot =>
    (decodeCapabilitySnapshot snapshot.states).map fun states =>
      capabilities.countP fun capability => capability.kind = .fixable
        && projectCapabilitySnapshot states snapshot.observedAt now capability = .missing

end DbsMonitor
