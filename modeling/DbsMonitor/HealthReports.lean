import DbsMonitor.PlatformHealth

/-!
# The published health of the platform

A call of `Update` or `PublishSummary` holds the lock while it assembles the snapshot. It tells
others afterwards, from copies of the snapshots before and after, in any order with the sections of
other calls. The certificate is the one fact that ages.
-/

namespace DbsMonitor.PlatformHealth

structure Fact extends SourceSnapshot where
  expiresAt : Option ℤ := none
  validityDaysRemaining : Option ℤ := none
  deriving DecidableEq

def sourceOrder : List Source :=
  [.serverProcess, .platformDatabase, .collectionScheduler, .partitionMaintenance,
    .tlsCertificate, .agentIngress, .disk, .credentialKeyring, .platformDatabaseCapacity]

def aggregateStatusLoop : Status → List Status → Status
  | result, [] => result
  | _, .failed :: _ => .failed
  | _, .unknown :: statuses => aggregateStatusLoop .unknown statuses
  | result, .degraded :: statuses =>
    aggregateStatusLoop (if result = .ok then .degraded else result) statuses
  | result, .ok :: statuses => aggregateStatusLoop result statuses

def aggregateStatus (statuses : List Status) : Status :=
  if statuses.isEmpty then .unknown else aggregateStatusLoop .ok statuses

def nanosecondsOfDay : ℤ := 24 * 60 * 60 * 1000000000

def durationBetween (later earlier : ℤ) : ℤ :=
  max (-9223372036854775808) (min 9223372036854775807 (later - earlier))

def certificateSource (now : ℤ) (expiresAt : Option ℤ) : Fact :=
  match expiresAt with
  | none =>
    { source := .tlsCertificate, status := .degraded, code := "CERTIFICATE_UNAVAILABLE" }
  | some expires =>
    -- rounded up to whole days
    let daysRemaining := max 0 (-(-durationBetween expires now / nanosecondsOfDay))
    let statusAndCode : Status × String :=
      if expires ≤ now then (.degraded, "CERTIFICATE_EXPIRED")
      else if expires ≤ now + 30 * nanosecondsOfDay then (.degraded, "CERTIFICATE_EXPIRING")
      else (.ok, "CERTIFICATE_VALID")
    { source := .tlsCertificate, status := statusAndCode.1, code := statusAndCode.2
      expiresAt := some expires, validityDaysRemaining := some daysRemaining }

structure Facts where
  fact : Source → Fact
  source_fact : ∀ source, (fact source).source = source

namespace Facts

def initial : Facts where
  fact source :=
    match source with
    | .serverProcess =>
      { source := .serverProcess, status := .ok, code := "SERVER_PROCESS_RUNNING" }
    | source => { source := source, status := .unknown, code := "FACT_UNAVAILABLE" }
  source_fact source := by cases source <;> rfl

def set (facts : Facts) (fact : Fact) : Facts where
  fact := Function.update facts.fact fact.source fact
  source_fact source := by
    by_cases h : source = fact.source
    · subst h
      simp
    · rw [Function.update_of_ne h]
      exact facts.source_fact source

end Facts

structure Snapshot where
  status : Status
  sources : List Fact
  assembledAt : ℤ
  deriving DecidableEq

def Facts.refreshed (facts : Facts) (now : ℤ) : Facts :=
  if (facts.fact .tlsCertificate).expiresAt.isSome then
    facts.set (certificateSource now (facts.fact .tlsCertificate).expiresAt)
  else facts

def Facts.snapshot (facts : Facts) (now : ℤ) : Snapshot where
  status := aggregateStatus (sourceOrder.map fun source => (facts.fact source).status)
  sources := sourceOrder.map facts.fact
  assembledAt := now

structure SourceChange where
  source : Source
  previousStatus : Option Status
  status : Status
  code : String
  validityDaysRemaining : Option ℤ
  deriving DecidableEq

structure ChangeEvent where
  assembledAt : ℤ
  previousStatus : Status
  status : Status
  changes : List SourceChange
  deriving DecidableEq

structure FailureFact where
  source : Source
  code : String
  observedAt : ℤ
  deriving DecidableEq

inductive Output
  | change (event : ChangeEvent)
  | failure (fact : FailureFact)
  | summary (snapshot : Snapshot)
  deriving DecidableEq

def Snapshot.bySource (snapshot : Snapshot) (source : Source) : Option Fact :=
  (snapshot.sources.filter fun fact => fact.source = source).getLast?

def changedSources (previous current : Snapshot) : List SourceChange :=
  current.sources.filterMap fun fact =>
    let before := previous.bySource fact.source
    if before.map (·.status) = some fact.status ∧ before.map (·.code) = some fact.code then none
    else
      some
        { source := fact.source
          previousStatus := before.map (·.status)
          status := fact.status
          code := fact.code
          validityDaysRemaining := fact.validityDaysRemaining }

def writeChangeEvent (previous current : Snapshot) : List Output :=
  let changes := changedSources previous current
  if changes.isEmpty then []
  else
    [.change
      { assembledAt := current.assembledAt
        previousStatus := previous.status
        status := current.status
        changes := changes }]

def observeNewFailures (observer : Bool) (previous current : Snapshot) : List Output :=
  if observer then
    (current.sources.filter fun fact =>
      fact.status = .failed ∧ (previous.bySource fact.source).map (·.status) ≠ some .failed).map
      fun fact =>
        .failure { source := fact.source, code := fact.code, observedAt := current.assembledAt }
  else []

structure HealthService where
  facts : Facts
  snapshot : Snapshot
  failureObserver : Bool
  calls : List (List Output)
  /-- What has been done, in order: lines of the journal and calls of the observer. -/
  outputs : List Output

inductive HealthCall
  | update (now : ℤ) (fact : Fact)
  | publishSummary (now : ℤ)
  | setFailureObserver (present : Bool)
  | proceed (call : ℕ)

namespace HealthService

def new (startedAt : ℤ) : HealthService where
  facts := Facts.initial.refreshed startedAt
  snapshot := (Facts.initial.refreshed startedAt).snapshot startedAt
  failureObserver := false
  calls := []
  outputs := []

variable (service : HealthService)

/-- The part under the lock: the snapshot is assembled, and the call goes on with copies of both. -/
def assemble (facts : Facts) (now : ℤ) (after : Snapshot → List Output) : HealthService :=
  let current := (facts.refreshed now).snapshot now
  { service with
    facts := facts.refreshed now
    snapshot := current
    calls := service.calls ++
      [writeChangeEvent service.snapshot current
        ++ observeNewFailures service.failureObserver service.snapshot current
        ++ after current] }

def update (now : ℤ) (fact : Fact) : HealthService :=
  service.assemble (service.facts.set fact) now fun _ => []

def publishSummary (now : ℤ) : HealthService :=
  service.assemble service.facts now fun snapshot => [.summary snapshot]

def proceed (call : ℕ) : Option HealthService :=
  match service.calls[call]? with
  | some (output :: rest) =>
    some
      { service with
        calls := service.calls.set call rest, outputs := service.outputs ++ [output] }
  | _ => none

def step : HealthCall → Option HealthService
  | .update now fact => some (service.update now fact)
  | .publishSummary now => some (service.publishSummary now)
  | .setFailureObserver present => some { service with failureObserver := present }
  | .proceed call => service.proceed call

end HealthService

end DbsMonitor.PlatformHealth
