import Mathlib.Data.List.AList
import DbsMonitor.Instance

/-!
# What a collection run writes

Every recording function of the collector is one transaction that first locks the instance row, so
each is a function of the state it finds, and a run of the collector is their sequence in commit
order. A transaction that finds collection paused writes nothing. Instants are `timestamptz`.
-/

namespace DbsMonitor

inductive TaskResult
  | success
  | failed
  | timedOut
  | skippedBackpressure
  | backoff
  deriving DecidableEq, Repr

inductive ErrorCode
  | connectionFailed
  | queryFailed
  | timeout
  | counterReset
  | platformDatabaseCapacityEmergency
  | permissionDenied
  | extensionMissing
  | featureDisabled
  | notApplicableRole
  | collectionFailed
  | dbUnreachable
  | success
  | failed
  | timedOut
  | skippedBackpressure
  | backoff
  deriving DecidableEq, Repr

def TaskResult.code : TaskResult → ErrorCode
  | .success => .success
  | .failed => .failed
  | .timedOut => .timedOut
  | .skippedBackpressure => .skippedBackpressure
  | .backoff => .backoff

def CapabilityBlockReason.code : CapabilityBlockReason → ErrorCode
  | .collectionFailed => .collectionFailed
  | .permissionDenied => .permissionDenied
  | .extensionMissing => .extensionMissing
  | .featureDisabled => .featureDisabled
  | .notApplicableRole => .notApplicableRole

def collectionErrorMessage : ErrorCode → String
  | .connectionFailed => "target connection failed"
  | .queryFailed => "collection query failed"
  | .timeout => "collection deadline exceeded"
  | .counterReset => "database statistics counters reset"
  | .platformDatabaseCapacityEmergency =>
    "sample writes rejected at platform database capacity emergency watermark"
  | .permissionDenied => "required database role is missing"
  | .extensionMissing => "required database extension is missing"
  | .featureDisabled => "required database feature is not enabled"
  | .notApplicableRole => "collection task does not apply to this database role or topology"
  | .skippedBackpressure => "collection skipped because scheduler capacity was unavailable"
  | .backoff => "collection deferred by failure backoff"
  | _ => "collection failed"

structure TaskKey where
  instanceId : InstanceId
  taskId : TaskId
  deriving DecidableEq, Repr

/-- A due obligation of one task of one instance. `startedAt` is `none` until it is executed. -/
@[ext]
structure ScheduledRun where
  dueAt : ℤ
  startedAt : Option ℤ
  target : TargetRow
  task : Task
  interval : ℤ
  interval_pos : 0 < interval

instance : DecidableEq ScheduledRun := fun _ _ => decidable_of_iff' _ ScheduledRun.ext_iff

def ScheduledRun.key (run : ScheduledRun) : TaskKey :=
  { instanceId := run.target.id, taskId := run.task.id }

structure TaskStateRow where
  lastDueAt : Option ℤ := none
  lastStartedAt : Option ℤ := none
  lastFinishedAt : Option ℤ := none
  lastSuccessAt : Option ℤ := none
  lastResult : Option TaskResult := none
  consecutiveFailures : ℕ := 0
  nextEligibleAt : Option ℤ := none
  lastErrorCode : Option ErrorCode := none
  lastErrorMessage : Option String := none
  deriving DecidableEq, Repr

structure ConnectionStateRow where
  consecutiveFailures : ℕ := 0
  nextEligibleAt : Option ℤ := none
  lastErrorCode : Option ErrorCode := none
  lastErrorMessage : Option String := none
  deriving DecidableEq, Repr

/-- The `SERVER_DIRECT` row of `instance_collect_state`; a missing row reads as nulls. -/
structure SourceState where
  lastSuccessAt : Option ℤ := none
  lastErrorCode : Option ErrorCode := none
  lastErrorMessage : Option String := none
  deriving DecidableEq, Repr

structure CollectedSample where
  metricId : MetricId
  value : ℚ
  databaseName : String := ""
  labelsKey : String := "\x7b\x7d"
  deriving DecidableEq

structure CollectedBatch where
  samples : List CollectedSample := []
  counterReset : Bool := false
  deriving DecidableEq

structure Sample where
  metricId : MetricId
  databaseName : String
  labelsKey : String
  ts : ℤ
  value : ℚ
  deriving DecidableEq

structure CollectStore where
  paused : Bool := false
  tasks : AList (fun _ : TaskId => TaskStateRow) := ∅
  connection : Option ConnectionStateRow := none
  source : SourceState := {}
  samples : List Sample := []

namespace TaskStateRow

variable (row : TaskStateRow) (run : ScheduledRun)

/-! The assignments of each recording function to the row of its task. -/

def started : TaskStateRow :=
  { row with
    lastDueAt := timestamptz run.dueAt
    lastStartedAt := run.startedAt.map timestamptz }

def unmet (result : TaskResult) (now : ℤ) (nextEligible : Option ℤ) : TaskStateRow :=
  { row with
    lastDueAt := timestamptz run.dueAt
    lastFinishedAt := timestamptz now
    lastResult := result
    nextEligibleAt := nextEligible
    lastErrorCode := result.code
    lastErrorMessage := collectionErrorMessage result.code }

def capabilityBlocked (reason : CapabilityBlockReason) (finished : ℤ) : TaskStateRow :=
  { row with
    lastDueAt := timestamptz run.dueAt
    lastFinishedAt := timestamptz finished
    lastResult := some .failed
    consecutiveFailures := 0
    nextEligibleAt := none
    lastErrorCode := reason.code
    lastErrorMessage := collectionErrorMessage reason.code }

def capabilityNotApplicable (reason : CapabilityBlockReason) (finished : ℤ) : TaskStateRow :=
  { row with
    lastDueAt := timestamptz run.dueAt
    lastFinishedAt := timestamptz finished
    lastSuccessAt := timestamptz finished
    lastResult := some .success
    consecutiveFailures := 0
    nextEligibleAt := none
    lastErrorCode := reason.code
    lastErrorMessage := collectionErrorMessage reason.code }

def failed (result : TaskResult) (code : ErrorCode) (failures : ℕ) (nextEligible : Option ℤ)
    (finished : ℤ) : TaskStateRow :=
  { row with
    lastDueAt := timestamptz run.dueAt
    lastStartedAt := run.startedAt.map timestamptz
    lastFinishedAt := timestamptz finished
    lastResult := result
    consecutiveFailures := failures
    nextEligibleAt := nextEligible
    lastErrorCode := code
    lastErrorMessage := collectionErrorMessage code }

def succeeded (counterReset : Bool) (finished : ℤ) : TaskStateRow :=
  { lastDueAt := timestamptz run.dueAt
    lastStartedAt := run.startedAt.map timestamptz
    lastFinishedAt := timestamptz finished
    lastSuccessAt := timestamptz finished
    lastResult := some .success
    consecutiveFailures := 0
    nextEligibleAt := none
    lastErrorCode := if counterReset then some .counterReset else none
    lastErrorMessage :=
      if counterReset then some (collectionErrorMessage .counterReset) else none }

def rejectedAtCapacity (finished : ℤ) : TaskStateRow :=
  { row with
    lastDueAt := timestamptz run.dueAt
    lastStartedAt := run.startedAt.map timestamptz
    lastFinishedAt := timestamptz finished
    lastResult := some .failed
    consecutiveFailures := row.consecutiveFailures + 1
    nextEligibleAt := none
    lastErrorCode := some .platformDatabaseCapacityEmergency
    lastErrorMessage := collectionErrorMessage .platformDatabaseCapacityEmergency }

end TaskStateRow

namespace CollectStore

def upsertTask (s : CollectStore) (id : TaskId) (f : TaskStateRow → TaskStateRow) :
    CollectStore :=
  { s with tasks := s.tasks.insert id (f ((s.tasks.lookup id).getD {})) }

def updateTask (s : CollectStore) (id : TaskId) (f : TaskStateRow → TaskStateRow) :
    CollectStore :=
  match s.tasks.lookup id with
  | none => s
  | some row => { s with tasks := s.tasks.insert id (f row) }

def setSourceFailure (s : CollectStore) (code : ErrorCode) (message : String) : CollectStore :=
  { s with source := { s.source with lastErrorCode := code, lastErrorMessage := message } }

def insertSample (s : CollectStore) (observedAt : ℤ) (sample : CollectedSample) : CollectStore :=
  { s with samples := s.samples ++
      [{ metricId := sample.metricId, databaseName := sample.databaseName,
         labelsKey := sample.labelsKey, ts := timestamptz observedAt, value := sample.value }] }

def ensureTaskStates (s : CollectStore) (ids : List TaskId) : CollectStore :=
  ids.foldl (fun s id => if (s.tasks.lookup id).isSome then s else s.upsertTask id fun row => row) s

/-- The row's last success covers its last due instant; a row never due or never successful
does not. -/
def satisfied (row : TaskStateRow) : Bool :=
  match row.lastDueAt, row.lastSuccessAt with
  | some due, some success => decide (due ≤ success)
  | _, _ => false

def complete (s : CollectStore) : Bool :=
  s.tasks.entries.all fun entry => satisfied entry.2

def counterResetPending (s : CollectStore) : Bool :=
  s.tasks.entries.any fun entry => entry.2.lastErrorCode = some .counterReset

def advanceCollectionWatermarkIfComplete (s : CollectStore) (finished : ℤ) : CollectStore :=
  if !s.complete then s
  else if s.counterResetPending then
    { s with source := { s.source with lastSuccessAt := timestamptz finished } }
  else
    { s with source := { lastSuccessAt := timestamptz finished } }

/-- `lockInstanceAndCheckCollectionActive`: what a transaction writes, unless paused. -/
def whenActive (s : CollectStore) (write : CollectStore → CollectStore) : CollectStore :=
  if s.paused then s else write s

def recordStarted (s : CollectStore) (run : ScheduledRun) : CollectStore :=
  s.whenActive fun s => s.upsertTask run.task.id fun row => row.started run

/-- A backed off run keeps the eligibility instant of an existing row; a skipped one writes its
own. -/
def recordUnmet (s : CollectStore) (run : ScheduledRun) (result : TaskResult) (now : ℤ)
    (nextEligible : Option ℤ) : CollectStore :=
  s.whenActive fun s =>
    let eligible :=
      match s.tasks.lookup run.task.id with
      | some row => if result = .backoff then row.nextEligibleAt else nextEligible.map timestamptz
      | none => nextEligible.map timestamptz
    (s.upsertTask run.task.id fun row => row.unmet run result now eligible).setSourceFailure
      .collectionFailed (collectionErrorMessage result.code)

def recordCapabilityBlocked (s : CollectStore) (run : ScheduledRun)
    (reason : CapabilityBlockReason) (finished : ℤ) : CollectStore :=
  s.whenActive fun s =>
    (s.upsertTask run.task.id fun row => row.capabilityBlocked run reason finished).setSourceFailure
      reason.code (collectionErrorMessage reason.code)

def recordCapabilityNotApplicable (s : CollectStore) (run : ScheduledRun)
    (reason : CapabilityBlockReason) (finished : ℤ) : CollectStore :=
  s.whenActive fun s =>
    let s := s.upsertTask run.task.id fun row => row.capabilityNotApplicable run reason finished
    s.advanceCollectionWatermarkIfComplete finished

def taskFailureCount (s : CollectStore) (id : TaskId) : ℕ :=
  ((s.tasks.lookup id).map TaskStateRow.consecutiveFailures).getD 0

def connectionFailureCount (s : CollectStore) : ℕ :=
  (s.connection.map ConnectionStateRow.consecutiveFailures).getD 0

def unreachableSample : CollectedSample :=
  { metricId := "pg.availability.reachable", value := 0 }

def recordConnectionFailure (s : CollectStore) (run : ScheduledRun) (code : ErrorCode)
    (finished : ℤ) : CollectStore :=
  let connectionFailures := s.connectionFailureCount + 1
  let row : ConnectionStateRow :=
    { consecutiveFailures := connectionFailures
      nextEligibleAt :=
        some (timestamptz (finished + failureBackoff .sql run.interval connectionFailures))
      lastErrorCode := code
      lastErrorMessage := collectionErrorMessage code }
  { s with connection := some row }

/-- Until when a failed run holds its task back. For a probe or a connection failure the connection
row holds the instance back instead. -/
def taskNextEligible (s : CollectStore) (run : ScheduledRun) (connectionFailure : Bool)
    (finished : ℤ) : Option ℤ :=
  if run.task.kind ≠ .probe ∧ connectionFailure = false then
    some (timestamptz (finished
      + failureBackoff run.task.kind run.interval (s.taskFailureCount run.task.id + 1)))
  else none

def recordFailure (s : CollectStore) (run : ScheduledRun) (result : TaskResult)
    (code : ErrorCode) (connectionFailure : Bool) (finished : ℤ) : CollectStore :=
  s.whenActive fun s =>
    let failures := s.taskFailureCount run.task.id + 1
    let nextEligible := s.taskNextEligible run connectionFailure finished
    let s := if connectionFailure then s.recordConnectionFailure run code finished else s
    let s := s.upsertTask run.task.id fun row =>
      row.failed run result code failures nextEligible finished
    if run.task.kind = .probe then
      (s.insertSample finished unreachableSample).setSourceFailure .dbUnreachable
        (collectionErrorMessage code)
    else s.setSourceFailure .collectionFailed (collectionErrorMessage code)

def recordSuccess (s : CollectStore) (run : ScheduledRun) (batch : CollectedBatch)
    (finished : ℤ) : CollectStore :=
  s.whenActive fun s =>
    let s := batch.samples.foldl (fun s sample => s.insertSample finished sample) s
    let s := s.updateTask run.task.id fun _ => .succeeded run batch.counterReset finished
    let s :=
      if batch.counterReset then
        s.setSourceFailure .counterReset (collectionErrorMessage .counterReset)
      else s
    let s := if run.task.kind = .probe then { s with connection := some {} } else s
    s.advanceCollectionWatermarkIfComplete finished

def recordPlatformDatabaseCapacityEmergency (s : CollectStore) (run : ScheduledRun)
    (finished : ℤ) : CollectStore :=
  s.whenActive fun s =>
    (s.updateTask run.task.id fun row => row.rejectedAtCapacity run finished).setSourceFailure
      .platformDatabaseCapacityEmergency
      (collectionErrorMessage .platformDatabaseCapacityEmergency)

end CollectStore

/-- The transactions on the collection rows of an instance, each with the instants its caller read
before it asked for the lock. All but `ensureTaskStates` and the pause switch record a run. -/
inductive Tx
  | ensureTaskStates (ids : List TaskId)
  | setPaused (paused : Bool)
  | started (run : ScheduledRun)
  | unmet (run : ScheduledRun) (result : TaskResult) (now : ℤ) (nextEligible : Option ℤ)
  | capabilityBlocked (run : ScheduledRun) (reason : CapabilityBlockReason) (finished : ℤ)
  | capabilityNotApplicable (run : ScheduledRun) (reason : CapabilityBlockReason) (finished : ℤ)
  | failure (run : ScheduledRun) (result : TaskResult) (code : ErrorCode)
      (connectionFailure : Bool) (finished : ℤ)
  | success (run : ScheduledRun) (batch : CollectedBatch) (finished : ℤ)
  | capacityEmergency (run : ScheduledRun) (finished : ℤ)
  deriving DecidableEq

def CollectStore.commit (s : CollectStore) : Tx → CollectStore
  | .ensureTaskStates ids => s.ensureTaskStates ids
  | .setPaused paused => { s with paused := paused }
  | .started run => s.recordStarted run
  | .unmet run result now nextEligible => s.recordUnmet run result now nextEligible
  | .capabilityBlocked run reason finished => s.recordCapabilityBlocked run reason finished
  | .capabilityNotApplicable run reason finished =>
    s.recordCapabilityNotApplicable run reason finished
  | .failure run result code connectionFailure finished =>
    s.recordFailure run result code connectionFailure finished
  | .success run batch finished => s.recordSuccess run batch finished
  | .capacityEmergency run finished => s.recordPlatformDatabaseCapacityEmergency run finished

/-- What a transaction records about a run: that it was due, and when it succeeded if it did. An
`UPDATE` records nothing about a task without a row. -/
structure Recording where
  run : ScheduledRun
  success : Option ℤ
  needsRow : Bool

def Tx.recording : Tx → Option Recording
  | .ensureTaskStates _ => none
  | .setPaused _ => none
  | .started run => some ⟨run, none, false⟩
  | .unmet run _ _ _ => some ⟨run, none, false⟩
  | .capabilityBlocked run _ _ => some ⟨run, none, false⟩
  | .capabilityNotApplicable run _ finished => some ⟨run, some finished, false⟩
  | .failure run _ _ _ _ => some ⟨run, none, false⟩
  | .success run _ finished => some ⟨run, some finished, true⟩
  | .capacityEmergency run _ => some ⟨run, none, true⟩

def CollectStore.recorded (s : CollectStore) (tx : Tx) : Option Recording :=
  tx.recording.filter fun r =>
    !s.paused && (!r.needsRow || (s.tasks.lookup r.run.task.id).isSome)

structure Record where
  taskId : TaskId
  dueAt : ℤ
  succeeded : Bool
  deriving DecidableEq, Repr

def Recording.record (r : Recording) : Record :=
  { taskId := r.run.task.id, dueAt := timestamptz r.run.dueAt, succeeded := r.success.isSome }

structure History where
  store : CollectStore
  records : List Record

namespace History

def init (ids : List TaskId) : History :=
  { store := ({} : CollectStore).ensureTaskStates ids, records := [] }

def step (h : History) (tx : Tx) : Option History :=
  some
    { store := h.store.commit tx
      records := ((h.store.recorded tx).map Recording.record).toList ++ h.records }

def latest (h : History) (id : TaskId) : Option Record :=
  h.records.find? fun r => r.taskId = id

end History

end DbsMonitor
