import DbsMonitor.Scheduler

/-!
# The collector

The loop performs `refresh`, `accrue`, `dispatch` and `complete` in any order, concurrently with the
runs it launches through `executeTask`. A step is an access to the platform database, or what
happens between two: an instant read from the clock before a transaction stays with it until it
commits. An access may fail.

The journal and the outcomes are not part of the program: newest first, what became of every due
instant, and which outcomes were recorded.
-/

namespace DbsMonitor

inductive Phase
  | launched
  | snapshotting
  | deciding
  | starting
  | collecting
  | recording (tx : Tx)
  | finished
  deriving DecidableEq

structure Running where
  run : ScheduledRun
  phase : Phase
  deriving DecidableEq

inductive Loop
  | idle
  | accruing (now : ℤ) (keys : List TaskKey)
  | skipping (now : ℤ) (keys : List TaskKey) (replaced : ScheduledRun) (readAt : ℤ)
  | dispatching (runs : List ScheduledRun)
  | checking (run : ScheduledRun) (eligible : Option ℤ) (runs : List ScheduledRun)
  | backingOff (run : ScheduledRun) (eligible readAt : ℤ) (runs : List ScheduledRun)

inductive Event
  | generated (run : ScheduledRun)
  | skipped (run : ScheduledRun)
  | backedOff (run : ScheduledRun)
  | dispatched (run : ScheduledRun)
  | dropped (run : ScheduledRun)
  | left (key : TaskKey)
  deriving DecidableEq

inductive RecordedOutcome
  | failed (key : TaskKey) (eligible : ℤ)
  | concluded (key : TaskKey)
  deriving DecidableEq

structure Collector where
  clock : ℤ
  now : ℤ
  schedule : Schedule
  pending : PendingRuns
  dispatcher : Dispatcher
  loop : Loop
  running : List Running
  completed : List ScheduledRun
  stores : InstanceId → CollectStore
  journal : List Event
  outcomes : List RecordedOutcome

def Collector.init (probeLimit queryLimit : ℕ) (clock : ℤ) : Collector :=
  { clock := clock, now := clock, schedule := ∅, pending := {}
    dispatcher := { probeLimit := probeLimit, queryLimit := queryLimit }
    loop := .idle, running := [], completed := [], stores := fun _ => {}, journal := []
    outcomes := [] }

def CollectStore.nextEligible (s : CollectStore) (run : ScheduledRun) : Option ℤ :=
  if run.task.kind = .probe ∨ isCapabilitySnapshotTask run.task then none
  else
    match s.tasks.lookup run.task.id with
    | none => none
    | some row =>
      match row.nextEligibleAt, s.connection.bind ConnectionStateRow.nextEligibleAt with
      | some taskNext, some connectionNext =>
        if connectionNext < taskNext then some taskNext else some connectionNext
      | some taskNext, none => some taskNext
      | none, connectionNext => connectionNext

/-- The outcome a transaction records: not the start of a run, nor a run that was not executed. -/
def CollectStore.recordedOutcome (s : CollectStore) (tx : Tx) : Option RecordedOutcome :=
  match s.recorded tx, tx with
  | none, _ => none
  | some _, .failure run _ _ connectionFailure finished =>
    match s.taskNextEligible run connectionFailure finished with
    | some eligible => some (.failed run.key eligible)
    | none => some (.concluded run.key)
  | some _, .started _ => none
  | some _, .unmet _ _ _ _ => none
  | some r, _ => some (.concluded r.run.key)

inductive Collected
  | success (batch : CollectedBatch)
  | failure (timedOut connectionFailure : Bool)
  | credentialError

/-- The transaction of `finishFailure`; every failure of a probe is one of the connection. -/
def finishFailure (run : ScheduledRun) (timedOut connectionFailure : Bool) (finished : ℤ) : Tx :=
  let connectionFailure := decide (run.task.kind = .probe) || connectionFailure
  .failure run (if timedOut then .timedOut else .failed)
    (if timedOut then .timeout
      else if connectionFailure then .connectionFailed else .queryFailed)
    connectionFailure finished

namespace Collector

variable (s : Collector)

def setLoop (loop : Loop) : Collector := { s with loop := loop }

def setRunning (i : ℕ) (running : Running) : Collector :=
  { s with running := s.running.set i running }

def commit (id : InstanceId) (tx : Tx) : Collector :=
  { s with
    stores := Function.update s.stores id ((s.stores id).commit tx)
    outcomes := ((s.stores id).recordedOutcome tx).toList ++ s.outcomes }

def enterTask (now : ℤ) (template : ScheduledRun) : Collector :=
  let entry := refreshTask now template (s.schedule.lookup template.key)
  { s with schedule := s.schedule.insert template.key entry }

def enterCapabilitySnapshot (now : ℤ) (template : ScheduledRun) : Collector :=
  let entry := refreshCapabilitySnapshot now template (s.schedule.lookup template.key)
  { s with schedule := s.schedule.insert template.key entry }

structure Target where
  row : TargetRow
  intervals : TaskId → ℤ

def Target.templates (target : Target) : List ScheduledRun :=
  scheduledTasks.map fun task => newScheduledRun target.row task (target.intervals task.id) 0

def Target.capabilityTemplate (target : Target) : ScheduledRun :=
  newScheduledRun target.row capabilitySnapshotTask 0 0

def Target.keys (target : Target) : List TaskKey :=
  target.capabilityTemplate.key :: target.templates.map ScheduledRun.key

def enterTarget (now : ℤ) (target : Target) : Collector :=
  let s := s.commit target.row.id (.ensureTaskStates (scheduledTasks.map Task.id))
  let s := target.templates.foldl (fun s template => s.enterTask now template) s
  s.enterCapabilitySnapshot now target.capabilityTemplate

def leave (key : TaskKey) : Collector :=
  { s with
    schedule := s.schedule.erase key
    pending := s.pending.take key
    journal := .left key :: ((s.pending.items.lookup key).map Event.dropped).toList ++ s.journal }

/-- `refresh`, over the targets it got through; only after all of them it removes unseen keys. -/
def refresh (now : ℤ) (targets : List Target) (completed : Bool) : Collector :=
  let s := targets.foldl (fun s target => s.enterTarget now target) { s with now := now }
  if completed then
    let active := targets.flatMap Target.keys
    (s.schedule.keys.filter (· ∉ active)).foldl leave s
  else s

def accrueNext (now : ℤ) (key : TaskKey) (keys : List TaskKey) : Collector :=
  match s.schedule.lookup key with
  | none => s.setLoop (.accruing now keys)
  | some entry =>
    if entry.nextDue ≤ now then
      let run := entry.dueRun
      let replaced := (s.pending.put run).1
      { s with
        schedule := s.schedule.insert key
          { entry with nextDue := entry.nextDue + entry.template.interval }
        pending := (s.pending.put run).2
        journal := .generated run :: (replaced.map Event.skipped).toList ++ s.journal
        loop :=
          match replaced with
          | none => .accruing now (key :: keys)
          | some run => .skipping now (key :: keys) run s.clock }
    else s.setLoop (.accruing now keys)

/-- A replaced capability snapshot is recorded in the capability rows, any other run as
skipped. -/
def recordSkip (replaced : ScheduledRun) (readAt : ℤ) : Collector :=
  if isCapabilitySnapshotTask replaced.task then s
  else s.commit replaced.target.id (.unmet replaced .skippedBackpressure readAt none)

/-- `dispatch` with one run, after its eligibility is read: back off, wait, or launch. -/
def dispatchRun (run : ScheduledRun) (eligible : Option ℤ) (runs : List ScheduledRun) :
    Collector :=
  match eligible.filter fun e => run.dueAt < e with
  | some e =>
    { s with
      pending := s.pending.take run.key
      journal := .backedOff run :: s.journal
      loop := .backingOff run e s.clock runs }
  | none =>
    match s.dispatcher.admitWork run.work with
    | none => s.setLoop (.dispatching runs)
    | some dispatcher =>
      let pending := s.pending.take run.key
      { s with
        pending := pending
        dispatcher :=
          { dispatcher with capabilitySnapshotWaiting := pending.hasCapabilitySnapshot }
        running := s.running ++ [{ run := run, phase := .launched }]
        journal := .dispatched run :: s.journal
        loop := .dispatching runs }

def complete : Option Collector :=
  match s.completed with
  | [] => none
  | run :: rest => some { s with completed := rest, dispatcher := s.dispatcher.finish run.work }

section Execution

variable (i : ℕ) (running : Running)

/-- `executeTask` reads whether collection is paused; a run that goes on reads its start. -/
def beginRun (ok : Bool) : Option Collector :=
  match running.phase with
  | .launched =>
    let run := running.run
    if !ok || (s.stores run.target.id).paused then
      some (s.setRunning i { running with phase := .finished })
    else if isCapabilitySnapshotTask run.task then
      some (s.setRunning i { running with phase := .snapshotting })
    else
      some (s.setRunning i { run := { run with startedAt := some s.clock }, phase := .deciding })
  | _ => none

def endSnapshot : Option Collector :=
  match running.phase with
  | .snapshotting => some (s.setRunning i { running with phase := .finished })
  | _ => none

def rejectRun : Option Collector :=
  match running.phase with
  | .deciding =>
    some (s.setRunning i
      { running with phase := .recording (.capacityEmergency running.run s.clock) })
  | _ => none

/-- The capability decision of a run: `none` when unreadable, a reason when blocked. A probe needs
none. -/
def decideRun (decision : Option (Option CapabilityBlockReason)) : Option Collector :=
  match running.phase with
  | .deciding =>
    if running.run.task.kind = .probe then
      some (s.setRunning i { running with phase := .starting })
    else
      some (s.setRunning i
        { running with
          phase :=
            match decision with
            | none => .finished
            | some none => .starting
            | some (some .notApplicableRole) =>
              .recording (.capabilityNotApplicable running.run .notApplicableRole s.clock)
            | some (some reason) =>
              .recording (.capabilityBlocked running.run reason s.clock) })
  | _ => none

def startRun (ok : Bool) : Option Collector :=
  match running.phase with
  | .starting =>
    let id := running.run.target.id
    if !ok || (s.stores id).paused then
      some (s.setRunning i { running with phase := .finished })
    else
      some ((s.commit id (.started running.run)).setRunning i
        { running with phase := .collecting })
  | _ => none

def finishRun (collected : Collected) : Option Collector :=
  match running.phase with
  | .collecting =>
    some (s.setRunning i
      { running with
        phase :=
          match collected with
          | .success batch => .recording (.success running.run batch s.clock)
          | .failure timedOut connectionFailure =>
            .recording (finishFailure running.run timedOut connectionFailure s.clock)
          | .credentialError => .finished })
  | _ => none

def recordRun (ok : Bool) : Option Collector :=
  match running.phase with
  | .recording tx =>
    let s := if ok then s.commit running.run.target.id tx else s
    some (s.setRunning i { running with phase := .finished })
  | _ => none

def sendOutcome : Option Collector :=
  match running.phase with
  | .finished =>
    if s.completed.length < s.dispatcher.probeLimit + s.dispatcher.queryLimit then
      some { s with
        running := s.running.eraseIdx i
        completed := s.completed ++ [running.run] }
    else none
  | _ => none

end Execution

inductive Action
  | tick (clock : ℤ)
  | setPaused (id : InstanceId) (paused : Bool)
  | ensureTaskStates (id : InstanceId) (ids : List TaskId)
  | refresh (now : ℤ) (targets : List Target) (completed : Bool)
  | accrue (now : ℤ)
  | accrueNext
  | recordSkip (ok : Bool)
  | dispatch
  | dispatchNext (ok : Bool)
  | dispatchRun
  | recordBackoff (ok : Bool)
  | complete
  | beginRun (i : ℕ) (ok : Bool)
  | endSnapshot (i : ℕ)
  | rejectRun (i : ℕ)
  | decideRun (i : ℕ) (decision : Option (Option CapabilityBlockReason))
  | startRun (i : ℕ) (ok : Bool)
  | finishRun (i : ℕ) (collected : Collected)
  | recordRun (i : ℕ) (ok : Bool)
  | sendOutcome (i : ℕ)

def sortedKeys : List TaskKey :=
  s.schedule.keys.insertionSort fun left right => taskKeyLess left right = true

def loopStep : Action → Option Collector
  | .refresh now targets completed =>
    match s.loop with
    | .idle => if s.now ≤ now ∧ now ≤ s.clock then some (s.refresh now targets completed) else none
    | _ => none
  | .accrue now =>
    match s.loop with
    | .idle =>
      if s.now ≤ now ∧ now ≤ s.clock then
        some { s with now := now, loop := .accruing now s.sortedKeys }
      else none
    | _ => none
  | .accrueNext =>
    match s.loop with
    | .accruing _ [] => some (s.setLoop .idle)
    | .accruing now (key :: keys) => some (s.accrueNext now key keys)
    | _ => none
  | .recordSkip ok =>
    match s.loop with
    | .skipping now keys replaced readAt =>
      some ((if ok then s.recordSkip replaced readAt else s).setLoop (.accruing now keys))
    | _ => none
  | .dispatch =>
    match s.loop with
    | .idle =>
      some { s with
        dispatcher :=
          { s.dispatcher with capabilitySnapshotWaiting := s.pending.hasCapabilitySnapshot }
        loop := .dispatching s.pending.ordered }
    | _ => none
  | .dispatchNext ok =>
    match s.loop with
    | .dispatching [] => some (s.setLoop .idle)
    | .dispatching (run :: runs) =>
      some (s.setLoop
        (if ok then .checking run ((s.stores run.target.id).nextEligible run) runs
          else .dispatching runs))
    | _ => none
  | .dispatchRun =>
    match s.loop with
    | .checking run eligible runs => some (s.dispatchRun run eligible runs)
    | _ => none
  | .recordBackoff ok =>
    match s.loop with
    | .backingOff run eligible readAt runs =>
      some ((if ok then s.commit run.target.id (.unmet run .backoff readAt (some eligible))
        else s).setLoop (.dispatching runs))
    | _ => none
  | .complete =>
    match s.loop with
    | .idle => s.complete
    | _ => none
  | _ => none

def step (s : Collector) : Action → Option Collector
  | .tick clock => if s.clock ≤ clock then some { s with clock := clock } else none
  | .setPaused id paused => some (s.commit id (.setPaused paused))
  | .ensureTaskStates id ids => some (s.commit id (.ensureTaskStates ids))
  | .beginRun i ok => s.running[i]?.bind fun running => s.beginRun i running ok
  | .endSnapshot i => s.running[i]?.bind fun running => s.endSnapshot i running
  | .rejectRun i => s.running[i]?.bind fun running => s.rejectRun i running
  | .decideRun i decision => s.running[i]?.bind fun running => s.decideRun i running decision
  | .startRun i ok => s.running[i]?.bind fun running => s.startRun i running ok
  | .finishRun i collected => s.running[i]?.bind fun running => s.finishRun i running collected
  | .recordRun i ok => s.running[i]?.bind fun running => s.recordRun i running ok
  | .sendOutcome i => s.running[i]?.bind fun running => s.sendOutcome i running
  | a => s.loopStep a

/-- The target of the concrete runs: `pg.stat_database` every five seconds, other tasks hourly. -/
def ordersTarget : Target :=
  { row := orders
    intervals := fun id => if id = "pg.stat_database" then 5 * second else 3600 * second }

/-- The capability snapshot of the target is taken at 0 s, and the first run of
`pg.stat_database` starts at 2 s. -/
def firstStart : List Action :=
  [.refresh 0 [ordersTarget] true, .accrue 0] ++ List.replicate 13 .accrueNext
    ++ [.dispatch, .dispatchNext true, .dispatchRun, .dispatchNext true, .beginRun 0 true,
      .endSnapshot 0, .sendOutcome 0, .complete, .tick (2 * second), .accrue (2 * second)]
    ++ List.replicate 13 .accrueNext
    ++ [.dispatch, .dispatchNext true, .dispatchRun, .dispatchNext true, .beginRun 0 true,
      .decideRun 0 (some none), .startRun 0 true]

def statDatabaseKey : TaskKey := { instanceId := orders.id, taskId := taskStatDatabase.id }

end Collector

end DbsMonitor
