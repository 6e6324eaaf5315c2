import Mathlib.Data.List.Sort
import DbsMonitor.CollectState

/-!
# The parts of the central scheduler

The maps the scheduler loop owns: the schedule, with the next due instant of every task of every
target, the pending runs, at most one for each task, and the dispatcher, which counts what is in
flight against the probe and query limits.
-/

namespace DbsMonitor

inductive WorkClass
  | probe
  | collectionQuery
  | capabilitySnapshot
  deriving DecidableEq, Repr

def capabilitySnapshotTaskId : TaskId := "capability.snapshot"

def capabilitySnapshotReservedSlots : ℕ := 4

theorem fiveMinutes_pos : 0 < 5 * minute := by decide

def capabilitySnapshotTask : Task :=
  { id := capabilitySnapshotTaskId, kind := .sql, requires := [], interval := 5 * minute
    yields := [], interval_pos := fiveMinutes_pos }

def isCapabilitySnapshotTask (task : Task) : Bool :=
  task.id = capabilitySnapshotTaskId

def classFor (task : Task) : WorkClass :=
  if isCapabilitySnapshotTask task then .capabilitySnapshot
  else if task.kind = .probe then .probe
  else .collectionQuery

structure Work where
  instanceId : InstanceId
  workClass : WorkClass
  deriving DecidableEq, Repr

def ScheduledRun.work (run : ScheduledRun) : Work :=
  { instanceId := run.target.id, workClass := classFor run.task }

def taskKeyLess (left right : TaskKey) : Bool :=
  if left.instanceId = right.instanceId then left.taskId < right.taskId
  else left.instanceId < right.instanceId

structure PendingRuns where
  items : AList fun _ : TaskKey => ScheduledRun := ∅

namespace PendingRuns

variable (pending : PendingRuns)

/-- The run that was pending for the key, if one was, and the runs with the new one. -/
def put (run : ScheduledRun) : Option ScheduledRun × PendingRuns :=
  (pending.items.lookup run.key, { items := pending.items.insert run.key run })

def take (key : TaskKey) : PendingRuns :=
  { items := pending.items.erase key }

/-- The order of dispatch: capability snapshots, then by due instant, then by key. -/
def runLess (left right : ScheduledRun) : Bool :=
  if isCapabilitySnapshotTask left.task ≠ isCapabilitySnapshotTask right.task then
    isCapabilitySnapshotTask left.task
  else if left.dueAt ≠ right.dueAt then left.dueAt < right.dueAt
  else taskKeyLess left.key right.key

def ordered : List ScheduledRun :=
  (pending.items.entries.map Sigma.snd).insertionSort fun left right => runLess left right = true

def hasCapabilitySnapshot : Bool :=
  pending.items.entries.any fun entry => isCapabilitySnapshotTask entry.2.task

end PendingRuns

structure Dispatcher where
  probeLimit : ℕ
  queryLimit : ℕ
  activeProbes : ℤ := 0
  activeQueries : ℤ := 0
  activeCollectionQueries : ℤ := 0
  capabilitySnapshotWaiting : Bool := false
  instanceProbe : InstanceId → Bool := fun _ => false
  instanceQuery : InstanceId → Bool := fun _ => false

namespace Dispatcher

variable (d : Dispatcher)

/-- `dispatcher.admit`: `none` when the work has to wait. While a capability snapshot is pending,
collection queries leave it its reserved slots. -/
def admitWork (item : Work) : Option Dispatcher :=
  match item.workClass with
  | .probe =>
    if d.probeLimit ≤ d.activeProbes ∨ d.instanceProbe item.instanceId then none
    else some
      { d with
        activeProbes := d.activeProbes + 1
        instanceProbe := Function.update d.instanceProbe item.instanceId true }
  | .collectionQuery =>
    if d.queryLimit ≤ d.activeQueries ∨ d.instanceQuery item.instanceId then none
    else if d.capabilitySnapshotWaiting ∧
        d.queryLimit - (min capabilitySnapshotReservedSlots d.queryLimit : ℕ)
          ≤ d.activeCollectionQueries then none
    else some
      { d with
        activeQueries := d.activeQueries + 1
        activeCollectionQueries := d.activeCollectionQueries + 1
        instanceQuery := Function.update d.instanceQuery item.instanceId true }
  | .capabilitySnapshot =>
    if d.queryLimit ≤ d.activeQueries ∨ d.instanceQuery item.instanceId then none
    else some
      { d with
        activeQueries := d.activeQueries + 1
        instanceQuery := Function.update d.instanceQuery item.instanceId true }

def finish (item : Work) : Dispatcher :=
  match item.workClass with
  | .probe =>
    if d.instanceProbe item.instanceId then
      { d with
        activeProbes := d.activeProbes - 1
        instanceProbe := Function.update d.instanceProbe item.instanceId false }
    else d
  | workClass =>
    if d.instanceQuery item.instanceId then
      { d with
        activeQueries := d.activeQueries - 1
        activeCollectionQueries :=
          d.activeCollectionQueries - if workClass = .collectionQuery then 1 else 0
        instanceQuery := Function.update d.instanceQuery item.instanceId false }
    else d

end Dispatcher

structure ScheduleEntry where
  template : ScheduledRun
  nextDue : ℤ

def ScheduleEntry.dueRun (entry : ScheduleEntry) : ScheduledRun :=
  { entry.template with dueAt := entry.nextDue }

abbrev Schedule := AList fun _ : TaskKey => ScheduleEntry

def scheduledTasks : List Task :=
  tasks.filter fun task => task.id ∈
    [taskProbe.id, taskStatDatabase.id, taskStatActivity.id, taskReplication.id,
      taskReplicationSlot.id, taskPreparedXacts.id, taskRole.id, taskSettings.id,
      taskDatabaseSize.id, taskQueryStatistics.id]

def newScheduledRun (target : TargetRow) (task : Task) (configured dueAt : ℤ) : ScheduledRun :=
  { dueAt := dueAt, startedAt := none, target := target, task := task
    interval := if 0 < configured then configured else task.interval
    interval_pos := by
      split_ifs with h
      · exact h
      · exact task.interval_pos }

def initialDue (now : ℤ) (run : ScheduledRun) : ℤ :=
  if isCapabilitySnapshotTask run.task then now
  else nextDueAfter now (initialPhase run.target.id run.task.id run.interval) run.interval

/-- The entry of a task after a refresh: a new task, or one with a new interval, starts from now. -/
def refreshTask (now : ℤ) (template : ScheduledRun) (entry : Option ScheduleEntry) :
    ScheduleEntry :=
  match entry with
  | none => { template := template, nextDue := initialDue now template }
  | some entry =>
    { template := template
      nextDue :=
        if entry.template.interval ≠ template.interval then initialDue now template
        else entry.nextDue }

def refreshCapabilitySnapshot (now : ℤ) (template : ScheduledRun) (entry : Option ScheduleEntry) :
    ScheduleEntry :=
  match entry with
  | none => { template := template, nextDue := initialDue now template }
  | some entry => { template := template, nextDue := entry.nextDue }

end DbsMonitor
