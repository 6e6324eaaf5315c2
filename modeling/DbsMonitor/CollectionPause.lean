import DbsMonitor.AgentReport
import DbsMonitor.AlertStore
import DbsMonitor.RowLock

/-!
# Pausing collection

The switch `collection_paused` of an instance and the transactions that read or write it, any number
at once. Each locks the instance row and the row of the switch in the order of its statements, reads
the switch under its lock, and commits what it writes at its end.
-/

namespace DbsMonitor

open RowLock

abbrev TxId := ℕ

namespace AlertStore

def createCollectionPauseEvents (s : AlertStore) (instanceId : InstanceId) (kind : EventKind)
    (evaluatedAt : ℤ) (actorId : String) : AlertStore :=
  { s with events := s.events ++
      (s.alerts.entries.filter fun entry =>
        entry.2.key.instanceId = instanceId && entry.2.unresolved).map fun entry =>
          { entry.2.event entry.1 kind entry.2.status (timestamptz evaluatedAt) with
            actorId := some actorId } }

end AlertStore

/-- `lockInstanceAndCheckCollectionActive` with the switch as it was read. -/
def CollectStore.commitRead (s : CollectStore) (paused : Bool) (tx : Tx) : CollectStore :=
  { CollectStore.commit { s with paused := paused } tx with paused := s.paused }

def evaluateInstance (targets : List (AlertKey × EvaluationRule × Findings)) (now : ℤ)
    (paused : Bool) (s : AlertStore) : Option AlertStore :=
  if paused then some s
  else targets.foldlM (fun s (key, rule, found) =>
    evaluateRule (s.getEvaluationTarget key rule) found now s) s

inductive InstanceTx
  | collect (tx : Tx)
  | report (report : AgentReport) (receivedAt : ℤ)
  | reject (agentVersion : String) (rejection : AgentRejection)
  | evaluate (targets : List (AlertKey × EvaluationRule × Findings)) (now : ℤ)
  | pause (paused : Bool) (actorId : String) (updatedAt : ℤ) (reason : Option String)

namespace InstanceTx

/-- The lock on the instance row. An `UPDATE` takes it like `FOR UPDATE` here. -/
def instanceMode : InstanceTx → Option Mode
  | .collect _ | .report _ _ | .reject _ _ => some .update
  | .evaluate _ _ => some .share
  | .pause .. => none

def configMode : InstanceTx → Option Mode
  | .collect _ | .report _ _ | .evaluate _ _ => some .share
  | .reject _ _ => none
  | .pause .. => some .update

def isPause : InstanceTx → Bool
  | .pause .. => true
  | _ => false

def concerns (instanceId : InstanceId) : InstanceTx → Bool
  | .collect tx => tx.recording.any fun recording => recording.run.target.id = instanceId
  | .evaluate targets _ => targets.all fun target => target.1.instanceId = instanceId
  | _ => true

end InstanceTx

structure PauseColumns where
  updatedBy : Option String := none
  updatedAt : Option ℤ := none
  reason : Option String := none
  deriving DecidableEq, Repr

structure Pauses where
  collect : CollectStore := {}
  pause : PauseColumns := {}
  agent : AgentState := {}
  alerts : AlertStore := {}
  transactions : AList fun _ : TxId => InstanceTx := ∅
  instanceLocks : List (Holder TxId Unit) := []
  configLocks : List (Holder TxId Bool) := []

namespace Pauses

inductive Action
  | begin (tx : TxId) (work : InstanceTx)
  | lockInstance (tx : TxId)
  | lockConfig (tx : TxId)
  | commit (tx : TxId)
  | abort (tx : TxId)
  | dispose (id : AlertId) (columns : DispositionColumns) (actorId : String) (actedAt : ℤ)
  | suppress (id : AlertId) (windowId : Option String) (evaluatedAt : ℤ)

variable (s : Pauses)

def finish (tx : TxId) : Pauses :=
  { s with
    transactions := s.transactions.erase tx
    instanceLocks := release s.instanceLocks tx
    configLocks := release s.configLocks tx }

def write (instanceId : InstanceId) (paused : Bool) : InstanceTx → Option Pauses
  | .collect tx => some { s with collect := s.collect.commitRead paused tx }
  | .report report receivedAt =>
    let (agent, samples) := storeAgentReport report receivedAt paused s.agent s.collect.samples
    some { s with agent := agent, collect := { s.collect with samples := samples } }
  | .reject agentVersion rejection =>
    some { s with agent := s.agent.rejected agentVersion rejection }
  | .evaluate targets now =>
    (evaluateInstance targets now paused s.alerts).map fun alerts => { s with alerts := alerts }
  | .pause value actorId updatedAt reason =>
    some { s with
      collect := { s.collect with paused := value }
      pause := { updatedBy := actorId, updatedAt := timestamptz updatedAt, reason := reason }
      alerts := s.alerts.createCollectionPauseEvents instanceId
        (if value then .frozen else .unfrozen) updatedAt actorId }

/-- `SetCollectionPause` finds no row to update when the switch is there already. -/
def nothingToSwitch : InstanceTx → Bool
  | .pause value .. => s.collect.paused = value
  | _ => false

def step (instanceId : InstanceId) : Action → Option Pauses
  | .begin tx work =>
    if (s.transactions.lookup tx).isSome || !work.concerns instanceId then none
    else some { s with transactions := s.transactions.insert tx work }
  | .lockInstance tx => do
    let work ← s.transactions.lookup tx
    let mode ← work.instanceMode
    guard (holder? s.instanceLocks tx).isNone
    let locks ← grant s.instanceLocks tx mode ()
    return { s with instanceLocks := locks }
  | .lockConfig tx => do
    let work ← s.transactions.lookup tx
    guard (work.instanceMode.isNone || (holder? s.instanceLocks tx).isSome)
    guard (holder? s.configLocks tx).isNone
    if s.nothingToSwitch work then return s.finish tx
    else
      let mode ← work.configMode
      let locks ← grant s.configLocks tx mode s.collect.paused
      return { s with configLocks := locks }
  | .commit tx => do
    let work ← s.transactions.lookup tx
    guard (work.instanceMode.isNone || (holder? s.instanceLocks tx).isSome)
    let held := holder? s.configLocks tx
    guard (work.configMode.isNone || held.isSome)
    let t ← s.write instanceId ((held.map Holder.read).getD false) work
    return t.finish tx
  | .abort tx => some (s.finish tx)
  | .dispose id columns actorId actedAt => do
    let alerts ← s.alerts.updateAlertDisposition id columns actorId actedAt
    return { s with alerts := alerts }
  | .suppress id windowId evaluatedAt =>
    some { s with alerts := s.alerts.recordMaintenanceSuppressed id windowId evaluatedAt }

end Pauses

end DbsMonitor
