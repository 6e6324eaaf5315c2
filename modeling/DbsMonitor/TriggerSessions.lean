import Mathlib.Data.List.Sort
import DbsMonitor.Alerting
import DbsMonitor.GraphSearch

/-!
# The sessions of a trigger snapshot

A session that matches the rule brings along those it waits for, and outside the scope of lock waits
also those that wait for it, and so on along the chain. Of these groups the larger ones are tried
first, up to a limit.
-/

namespace DbsMonitor

def maxActiveTriggerSnapshotSessions : ℤ := 50

structure TriggerSession where
  pid : ℤ
  blockingPIDs : List ℤ
  directMatch : Bool
  deriving DecidableEq, Repr

structure TriggerSelection where
  selected : List TriggerSession
  originalMatchCount : ℕ
  truncated : Bool
  deriving DecidableEq, Repr

def sessionsByPID (sessions : List TriggerSession) (pid : ℤ) : Option TriggerSession :=
  (sessions.filter fun session => session.pid = pid).getLast?

def waiterPIDsByBlocker (sessions : List TriggerSession) (blockerPID : ℤ) : List ℤ :=
  sessions.flatMap fun session =>
    (session.blockingPIDs.filter fun pid => pid = blockerPID).map fun _ => session.pid

def relatedSessions (scope : TriggerSnapshotScope) (sessions : List TriggerSession) :
    GraphSearch.Graph ℤ where
  nodes := (sessions.map (·.pid)).toFinset
  successors pid := (sessionsByPID sessions pid).map fun session =>
    session.blockingPIDs
      ++ if scope ≠ .lockBlocking then waiterPIDsByBlocker sessions pid else []
  mem_nodes pid h := by
    rw [Option.isSome_map] at h
    obtain ⟨session, hsession⟩ := Option.isSome_iff_exists.mp h
    have hmem := List.mem_of_getLast? hsession
    rw [List.mem_filter, decide_eq_true_eq] at hmem
    exact List.mem_toFinset.mpr (List.mem_map.mpr ⟨session, hmem⟩)

def relatedTriggerSessionPIDs (scope : TriggerSnapshotScope) (rootPID : ℤ)
    (sessions : List TriggerSession) : List ℤ :=
  ((relatedSessions scope sessions).search [] [rootPID]).insertionSort (· ≤ ·)

structure SessionGroup where
  rootPID : ℤ
  pids : List ℤ
  deriving DecidableEq, Repr

namespace SessionGroup

def before (left right : SessionGroup) : Bool :=
  if left.pids.length ≠ right.pids.length then right.pids.length < left.pids.length
  else left.rootPID < right.rootPID

def addTo (group : SessionGroup) (pids : Finset ℤ) : Finset ℤ :=
  group.pids.foldl (fun pids pid => insert pid pids) pids

def select (limit : ℤ) (selectedPIDs : Finset ℤ) (candidate : SessionGroup) : Finset ℤ :=
  let additionalSessionCount := (candidate.pids.filter fun pid => pid ∉ selectedPIDs).length
  if limit < selectedPIDs.card + additionalSessionCount then selectedPIDs
  else candidate.addTo selectedPIDs

end SessionGroup

def sessionGroups (scope : TriggerSnapshotScope) (sessions : List TriggerSession) :
    List SessionGroup :=
  (sessions.filter (·.directMatch)).map fun session =>
    { rootPID := session.pid, pids := relatedTriggerSessionPIDs scope session.pid sessions }

def sortedGroups (groups : List SessionGroup) : List SessionGroup :=
  groups.insertionSort fun left right => right.before left = false

def selectTriggerSessions (scope : TriggerSnapshotScope) (sessions : List TriggerSession)
    (limit : ℤ) : TriggerSelection :=
  if limit ≤ 0 then
    { selected := [], originalMatchCount := sessions.length, truncated := 0 < sessions.length }
  else if scope = .activeSessions then
    let selected := sessions.take (min limit maxActiveTriggerSnapshotSessions).toNat
    { selected := selected
      originalMatchCount := sessions.length
      truncated := selected.length < sessions.length }
  else
    let groups := sessionGroups scope sessions
    let relevantPIDs := groups.foldl (fun pids group => group.addTo pids) ∅
    let selectedPIDs := (sortedGroups groups).foldl (SessionGroup.select limit) ∅
    let selected := sessions.filter fun session => session.pid ∈ selectedPIDs
    { selected := selected
      originalMatchCount := relevantPIDs.card
      truncated := selected.length < relevantPIDs.card }

end DbsMonitor
