import DbsMonitor.Listing
import Mathlib.Data.List.AList
import Mathlib.Data.String.Basic

/-!
# The reclamation of local artifacts

Of the diagnostic bundles the oldest are deleted, and of the one notification snapshot none. A
deletion moves the file aside, records itself, and removes the file or moves it back. Nobody else
touches the directories, and renames and removals of files that are there succeed; the recorder may
fail, `record n` being the error of its call number `n`.
-/

namespace DbsMonitor

structure LocalFile where
  /-- It is neither a symbolic link nor a directory or another special file. -/
  regular : Bool
  contents : List UInt8
  modifiedAt : ℤ

abbrev Directory := AList fun _ : String => LocalFile

def Directory.rename (directory : Directory) (oldName newName : String) : Directory :=
  match directory.lookup oldName with
  | some file => (directory.erase oldName).insert newName file
  | none => directory

structure LocalArtifact where
  name : String
  bytes : ℕ
  modifiedAt : ℤ
  deriving DecidableEq

def LocalFile.artifact (file : LocalFile) (name : String) : LocalArtifact :=
  ⟨name, file.contents.length, file.modifiedAt⟩

def managedDiagnosticBundleName (name : String) : Bool :=
  "dbs-monitor-diagnostics-".toList.isPrefixOf name.toList
    && ".tar.gz".toList.isSuffixOf name.toList

def LocalArtifact.older (left right : LocalArtifact) : Bool :=
  if left.modifiedAt = right.modifiedAt then left.name < right.name
  else left.modifiedAt < right.modifiedAt

def listDiagnosticBundles (directory : Directory) : List LocalArtifact :=
  (directory.entries.filterMap fun entry =>
    if managedDiagnosticBundleName entry.1 && entry.2.regular then some (entry.2.artifact entry.1)
    else none).insertionSort fun left right => ¬ right.older left = true

inductive ArtifactKind
  | diagnosticBundle
  | notificationSnapshot

structure ReclamationEvent where
  kind : ArtifactKind
  artifactName : String
  bytes : ℕ
  occurredAt : ℤ

inductive ArtifactError
  | limits
  | name (name : String)
  | missing (name : String)
  | notRegular (name : String)
  | staged (name : String)
  | record (error : String)

structure Reclaim where
  directory : Directory
  calls : List (ReclamationEvent × Option String) := []

def stagedName (name : String) : String := "." ++ name ++ ".deleting"

/-- What `deleteDiagnosticBundle` and `DeleteArtifact` do with a name they take. -/
def deleteStaged (record : ℕ → Option String) (kind : ArtifactKind) (deletedAt : ℤ) (s : Reclaim)
    (name : String) : Reclaim × Option ArtifactError :=
  match s.directory.lookup name with
  | none => (s, some (.missing name))
  | some file =>
    if file.regular = false then (s, some (.notRegular name))
    else if (s.directory.lookup (stagedName name)).isSome then (s, some (.staged name))
    else
      let staged := s.directory.rename name (stagedName name)
      let event := ⟨kind, name, file.contents.length, deletedAt⟩
      match record s.calls.length with
      | some error =>
        (⟨staged.rename (stagedName name) name, s.calls ++ [(event, some error)]⟩,
          some (.record error))
      | none => (⟨staged.erase (stagedName name), s.calls ++ [(event, none)]⟩, none)

def deleteDiagnosticBundle (record : ℕ → Option String) (deletedAt : ℤ) (s : Reclaim)
    (name : String) : Reclaim × Option ArtifactError :=
  if managedDiagnosticBundleName name && !name.toList.contains '/' then
    deleteStaged record .diagnosticBundle deletedAt s name
  else (s, some (.name name))

structure SnapshotStore where
  directory : Directory
  name : String

namespace SnapshotStore

def listArtifacts (store : SnapshotStore) : List LocalArtifact :=
  match store.directory.lookup store.name with
  | some file => if file.regular then [file.artifact store.name] else []
  | none => []

def deleteArtifact (store : SnapshotStore) (record : ℕ → Option String) (deletedAt : ℤ)
    (s : Reclaim) (name : String) : Reclaim × Option ArtifactError :=
  if name = store.name && !name.toList.contains '/' then
    deleteStaged record .notificationSnapshot deletedAt s name
  else (s, some (.name name))

end SnapshotStore

def artifactsToReclaim {α : Type} (artifacts : List α) (retentionLimit : ℤ) : List α :=
  let retainedStart := artifacts.length - retentionLimit
  if retainedStart ≤ 0 then [] else artifacts.take retainedStart.toNat

def reclaimEach (delete : Reclaim → String → Reclaim × Option ArtifactError) :
    List LocalArtifact → Reclaim → Reclaim × Option ArtifactError
  | [], s => (s, none)
  | artifact :: artifacts, s =>
    match delete s artifact.name with
    | (t, none) => reclaimEach delete artifacts t
    | (t, some error) => (t, some error)

def reclaimLocalArtifacts (record : ℕ → Option String) (now bundleRetentionLimit : ℤ)
    (store : Option SnapshotStore) (snapshotRetentionLimit : ℤ) (directory : Directory) :
    Reclaim × Option SnapshotStore × Option ArtifactError :=
  if bundleRetentionLimit ≤ 0 ∨ snapshotRetentionLimit ≤ 0 then
    (⟨directory, []⟩, store, some .limits)
  else
    match reclaimEach (deleteDiagnosticBundle record now)
      (artifactsToReclaim (listDiagnosticBundles directory) bundleRetentionLimit)
      ⟨directory, []⟩ with
    | (s, some error) => (s, store, some error)
    | (s, none) =>
      match store with
      | none => (s, none, none)
      | some store =>
        let (t, error) := reclaimEach (store.deleteArtifact record now)
          (artifactsToReclaim store.listArtifacts snapshotRetentionLimit) ⟨store.directory, s.calls⟩
        (⟨s.directory, t.calls⟩, some { store with directory := t.directory }, error)

end DbsMonitor
