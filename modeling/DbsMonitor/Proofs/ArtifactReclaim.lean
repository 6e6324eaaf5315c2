import DbsMonitor.LocalArtifacts
import Mathlib.Data.Prod.Lex

/-!
# A pass removes the oldest bundles

A deletion changes what the directory has under one name or nothing at all, so the pass takes the
bundles away from the front of the list, up to the first that could not be deleted.
-/

namespace DbsMonitor

open Listing

variable {record : ℕ → Option String} {now : ℤ} {s : Reclaim} {name : String}

def LocalArtifact.ageKey (artifact : LocalArtifact) : ℤ ×ₗ String :=
  toLex (artifact.modifiedAt, artifact.name)

theorem LocalArtifact.older_iff {left right : LocalArtifact} :
    left.older right = true ↔ left.ageKey < right.ageKey := by
  rw [ageKey, ageKey, Prod.Lex.toLex_lt_toLex, older]
  by_cases h : left.modifiedAt = right.modifiedAt <;> simp [h]

/-- The managed regular files of the directory, the oldest first. -/
structure OldestFirst (directory : Directory) (bundles : List LocalArtifact) : Prop where
  older : bundles.Pairwise fun left right => left.older right = true
  names : (bundles.map LocalArtifact.name).Nodup
  mem_iff : ∀ bundle, bundle ∈ bundles ↔ managedDiagnosticBundleName bundle.name = true
    ∧ ∃ file, directory.lookup bundle.name = some file ∧ file.regular = true
      ∧ file.artifact bundle.name = bundle

theorem oldestFirst_listDiagnosticBundles (directory : Directory) :
    OldestFirst directory (listDiagnosticBundles directory) := by
  set rows := directory.entries.filterMap fun entry =>
    if managedDiagnosticBundleName entry.1 && entry.2.regular then some (entry.2.artifact entry.1)
    else none with hrows
  have hnames : (rows.map LocalArtifact.name).Nodup := by
    refine List.pairwise_map.mpr (List.Pairwise.filterMap _
      (fun entry entry' hne bundle hbundle bundle' hbundle' => ?_)
      (List.pairwise_map.mp directory.nodupKeys))
    split_ifs at hbundle hbundle'
    cases hbundle
    cases hbundle'
    exact hne
  have hkeys : (rows.map LocalArtifact.ageKey).Nodup :=
    List.Nodup.map_on (fun bundle hbundle bundle' hbundle' heq =>
      List.inj_on_of_nodup_map hnames hbundle hbundle' (Prod.ext_iff.mp (toLex.injective heq)).2)
      hnames.of_map
  have hlisted : Listed (fun left right : LocalArtifact => left.older right = true) rows
      (listDiagnosticBundles directory) :=
    listed_insertionSort LocalArtifact.ageKey (fun _ _ => LocalArtifact.older_iff)
      (fun _ _ => Iff.rfl) hkeys
  refine ⟨hlisted.2, (hlisted.1.map _).nodup_iff.mpr hnames, fun bundle => ?_⟩
  rw [hlisted.1.mem_iff, hrows, List.mem_filterMap]
  constructor
  · rintro ⟨⟨name, file⟩, hmem, hbundle⟩
    split_ifs at hbundle with hmanaged
    cases hbundle
    rw [Bool.and_eq_true] at hmanaged
    exact ⟨hmanaged.1, file, AList.mem_lookup_iff.mpr hmem, hmanaged.2, rfl⟩
  · rintro ⟨hmanaged, file, hlookup, hregular, hbundle⟩
    refine ⟨⟨bundle.name, file⟩, AList.mem_lookup_iff.mp hlookup, ?_⟩
    rw [if_pos (by rw [hmanaged, hregular]; rfl), hbundle]

theorem OldestFirst.unique {directory : Directory} {bundles bundles' : List LocalArtifact}
    (h : OldestFirst directory bundles) (h' : OldestFirst directory bundles') :
    bundles = bundles' := by
  refine Listed.unique (fun left right hlt hgt => ?_) ⟨.refl _, h.older⟩ ⟨?_, h'.older⟩
  · exact lt_asymm (LocalArtifact.older_iff.mp hlt) (LocalArtifact.older_iff.mp hgt)
  · rw [List.perm_ext_iff_of_nodup h'.names.of_map h.names.of_map]
    exact fun bundle => by rw [h.mem_iff, h'.mem_iff]

theorem stagedName_ne (name : String) : stagedName name ≠ name := by
  intro h
  have hlength := congrArg String.length h
  simp only [stagedName, String.length_append] at hlength
  have hdot : ".".length = 1 := rfl
  omega

def recorded (calls : List (ReclamationEvent × Option String)) : List String :=
  (calls.filter fun call => call.2.isNone).map fun call => call.1.artifactName

/-- The file is gone and its deletion recorded, or all files are there and at most a failure of the
recorder for this file was added. -/
inductive Deletes (s : Reclaim) (name : String) : Reclaim × Option ArtifactError → Prop
  | deleted (t : Reclaim) (event : ReclamationEvent) (hname : event.artifactName = name)
      (hfiles : ∀ other, t.directory.lookup other
        = if other = name then none else s.directory.lookup other)
      (hcalls : t.calls = s.calls ++ [(event, none)]) : Deletes s name (t, none)
  | failed (t : Reclaim) (error : ArtifactError)
      (hfiles : ∀ other, t.directory.lookup other = s.directory.lookup other)
      (failures : List (ReclamationEvent × Option String))
      (hfailures : ∀ call ∈ failures, call.1.artifactName = name ∧ call.2.isNone = false)
      (hcalls : t.calls = s.calls ++ failures) : Deletes s name (t, some error)

theorem Deletes.none (error : ArtifactError) : Deletes s name (s, some error) :=
  .failed s error (fun _ => rfl) [] (by simp) (by simp)

theorem deletes_deleteStaged (kind : ArtifactKind) :
    Deletes s name (deleteStaged record kind now s name) := by
  unfold deleteStaged
  split
  · exact .none _
  rename_i file hfile
  split_ifs with hregular hstaged
  · exact .none _
  · exact .none _
  have hfree : s.directory.lookup (stagedName name) = none := by simpa using hstaged
  have hrename : s.directory.rename name (stagedName name)
      = (s.directory.erase name).insert (stagedName name) file := by
    rw [Directory.rename, hfile]
  -- the file under another name, which was free
  have hmoved : ∀ other,
      ((s.directory.rename name (stagedName name)).erase (stagedName name)).lookup other
        = if other = name then none else s.directory.lookup other := by
    intro other
    rw [hrename]
    by_cases hother : other = stagedName name
    · rw [hother, AList.lookup_erase, if_neg (stagedName_ne name), hfree]
    · rw [AList.lookup_erase_ne hother, AList.lookup_insert_ne hother]
      split_ifs with hname
      · rw [hname, AList.lookup_erase]
      · exact AList.lookup_erase_ne hname
  dsimp only
  split
  · refine .failed _ _ (fun other => ?_) _ ?_ rfl
    · have hback : (s.directory.rename name (stagedName name)).lookup (stagedName name)
          = some file := by
        rw [hrename, AList.lookup_insert]
      rw [Directory.rename, hback]
      by_cases hother : other = name
      · rw [hother, AList.lookup_insert, hfile]
      · rw [AList.lookup_insert_ne hother, hmoved, if_neg hother]
    · simp
  · exact .deleted _ _ rfl hmoved rfl

theorem deletes_deleteDiagnosticBundle :
    Deletes s name (deleteDiagnosticBundle record now s name) := by
  unfold deleteDiagnosticBundle
  split_ifs
  · exact deletes_deleteStaged _
  · exact .none _

/-- The first `n` of the artifacts are gone, and the recorder failed for no other than the next. -/
structure RemovesFirst (n : ℕ) (artifacts : List LocalArtifact) (s t : Reclaim) : Prop where
  le_length : n ≤ artifacts.length
  lookup : ∀ name, t.directory.lookup name
    = if name ∈ (artifacts.take n).map LocalArtifact.name then none else s.directory.lookup name
  recorded : recorded t.calls = recorded s.calls ++ (artifacts.take n).map LocalArtifact.name
  failed : ∀ call ∈ t.calls, call.2.isNone = false → call ∈ s.calls
    ∨ ∃ artifact, artifacts[n]? = some artifact ∧ call.1.artifactName = artifact.name

theorem exists_removesFirst : ∀ (artifacts : List LocalArtifact) (s : Reclaim),
    ∃ n, RemovesFirst n artifacts s
      (reclaimEach (deleteDiagnosticBundle record now) artifacts s).1
      ∧ ((reclaimEach (deleteDiagnosticBundle record now) artifacts s).2 = none →
        n = artifacts.length)
  | [], s => ⟨0, ⟨le_rfl, by simp [reclaimEach], by simp [reclaimEach],
      fun _ hcall _ => .inl hcall⟩, fun _ => rfl⟩
  | artifact :: artifacts, s => by
    have hdeletes : Deletes s artifact.name (deleteDiagnosticBundle record now s artifact.name) :=
      deletes_deleteDiagnosticBundle
    rw [reclaimEach]
    generalize deleteDiagnosticBundle record now s artifact.name = result at hdeletes ⊢
    cases hdeletes with
    | failed t error hfiles failures hfailures hcalls =>
      refine ⟨0, ⟨Nat.zero_le _, by simpa using hfiles, ?_, fun call hcall hfail => ?_⟩, nofun⟩
      · have hnone : failures.filter (fun call => call.2.isNone) = [] :=
          List.filter_eq_nil_iff.mpr fun call hcall => by simp [(hfailures call hcall).2]
        simp [recorded, hcalls, hnone]
      · rw [hcalls, List.mem_append] at hcall
        exact hcall.imp_right fun hcall => ⟨artifact, rfl, (hfailures call hcall).1⟩
    | deleted t event hname hfiles hcalls =>
      obtain ⟨n, h, hall⟩ := exists_removesFirst artifacts t
      refine ⟨n + 1, ⟨Nat.succ_le_succ h.le_length, fun name => ?_, ?_, fun call hcall hfail => ?_⟩,
        fun hnone => congrArg (· + 1) (hall hnone)⟩
      · rw [h.lookup, hfiles, List.take_succ_cons, List.map_cons]
        by_cases hsame : name = artifact.name <;> simp [hsame]
      · rw [h.recorded, hcalls, List.take_succ_cons, List.map_cons]
        simp [recorded, hname]
      · refine (h.failed call hcall hfail).imp_left fun hmem => ?_
        rw [hcalls, List.mem_append, List.mem_singleton] at hmem
        refine hmem.resolve_right fun heq => ?_
        rw [heq] at hfail
        cases hfail

theorem artifactsToReclaim_eq_take {α : Type} (artifacts : List α) {limit : ℤ} (h : 0 < limit) :
    artifactsToReclaim artifacts limit = artifacts.take (artifacts.length - limit.toNat) := by
  unfold artifactsToReclaim
  dsimp only
  split_ifs with hfew
  · rw [show artifacts.length - limit.toNat = 0 by omega, List.take_zero]
  · rw [show (artifacts.length - limit).toNat = artifacts.length - limit.toNat by omega]

theorem SnapshotStore.artifactsToReclaim_listArtifacts (store : SnapshotStore) {limit : ℤ}
    (h : 0 < limit) : artifactsToReclaim store.listArtifacts limit = [] := by
  have hone : store.listArtifacts.length ≤ 1 := by
    unfold SnapshotStore.listArtifacts
    split
    · split_ifs <;> simp
    · simp
  rw [artifactsToReclaim_eq_take _ h, show _ - limit.toNat = 0 by omega, List.take_zero]

theorem reclaimLocalArtifacts_eq {directory : Directory} {store : Option SnapshotStore}
    {limit snapshotLimit : ℤ} (hlimit : 0 < limit) (hsnapshot : 0 < snapshotLimit) :
    let pass := reclaimEach (deleteDiagnosticBundle record now)
      ((listDiagnosticBundles directory).take
        ((listDiagnosticBundles directory).length - limit.toNat)) ⟨directory, []⟩
    reclaimLocalArtifacts record now limit store snapshotLimit directory
      = (pass.1, store, pass.2) := by
  dsimp only
  rw [reclaimLocalArtifacts, if_neg (by omega), artifactsToReclaim_eq_take _ hlimit]
  generalize reclaimEach _ _ _ = pass
  obtain ⟨t, error⟩ := pass
  cases error with
  | some error => rfl
  | none =>
    cases store with
    | none => rfl
    | some store => simp only [store.artifactsToReclaim_listArtifacts hsnapshot, reclaimEach]

/-- The first `n` bundles are gone, and nothing else. -/
structure ReclaimsOldest (before : Directory) (limit n : ℕ) (after : Reclaim)
    (error : Option ArtifactError) : Prop where
  newest : n ≤ (listDiagnosticBundles before).length - limit
  lookup : ∀ name, after.directory.lookup name
    = if name ∈ ((listDiagnosticBundles before).take n).map LocalArtifact.name then none
      else before.lookup name
  bundles : listDiagnosticBundles after.directory = (listDiagnosticBundles before).drop n
  recorded : recorded after.calls = ((listDiagnosticBundles before).take n).map LocalArtifact.name
  /-- The bundle whose recording failed is the next one, and there as it was. -/
  failed : ∀ call ∈ after.calls, call.2.isNone = false →
    ∃ bundle ∈ (listDiagnosticBundles before)[n]?, call.1.artifactName = bundle.name
      ∧ ∃ file, before.lookup bundle.name = some file
        ∧ after.directory.lookup bundle.name = some file
  limited : error = none → (listDiagnosticBundles after.directory).length ≤ limit

theorem OldestFirst.not_mem_take {directory : Directory} {bundles : List LocalArtifact}
    (h : OldestFirst directory bundles) {n : ℕ} {bundle : LocalArtifact}
    (hbundle : bundle ∈ bundles.drop n) :
    bundle.name ∉ (bundles.take n).map LocalArtifact.name := by
  have hnodup := h.names
  rw [← List.take_append_drop n bundles, List.map_append, List.nodup_append'] at hnodup
  exact fun hmem => hnodup.2.2 hmem (List.mem_map_of_mem hbundle)

theorem OldestFirst.drop {before after : Directory} {bundles : List LocalArtifact} {n : ℕ}
    (h : OldestFirst before bundles)
    (hlookup : ∀ name, after.lookup name
      = if name ∈ (bundles.take n).map LocalArtifact.name then none else before.lookup name) :
    OldestFirst after (bundles.drop n) where
  older := h.older.sublist (List.drop_sublist n bundles)
  names := h.names.sublist ((List.drop_sublist n bundles).map _)
  mem_iff := fun bundle => by
    constructor
    · intro hbundle
      rw [hlookup, if_neg (h.not_mem_take hbundle)]
      exact (h.mem_iff bundle).mp (List.mem_of_mem_drop hbundle)
    · rintro ⟨hmanaged, file, hfile, hregular, hartifact⟩
      rw [hlookup] at hfile
      split_ifs at hfile with htaken
      have hbundle := (h.mem_iff bundle).mpr ⟨hmanaged, file, hfile, hregular, hartifact⟩
      rw [← List.take_append_drop n bundles, List.mem_append] at hbundle
      exact hbundle.resolve_left fun hmem => htaken (List.mem_map_of_mem hmem)

theorem RemovesFirst.reclaimsOldest {before : Directory} {limit n : ℕ} {after : Reclaim}
    {error : Option ArtifactError}
    (h : RemovesFirst n ((listDiagnosticBundles before).take
      ((listDiagnosticBundles before).length - limit)) ⟨before, []⟩ after)
    (hall : error = none → n = ((listDiagnosticBundles before).take
      ((listDiagnosticBundles before).length - limit)).length) :
    ReclaimsOldest before limit n after error := by
  have holdest := oldestFirst_listDiagnosticBundles before
  set listed := listDiagnosticBundles before
  have hle := h.le_length
  rw [List.length_take, Nat.min_eq_left (Nat.sub_le _ _)] at hle hall
  have hlookup := h.lookup
  have hrecorded := h.recorded
  rw [List.take_take, Nat.min_eq_left hle] at hlookup hrecorded
  have hbundles : listDiagnosticBundles after.directory = listed.drop n :=
    (oldestFirst_listDiagnosticBundles _).unique (holdest.drop hlookup)
  refine ⟨hle, hlookup, hbundles, hrecorded, fun call hcall hfail => ?_, fun hnone => ?_⟩
  · obtain ⟨bundle, hnext, hname⟩ := (h.failed call hcall hfail).resolve_left List.not_mem_nil
    rw [List.getElem?_take] at hnext
    split_ifs at hnext
    have hdrop : bundle ∈ listed.drop n := by
      refine List.mem_of_getElem? (i := 0) ?_
      rw [List.getElem?_drop, Nat.add_zero, hnext]
    obtain ⟨-, file, hfile, -⟩ := (holdest.mem_iff bundle).mp (List.mem_of_mem_drop hdrop)
    refine ⟨bundle, hnext, hname, file, hfile, ?_⟩
    rw [hlookup, if_neg (holdest.not_mem_take hdrop), hfile]
  · rw [hbundles, List.length_drop, hall hnone]
    omega

end DbsMonitor
