import DbsMonitor.Filling
import DbsMonitor.Grouping
import DbsMonitor.TriggerSessions

/-!
# A trigger snapshot keeps whole groups

The PIDs of a list are distinct, so the search by PID finds the sessions a matching one reaches
(`mem_related`). The loop over the sorted groups is a filling with them (`foldl_select`): each group
is taken whole or exceeds the limit.
-/

namespace DbsMonitor

/-- From a session to one it waits for, and outside the scope of lock waits to one that waits for
it. -/
def TriggerSnapshotScope.Follows (scope : TriggerSnapshotScope) (a b : TriggerSession) : Prop :=
  b.pid ∈ a.blockingPIDs ∨ scope ≠ .lockBlocking ∧ a.pid ∈ b.blockingPIDs

def InGroup (scope : TriggerSnapshotScope) (sessions : List TriggerSession) :
    TriggerSession → TriggerSession → Prop :=
  Relation.ReflTransGen fun a b => b ∈ sessions ∧ scope.Follows a b

section Graph

variable {scope : TriggerSnapshotScope} {sessions : List TriggerSession}

theorem InGroup.mem {root session : TriggerSession} (h : InGroup scope sessions root session)
    (hroot : root ∈ sessions) : session ∈ sessions := by
  induction h with
  | refl => exact hroot
  | tail _ hedge _ => exact hedge.1

variable (hpids : (sessions.map (·.pid)).Nodup)

include hpids

theorem eq_of_pid_eq {a b : TriggerSession} (ha : a ∈ sessions) (hb : b ∈ sessions)
    (h : a.pid = b.pid) : a = b :=
  List.inj_on_of_nodup_map hpids ha hb h

theorem sessionsByPID_eq_some {pid : ℤ} {session : TriggerSession} :
    sessionsByPID sessions pid = some session ↔ session ∈ sessions ∧ session.pid = pid := by
  constructor
  · intro h
    have hmem := List.mem_of_getLast? h
    rwa [List.mem_filter, decide_eq_true_eq] at hmem
  · rintro ⟨hmem, rfl⟩
    have hfilter : sessions.filter (fun other => other.pid = session.pid) = [session] := by
      refine Grouping.filter_eq_singleton hpids.of_map hmem fun other hother => ?_
      rw [decide_eq_true_eq]
      exact ⟨eq_of_pid_eq hpids hother hmem, fun h => by rw [h]⟩
    rw [sessionsByPID, hfilter]
    rfl

omit hpids in
theorem mem_waiterPIDsByBlocker {pid blockerPID : ℤ} :
    pid ∈ waiterPIDsByBlocker sessions blockerPID
      ↔ ∃ session ∈ sessions, blockerPID ∈ session.blockingPIDs ∧ session.pid = pid := by
  simp only [waiterPIDsByBlocker, List.mem_flatMap, List.mem_map, List.mem_filter,
    decide_eq_true_eq]
  constructor
  · rintro ⟨session, hsession, _, ⟨hblocker, rfl⟩, rfl⟩
    exact ⟨session, hsession, hblocker, rfl⟩
  · rintro ⟨session, hsession, hblocker, rfl⟩
    exact ⟨session, hsession, blockerPID, ⟨hblocker, rfl⟩, rfl⟩

theorem edge_iff {a : TriggerSession} (ha : a ∈ sessions) {pid : ℤ} :
    (relatedSessions scope sessions).Edge a.pid pid
      ↔ ∃ b ∈ sessions, b.pid = pid ∧ scope.Follows a b := by
  have hlookup : sessionsByPID sessions a.pid = some a :=
    (sessionsByPID_eq_some hpids).mpr ⟨ha, rfl⟩
  simp only [GraphSearch.Graph.Edge, relatedSessions, hlookup, Option.map_some,
    Option.some.injEq, exists_eq_left', Option.isSome_map, Option.isSome_iff_exists,
    sessionsByPID_eq_some hpids, List.mem_append]
  constructor
  · rintro ⟨hnext, b, hb, rfl⟩
    refine ⟨b, hb, rfl, hnext.imp_right fun hwaiter => ?_⟩
    split_ifs at hwaiter with hscope
    · obtain ⟨waiter, hwaiter, hblocker, hpid⟩ := mem_waiterPIDsByBlocker.mp hwaiter
      exact ⟨hscope, eq_of_pid_eq hpids hwaiter hb hpid ▸ hblocker⟩
    · simp at hwaiter
  · rintro ⟨b, hb, rfl, hfollows⟩
    refine ⟨hfollows.imp_right fun hwaits => ?_, b, hb, rfl⟩
    rw [if_pos hwaits.1]
    exact mem_waiterPIDsByBlocker.mpr ⟨b, hb, hwaits.2, rfl⟩

theorem reaches_iff {root : TriggerSession} (hroot : root ∈ sessions) {pid : ℤ} :
    Relation.ReflTransGen (relatedSessions scope sessions).Edge root.pid pid
      ↔ ∃ session, InGroup scope sessions root session ∧ session.pid = pid := by
  constructor
  · intro h
    induction h with
    | refl => exact ⟨root, .refl, rfl⟩
    | tail _ hedge ih =>
      obtain ⟨a, ha, rfl⟩ := ih
      obtain ⟨b, hb, hpid, hfollows⟩ := (edge_iff hpids (ha.mem hroot)).mp hedge
      exact ⟨b, ha.tail ⟨hb, hfollows⟩, hpid⟩
  · rintro ⟨session, hsession, rfl⟩
    induction hsession with
    | refl => exact .refl
    | @tail a b ha hedge ih =>
      exact ih.tail ((edge_iff hpids (InGroup.mem ha hroot)).mpr ⟨b, hedge.1, rfl, hedge.2⟩)

theorem mem_related {root : TriggerSession} (hroot : root ∈ sessions) {pid : ℤ} :
    pid ∈ relatedTriggerSessionPIDs scope root.pid sessions
      ↔ ∃ session, InGroup scope sessions root session ∧ session.pid = pid := by
  have hlookup : sessionsByPID sessions root.pid = some root :=
    (sessionsByPID_eq_some hpids).mpr ⟨hroot, rfl⟩
  rw [relatedTriggerSessionPIDs, List.mem_insertionSort, GraphSearch.Graph.mem_search,
    reaches_iff hpids hroot]
  simp [relatedSessions, hlookup]

theorem pid_mem_related {root session : TriggerSession} (hroot : root ∈ sessions)
    (hsession : session ∈ sessions) :
    session.pid ∈ relatedTriggerSessionPIDs scope root.pid sessions
      ↔ InGroup scope sessions root session := by
  rw [mem_related hpids hroot]
  constructor
  · rintro ⟨other, hother, hpid⟩
    exact eq_of_pid_eq hpids (hother.mem hroot) hsession hpid ▸ hother
  · exact fun h => ⟨session, h, rfl⟩

theorem length_filter_pid {pids : Finset ℤ} (hlisted : ∀ pid ∈ pids, ∃ session ∈ sessions,
    session.pid = pid) :
    (sessions.filter fun session => session.pid ∈ pids).length = pids.card := by
  have hnodup : ((sessions.filter fun session => session.pid ∈ pids).map (·.pid)).Nodup :=
    hpids.sublist (List.filter_sublist.map _)
  rw [← List.length_map (·.pid), ← List.toFinset_card_of_nodup hnodup]
  congr 1
  ext pid
  simp only [List.mem_toFinset, List.mem_map, List.mem_filter, decide_eq_true_eq]
  constructor
  · rintro ⟨session, ⟨-, hpid⟩, rfl⟩
    exact hpid
  · intro hpid
    obtain ⟨session, hsession, rfl⟩ := hlisted pid hpid
    exact ⟨session, ⟨hsession, hpid⟩, rfl⟩

end Graph

namespace SessionGroup

theorem addTo_eq (group : SessionGroup) (pids : Finset ℤ) :
    group.addTo pids = pids ∪ group.pids.toFinset := by
  unfold addTo
  generalize group.pids = added
  induction added generalizing pids with
  | nil => simp
  | cons pid added ih =>
    rw [List.foldl_cons, ih]
    ext
    simp

theorem length_additional (selected : Finset ℤ) {pids : List ℤ} (hnodup : pids.Nodup) :
    selected.card + (pids.filter fun pid => pid ∉ selected).length
      = (selected ∪ pids.toFinset).card := by
  have hadditional : (pids.filter fun pid => pid ∉ selected).length
      = (pids.toFinset \ selected).card := by
    rw [← List.toFinset_card_of_nodup (hnodup.filter _)]
    congr 1
    ext
    simp
  rw [hadditional, Finset.union_comm, ← Finset.card_sdiff_add_card, Nat.add_comm]

theorem select_eq {limit : ℤ} (hlimit : 0 < limit) (selected : Finset ℤ) {group : SessionGroup}
    (hnodup : group.pids.Nodup) :
    select limit selected group = Filling.take limit.toNat selected group.pids.toFinset := by
  have hlength := length_additional selected hnodup
  simp only [select, Filling.take, addTo_eq]
  split_ifs with hover hover' hover'
  · rfl
  · omega
  · omega
  · rfl

end SessionGroup

theorem foldl_select {limit : ℤ} (hlimit : 0 < limit) :
    ∀ (groups : List SessionGroup) (selected : Finset ℤ), (∀ group ∈ groups, group.pids.Nodup) →
      groups.foldl (SessionGroup.select limit) selected
        = Filling.fill limit.toNat selected (groups.map fun group => group.pids.toFinset)
  | [], _, _ => rfl
  | group :: groups, selected, hnodup => by
    rw [List.foldl_cons, SessionGroup.select_eq hlimit selected (hnodup group (by simp)),
      foldl_select hlimit groups _ fun other hother => hnodup other (List.mem_cons_of_mem _ hother)]
    rfl

theorem mem_foldl_addTo {pid : ℤ} : ∀ (groups : List SessionGroup) (pids : Finset ℤ),
    pid ∈ groups.foldl (fun pids group => group.addTo pids) pids
      ↔ pid ∈ pids ∨ ∃ group ∈ groups, pid ∈ group.pids
  | [], pids => by simp
  | group :: groups, pids => by
    rw [List.foldl_cons, mem_foldl_addTo groups, SessionGroup.addTo_eq]
    simp [or_assoc]

theorem mem_sortedGroups {groups : List SessionGroup} {group : SessionGroup} :
    group ∈ sortedGroups groups ↔ group ∈ groups :=
  (List.perm_insertionSort _ _).mem_iff

theorem mem_sessionGroups {scope : TriggerSnapshotScope} {sessions : List TriggerSession}
    {group : SessionGroup} :
    group ∈ sessionGroups scope sessions
      ↔ ∃ root ∈ sessions, root.directMatch
        ∧ group = ⟨root.pid, relatedTriggerSessionPIDs scope root.pid sessions⟩ := by
  simp only [sessionGroups, List.mem_map, List.mem_filter, and_assoc]
  constructor
  · rintro ⟨root, hroot, hmatch, rfl⟩
    exact ⟨root, hroot, hmatch, rfl⟩
  · rintro ⟨root, hroot, hmatch, rfl⟩
    exact ⟨root, hroot, hmatch, rfl⟩

theorem nodup_related (scope : TriggerSnapshotScope) (rootPID : ℤ)
    (sessions : List TriggerSession) :
    (relatedTriggerSessionPIDs scope rootPID sessions).Nodup :=
  (List.perm_insertionSort _ _).nodup_iff.mpr (GraphSearch.Graph.nodup_search _ _ List.nodup_nil)

def groupSets (scope : TriggerSnapshotScope) (sessions : List TriggerSession) :
    List (Finset ℤ) :=
  (sortedGroups (sessionGroups scope sessions)).map fun group => group.pids.toFinset

theorem mem_groupSets {scope : TriggerSnapshotScope} {sessions : List TriggerSession}
    {pids : Finset ℤ} :
    pids ∈ groupSets scope sessions
      ↔ ∃ root ∈ sessions, root.directMatch
        ∧ pids = (relatedTriggerSessionPIDs scope root.pid sessions).toFinset := by
  simp only [groupSets, List.mem_map, mem_sortedGroups, mem_sessionGroups]
  constructor
  · rintro ⟨group, ⟨root, hroot, hmatch, rfl⟩, rfl⟩
    exact ⟨root, hroot, hmatch, rfl⟩
  · rintro ⟨root, hroot, hmatch, rfl⟩
    exact ⟨_, ⟨root, hroot, hmatch, rfl⟩, rfl⟩

def relevantPIDs (scope : TriggerSnapshotScope) (sessions : List TriggerSession) : Finset ℤ :=
  (sessionGroups scope sessions).foldl (fun pids group => group.addTo pids) ∅

def selectedPIDs (scope : TriggerSnapshotScope) (sessions : List TriggerSession) (limit : ℤ) :
    Finset ℤ :=
  Filling.fill limit.toNat ∅ (groupSets scope sessions)

theorem selectTriggerSessions_eq {scope : TriggerSnapshotScope} {sessions : List TriggerSession}
    {limit : ℤ} (hscope : scope ≠ .activeSessions) (hlimit : 0 < limit) :
    selectTriggerSessions scope sessions limit
      = { selected := sessions.filter fun session =>
            session.pid ∈ selectedPIDs scope sessions limit
          originalMatchCount := (relevantPIDs scope sessions).card
          truncated := (sessions.filter fun session =>
            session.pid ∈ selectedPIDs scope sessions limit).length
              < (relevantPIDs scope sessions).card } := by
  have hnodup : ∀ group ∈ sortedGroups (sessionGroups scope sessions), group.pids.Nodup := by
    intro group hgroup
    obtain ⟨root, -, -, rfl⟩ := mem_sessionGroups.mp (mem_sortedGroups.mp hgroup)
    exact nodup_related scope root.pid sessions
  have hselected : (sortedGroups (sessionGroups scope sessions)).foldl
      (SessionGroup.select limit) ∅ = selectedPIDs scope sessions limit :=
    foldl_select hlimit _ _ hnodup
  rw [selectTriggerSessions, if_neg (by omega), if_neg hscope]
  simp only [hselected]
  rfl

def Related (scope : TriggerSnapshotScope) (sessions : List TriggerSession)
    (session : TriggerSession) : Prop :=
  ∃ root ∈ sessions, root.directMatch ∧ InGroup scope sessions root session

open scoped Classical in
structure WholeGroups (scope : TriggerSnapshotScope) (sessions : List TriggerSession) (limit : ℤ)
    (selection : TriggerSelection) : Prop where
  length_le : selection.selected.length ≤ limit
  sublist : selection.selected.Sublist sessions
  union : ∃ roots : List TriggerSession, (∀ root ∈ roots, root ∈ sessions ∧ root.directMatch)
    ∧ ∀ session, session ∈ selection.selected
      ↔ ∃ root ∈ roots, InGroup scope sessions root session
  full : ∀ root ∈ sessions, root.directMatch →
    (∀ session, InGroup scope sessions root session → session ∈ selection.selected)
      ∨ limit < sessions.countP fun session =>
        session ∈ selection.selected ∨ InGroup scope sessions root session
  count : selection.originalMatchCount = sessions.countP (Related scope sessions)
  truncated : selection.truncated
    ↔ ∃ session ∈ sessions, Related scope sessions session ∧ session ∉ selection.selected

section Selection

variable {scope : TriggerSnapshotScope} {sessions : List TriggerSession} {limit : ℤ}
  (hpids : (sessions.map (·.pid)).Nodup)

include hpids

theorem pid_mem_relevantPIDs {session : TriggerSession} (hsession : session ∈ sessions) :
    session.pid ∈ relevantPIDs scope sessions ↔ Related scope sessions session := by
  rw [relevantPIDs, mem_foldl_addTo]
  simp only [Finset.notMem_empty, false_or, mem_sessionGroups]
  constructor
  · rintro ⟨_, ⟨root, hroot, hmatch, rfl⟩, hpid⟩
    exact ⟨root, hroot, hmatch, (pid_mem_related hpids hroot hsession).mp hpid⟩
  · rintro ⟨root, hroot, hmatch, hgroup⟩
    exact ⟨_, ⟨root, hroot, hmatch, rfl⟩, (pid_mem_related hpids hroot hsession).mpr hgroup⟩

theorem relevantPIDs_listed {pid : ℤ} (h : pid ∈ relevantPIDs scope sessions) :
    ∃ session ∈ sessions, session.pid = pid := by
  rw [relevantPIDs, mem_foldl_addTo] at h
  simp only [Finset.notMem_empty, false_or, mem_sessionGroups] at h
  obtain ⟨_, ⟨root, hroot, -, rfl⟩, hpid⟩ := h
  obtain ⟨session, hgroup, hpid⟩ := (mem_related hpids hroot).mp hpid
  exact ⟨session, hgroup.mem hroot, hpid⟩

omit hpids in
theorem selectedPIDs_subset : selectedPIDs scope sessions limit ⊆ relevantPIDs scope sessions := by
  intro pid hpid
  obtain ⟨taken, hsublist, hmem⟩ :=
    @Filling.exists_taken _ _ limit.toNat (groupSets scope sessions) ∅
  obtain ⟨group, hgroup, hpid⟩ : ∃ group ∈ taken, pid ∈ group := by
    simpa using (hmem pid).mp hpid
  obtain ⟨root, hroot, hmatch, rfl⟩ := mem_groupSets.mp (hsublist.subset hgroup)
  rw [relevantPIDs, mem_foldl_addTo]
  exact .inr ⟨_, mem_sessionGroups.mpr ⟨root, hroot, hmatch, rfl⟩, List.mem_toFinset.mp hpid⟩

theorem exists_roots (limit : ℤ) : ∃ roots : List TriggerSession,
    (∀ root ∈ roots, root ∈ sessions ∧ root.directMatch)
      ∧ ∀ session ∈ sessions, session.pid ∈ selectedPIDs scope sessions limit
        ↔ ∃ root ∈ roots, InGroup scope sessions root session := by
  obtain ⟨taken, hsublist, hmem⟩ :=
    @Filling.exists_taken _ _ limit.toNat (groupSets scope sessions) ∅
  refine ⟨sessions.filter fun root => root.directMatch
    ∧ (relatedTriggerSessionPIDs scope root.pid sessions).toFinset ∈ taken,
    fun root hroot => ?_, fun session hsession => ?_⟩
  · simp only [List.mem_filter, decide_eq_true_eq] at hroot
    exact ⟨hroot.1, hroot.2.1⟩
  · rw [selectedPIDs, hmem]
    simp only [Finset.notMem_empty, false_or, List.mem_filter, decide_eq_true_eq]
    constructor
    · rintro ⟨group, hgroup, hpid⟩
      obtain ⟨root, hroot, hmatch, rfl⟩ := mem_groupSets.mp (hsublist.subset hgroup)
      exact ⟨root, ⟨hroot, hmatch, hgroup⟩,
        (pid_mem_related hpids hroot hsession).mp (List.mem_toFinset.mp hpid)⟩
    · rintro ⟨root, ⟨hroot, -, hgroup⟩, hsession'⟩
      exact ⟨_, hgroup, List.mem_toFinset.mpr
        ((pid_mem_related hpids hroot hsession).mpr hsession')⟩

end Selection

theorem trigger_sessions_keep_whole_groups {scope : TriggerSnapshotScope}
    {sessions : List TriggerSession} {limit : ℤ} (hscope : scope ≠ .activeSessions)
    (hpids : (sessions.map (·.pid)).Nodup) (hlimit : 0 < limit) :
    WholeGroups scope sessions limit (selectTriggerSessions scope sessions limit) := by
  classical
  rw [selectTriggerSessions_eq hscope hlimit]
  have hlisted : ∀ pid ∈ selectedPIDs scope sessions limit, ∃ session ∈ sessions,
      session.pid = pid := fun pid hpid =>
    relevantPIDs_listed hpids (selectedPIDs_subset hpid)
  have hlength := length_filter_pid hpids hlisted
  have hrelevant : ∀ pid ∈ relevantPIDs scope sessions, ∃ session ∈ sessions,
      session.pid = pid := fun pid hpid => relevantPIDs_listed hpids hpid
  constructor
  case length_le =>
    have hcard : (selectedPIDs scope sessions limit).card ≤ limit.toNat :=
      Filling.card_fill_le _ (by simp)
    rw [hlength]
    omega
  case sublist => exact List.filter_sublist
  case union =>
    obtain ⟨roots, hroots, hmem⟩ := exists_roots hpids limit
    refine ⟨roots, hroots, fun session => ?_⟩
    rw [List.mem_filter, decide_eq_true_eq]
    constructor
    · exact fun h => (hmem session h.1).mp h.2
    · rintro ⟨root, hroot, hgroup⟩
      have hsession := hgroup.mem (hroots root hroot).1
      exact ⟨hsession, (hmem session hsession).mpr ⟨root, hroot, hgroup⟩⟩
  case full =>
    intro root hroot hmatch
    let group := (relatedTriggerSessionPIDs scope root.pid sessions).toFinset
    have hgroup : group ∈ groupSets scope sessions :=
      mem_groupSets.mpr ⟨root, hroot, hmatch, rfl⟩
    have hmem {session : TriggerSession} (hsession : session ∈ sessions) :
        session.pid ∈ group ↔ InGroup scope sessions root session := by
      rw [List.mem_toFinset, pid_mem_related hpids hroot hsession]
    rcases @Filling.subset_fill_or_lt_card _ _ limit.toNat _ ∅ _ hgroup with htaken | hover
    · refine .inl fun session hsession => ?_
      have hlisted := hsession.mem hroot
      exact List.mem_filter.mpr ⟨hlisted, decide_eq_true (htaken ((hmem hlisted).mpr hsession))⟩
    · rw [← selectedPIDs] at hover
      have hunion : ∀ pid ∈ selectedPIDs scope sessions limit ∪ group, ∃ session ∈ sessions,
          session.pid = pid := by
        intro pid hpid
        rcases Finset.mem_union.mp hpid with hpid | hpid
        · exact hlisted pid hpid
        · obtain ⟨session, hsession, hpid⟩ :=
            (mem_related hpids hroot).mp (List.mem_toFinset.mp hpid)
          exact ⟨session, hsession.mem hroot, hpid⟩
      -- the sessions of the selection and of the group are counted by their PIDs
      rw [← length_filter_pid hpids hunion, ← List.countP_eq_length_filter] at hover
      have hlimit : limit < (sessions.countP fun session =>
          session.pid ∈ selectedPIDs scope sessions limit ∪ group : ℕ) := by omega
      refine .inr (hlimit.trans_eq (congrArg _ ?_))
      refine List.countP_congr fun session hsession => ?_
      simp [hsession, hmem hsession]
  case count =>
    rw [← length_filter_pid hpids hrelevant, ← List.countP_eq_length_filter]
    exact List.countP_congr fun session hsession => by
      simpa using pid_mem_relevantPIDs hpids hsession
  case truncated =>
    rw [hlength, decide_eq_true_eq]
    constructor
    · intro hlt
      obtain ⟨pid, hpid, hleft⟩ := Finset.exists_mem_notMem_of_card_lt_card hlt
      obtain ⟨session, hsession, rfl⟩ := hrelevant pid hpid
      refine ⟨session, hsession, (pid_mem_relevantPIDs hpids hsession).mp hpid, fun h => hleft ?_⟩
      simpa using (List.mem_filter.mp h).2
    · rintro ⟨session, hsession, hrelated, hleft⟩
      refine Finset.card_lt_card ⟨selectedPIDs_subset, fun hsubset => hleft ?_⟩
      refine List.mem_filter.mpr ⟨hsession, decide_eq_true (hsubset ?_)⟩
      exact (pid_mem_relevantPIDs hpids hsession).mpr hrelated

/-- Two sessions wait for each other and one of them for a session that is not listed; a third one
that matches alone does not fit any more. -/
theorem trigger_sessions_keep_cycle :
    WholeGroups .lockBlocking [⟨1, [], true⟩, ⟨2, [3, 9], true⟩, ⟨3, [2], false⟩] 2
        (selectTriggerSessions .lockBlocking
          [⟨1, [], true⟩, ⟨2, [3, 9], true⟩, ⟨3, [2], false⟩] 2)
      ∧ selectTriggerSessions .lockBlocking
          [⟨1, [], true⟩, ⟨2, [3, 9], true⟩, ⟨3, [2], false⟩] 2
        = ⟨[⟨2, [3, 9], true⟩, ⟨3, [2], false⟩], 3, true⟩ :=
  ⟨trigger_sessions_keep_whole_groups (by decide) (by decide) (by decide), by decide +kernel⟩

end DbsMonitor
