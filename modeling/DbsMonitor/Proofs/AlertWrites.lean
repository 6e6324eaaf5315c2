import DbsMonitor.Proofs.AlertSteps

/-!
# What the statements write to the alert tables

The life of an alert is what matters of its row to the lifecycle. Each transaction is described by
what it does to the lives and by the events it appends: one that leaves the lives alone or closes
alerts (`Closes`), and the write of an evaluation (`Writes`, `Saved`).
-/

namespace DbsMonitor

structure Life where
  key : AlertKey
  status : AlertState
  stateBeforeNoData : Option AlertState
  firstTriggeredAt : Option ℤ
  recoveredAt : Option ℤ

def AlertRow.life (row : AlertRow) : Life :=
  { key := row.key, status := row.status, stateBeforeNoData := row.stateBeforeNoData
    firstTriggeredAt := row.firstTriggeredAt, recoveredAt := row.recoveredAt }

def Life.firing (life : Life) : Bool := isFiring life.status (life.stateBeforeNoData.getD .empty)

def Life.close (closedAt : ℤ) (life : Life) : Life :=
  { life with status := .recovered, stateBeforeNoData := none, recoveredAt := some closedAt }

namespace AlertStore

def column {β : Type*} (s : AlertStore) (f : AlertRow → β) (id : AlertId) : Option β :=
  (s.alerts.lookup id).map f

abbrev life (s : AlertStore) : AlertId → Option Life := s.column AlertRow.life

abbrev dispositions (s : AlertStore) : AlertId → Option DispositionColumns :=
  s.column AlertRow.dispositions

section Columns

variable {β : Type*} (s : AlertStore) (f : AlertRow → β) (id : AlertId)

theorem column_insert (row : AlertRow) (s' : AlertStore)
    (h : s'.alerts = s.alerts.insert id row) :
    s'.column f = Function.update (s.column f) id (some (f row)) := by
  funext id'
  unfold column
  rw [h]
  by_cases hid : id' = id
  · subst hid
    rw [AList.lookup_insert, Function.update_self, Option.map_some]
  · rw [AList.lookup_insert_ne hid, Function.update_of_ne hid]

theorem column_updateAlert (g : AlertRow → AlertRow) :
    (s.updateAlert id g).column f = Function.update (s.column f) id (s.column (f ∘ g) id) := by
  unfold updateAlert
  rcases hrow : s.alerts.lookup id with _ | row
  · have hnone : s.column (f ∘ g) id = s.column f id := by simp [column, hrow]
    rw [hnone, Function.update_eq_self]
  · rw [column_insert s f id (g row) _ rfl]
    simp [column, hrow]

theorem column_updateAlert_of_eq {g : AlertRow → AlertRow} (h : ∀ row, f (g row) = f row) :
    (s.updateAlert id g).column f = s.column f := by
  rw [column_updateAlert, show f ∘ g = f from funext h, Function.update_eq_self]

@[simp] theorem updateAlert_nextId (g : AlertRow → AlertRow) :
    (s.updateAlert id g).nextId = s.nextId := by
  unfold updateAlert
  split <;> rfl

@[simp] theorem updateAlert_events (g : AlertRow → AlertRow) :
    (s.updateAlert id g).events = s.events := by
  unfold updateAlert
  split <;> rfl

@[simp] theorem updateAlert_triggerSnapshots (g : AlertRow → AlertRow) :
    (s.updateAlert id g).triggerSnapshots = s.triggerSnapshots := by
  unfold updateAlert
  split <;> rfl

@[simp] theorem updateAlert_performanceEvents (g : AlertRow → AlertRow) :
    (s.updateAlert id g).performanceEvents = s.performanceEvents := by
  unfold updateAlert
  split <;> rfl

end Columns

theorem life_of_entry {s : AlertStore} {id : AlertId} {row : AlertRow}
    (h : (⟨id, row⟩ : Sigma fun _ : AlertId => AlertRow) ∈ s.alerts.entries) :
    s.life id = some row.life := by
  have hlookup : s.alerts.lookup id = some row := AList.mem_lookup_iff.mpr h
  rw [life, column, hlookup, Option.map_some]

theorem entry_of_life {s : AlertStore} {id : AlertId} {life : Life} (h : s.life id = some life) :
    ∃ row, (⟨id, row⟩ : Sigma fun _ : AlertId => AlertRow) ∈ s.alerts.entries
      ∧ row.life = life := by
  obtain ⟨row, hrow, hlife⟩ := Option.map_eq_some_iff.mp h
  exact ⟨row, AList.mem_lookup_iff.mp hrow, hlife⟩

theorem unresolvedAlert_some {s : AlertStore} {key : AlertKey} {id : AlertId}
    (h : s.unresolvedAlert key = some id) :
    ∃ life, s.life id = some life ∧ life.key = key ∧ life.status ≠ .recovered := by
  obtain ⟨⟨id', row⟩, hfind, hid⟩ := Option.map_eq_some_iff.mp h
  dsimp only at hid
  subst hid
  have hrow := List.find?_some hfind
  simp only [AlertRow.unresolved, Bool.and_eq_true, decide_eq_true_eq] at hrow
  exact ⟨row.life, life_of_entry (List.mem_of_find?_eq_some hfind), hrow.1, hrow.2⟩

theorem unresolvedAlert_none {s : AlertStore} {key : AlertKey} (h : s.unresolvedAlert key = none)
    {id : AlertId} {life : Life} (hlife : s.life id = some life) (hkey : life.key = key) :
    life.status = .recovered := by
  obtain ⟨row, hentry, hrow⟩ := entry_of_life hlife
  have hnot := List.find?_eq_none.mp (Option.map_eq_none_iff.mp h) _ hentry
  subst hrow
  by_contra hstatus
  exact hnot (by simpa [AlertRow.unresolved] using ⟨hkey, hstatus⟩)

theorem mem_candidates {s : AlertStore} {key : AlertKey} {id : AlertId} {row : AlertRow} :
    (id, row) ∈ (s.alerts.entries.map fun entry => (entry.1, entry.2)).filter
        (fun entry => entry.2.key = key)
      ↔ (⟨id, row⟩ : Sigma fun _ : AlertId => AlertRow) ∈ s.alerts.entries ∧ row.key = key := by
  rw [List.mem_filter, decide_eq_true_iff]
  refine and_congr_left fun _ => ⟨fun h => ?_, fun h => List.mem_map.mpr ⟨_, h, rfl⟩⟩
  obtain ⟨⟨id', row'⟩, hentry, heq⟩ := List.mem_map.mp h
  cases heq
  exact hentry

theorem candidate_some {s : AlertStore} {key : AlertKey} {id : AlertId} {row : AlertRow}
    (h : s.candidate key = some (id, row)) :
    s.life id = some row.life ∧ row.key = key
      ∧ (row.status = .recovered → ∀ id' life, s.life id' = some life → life.key = key →
        life.status = .recovered) := by
  obtain ⟨hentry, hkey⟩ := mem_candidates.mp (List.argmax_mem h)
  refine ⟨life_of_entry hentry, hkey, ?_⟩
  intro hrecovered id' life hlife hkey'
  obtain ⟨row', hentry', hrow'⟩ := entry_of_life hlife
  subst hrow'
  have hle := List.le_of_mem_argmax (mem_candidates.mpr ⟨hentry', hkey'⟩) h
  by_contra hstatus
  have hresolved : row.unresolved = false := decide_eq_false (not_not_intro hrecovered)
  have hunresolved : row'.unresolved = true := decide_eq_true hstatus
  rw [Prod.Lex.le_iff] at hle
  simp only [hunresolved, hresolved, ofLex_toLex, reduceCtorEq, false_and, or_false] at hle
  exact absurd hle (by decide)

theorem candidate_none {s : AlertStore} {key : AlertKey} (h : s.candidate key = none)
    {id : AlertId} {life : Life} (hlife : s.life id = some life) : life.key ≠ key := by
  intro hkey
  obtain ⟨row, hentry, hrow⟩ := entry_of_life hlife
  subst hrow
  have hmem := mem_candidates.mpr ⟨hentry, hkey⟩
  rw [List.argmax_eq_none.mp h] at hmem
  exact absurd hmem List.not_mem_nil

structure Logs (s t : AlertStore) (id : AlertId) (kinds : List EventKind) : Prop where
  life : t.life = s.life
  dispositions : t.dispositions = s.dispositions
  nextId : t.nextId = s.nextId
  triggerSnapshots : t.triggerSnapshots = s.triggerSnapshots
  performanceEvents : t.performanceEvents = s.performanceEvents
  events : ∃ events, t.events = s.events ++ events
    ∧ (∀ event ∈ events, event.alertInstanceId = id)
    ∧ (events.map AlertEvent.kind).filter EventKind.isLifecycle
      = kinds.filter EventKind.isLifecycle

namespace Logs

variable {s t u : AlertStore} {id : AlertId} {kinds kinds' : List EventKind}

theorem refl : Logs s s id [] :=
  ⟨rfl, rfl, rfl, rfl, rfl, [], by simp⟩

theorem trans (h : Logs s t id kinds) (h' : Logs t u id kinds') :
    Logs s u id (kinds ++ kinds') := by
  obtain ⟨events, hevents, hid, hkinds⟩ := h.events
  obtain ⟨events', hevents', hid', hkinds'⟩ := h'.events
  refine ⟨h'.life.trans h.life, h'.dispositions.trans h.dispositions, h'.nextId.trans h.nextId,
    h'.triggerSnapshots.trans h.triggerSnapshots,
    h'.performanceEvents.trans h.performanceEvents, events ++ events', ?_, ?_, ?_⟩
  · rw [hevents', hevents, List.append_assoc]
  · intro event hevent
    rcases List.mem_append.mp hevent with hevent | hevent
    · exact hid event hevent
    · exact hid' event hevent
  · rw [List.map_append, List.filter_append, List.filter_append, hkinds, hkinds']

theorem congr (h : Logs s t id kinds)
    (hkinds : kinds.filter EventKind.isLifecycle = kinds'.filter EventKind.isLifecycle) :
    Logs s t id kinds' := by
  obtain ⟨events, hevents⟩ := h.events
  exact { h with events := ⟨events, hkinds ▸ hevents⟩ }

theorem createAlertEvent (s : AlertStore) (event : AlertEvent) (hid : event.alertInstanceId = id) :
    Logs s (s.createAlertEvent event) id [event.kind] :=
  ⟨rfl, rfl, rfl, rfl, rfl, [event], by simp [AlertStore.createAlertEvent, hid]⟩

end Logs

theorem logs_recordMaintenanceSuppressed (s : AlertStore) (id : AlertId)
    (windowId : Option String) (evaluatedAt : ℤ) :
    Logs s (s.recordMaintenanceSuppressed id windowId evaluatedAt) id [] := by
  unfold recordMaintenanceSuppressed
  rcases s.alerts.lookup id with _ | row
  · exact .refl
  · have hupdate : Logs s (s.updateAlert id fun row =>
        { row with inMaintenance := true, maintenanceWindowId := windowId }) id [] :=
      ⟨column_updateAlert_of_eq _ _ _ fun _ => rfl, column_updateAlert_of_eq _ _ _ fun _ => rfl,
        by simp, by simp, by simp, [], by simp⟩
    exact (hupdate.trans (.createAlertEvent _ _ rfl)).congr rfl

theorem updateAlertDisposition_spec {s t : AlertStore} {id : AlertId}
    {columns : DispositionColumns} {actorId : String} {actedAt : ℤ}
    (h : s.updateAlertDisposition id columns actorId actedAt = some t) :
    ∃ (dispositions : DispositionColumns) (event : AlertEvent),
      (event.kind = .ignored ∨ event.kind = .acked)
        ∧ t = (s.updateAlert id fun row => { row with dispositions := dispositions }
          ).createAlertEvent event := by
  unfold updateAlertDisposition at h
  obtain ⟨_, -, h⟩ := Option.bind_eq_some_iff.mp h
  obtain ⟨current, -, h⟩ := Option.bind_eq_some_iff.mp h
  obtain ⟨_, -, h⟩ := Option.bind_eq_some_iff.mp h
  cases h
  refine ⟨_, _, ?_, rfl⟩
  dsimp only
  split_ifs
  · exact .inl rfl
  · exact .inr rfl

theorem logs_resetIgnoredMissingAlert (s : AlertStore) (id : AlertId) (columns : AlertColumns) :
    Logs s (s.resetIgnoredMissingAlert id columns) id [] := by
  unfold resetIgnoredMissingAlert
  refine ⟨column_updateAlert_of_eq _ _ _ ?_, column_updateAlert_of_eq _ _ _ ?_, by simp, by simp,
    by simp, [], by simp⟩
  · intro row
    split_ifs <;> rfl
  · intro row
    split_ifs <;> rfl

end AlertStore

open AlertStore

section EvaluateRule

variable (target : EvaluationTargetRow) (found : Findings) (now : ℤ) (current next : Snapshot)

theorem saveEvent_cases (id : AlertId) (snapshotId : Option ℕ) (s : AlertStore)
    (kind : EventKind) :
    kind = .updated ∧ saveEvent target found now current next id snapshotId s kind = s
      ∨ ∃ event : AlertEvent, event.kind = kind ∧ event.alertInstanceId = id
        ∧ event.evaluatedAt = timestamptz now
        ∧ (saveEvent target found now current next id snapshotId s kind = s.createAlertEvent event
          ∨ kind.isLifecycle = true
            ∧ saveEvent target found now current next id snapshotId s kind
              = (s.createAlertEvent event).recordMaintenanceSuppressed id found.maintenance
                now) := by
  unfold saveEvent
  by_cases hupdated : kind = .updated ∧ found.metric.currentValue = none
  · rw [if_pos hupdated]
    exact .inl ⟨hupdated.1, rfl⟩
  · rw [if_neg hupdated]
    dsimp only
    by_cases hsuppressed : (kind = .fired ∨ kind = .recovered) ∧ found.maintenance.isSome
        ∧ found.enqueued
    · have hlifecycle : kind.isLifecycle = true := by
        rcases hsuppressed.1 with rfl | rfl <;> rfl
      rw [if_pos hsuppressed]
      refine .inr ⟨_, ?_, ?_, ?_, .inr ⟨hlifecycle, rfl⟩⟩ <;> rfl
    · rw [if_neg hsuppressed]
      refine .inr ⟨_, ?_, ?_, ?_, .inl rfl⟩ <;> rfl

theorem logs_saveEvent (id : AlertId) (snapshotId : Option ℕ) (s : AlertStore) (kind : EventKind) :
    Logs s (saveEvent target found now current next id snapshotId s kind) id [kind] := by
  rcases saveEvent_cases target found now current next id snapshotId s kind with
    ⟨rfl, hsaved⟩ | ⟨event, rfl, hid, -, hsaved | ⟨-, hsaved⟩⟩
  · rw [hsaved]
    exact Logs.refl.congr rfl
  · rw [hsaved]
    exact .createAlertEvent _ _ hid
  · rw [hsaved]
    exact (Logs.createAlertEvent _ _ hid).trans (logs_recordMaintenanceSuppressed _ _ _ _)

theorem logs_foldl_saveEvent (id : AlertId) (snapshotId : Option ℕ) :
    ∀ (kinds : List EventKind) (s : AlertStore),
      Logs s (kinds.foldl (saveEvent target found now current next id snapshotId) s) id kinds
  | [], _ => .refl
  | kind :: kinds, s =>
    (logs_saveEvent target found now current next id snapshotId s kind).trans
      (logs_foldl_saveEvent id snapshotId kinds _)

def AddsFirst {β : Type*} (alertOf : β → AlertId) (records records' : List β) (id : AlertId)
    (starts : Bool) : Prop :=
  records' = records
    ∨ starts = true ∧ ∃ record, alertOf record = id ∧ id ∉ records.map alertOf
      ∧ records' = records ++ [record]

inductive Saved (s : AlertStore) : AlertId → Life → Prop
  | recover {id : AlertId} {life : Life}
    (hread : target.alert.map EvaluationAlert.alertInstanceId = some id)
    (hlife : s.life id = some life) (hunresolved : life.status ≠ .recovered)
    (hnext : next.state = .recovered) : Saved s id (life.close (timestamptz now))
  | update {id : AlertId} {life : Life} (hunresolved : s.unresolvedAlert target.key = some id)
    (hlife : s.life id = some life) (hnext : next.state ≠ .recovered) :
    Saved s id
      { life with
        status := next.state
        stateBeforeNoData := (evaluationColumns target found now next).stateBeforeNoData
        firstTriggeredAt := life.firstTriggeredAt.or
          (if startsFiringLifecycle current next then some (timestamptz now) else none)
        recoveredAt := none }
  | insert (hunresolved : s.unresolvedAlert target.key = none) (hnext : next.state ≠ .recovered) :
    Saved s s.nextId
      { key := target.key
        status := next.state
        stateBeforeNoData := (evaluationColumns target found now next).stateBeforeNoData
        firstTriggeredAt :=
          if startsFiringLifecycle current next then some (timestamptz now) else none
        recoveredAt := none }

structure Writes (s t : AlertStore) (id : AlertId) (life : Life) (starts : Bool)
    (kinds : List EventKind) : Prop where
  life : t.life = Function.update s.life id (some life)
  row : (t.nextId = s.nextId ∧ (s.life id).isSome ∧ t.dispositions = s.dispositions)
    ∨ (t.nextId = s.nextId + 1 ∧ id = s.nextId
      ∧ t.dispositions = Function.update s.dispositions id (some {}))
  triggerSnapshots : AddsFirst TriggerSnapshot.alertInstanceId s.triggerSnapshots
    t.triggerSnapshots id starts
  performanceEvents : AddsFirst PerformanceEvent.alertInstanceId s.performanceEvents
    t.performanceEvents id starts
  events : ∃ events, t.events = s.events ++ events
    ∧ (∀ event ∈ events, event.alertInstanceId = id)
    ∧ (events.map AlertEvent.kind).filter EventKind.isLifecycle
      = kinds.filter EventKind.isLifecycle

variable {target found now current next} {s t : AlertStore} {id : AlertId}

theorem writes_updateAlert {g : AlertRow → AlertRow} {life : Life}
    (hlife : s.column (fun row => (g row).life) id = some life)
    (hdispositions : ∀ row, (g row).dispositions = row.dispositions) :
    Writes s (s.updateAlert id g) id life false [] := by
  have hsome : (s.life id).isSome := by
    obtain ⟨row, hrow, -⟩ := Option.map_eq_some_iff.mp hlife
    rw [AlertStore.life, column, hrow]
    rfl
  refine ⟨?_, .inl ⟨by simp, hsome, column_updateAlert_of_eq _ _ _ hdispositions⟩,
    .inl (by simp), .inl (by simp), [], by simp⟩
  rw [AlertStore.life, column_updateAlert]
  exact congrArg _ hlife

theorem recoverAlertSnapshot_spec {read : Option AlertId} {columns : AlertColumns}
    {recoveredAt : Option ℤ}
    (h : s.recoverAlertSnapshot read columns recoveredAt = some (t, id)) :
    ∃ life closedAt, read = some id ∧ recoveredAt = some closedAt ∧ s.life id = some life
      ∧ life.status ≠ .recovered ∧ Writes s t id (life.close closedAt) false [] := by
  unfold recoverAlertSnapshot at h
  rcases read with _ | id'
  · exact absurd h (by simp)
  rcases hrow : s.alerts.lookup id' with _ | row
  · exact absurd h (by simp [hrow])
  rcases recoveredAt with _ | closedAt
  · exact absurd h (by simp)
  by_cases hunresolved : row.unresolved
  · simp only [Option.bind_eq_bind, Option.bind_some, hrow, hunresolved, guard, if_true,
      Option.pure_def, Option.some.injEq, Prod.mk.injEq] at h
    obtain ⟨rfl, rfl⟩ := h
    refine ⟨row.life, closedAt, rfl, rfl, by simp [AlertStore.life, column, hrow], ?_, ?_⟩
    · exact of_decide_eq_true hunresolved
    · exact writes_updateAlert (by simp [column, hrow, AlertRow.life, Life.close])
        fun _ => rfl
  · exact absurd h (by simp [hrow, hunresolved, guard])

theorem saveAlertSnapshot_spec (s : AlertStore) (p : SaveAlertSnapshotParams) :
    ∃ life, Writes s (s.saveAlertSnapshot p).1 (s.saveAlertSnapshot p).2 life false []
      ∧ ((∃ old, s.unresolvedAlert p.key = some (s.saveAlertSnapshot p).2
          ∧ s.life (s.saveAlertSnapshot p).2 = some old
          ∧ life = ⟨old.key, p.status, p.stateBeforeNoData,
            old.firstTriggeredAt.or p.firstTriggeredAt, p.recoveredAt⟩)
        ∨ s.unresolvedAlert p.key = none ∧ (s.saveAlertSnapshot p).2 = s.nextId
          ∧ life = ⟨p.key, p.status, p.stateBeforeNoData, p.firstTriggeredAt, p.recoveredAt⟩) := by
  unfold saveAlertSnapshot
  rcases hunresolved : s.unresolvedAlert p.key with _ | id
  · dsimp only
    exact ⟨_, ⟨column_insert s _ s.nextId _ _ rfl,
      .inr ⟨rfl, rfl, (column_insert s _ s.nextId _ _ rfl).trans rfl⟩, .inl rfl, .inl rfl, [],
      by simp⟩, .inr ⟨rfl, rfl, rfl⟩⟩
  · obtain ⟨old, hold, -, -⟩ := unresolvedAlert_some hunresolved
    obtain ⟨row, hrow, hlife⟩ := Option.map_eq_some_iff.mp hold
    refine ⟨_, writes_updateAlert (by simp only [column, hrow]; rfl) fun _ => rfl,
      .inl ⟨old, rfl, hold, ?_⟩⟩
    rw [← hlife]
    rfl

theorem saveEvaluation_spec (h : saveEvaluation target found now current next s = some (t, id)) :
    ∃ life, Saved target found now current next s id life
      ∧ Writes s t id life false [] := by
  unfold saveEvaluation at h
  dsimp only at h
  by_cases hnext : next.state = .recovered
  · rw [if_pos hnext] at h
    obtain ⟨life, closedAt, hread, hclosed, hlife, hunresolved, hwrites⟩ :=
      recoverAlertSnapshot_spec h
    have hat : closedAt = timestamptz now := by
      split_ifs at hclosed
      exact (Option.some.inj hclosed).symm
    subst hat
    exact ⟨_, .recover hread hlife hunresolved hnext, hwrites⟩
  · have hrecoveredAt : ¬ (current.state ≠ .recovered ∧ next.state = .recovered) := by tauto
    rw [if_neg hnext, if_neg hrecoveredAt, Option.some_inj] at h
    obtain ⟨life, hwrites, hlife⟩ := saveAlertSnapshot_spec s
      { toAlertColumns := evaluationColumns target found now next, key := target.key
        firstTriggeredAt :=
          if startsFiringLifecycle current next then some (timestamptz now) else none
        firstRuleVersion :=
          if startsFiringLifecycle current next then some target.rule.version else none
        firstRuleSnapshot :=
          if startsFiringLifecycle current next then some target.rule.ruleSnapshot else none
        recoveredAt := none }
    rw [h] at hwrites hlife
    refine ⟨life, ?_, hwrites⟩
    rcases hlife with ⟨old, hunresolved, hold, rfl⟩ | ⟨hunresolved, hid, rfl⟩
    · exact .update hunresolved hold hnext
    · dsimp only at hid
      subst hid
      exact .insert hunresolved hnext

theorem saveEvaluation_events
    (h : saveEvaluation target found now current next s = some (t, id)) : t.events = s.events := by
  unfold saveEvaluation at h
  dsimp only at h
  by_cases hnext : next.state = .recovered
  · rw [if_pos hnext] at h
    unfold recoverAlertSnapshot at h
    obtain ⟨_, -, h⟩ := Option.bind_eq_some_iff.mp h
    obtain ⟨_, -, h⟩ := Option.bind_eq_some_iff.mp h
    obtain ⟨_, -, h⟩ := Option.bind_eq_some_iff.mp h
    obtain ⟨_, -, h⟩ := Option.bind_eq_some_iff.mp h
    cases h
    exact updateAlert_events _ _ _
  · rw [if_neg hnext, Option.some_inj] at h
    rw [show t = _ from (congrArg Prod.fst h).symm]
    unfold saveAlertSnapshot
    split
    · exact updateAlert_events _ _ _
    · rfl

theorem AddsFirst.eq {β : Type*} {alertOf : β → AlertId} {records records' : List β}
    (h : AddsFirst alertOf records records' id false) : records' = records :=
  h.resolve_right fun h => Bool.false_ne_true h.1

theorem createTriggerSnapshot_spec {snapshot : TriggerSnapshot} {n : ℕ}
    (h : s.createTriggerSnapshot snapshot = some (t, n)) :
    ∃ records, t = { s with triggerSnapshots := records }
      ∧ AddsFirst TriggerSnapshot.alertInstanceId s.triggerSnapshots records
        snapshot.alertInstanceId true := by
  unfold createTriggerSnapshot at h
  split_ifs at h with hany
  cases h
  exact ⟨_, rfl, .inr ⟨rfl, snapshot, rfl, by simpa [List.mem_map] using hany, rfl⟩⟩

theorem createPerformanceEvent_spec (s : AlertStore) (event : PerformanceEvent) :
    ∃ records, s.createPerformanceEvent event = { s with performanceEvents := records }
      ∧ AddsFirst PerformanceEvent.alertInstanceId s.performanceEvents records
        event.alertInstanceId true := by
  unfold createPerformanceEvent
  split_ifs with hany
  · exact ⟨_, rfl, .inl rfl⟩
  · exact ⟨_, rfl, .inr ⟨rfl, event, rfl, by simpa [List.mem_map] using hany, rfl⟩⟩

theorem saveTriggerSnapshot_spec {snapshotId : Option ℕ}
    (h : saveTriggerSnapshot target found now s id = some (t, snapshotId)) :
    ∃ snapshots, t = { s with triggerSnapshots := snapshots }
      ∧ AddsFirst TriggerSnapshot.alertInstanceId s.triggerSnapshots snapshots id true := by
  unfold saveTriggerSnapshot at h
  split_ifs at h
  · obtain ⟨⟨s', n⟩, hcreate, heq⟩ := Option.map_eq_some_iff.mp h
    cases heq
    exact createTriggerSnapshot_spec hcreate
  · cases h
    exact ⟨_, rfl, .inl rfl⟩

theorem saveTrigger_spec {snapshotId : Option ℕ}
    (h : saveTrigger target found now current next s id = some (t, snapshotId)) :
    ∃ snapshots events, t = { s with triggerSnapshots := snapshots, performanceEvents := events }
      ∧ AddsFirst TriggerSnapshot.alertInstanceId s.triggerSnapshots snapshots id
        (startsFiringLifecycle current next)
      ∧ AddsFirst PerformanceEvent.alertInstanceId s.performanceEvents events id
        (startsFiringLifecycle current next) := by
  unfold saveTrigger at h
  rcases hstarts : startsFiringLifecycle current next with _ | _
  · rw [hstarts] at h
    cases h
    exact ⟨_, _, rfl, .inl rfl, .inl rfl⟩
  · rw [hstarts] at h
    obtain ⟨⟨s', n⟩, hsnapshot, h⟩ := Option.bind_eq_some_iff.mp h
    obtain ⟨snapshots, rfl, hsnapshots⟩ := saveTriggerSnapshot_spec hsnapshot
    rcases htype : performanceEventTypeForMetric target.rule.metricId with _ | eventType
    · simp only [htype] at h
      cases h
      exact ⟨_, _, rfl, hsnapshots, .inl rfl⟩
    · simp only [htype] at h
      cases h
      obtain ⟨events, heq, hevents⟩ := createPerformanceEvent_spec
        { s with triggerSnapshots := snapshots }
        { alertInstanceId := id, eventType := eventType, derivedAt := timestamptz now }
      exact ⟨_, _, heq, hsnapshots, hevents⟩

section Stages

variable {life : Life} {starts : Bool} {kinds : List EventKind} {u : AlertStore}

theorem Writes.trigger (h : Writes s t id life false kinds) {snapshots : List TriggerSnapshot}
    {events : List PerformanceEvent}
    (hsnapshots : AddsFirst TriggerSnapshot.alertInstanceId t.triggerSnapshots snapshots id starts)
    (hevents : AddsFirst PerformanceEvent.alertInstanceId t.performanceEvents events id starts) :
    Writes s { t with triggerSnapshots := snapshots, performanceEvents := events } id life starts
      kinds := by
  rw [h.triggerSnapshots.eq] at hsnapshots
  rw [h.performanceEvents.eq] at hevents
  exact ⟨h.life, h.row, hsnapshots, hevents, h.events⟩

theorem Writes.logs (h : Writes s t id life starts []) (h' : Logs t u id kinds) :
    Writes s u id life starts kinds := by
  obtain ⟨events, hevents, hid, hkinds⟩ := h.events
  obtain ⟨events', hevents', hid', hkinds'⟩ := h'.events
  refine ⟨h'.life.trans h.life, ?_, ?_, ?_, events ++ events', ?_, ?_, ?_⟩
  · rw [h'.nextId, h'.dispositions]
    exact h.row
  · rw [h'.triggerSnapshots]
    exact h.triggerSnapshots
  · rw [h'.performanceEvents]
    exact h.performanceEvents
  · rw [hevents', hevents, List.append_assoc]
  · intro event hevent
    rcases List.mem_append.mp hevent with hevent | hevent
    · exact hid event hevent
    · exact hid' event hevent
  · rw [List.map_append, List.filter_append, hkinds, hkinds', List.filter_nil, List.nil_append]

end Stages

theorem writeEvaluation_spec (h : writeEvaluation target found now current next s = some t) :
    ∃ id life, Saved target found now current next s id life
      ∧ Writes s t id life (startsFiringLifecycle current next)
        (stateEvents current.state next.state) := by
  unfold writeEvaluation at h
  obtain ⟨⟨s', id⟩, hsave, h⟩ := Option.bind_eq_some_iff.mp h
  obtain ⟨⟨s'', snapshotId⟩, htrigger, h⟩ := Option.bind_eq_some_iff.mp h
  cases h
  obtain ⟨life, hsaved, hwrites⟩ := saveEvaluation_spec hsave
  obtain ⟨snapshots, events, rfl, hsnapshots, hevents⟩ := saveTrigger_spec htrigger
  exact ⟨id, life, hsaved, (hwrites.trigger hsnapshots hevents).logs
    (logs_foldl_saveEvent target found now current next id snapshotId _ _)⟩

theorem evaluateRule_inv (h : evaluateRule target found now s = some t) :
    t = s ∨ (∃ id columns, t = s.resetIgnoredMissingAlert id columns)
      ∨ ((snapshotFromEvaluationTarget target).state = .recovered →
          found.metric.outcome = .breaching)
        ∧ writeEvaluation target found now (snapshotFromEvaluationTarget target)
          (nextSnapshot target (snapshotFromEvaluationTarget target) found.metric.outcome) s
            = some t := by
  unfold evaluateRule at h
  dsimp only at h
  split_ifs at h with happlicable hignored hresolved
  · cases h
    exact .inl rfl
  · cases h
    unfold resetEvaluation
    split
    · exact .inl rfl
    · split_ifs
      · exact .inl rfl
      · exact .inr (.inl ⟨_, _, rfl⟩)
  · cases h
    exact .inl rfl
  · exact .inr (.inr ⟨by tauto, h⟩)

theorem evaluateRule_cases (h : evaluateRule target found now s = some t) :
    (∃ id, Logs s t id [])
      ∨ ((snapshotFromEvaluationTarget target).state = .recovered →
          found.metric.outcome = .breaching)
        ∧ writeEvaluation target found now (snapshotFromEvaluationTarget target)
          (nextSnapshot target (snapshotFromEvaluationTarget target) found.metric.outcome) s
            = some t := by
  rcases evaluateRule_inv h with rfl | ⟨id, columns, rfl⟩ | hwrite
  · exact .inl ⟨0, .refl⟩
  · exact .inl ⟨id, logs_resetIgnoredMissingAlert _ _ _⟩
  · exact .inr hwrite

end EvaluateRule

/-- The alerts of `ids` are closed: none of them, or those of a removed instance. -/
structure Closes (s t : AlertStore) (ids : List AlertId) (closedAt : ℤ) : Prop where
  life : ∀ id, t.life id = if id ∈ ids then (s.life id).map (Life.close closedAt) else s.life id
  nextId : t.nextId = s.nextId
  triggerSnapshots : t.triggerSnapshots = s.triggerSnapshots
  performanceEvents : t.performanceEvents = s.performanceEvents
  events : ∃ events, t.events = s.events ++ events
    ∧ ∀ event ∈ events, event.kind.isLifecycle = false

section Closes

variable {s t u : AlertStore} {ids ids' : List AlertId} {closedAt : ℤ}

theorem not_lifecycle_of_kinds {events : List AlertEvent}
    (h : (events.map AlertEvent.kind).filter EventKind.isLifecycle = []) :
    ∀ event ∈ events, event.kind.isLifecycle = false := by
  intro event hevent
  have hnot := List.filter_eq_nil_iff.mp h event.kind (List.mem_map_of_mem hevent)
  simpa using hnot

theorem AlertStore.Logs.closes {id : AlertId} (h : Logs s t id []) : Closes s t [] closedAt := by
  obtain ⟨events, hevents, -, hkinds⟩ := h.events
  exact ⟨fun id => by rw [h.life]; simp, h.nextId, h.triggerSnapshots, h.performanceEvents,
    events, hevents, not_lifecycle_of_kinds hkinds⟩

theorem Closes.refl : Closes s s [] closedAt :=
  ⟨by simp, rfl, rfl, rfl, [], by simp⟩

theorem Closes.trans (h : Closes s t ids closedAt) (h' : Closes t u ids' closedAt) :
    Closes s u (ids ++ ids') closedAt := by
  obtain ⟨events, hevents, hkinds⟩ := h.events
  obtain ⟨events', hevents', hkinds'⟩ := h'.events
  refine ⟨?_, h'.nextId.trans h.nextId, h'.triggerSnapshots.trans h.triggerSnapshots,
    h'.performanceEvents.trans h.performanceEvents, events ++ events', ?_, ?_⟩
  · intro id
    have hclose : Life.close closedAt ∘ Life.close closedAt = Life.close closedAt := rfl
    rw [h'.life, h.life]
    by_cases hid : id ∈ ids <;> by_cases hid' : id ∈ ids' <;> simp [hid, hid', hclose]
  · rw [hevents', hevents, List.append_assoc]
  · intro event hevent
    rcases List.mem_append.mp hevent with hevent | hevent
    · exact hkinds event hevent
    · exact hkinds' event hevent

theorem Closes.createAlertEvent (s : AlertStore) (event : AlertEvent)
    (h : event.kind.isLifecycle = false) : Closes s (s.createAlertEvent event) [] closedAt :=
  ⟨by simp [AlertStore.createAlertEvent, column], rfl, rfl, rfl, [event], rfl, by simpa using h⟩

theorem closes_updateAlert {id : AlertId} {g : AlertRow → AlertRow}
    (h : ∀ row, (g row).life = row.life.close closedAt) :
    Closes s (s.updateAlert id g) [id] closedAt := by
  refine ⟨?_, by simp, by simp, by simp, [], by simp⟩
  intro id'
  have hclose : AlertRow.life ∘ g = Life.close closedAt ∘ AlertRow.life := funext h
  rw [AlertStore.life, column_updateAlert, hclose]
  by_cases hid : id' = id
  · subst hid
    simp [AlertStore.life, column]
  · simp [hid]

theorem closes_updateAlert_of_eq {id : AlertId} {g : AlertRow → AlertRow}
    (h : ∀ row, (g row).life = row.life) : Closes s (s.updateAlert id g) [] closedAt := by
  have hlife : (s.updateAlert id g).life = s.life := column_updateAlert_of_eq s _ id h
  exact ⟨fun id' => by simp [hlife], by simp, by simp, by simp, [], by simp⟩

theorem closes_closeAlert (removedAt : ℤ) (actorId : String) (s : AlertStore) (id : AlertId) :
    Closes s (closeAlert removedAt actorId s id) [id] (timestamptz removedAt)
      ∧ (closeAlert removedAt actorId s id).dispositions = s.dispositions := by
  unfold closeAlert
  rcases hrow : s.alerts.lookup id with _ | row
  · refine ⟨⟨?_, rfl, rfl, rfl, [], by simp⟩, rfl⟩
    intro id'
    by_cases hid : id' = id
    · subst hid
      simp [AlertStore.life, column, hrow]
    · simp [hid]
  · exact ⟨(closes_updateAlert fun _ => rfl).trans (.createAlertEvent _ _ rfl),
      column_updateAlert_of_eq _ _ _ fun _ => rfl⟩

theorem closes_foldl_closeAlert (removedAt : ℤ) (actorId : String) :
    ∀ (ids : List AlertId) (s : AlertStore),
      Closes s (ids.foldl (closeAlert removedAt actorId) s) ids (timestamptz removedAt)
        ∧ (ids.foldl (closeAlert removedAt actorId) s).dispositions = s.dispositions
  | [], _ => ⟨.refl, rfl⟩
  | id :: ids, s => by
    obtain ⟨hclose, hdispositions⟩ := closes_closeAlert removedAt actorId s id
    obtain ⟨hcloses, hdispositions'⟩ := closes_foldl_closeAlert removedAt actorId ids
      (closeAlert removedAt actorId s id)
    exact ⟨hclose.trans hcloses, hdispositions'.trans hdispositions⟩

theorem unresolvedOfInstance_life {instanceId : InstanceId} {id : AlertId}
    (h : id ∈ s.unresolvedOfInstance instanceId) {life : Life} (hlife : s.life id = some life) :
    life.key.instanceId = instanceId := by
  obtain ⟨⟨id', row⟩, hmem, hid⟩ := List.mem_map.mp h
  obtain ⟨hentry, hrow⟩ := List.mem_filter.mp hmem
  dsimp only at hid
  subst hid
  rw [life_of_entry hentry] at hlife
  cases hlife
  exact of_decide_eq_true (Bool.and_eq_true_iff.mp hrow).1

theorem closes_updateAlertDisposition {id : AlertId} {columns : DispositionColumns}
    {actorId : String} {actedAt : ℤ}
    (h : s.updateAlertDisposition id columns actorId actedAt = some t) :
    Closes s t [] closedAt := by
  obtain ⟨dispositions, event, hkind, rfl⟩ := updateAlertDisposition_spec h
  refine @Closes.trans _ _ _ [] _ _ ?_ (.createAlertEvent _ _ ?_)
  · exact closes_updateAlert_of_eq fun _ => rfl
  · rcases hkind with hkind | hkind <;> rw [hkind] <;> rfl

end Closes

end DbsMonitor
