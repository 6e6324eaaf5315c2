import DbsMonitor.Machine
import DbsMonitor.Proofs.Recording

/-!
# The watermark covers every task

A row whose last success is not before its last due instant is taken for a satisfied one. But a run
may finish long after the next run of its task was due (`watermark_advances_over_failure`). It is
sound where a run that did not succeed is recorded as due after the last success in its row
(`DueAfterLastSuccess`).
-/

namespace DbsMonitor

open Machine CollectStore

/-- The transaction moved the watermark or cleared the error of the source. -/
def AdvancesWatermark (s t : CollectStore) : Prop :=
  t.source.lastSuccessAt ≠ s.source.lastSuccessAt
    ∨ s.source.lastErrorCode.isSome ∧ t.source.lastErrorCode = none

instance (s t : CollectStore) : Decidable (AdvancesWatermark s t) :=
  inferInstanceAs (Decidable (_ ∨ _))

namespace History

/-- A run recorded as started, unmet, blocked or failed was due after the last success its row
holds. -/
def DueAfterLastSuccess (h : History) (tx : Tx) (_ : History) : Prop :=
  ∀ r ∈ h.store.recorded tx, r.success = none →
    ∀ row ∈ h.store.tasks.lookup r.run.task.id,
      ∀ success ∈ row.lastSuccessAt, success < timestamptz r.run.dueAt

def InDueOrder (h : History) (tx : Tx) (_ : History) : Prop :=
  ∀ r ∈ h.store.recorded tx, ∀ row ∈ h.store.tasks.lookup r.run.task.id,
    ∀ due ∈ row.lastDueAt, due ≤ timestamptz r.run.dueAt

instance (h : History) (tx : Tx) (t : History) : Decidable (DueAfterLastSuccess h tx t) :=
  inferInstanceAs (Decidable (∀ r ∈ h.store.recorded tx, r.success = none →
    ∀ row ∈ h.store.tasks.lookup r.run.task.id,
      ∀ success ∈ row.lastSuccessAt, success < timestamptz r.run.dueAt))

instance (h : History) (tx : Tx) (t : History) : Decidable (InDueOrder h tx t) :=
  inferInstanceAs (Decidable (∀ r ∈ h.store.recorded tx,
    ∀ row ∈ h.store.tasks.lookup r.run.task.id,
      ∀ due ∈ row.lastDueAt, due ≤ timestamptz r.run.dueAt))

variable {ids : List TaskId} {h t : History} {tx : Tx}

theorem latest_step {r : Recording} (hr : h.store.recorded tx = some r)
    (hstep : h.step tx = some t) (id : TaskId) :
    t.latest id = if r.run.task.id = id then some r.record else h.latest id := by
  simp only [step, hr, Option.some.injEq] at hstep
  subst hstep
  by_cases hid : r.run.task.id = id <;> simp [latest, Recording.record, hid]

theorem records_step_none (hr : h.store.recorded tx = none) (hstep : h.step tx = some t) :
    t.records = h.records := by
  simp only [step, hr, Option.some.injEq] at hstep
  subst hstep
  simp

theorem store_step (hstep : h.step tx = some t) : t.store = h.store.commit tx := by
  simp only [step, Option.some.injEq] at hstep
  subst hstep
  rfl

/-- A row taken for satisfied is one whose latest recorded run succeeded. -/
structure Sound (ids : List TaskId) (h : History) : Prop where
  rows : ∀ id ∈ ids, (h.store.tasks.lookup id).isSome
  latest : ∀ id row, h.store.tasks.lookup id = some row → satisfied row = true →
    ∃ r, h.latest id = some r ∧ r.succeeded = true

theorem sound_init (ids : List TaskId) : Sound ids (init ids) := by
  refine ⟨fun id hid => ensureTaskStates_mem hid _, fun id row hrow hsat => ?_⟩
  rcases ensureTaskStates_lookup ids {} id with hl | ⟨-, hl⟩
  · rw [init] at hrow
    simp [hl] at hrow
  · rw [init] at hrow
    simp only [hl, Option.some.injEq] at hrow
    subst hrow
    simp [satisfied] at hsat

theorem isSome_step (hstep : h.step tx = some t) {id : TaskId}
    (hid : (h.store.tasks.lookup id).isSome) : (t.store.tasks.lookup id).isSome := by
  rw [store_step hstep]
  rcases hr : h.store.recorded tx with _ | r
  · rcases commit_lookup_of_not_recorded hr id with hl | ⟨hl, -⟩
    · rwa [hl]
    · simp [hl] at hid
  · obtain ⟨row, htasks, -, -⟩ := commit_tasks_of_recorded hr
    rw [htasks]
    by_cases h' : id = r.run.task.id
    · subst h'
      simp
    · rwa [AList.lookup_insert_ne h']

theorem sound_step (hs : Sound ids h) (hstep : h.step tx = some t)
    (hdue : DueAfterLastSuccess h tx t) : Sound ids t := by
  refine ⟨fun id hid => isSome_step hstep (hs.rows id hid), fun id row hrow hsat => ?_⟩
  rw [store_step hstep] at hrow
  rcases hr : h.store.recorded tx with _ | r
  · have hlatest : t.latest id = h.latest id := by
      simp [History.latest, records_step_none hr hstep]
    rw [hlatest]
    rcases commit_lookup_of_not_recorded hr id with hl | ⟨-, hl⟩
    · exact hs.latest id row (hl ▸ hrow) hsat
    · rw [hl, Option.some.injEq] at hrow
      subst hrow
      simp [satisfied] at hsat
  · obtain ⟨new, htasks, hnewDue, hnewSuccess⟩ := commit_tasks_of_recorded hr
    rw [htasks] at hrow
    rw [latest_step hr hstep]
    by_cases hid : r.run.task.id = id
    · subst hid
      simp only [AList.lookup_insert, Option.some.injEq] at hrow
      subst hrow
      refine ⟨r.record, by simp, ?_⟩
      rcases hsucc : r.success with _ | finished
      · exfalso
        rw [hsucc, Option.map_none, Option.none_or] at hnewSuccess
        simp only [satisfied, hnewDue, hnewSuccess] at hsat
        rcases hl : h.store.tasks.lookup r.run.task.id with _ | old
        · simp [hl] at hsat
        · rcases hold : old.lastSuccessAt with _ | success
          · simp [hl, hold] at hsat
          · simp only [hl, Option.getD_some, hold, decide_eq_true_eq] at hsat
            have := hdue r hr hsucc old hl success hold
            omega
      · simp [Recording.record, hsucc]
    · rw [if_neg hid]
      rw [AList.lookup_insert_ne (Ne.symm hid)] at hrow
      exact hs.latest id row hrow hsat

/-- The rows hold the due instant of the latest recorded run, and no recorded one is later. -/
structure Ordered (h : History) : Prop where
  due : ∀ id, ((h.store.tasks.lookup id).getD {}).lastDueAt = (h.latest id).map Record.dueAt
  greatest : ∀ r' ∈ h.records, ∀ r, h.latest r'.taskId = some r → r'.dueAt ≤ r.dueAt

theorem ordered_init (ids : List TaskId) : Ordered (init ids) := by
  refine ⟨fun id => ?_, fun r' hr' => by simp [init] at hr'⟩
  rcases ensureTaskStates_lookup ids {} id with hl | ⟨-, hl⟩ <;> simp [init, latest, hl]

theorem latest_isSome_of_mem {r : Record} (hr : r ∈ h.records) :
    ∃ r', h.latest r.taskId = some r' :=
  Option.isSome_iff_exists.mp (List.find?_isSome.mpr ⟨r, hr, by simp⟩)

theorem ordered_step (hs : Ordered h) (hstep : h.step tx = some t) (hord : InDueOrder h tx t) :
    Ordered t := by
  rcases hr : h.store.recorded tx with _ | r
  · have hrecords := records_step_none hr hstep
    have hlatest : ∀ id, t.latest id = h.latest id := fun id => by simp [latest, hrecords]
    refine ⟨fun id => ?_, ?_⟩
    · rw [hlatest, ← hs.due, store_step hstep]
      rcases commit_lookup_of_not_recorded hr id with hl | ⟨hl, hl'⟩
      · rw [hl]
      · rw [hl, hl']
        rfl
    · intro r' hr' r hr
      rw [hlatest] at hr
      exact hs.greatest r' (hrecords ▸ hr') r hr
  · obtain ⟨new, htasks, hnewDue, -⟩ := commit_tasks_of_recorded hr
    refine ⟨fun id => ?_, ?_⟩
    · rw [latest_step hr hstep, store_step hstep, htasks]
      by_cases hid : r.run.task.id = id
      · subst hid
        simp [hnewDue, Recording.record]
      · rw [if_neg hid, AList.lookup_insert_ne (Ne.symm hid), hs.due]
    · intro r' hr' last hlast
      rw [latest_step hr hstep] at hlast
      simp only [step, hr, Option.some.injEq] at hstep
      subst hstep
      simp only [Option.map_some, Option.toList_some, List.cons_append, List.nil_append,
        List.mem_cons] at hr'
      by_cases hid : r.run.task.id = r'.taskId
      · rw [if_pos hid, Option.some.injEq] at hlast
        subst hlast
        rcases hr' with rfl | hr'
        · exact Int.le_refl _
        · obtain ⟨old, hold⟩ := latest_isSome_of_mem hr'
          have hdue := hs.due r'.taskId
          rw [hold, ← hid] at hdue
          rcases hl : h.store.tasks.lookup r.run.task.id with _ | row
          · simp [hl] at hdue
          · rw [hl, Option.getD_some] at hdue
            exact Int.le_trans (hs.greatest r' hr' old hold) (hord r hr row hl old.dueAt hdue)
      · rw [if_neg hid] at hlast
        rcases hr' with rfl | hr'
        · exact absurd rfl hid
        · exact hs.greatest r' hr' last hlast

/-- The tasks of the instance: those of the schedule, and any other that has a row. -/
def Applicable (ids : List TaskId) (t : History) (id : TaskId) : Prop :=
  id ∈ ids ∨ id ∈ t.store.tasks

/-- A transaction that advances the watermark finds the latest recorded run of every task
successful. -/
def CoversLatest (ids : List TaskId) (h : History) (_ : Tx) (t : History) : Prop :=
  AdvancesWatermark h.store t.store → ∀ id, Applicable ids t id →
    ∃ r, t.latest id = some r ∧ r.succeeded = true

/-- A transaction that advances the watermark finds the latest recorded run of every task
successful and due no earlier than any other. -/
def CoversLatestDue (ids : List TaskId) (h : History) (_ : Tx) (t : History) : Prop :=
  AdvancesWatermark h.store t.store → ∀ id, Applicable ids t id →
    ∃ r, t.latest id = some r ∧ r.succeeded = true
      ∧ ∀ r' ∈ t.records, r'.taskId = id → r'.dueAt ≤ r.dueAt

theorem complete_of_advances (hstep : h.step tx = some t)
    (hadv : AdvancesWatermark h.store t.store) : t.store.complete = true := by
  rw [store_step hstep] at hadv ⊢
  rcases commit_source_cases h.store tx with ⟨hlast, herr⟩ | ⟨-, -, -, -, -, hc, -⟩
  · rcases hadv with hadv | ⟨hsome, hnone⟩
    · exact absurd hlast hadv
    · simpa [hnone] using herr hsome
  · exact hc

theorem coversLatest_of_sound (ht : Sound ids t) (hstep : h.step tx = some t) :
    CoversLatest ids h tx t := by
  intro hadv id hid
  have hrow : (t.store.tasks.lookup id).isSome := by
    rcases hid with hid | hid
    · exact ht.rows id hid
    · exact AList.lookup_isSome.mpr hid
  obtain ⟨row, hrow⟩ := Option.isSome_iff_exists.mp hrow
  exact ht.latest id row hrow (complete_iff.mp (complete_of_advances hstep hadv) id row hrow)

/-- Along any interleaving of the recordings of an instance over any tasks. -/
theorem watermark_covers_latest_runs (ids : List TaskId) (txs : List Tx) :
    (Along step DueAfterLastSuccess (init ids) txs →
      Along step (CoversLatest ids) (init ids) txs)
    ∧ (Along step (fun h tx t => DueAfterLastSuccess h tx t ∧ InDueOrder h tx t) (init ids) txs →
      Along step (CoversLatestDue ids) (init ids) txs) := by
  constructor
  · refine Along.of_guarded (I := Sound ids) (fun h tx t hs hstep hdue => ?_) (sound_init ids)
    have ht := sound_step hs hstep hdue
    exact ⟨coversLatest_of_sound ht hstep, ht⟩
  · refine Along.of_guarded (I := fun h => Sound ids h ∧ Ordered h)
      (fun h tx t hs hstep hguard => ?_) ⟨sound_init ids, ordered_init ids⟩
    have ht := sound_step hs.1 hstep hguard.1
    have ho := ordered_step hs.2 hstep hguard.2
    refine ⟨fun hadv id hid => ?_, ht, ho⟩
    obtain ⟨r, hr, hsucc⟩ := coversLatest_of_sound ht hstep hadv id hid
    exact ⟨r, hr, hsucc, fun r' hr' hid' => ho.greatest r' hr' r (hid' ▸ hr)⟩

/-- The run of `orders`' task due at `due`, started at `started` (in tenths of a second). -/
def ordersRun (task : Task) (due started : ℤ) : ScheduledRun :=
  { dueAt := due * 100 * millisecond, startedAt := some (started * 100 * millisecond)
    target := orders, task := task, interval := 10 * second, interval_pos := by decide }

/-- The run of `pg.stat_database` due at 5 s waits until 14.9 s and finishes at 22.8 s. The one due
at 15 s then fails at once, and a probe succeeds. -/
def lateFinish : List Tx :=
  [ .started (ordersRun taskStatDatabase 50 149),
    .success (ordersRun taskStatDatabase 50 149) {} (228 * 100 * millisecond),
    .started (ordersRun taskStatDatabase 150 229),
    .failure (ordersRun taskStatDatabase 150 229) .failed .queryFailed false
      (230 * 100 * millisecond),
    .started (ordersRun taskProbe 231 231),
    .success (ordersRun taskProbe 231 231) {} (232 * 100 * millisecond) ]

/-- The probe's success advances the watermark and clears the error over the failed run. -/
theorem watermark_advances_over_failure :
    ¬ Along step (CoversLatest ["pg.probe", "pg.stat_database"])
      (init ["pg.probe", "pg.stat_database"]) lateFinish := by
  intro h
  have h' := h.mono (Q := fun s _ t => AdvancesWatermark s.store t.store →
      (t.latest "pg.stat_database").any Record.succeeded = true) fun s tx t hc hadv => by
    obtain ⟨r, hr, hsucc⟩ := hc hadv "pg.stat_database" (.inl (by decide))
    simp [hr, hsucc]
  revert h'
  decide

/-- The same runs on time: the failure is due after the success, and holds the watermark. -/
theorem watermark_covers_latest_runs_onTime :
    Along step (CoversLatest ["pg.probe", "pg.stat_database"])
      (init ["pg.probe", "pg.stat_database"])
      [ .started (ordersRun taskStatDatabase 50 51),
        .success (ordersRun taskStatDatabase 50 51) {} (52 * 100 * millisecond),
        .started (ordersRun taskProbe 61 61),
        .success (ordersRun taskProbe 61 61) {} (62 * 100 * millisecond),
        .started (ordersRun taskStatDatabase 150 151),
        .failure (ordersRun taskStatDatabase 150 151) .failed .queryFailed false
          (152 * 100 * millisecond),
        .started (ordersRun taskProbe 161 161),
        .success (ordersRun taskProbe 161 161) {} (162 * 100 * millisecond) ] :=
  (watermark_covers_latest_runs _ _).1 (by decide)

end History

end DbsMonitor
