import DbsMonitor.CollectState

/-!
# What a transaction changes

Every recording function writes the row of its own task only (`commit_lookup_ne`): the due instant,
and the success instant exactly when the run ended in success (`commit_lookup_of_recorded`). The
source row changes in its error alone, unless every row is satisfied after the write
(`commit_source_cases`).
-/

namespace DbsMonitor.CollectStore

variable (s : CollectStore)

section Fields

variable (id : TaskId) (f : TaskStateRow → TaskStateRow) (code : ErrorCode) (message : String)
  (finished : ℤ) (sample : CollectedSample)

@[simp] theorem upsertTask_tasks :
    (s.upsertTask id f).tasks = s.tasks.insert id (f ((s.tasks.lookup id).getD {})) := rfl

@[simp] theorem upsertTask_source : (s.upsertTask id f).source = s.source := rfl

@[simp] theorem upsertTask_samples : (s.upsertTask id f).samples = s.samples := rfl

@[simp] theorem setSourceFailure_tasks : (s.setSourceFailure code message).tasks = s.tasks := rfl

@[simp] theorem setSourceFailure_paused :
    (s.setSourceFailure code message).paused = s.paused := rfl

@[simp] theorem setSourceFailure_source : (s.setSourceFailure code message).source
    = { s.source with lastErrorCode := code, lastErrorMessage := message } := rfl

@[simp] theorem setSourceFailure_samples :
    (s.setSourceFailure code message).samples = s.samples := rfl

@[simp] theorem insertSample_tasks : (s.insertSample finished sample).tasks = s.tasks := rfl

@[simp] theorem insertSample_source : (s.insertSample finished sample).source = s.source := rfl

@[simp] theorem insertSample_paused : (s.insertSample finished sample).paused = s.paused := rfl

@[simp] theorem recordConnectionFailure_tasks (run : ScheduledRun) :
    (s.recordConnectionFailure run code finished).tasks = s.tasks := rfl

@[simp] theorem recordConnectionFailure_source (run : ScheduledRun) :
    (s.recordConnectionFailure run code finished).source = s.source := rfl

@[simp] theorem recordConnectionFailure_samples (run : ScheduledRun) :
    (s.recordConnectionFailure run code finished).samples = s.samples := rfl

@[simp] theorem updateTask_source : (s.updateTask id f).source = s.source := by
  unfold updateTask
  split <;> rfl

@[simp] theorem updateTask_paused : (s.updateTask id f).paused = s.paused := by
  unfold updateTask
  split <;> rfl

@[simp] theorem updateTask_samples : (s.updateTask id f).samples = s.samples := by
  unfold updateTask
  split <;> rfl

theorem updateTask_of_none (h : s.tasks.lookup id = none) : s.updateTask id f = s := by
  simp [updateTask, h]

theorem updateTask_tasks_of_some {row : TaskStateRow} (h : s.tasks.lookup id = some row) :
    (s.updateTask id f).tasks = s.tasks.insert id (f row) := by
  simp [updateTask, h]

@[simp] theorem advance_tasks :
    (s.advanceCollectionWatermarkIfComplete finished).tasks = s.tasks := by
  unfold advanceCollectionWatermarkIfComplete
  split_ifs <;> rfl

@[simp] theorem advance_samples :
    (s.advanceCollectionWatermarkIfComplete finished).samples = s.samples := by
  unfold advanceCollectionWatermarkIfComplete
  split_ifs <;> rfl

end Fields

theorem foldl_insertSample (finished : ℤ) :
    ∀ (samples : List CollectedSample) (s : CollectStore),
      (samples.foldl (fun s sample => s.insertSample finished sample) s).tasks = s.tasks
        ∧ (samples.foldl (fun s sample => s.insertSample finished sample) s).source = s.source
        ∧ (samples.foldl (fun s sample => s.insertSample finished sample) s).paused = s.paused
  | [], _ => ⟨rfl, rfl, rfl⟩
  | sample :: samples, s => by
    simpa using foldl_insertSample finished samples (s.insertSample finished sample)

theorem recorded_eq_some {tx : Tx} {r : Recording} : s.recorded tx = some r ↔
    tx.recording = some r ∧ s.paused = false
      ∧ (r.needsRow = true → (s.tasks.lookup r.run.task.id).isSome) := by
  simp only [recorded, Option.filter_eq_some_iff, Bool.and_eq_true, Bool.not_eq_true',
    Bool.or_eq_true]
  cases r.needsRow <;> simp

variable {s}

section Rows

variable {run : ScheduledRun} {finished : ℤ} (hactive : s.paused = false)
include hactive

theorem recordStarted_tasks : (s.recordStarted run).tasks
    = s.tasks.insert run.task.id (((s.tasks.lookup run.task.id).getD {}).started run) := by
  simp [recordStarted, whenActive, hactive]

theorem recordUnmet_tasks {result : TaskResult} {now : ℤ} {nextEligible : Option ℤ} :
    ∃ eligible, (s.recordUnmet run result now nextEligible).tasks = s.tasks.insert run.task.id
        (((s.tasks.lookup run.task.id).getD {}).unmet run result now eligible)
      ∧ (result = .backoff → ∀ row, s.tasks.lookup run.task.id = some row →
          eligible = row.nextEligibleAt)
      ∧ (result ≠ .backoff → eligible = nextEligible.map timestamptz) := by
  refine ⟨_, by simp [recordUnmet, whenActive, hactive]; rfl, ?_, ?_⟩
  · rintro rfl row hrow
    simp [hrow]
  · intro hne
    split <;> simp [hne]

theorem recordCapabilityBlocked_tasks {reason : CapabilityBlockReason} :
    (s.recordCapabilityBlocked run reason finished).tasks = s.tasks.insert run.task.id
      (((s.tasks.lookup run.task.id).getD {}).capabilityBlocked run reason finished) := by
  simp [recordCapabilityBlocked, whenActive, hactive]

theorem recordCapabilityNotApplicable_tasks {reason : CapabilityBlockReason} :
    (s.recordCapabilityNotApplicable run reason finished).tasks = s.tasks.insert run.task.id
      (((s.tasks.lookup run.task.id).getD {}).capabilityNotApplicable run reason finished) := by
  simp [recordCapabilityNotApplicable, whenActive, hactive]

theorem recordFailure_tasks {result : TaskResult} {code : ErrorCode} {connectionFailure : Bool} :
    (s.recordFailure run result code connectionFailure finished).tasks
      = s.tasks.insert run.task.id (((s.tasks.lookup run.task.id).getD {}).failed run result code
          (s.taskFailureCount run.task.id + 1)
          (s.taskNextEligible run connectionFailure finished) finished) := by
  simp only [recordFailure, whenActive, hactive, Bool.false_eq_true, ↓reduceIte]
  split_ifs <;> simp

theorem recordSuccess_tasks {batch : CollectedBatch} {row : TaskStateRow}
    (hrow : s.tasks.lookup run.task.id = some row) :
    (s.recordSuccess run batch finished).tasks = s.tasks.insert run.task.id
      (.succeeded run batch.counterReset finished) := by
  obtain ⟨htasks, -, -⟩ := foldl_insertSample finished batch.samples s
  simp only [recordSuccess, whenActive, hactive, Bool.false_eq_true, ↓reduceIte, advance_tasks]
  split_ifs <;>
    simp only [setSourceFailure_tasks, updateTask_tasks_of_some _ _ _ (htasks ▸ hrow), htasks]

theorem recordPlatformDatabaseCapacityEmergency_tasks {row : TaskStateRow}
    (hrow : s.tasks.lookup run.task.id = some row) :
    (s.recordPlatformDatabaseCapacityEmergency run finished).tasks = s.tasks.insert run.task.id
      (row.rejectedAtCapacity run finished) := by
  simp [recordPlatformDatabaseCapacityEmergency, whenActive, hactive,
    updateTask_tasks_of_some _ _ _ hrow]

end Rows

theorem commit_tasks_of_recorded {tx : Tx} {r : Recording} (h : s.recorded tx = some r) :
    ∃ row, (s.commit tx).tasks = s.tasks.insert r.run.task.id row
      ∧ row.lastDueAt = some (timestamptz r.run.dueAt)
      ∧ row.lastSuccessAt = (r.success.map timestamptz).or
          ((s.tasks.lookup r.run.task.id).getD {}).lastSuccessAt := by
  obtain ⟨hr, hactive, hrow⟩ := s.recorded_eq_some.mp h
  cases tx <;> simp only [Tx.recording, Option.some.injEq, reduceCtorEq] at hr <;> subst hr
  case started => exact ⟨_, recordStarted_tasks hactive, rfl, rfl⟩
  case unmet =>
    obtain ⟨eligible, htasks, -⟩ := recordUnmet_tasks hactive
    exact ⟨_, htasks, rfl, rfl⟩
  case capabilityBlocked => exact ⟨_, recordCapabilityBlocked_tasks hactive, rfl, rfl⟩
  case capabilityNotApplicable => exact ⟨_, recordCapabilityNotApplicable_tasks hactive, rfl, rfl⟩
  case failure => exact ⟨_, recordFailure_tasks hactive, rfl, rfl⟩
  case success =>
    obtain ⟨row, hlookup⟩ := Option.isSome_iff_exists.mp (hrow rfl)
    exact ⟨_, recordSuccess_tasks hactive hlookup, rfl, rfl⟩
  case capacityEmergency =>
    obtain ⟨row, hlookup⟩ := Option.isSome_iff_exists.mp (hrow rfl)
    exact ⟨_, recordPlatformDatabaseCapacityEmergency_tasks hactive hlookup, rfl,
      by simp [hlookup, TaskStateRow.rejectedAtCapacity]⟩

section Ensure

theorem ensureTaskStates_cons (s : CollectStore) (id : TaskId) (ids : List TaskId) :
    s.ensureTaskStates (id :: ids) = (if (s.tasks.lookup id).isSome then s
      else s.upsertTask id fun row => row).ensureTaskStates ids := rfl

theorem ensureTaskStates_lookup : ∀ (ids : List TaskId) (s : CollectStore) (id : TaskId),
    (s.ensureTaskStates ids).tasks.lookup id = s.tasks.lookup id
      ∨ s.tasks.lookup id = none ∧ (s.ensureTaskStates ids).tasks.lookup id = some {}
  | [], s, id => .inl rfl
  | i :: ids, s, id => by
    rw [ensureTaskStates_cons]
    split_ifs with hi
    · exact ensureTaskStates_lookup ids s id
    · rw [Bool.not_eq_true, Option.isSome_eq_false_iff, Option.isNone_iff_eq_none] at hi
      have ih := ensureTaskStates_lookup ids (s.upsertTask i fun row => row) id
      by_cases hid : id = i
      · subst hid
        simp only [upsertTask_tasks, AList.lookup_insert, hi, Option.getD_none] at ih
        rcases ih with ih | ⟨ih, -⟩
        · exact .inr ⟨hi, ih⟩
        · exact absurd ih (by simp)
      · simpa [AList.lookup_insert_ne hid] using ih

theorem ensureTaskStates_isSome {s : CollectStore} {id : TaskId} (ids : List TaskId)
    (h : (s.tasks.lookup id).isSome) : ((s.ensureTaskStates ids).tasks.lookup id).isSome := by
  rcases ensureTaskStates_lookup ids s id with h' | ⟨h', -⟩
  · rwa [h']
  · simp [h'] at h

theorem ensureTaskStates_mem {id : TaskId} {ids : List TaskId} (h : id ∈ ids)
    (s : CollectStore) : ((s.ensureTaskStates ids).tasks.lookup id).isSome := by
  induction ids generalizing s with
  | nil => simp at h
  | cons i ids ih =>
    rw [ensureTaskStates_cons]
    rcases List.mem_cons.mp h with rfl | h
    · apply ensureTaskStates_isSome
      split_ifs with hi
      · exact hi
      · simp
    · exact ih h _

theorem exists_ensureTaskStates : ∀ (ids : List TaskId) (s : CollectStore),
    ∃ tasks, s.ensureTaskStates ids = { s with tasks := tasks }
  | [], s => ⟨s.tasks, rfl⟩
  | i :: ids, s => by
    rw [ensureTaskStates_cons]
    split_ifs
    · exact exists_ensureTaskStates ids s
    · exact exists_ensureTaskStates ids (s.upsertTask i fun row => row)

theorem ensureTaskStates_source (ids : List TaskId) (s : CollectStore) :
    (s.ensureTaskStates ids).source = s.source := by
  obtain ⟨tasks, htasks⟩ := exists_ensureTaskStates ids s
  rw [htasks]

end Ensure

theorem commit_lookup_of_not_recorded {tx : Tx} (h : s.recorded tx = none) (id : TaskId) :
    (s.commit tx).tasks.lookup id = s.tasks.lookup id
      ∨ s.tasks.lookup id = none ∧ (s.commit tx).tasks.lookup id = some {} := by
  rcases hp : s.paused with _ | _
  · cases tx <;> simp only [recorded, Tx.recording, Option.filter, hp, Bool.not_false,
      Bool.true_and, Bool.not_true, Bool.false_or, Bool.true_or, ↓reduceIte, reduceCtorEq,
      ite_eq_right_iff, imp_false, Bool.not_eq_true, Option.isSome_eq_false_iff,
      Option.isNone_iff_eq_none] at h
    case ensureTaskStates ids => exact ensureTaskStates_lookup ids s id
    case setPaused => exact .inl rfl
    case success run batch finished =>
      left
      obtain ⟨htasks, -, -⟩ := foldl_insertSample finished batch.samples s
      simp only [commit, recordSuccess, whenActive, hp, Bool.false_eq_true, ↓reduceIte,
        advance_tasks]
      split_ifs <;> simp [updateTask_of_none _ _ _ (htasks ▸ h), htasks]
    case capacityEmergency run finished =>
      left
      simp [commit, recordPlatformDatabaseCapacityEmergency, whenActive, hp,
        updateTask_of_none _ _ _ h]
  · cases tx
    case ensureTaskStates ids => exact ensureTaskStates_lookup ids s id
    all_goals
      left
      simp [commit, recordStarted, recordUnmet, recordCapabilityBlocked,
        recordCapabilityNotApplicable, recordFailure, recordSuccess,
        recordPlatformDatabaseCapacityEmergency, whenActive, hp]

theorem complete_iff : s.complete = true ↔
    ∀ id row, s.tasks.lookup id = some row → satisfied row = true := by
  simp only [complete, List.all_eq_true, Sigma.forall]
  exact forall₂_congr fun id row => by rw [← AList.mem_lookup_iff, Option.mem_def]

section Source

theorem complete_congr {t : CollectStore} (h : s.tasks = t.tasks) : s.complete = t.complete := by
  unfold complete
  rw [h]

theorem advance_source_cases (s : CollectStore) (finished : ℤ) :
    s.complete = false ∧ (s.advanceCollectionWatermarkIfComplete finished).source = s.source
      ∨ s.complete = true ∧ (s.advanceCollectionWatermarkIfComplete finished).source.lastSuccessAt
          = some (timestamptz finished) := by
  unfold advanceCollectionWatermarkIfComplete
  rcases hc : s.complete with _ | _
  · exact .inl ⟨rfl, by simp⟩
  · right
    refine ⟨rfl, ?_⟩
    simp only [Bool.not_true, Bool.false_eq_true, ↓reduceIte]
    split_ifs <;> rfl

def KeepsSource (s t : CollectStore) : Prop :=
  t.source.lastSuccessAt = s.source.lastSuccessAt
    ∧ (s.source.lastErrorCode.isSome → t.source.lastErrorCode.isSome)

theorem KeepsSource.refl (s : CollectStore) : KeepsSource s s := ⟨rfl, id⟩

theorem keepsSource_setSourceFailure {t : CollectStore} (h : t.source = s.source)
    (code : ErrorCode) (message : String) : KeepsSource s (t.setSourceFailure code message) :=
  ⟨by simp [h], by simp⟩

theorem keepsSource_or_advance {t : CollectStore} (h : KeepsSource s t) (finished : ℤ) :
    KeepsSource s (t.advanceCollectionWatermarkIfComplete finished)
      ∨ (t.advanceCollectionWatermarkIfComplete finished).complete = true
        ∧ (t.advanceCollectionWatermarkIfComplete finished).source.lastSuccessAt
          = some (timestamptz finished) := by
  rcases t.advance_source_cases finished with ⟨-, hs⟩ | ⟨hc, hs⟩
  · exact .inl ⟨by rw [hs, h.1], by rw [hs]; exact h.2⟩
  · exact .inr ⟨by rw [← hc]; exact complete_congr (by simp), hs⟩

theorem commit_source_cases (s : CollectStore) (tx : Tx) :
    KeepsSource s (s.commit tx)
      ∨ ∃ r finished, tx.recording = some r ∧ r.success = some finished ∧ s.paused = false
          ∧ (s.commit tx).complete = true
          ∧ (s.commit tx).source.lastSuccessAt = some (timestamptz finished) := by
  rcases hp : s.paused with _ | _
  swap
  · left
    cases tx
    case ensureTaskStates ids => simp [KeepsSource, commit, ensureTaskStates_source]
    all_goals
      simp [KeepsSource, commit, recordStarted, recordUnmet, recordCapabilityBlocked,
        recordCapabilityNotApplicable, recordFailure, recordSuccess,
        recordPlatformDatabaseCapacityEmergency, whenActive, hp]
  cases tx
  case ensureTaskStates ids =>
    left
    simp [KeepsSource, commit, ensureTaskStates_source]
  case setPaused => exact .inl (.refl s)
  case started =>
    left
    simp [KeepsSource, commit, recordStarted, whenActive, hp]
  case unmet =>
    left
    simp only [commit, recordUnmet, whenActive, hp, Bool.false_eq_true, ↓reduceIte]
    exact keepsSource_setSourceFailure rfl _ _
  case capabilityBlocked =>
    left
    simp only [commit, recordCapabilityBlocked, whenActive, hp, Bool.false_eq_true, ↓reduceIte]
    exact keepsSource_setSourceFailure rfl _ _
  case capabilityNotApplicable run reason finished =>
    simp only [commit, recordCapabilityNotApplicable, whenActive, hp, Bool.false_eq_true,
      ↓reduceIte]
    refine (keepsSource_or_advance ⟨rfl, id⟩ finished).imp_right fun h => ?_
    exact ⟨_, finished, rfl, rfl, trivial, h⟩
  case failure run result code connectionFailure finished =>
    left
    simp only [commit, recordFailure, whenActive, hp, Bool.false_eq_true, ↓reduceIte]
    split_ifs <;> exact keepsSource_setSourceFailure rfl _ _
  case success run batch finished =>
    obtain ⟨-, hsource, -⟩ := foldl_insertSample finished batch.samples s
    simp only [commit, recordSuccess, whenActive, hp, Bool.false_eq_true, ↓reduceIte]
    refine (keepsSource_or_advance ?_ finished).imp_right fun h => ?_
    · split_ifs <;> simp [KeepsSource, hsource]
    · exact ⟨_, finished, rfl, rfl, trivial, h⟩
  case capacityEmergency =>
    left
    simp only [commit, recordPlatformDatabaseCapacityEmergency, whenActive, hp,
      Bool.false_eq_true, ↓reduceIte]
    exact keepsSource_setSourceFailure (by simp) _ _

end Source

end DbsMonitor.CollectStore
