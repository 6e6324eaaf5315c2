import DbsMonitor.Proofs.DueOrder
import DbsMonitor.Proofs.InFlight

/-!
# Failure backoff

A failure that is not one of the connection holds its task back until an instant in the row of the
task. A skip clears it, so the backoff is respected when a skip is recorded only once the instant
has passed for the run that replaced the skipped one (`SkipsPastBackoff`).
-/

namespace DbsMonitor

def Loop.skipped : Loop → Option ScheduledRun
  | .skipping _ _ run _ => some run
  | _ => none

/-- Until when the last outcome that was recorded for the key holds it back. -/
def heldUntil (key : TaskKey) : List RecordedOutcome → Option ℤ
  | [] => none
  | .failed key' eligible :: outcomes =>
    if key' = key then some eligible else heldUntil key outcomes
  | .concluded key' :: outcomes => if key' = key then none else heldUntil key outcomes

namespace Collector

open Machine

/-- No collection query is launched that is due before the instant its task is held back until. -/
def RespectsBackoff (s : Collector) (a : Action) (t : Collector) : Prop :=
  ∀ run, a = .dispatchRun → t.journal = .dispatched run :: s.journal →
    run.work.isCollectionQuery = true →
      ∀ eligible ∈ heldUntil run.key s.outcomes, eligible ≤ run.dueAt

/-- A run is recorded as skipped only when the run that replaced it is not due before the instant
in the row of the task. -/
def SkipsPastBackoff (s : Collector) (a : Action) (_ : Collector) : Prop :=
  a.recordsUnmet = true → ∀ replaced ∈ s.loop.skipped,
    (s.stores replaced.target.id).paused = false →
    ∀ row ∈ (s.stores replaced.target.id).tasks.lookup replaced.task.id,
    ∀ eligible ∈ row.nextEligibleAt, ∀ run ∈ s.pending.items.lookup replaced.key,
      eligible ≤ run.dueAt

instance (s : Collector) (a : Action) (t : Collector) : Decidable (SkipsPastBackoff s a t) :=
  inferInstanceAs (Decidable (_ → _))

def eligibleAt (s : Collector) (key : TaskKey) : Option ℤ :=
  taskColumn TaskStateRow.nextEligibleAt s key

variable {probeLimit queryLimit : ℕ} {s s' : Collector} {a : Action}

/-- What holds the task back afterwards is in its row, or did so before and the row has kept it. -/
def KeepsHold (s s' : Collector) (key : TaskKey) : Prop :=
  ∀ eligible, heldUntil key s'.outcomes = some eligible →
    s'.eligibleAt key = some eligible
      ∨ heldUntil key s.outcomes = some eligible
        ∧ ∀ e, s.eligibleAt key = some e → s'.eligibleAt key = some e

section Commit

variable {id : InstanceId} {tx : Tx} {run : ScheduledRun} {key : TaskKey}

@[simp] theorem recordedOutcome_started (store : CollectStore) :
    store.recordedOutcome (.started run) = none := by
  unfold CollectStore.recordedOutcome
  split <;> simp_all

@[simp] theorem recordedOutcome_unmet (store : CollectStore) (result : TaskResult) (now : ℤ)
    (next : Option ℤ) : store.recordedOutcome (.unmet run result now next) = none := by
  unfold CollectStore.recordedOutcome
  split <;> simp_all

theorem KeepsHold.of_eq (houtcomes : s'.outcomes = s.outcomes)
    (hrows : ∀ e, s.eligibleAt key = some e → s'.eligibleAt key = some e) : KeepsHold s s' key :=
  fun _ h => .inr ⟨houtcomes ▸ h, hrows⟩

theorem keepsHold_of_not_recorded (h : (s.stores id).recorded tx = none) (key : TaskKey) :
    KeepsHold s (s.commit id tx) key := by
  refine .of_eq (by simp [commit, CollectStore.recordedOutcome, h]) fun e he => ?_
  unfold eligibleAt
  rw [taskColumn_commit_of_not_recorded rfl h]
  exact he

/-- A recording without an outcome keeps the hold where its row has the instant of the one
before. -/
theorem keepsHold_of_tasks {row : TaskStateRow}
    (houtcome : (s.stores run.target.id).recordedOutcome tx = none)
    (htasks : ((s.stores run.target.id).commit tx).tasks
      = (s.stores run.target.id).tasks.insert run.task.id row)
    (hnext : key = run.key → ∀ old, (s.stores run.target.id).tasks.lookup run.task.id = some old →
      row.nextEligibleAt = old.nextEligibleAt) :
    KeepsHold s (s.commit run.target.id tx) key := by
  refine .of_eq (by simp [commit, houtcome]) fun e he => ?_
  unfold eligibleAt at he ⊢
  rw [taskColumn_commit_of_tasks htasks]
  split_ifs with hkey
  · obtain ⟨old, hold, holdNext⟩ := Option.bind_eq_some_iff.mp he
    rw [hkey] at hold
    exact (hnext hkey old hold).trans holdNext
  · exact he

theorem keepsHold_started (run : ScheduledRun) (key : TaskKey) :
    KeepsHold s (s.commit run.target.id (.started run)) key := by
  rcases hr : (s.stores run.target.id).recorded (.started run) with _ | r
  · exact keepsHold_of_not_recorded hr key
  obtain ⟨-, hactive, -⟩ := (CollectStore.recorded_eq_some _).mp hr
  refine keepsHold_of_tasks (recordedOutcome_started _)
    (CollectStore.recordStarted_tasks hactive) ?_
  rintro - old hold
  rw [hold]
  rfl

theorem keepsHold_backoff (run : ScheduledRun) (readAt eligible : ℤ) (key : TaskKey) :
    KeepsHold s (s.commit run.target.id (.unmet run .backoff readAt (some eligible))) key := by
  rcases hr : (s.stores run.target.id).recorded (.unmet run .backoff readAt (some eligible))
    with _ | r
  · exact keepsHold_of_not_recorded hr key
  obtain ⟨-, hactive, -⟩ := (CollectStore.recorded_eq_some _).mp hr
  obtain ⟨next, htasks, hnext, -⟩ := @CollectStore.recordUnmet_tasks _ run hactive .backoff readAt
    (some eligible)
  exact keepsHold_of_tasks (recordedOutcome_unmet _ _ _ _) htasks fun _ => hnext rfl

theorem keepsHold_skip (run : ScheduledRun) (readAt : ℤ) (key : TaskKey) :
    KeepsHold s (s.commit run.target.id (.unmet run .skippedBackpressure readAt none)) key
      ∨ key = run.key ∧ (s.stores run.target.id).paused = false := by
  rcases hr : (s.stores run.target.id).recorded (.unmet run .skippedBackpressure readAt none)
    with _ | r
  · exact .inl (keepsHold_of_not_recorded hr key)
  obtain ⟨-, hactive, -⟩ := (CollectStore.recorded_eq_some _).mp hr
  by_cases hkey : key = run.key
  · exact .inr ⟨hkey, hactive⟩
  obtain ⟨next, htasks, -, -⟩ := @CollectStore.recordUnmet_tasks _ run hactive
    .skippedBackpressure readAt none
  exact .inl (keepsHold_of_tasks (recordedOutcome_unmet _ _ _ _) htasks fun h => absurd h hkey)

theorem recordedOutcome_of_outcome {store : CollectStore} {finish : ℤ} {r : Recording}
    (htx : Outcome run finish tx) (hr : store.recorded tx = some r) :
    ∃ row, (store.commit tx).tasks = store.tasks.insert run.task.id row
      ∧ (store.recordedOutcome tx = some (.concluded run.key)
        ∨ ∃ eligible, store.recordedOutcome tx = some (.failed run.key eligible)
          ∧ row.nextEligibleAt = some eligible) := by
  have hrun := (htx.recording r ((CollectStore.recorded_eq_some _).mp hr).1).1
  cases htx
  case failure result code connectionFailure =>
    obtain ⟨-, hactive, -⟩ := (CollectStore.recorded_eq_some _).mp hr
    refine ⟨_, CollectStore.recordFailure_tasks hactive, ?_⟩
    rcases hnext : store.taskNextEligible run connectionFailure finish with _ | eligible
    · exact .inl (by simp [CollectStore.recordedOutcome, hr, hnext])
    · exact .inr ⟨eligible, by simp [CollectStore.recordedOutcome, hr, hnext], rfl⟩
  all_goals
    obtain ⟨row, htasks, -, -⟩ := CollectStore.commit_tasks_of_recorded hr
    rw [hrun] at htasks
    exact ⟨row, htasks, .inl (by simp [CollectStore.recordedOutcome, hr, hrun])⟩

theorem keepsHold_outcome {finish : ℤ} (htx : Outcome run finish tx) (key : TaskKey) :
    KeepsHold s (s.commit run.target.id tx) key := by
  rcases hr : (s.stores run.target.id).recorded tx with _ | r
  · exact keepsHold_of_not_recorded hr key
  obtain ⟨row, htasks, houtcome⟩ := recordedOutcome_of_outcome htx hr
  intro eligible hheld
  unfold eligibleAt
  rw [taskColumn_commit_of_tasks htasks]
  rcases houtcome with houtcome | ⟨next, houtcome, hrow⟩ <;>
    simp only [commit, houtcome, Option.toList_some, List.singleton_append, heldUntil] at hheld
  · split_ifs at hheld with hkey
    exact .inr ⟨hheld, by simp [Ne.symm hkey]⟩
  · split_ifs at hheld with hkey
    · subst hkey
      exact .inl (by simp [hrow, ← hheld])
    · exact .inr ⟨hheld, by simp [Ne.symm hkey]⟩

theorem outcomes_refresh (now : ℤ) (targets : List Target) (completed : Bool) :
    (s.refresh now targets completed).outcomes = s.outcomes :=
  refresh_induction (motive := fun t => t.outcomes = s.outcomes) rfl
    (fun _ _ _ ht => ht) (fun _ _ ht _ => ht) (fun _ _ ht _ => ht) fun _ _ ht => ht

theorem keepsHold_move (hp : PhaseInv s) (hm : Move s a s') (key : TaskKey) :
    KeepsHold s s' key
      ∨ ∃ replaced, a.recordsUnmet = true ∧ s.loop.skipped = some replaced ∧ replaced.key = key
        ∧ (s.stores replaced.target.id).paused = false ∧ s'.outcomes = s.outcomes := by
  cases hm
  case setPaused | ensureTaskStates => exact .inl (keepsHold_of_not_recorded rfl key)
  case refresh now targets completed _ _ _ =>
    left
    exact .of_eq (outcomes_refresh now targets completed) fun e he =>
      (taskColumn_refresh rfl now targets completed key).trans he
  case recordSkip now keys replaced readAt hloop hcapability =>
    refine (keepsHold_skip replaced readAt key).imp_right fun ⟨hkey, hactive⟩ => ?_
    exact ⟨replaced, rfl, by rw [hloop]; rfl, hkey.symm, hactive, by simp [commit, setLoop]⟩
  case recordBackoff run eligible readAt runs _ =>
    exact .inl (keepsHold_backoff run readAt eligible key)
  case start running _ _ => exact .inl (keepsHold_started running.run key)
  case record running tx hi hphase =>
    obtain ⟨finish, -, htx⟩ := hp.recording running (List.mem_of_getElem? hi) tx hphase
    exact .inl (keepsHold_outcome htx key)
  all_goals exact .inl (.of_eq rfl fun _ he => he)

theorem heldUntil_move (hp : PhaseInv s) (hm : Move s a s') (key : TaskKey) :
    heldUntil key s'.outcomes = heldUntil key s.outcomes
      ∨ ∃ running ∈ s.running, running.run.key = key := by
  cases hm
  case refresh now targets completed _ _ _ =>
    exact .inl (congrArg _ (outcomes_refresh now targets completed))
  case record i running tx hi hphase =>
    have hmem := List.mem_of_getElem? hi
    obtain ⟨finish, -, htx⟩ := hp.recording running hmem tx hphase
    by_cases hkey : running.run.key = key
    · exact .inr ⟨running, hmem, hkey⟩
    left
    rcases hr : (s.stores running.run.target.id).recorded tx with _ | r
    · simp [commit, setRunning, CollectStore.recordedOutcome, hr]
    · obtain ⟨row, -, houtcome | ⟨next, houtcome, -⟩⟩ := recordedOutcome_of_outcome htx hr <;>
        simp [commit, setRunning, houtcome, heldUntil, hkey]
  case recordSkip | recordBackoff | start =>
    left
    simp [commit, setLoop, setRunning]
  all_goals exact .inl rfl

end Commit

section Held

variable {key : TaskKey} {run : ScheduledRun} {eligible : ℤ}

def Held (s : Collector) (key : TaskKey) (eligible : ℤ) : Prop :=
  s.eligibleAt key = some eligible
    ∨ eligible ≤ s.now ∧ ∀ due ∈ s.waiting key, eligible ≤ due

structure BackoffInv (s : Collector) : Prop where
  order : ∀ key, key.taskId ≠ capabilitySnapshotTaskId → DueOrder s key
  replaced : ∀ run ∈ s.loop.skipped, (s.pending.items.lookup run.key).isSome
  held : ∀ key, key.taskId ≠ capabilitySnapshotTaskId →
    ∀ eligible ∈ heldUntil key s.outcomes, Held s key eligible
  checked : ∀ run read runs, s.loop = .checking run read runs →
    run.work.isCollectionQuery = true → ∀ eligible ∈ heldUntil run.key s.outcomes,
      (∃ e ∈ read, eligible ≤ e) ∨ eligible ≤ run.dueAt
        ∨ s.dispatcher.instanceQuery run.target.id = true

theorem backoffInv_init (clock : ℤ) : BackoffInv (init probeLimit queryLimit clock) where
  order := fun key _ => dueOrder_init _ _ _ key
  replaced := by simp [init, Loop.skipped]
  held := by simp [init, heldUntil]
  checked := by simp [init]

theorem waiting_of_pending (h : DueOrder s key) (hrun : s.pending.items.lookup key = some run) :
    run.dueAt ≤ s.now ∧ ∀ due ∈ s.waiting key, run.dueAt ≤ due := by
  have hpending : s.pendingDue key = [run.dueAt] := by simp [pendingDue, hrun]
  have hmem : run.dueAt ∈ s.generatedLine key := by simp [generatedLine, hpending]
  refine ⟨h.past _ hmem, fun due hdue => ?_⟩
  rw [waiting, hpending, List.mem_append, List.mem_singleton] at hdue
  rcases hdue with rfl | hdue
  · exact Int.le_refl _
  · have := (List.pairwise_append.mp h.increasing).2.2 _ hmem due hdue
    omega

theorem held_move (h : BackoffInv s) (ho : ObligationInv s) (hp : PhaseInv s) (hm : Move s a s')
    (hskips : SkipsPastBackoff s a s') (hkey : key.taskId ≠ capabilitySnapshotTaskId)
    (hheld : heldUntil key s'.outcomes = some eligible) : Held s' key eligible := by
  obtain ⟨hnow, -, hwaiting⟩ := lineSteps_follow (lineSteps_move ho hkey hm)
  have hwaits : (eligible ≤ s.now ∧ ∀ due ∈ s.waiting key, eligible ≤ due) →
      Held s' key eligible :=
    fun ⟨hle, hbefore⟩ => .inr ⟨Int.le_trans hle hnow, hwaiting.bound id hle hbefore⟩
  rcases keepsHold_move hp hm key with hkeeps | ⟨replaced, ha, hskipped, rfl, hactive, heq⟩
  · rcases hkeeps eligible hheld with hrow | ⟨hheld, hrows⟩
    · exact .inl hrow
    · exact (h.held key hkey eligible hheld).elim (fun hrow => .inl (hrows eligible hrow)) hwaits
  · rw [heq] at hheld
    rcases h.held _ hkey eligible hheld with hrow | hbefore
    · -- the skip clears the row; the run that replaced the skipped one is not due before
      obtain ⟨row, hlookup, hnext⟩ := Option.bind_eq_some_iff.mp hrow
      obtain ⟨run, hrun⟩ := Option.isSome_iff_exists.mp (h.replaced replaced hskipped)
      have hle := hskips ha replaced hskipped hactive row hlookup eligible hnext run hrun
      obtain ⟨hpast, hfirst⟩ := waiting_of_pending (h.order _ hkey) hrun
      exact hwaits ⟨Int.le_trans hle hpast, fun due hdue => Int.le_trans hle (hfirst due hdue)⟩
    · exact hwaits hbefore

theorem replaced_move (h : BackoffInv s) (ho : ObligationInv s) (hm : Move s a s') :
    ∀ run ∈ s'.loop.skipped, (s'.pending.items.lookup run.key).isSome := by
  cases hm
  case refresh now targets completed hloop _ _ =>
    obtain ⟨-, -, -, hloop', -⟩ := refresh_frame s now targets completed
    simp [hloop', hloop, Loop.skipped]
  case replace now key keys entry replaced hloop hentry hdue hsome =>
    intro run hrun
    cases hrun
    rw [ho.pending_key hsome]
    simp
  case tick | setPaused | ensureTaskStates | advance | prepare | start | record | send | complete =>
    exact h.replaced
  all_goals simp [setLoop, Loop.skipped]

theorem isCollectionQuery_iff : run.work.isCollectionQuery = true ↔
    isCapabilitySnapshotTask run.task = false ∧ run.task.kind ≠ .probe := by
  simp only [Work.isCollectionQuery, ScheduledRun.work, classFor]
  split_ifs <;> simp_all

theorem le_nextEligible (hclass : run.work.isCollectionQuery = true)
    (hrow : s.eligibleAt run.key = some eligible) :
    ∃ e ∈ (s.stores run.target.id).nextEligible run, eligible ≤ e := by
  obtain ⟨hcapability, hprobe⟩ := isCollectionQuery_iff.mp hclass
  obtain ⟨row, hlookup, hnext⟩ := Option.bind_eq_some_iff.mp hrow
  simp only [ScheduledRun.key] at hlookup
  simp only [CollectStore.nextEligible, hprobe, hcapability, hlookup, hnext]
  rcases (s.stores run.target.id).connection.bind ConnectionStateRow.nextEligibleAt
    with _ | connection
  · exact ⟨eligible, by simp, Int.le_refl _⟩
  · by_cases hlt : connection < eligible
    · exact ⟨eligible, by simp [hlt], Int.le_refl _⟩
    · exact ⟨connection, by simp [hlt], by omega⟩

theorem instanceQuery_of_key (hc : CollectorInv probeLimit queryLimit s) {read : Option ℤ}
    {runs : List ScheduledRun} {running : Running}
    (hloop : s.loop = .checking run read runs) (hclass : run.work.isCollectionQuery = true)
    (hmem : running ∈ s.running) (hkey : running.run.key = run.key) :
    s.dispatcher.instanceQuery run.target.id = true := by
  simp only [ScheduledRun.key, TaskKey.mk.injEq] at hkey
  have hpending := hc.obligations.runs_pending run (by simp [hloop, Loop.runs])
  have htask : running.run.task = run.task :=
    collectorTasks_ext _ (hc.runs.running running hmem) _ (hc.runs.pending hpending) hkey.2
  rw [← hkey.1]
  refine instanceQuery_of_running hc.flight hmem ?_
  obtain ⟨hcapability, hprobe⟩ := isCollectionQuery_iff.mp hclass
  simp [Work.isProbe, ScheduledRun.work, classFor, htask, hcapability, hprobe]

theorem checked_move (h : BackoffInv s) (hc : CollectorInv probeLimit queryLimit s)
    (hm : Move s a s') : ∀ run read runs, s'.loop = .checking run read runs →
      run.work.isCollectionQuery = true → ∀ eligible ∈ heldUntil run.key s'.outcomes,
        (∃ e ∈ read, eligible ≤ e) ∨ eligible ≤ run.dueAt
          ∨ s'.dispatcher.instanceQuery run.target.id = true := by
  have hframe : s'.loop = s.loop → s'.dispatcher = s.dispatcher →
      ∀ run read runs, s'.loop = .checking run read runs →
        run.work.isCollectionQuery = true → ∀ eligible ∈ heldUntil run.key s'.outcomes,
          (∃ e ∈ read, eligible ≤ e) ∨ eligible ≤ run.dueAt
            ∨ s'.dispatcher.instanceQuery run.target.id = true := by
    intro hloop hdispatcher run read runs hchecking hclass eligible heligible
    rw [hloop] at hchecking
    rw [hdispatcher]
    rcases heldUntil_move hc.phases hm run.key with heq | ⟨running, hmem, hkey⟩
    · exact h.checked run read runs hchecking hclass eligible (heq ▸ heligible)
    · exact .inr (.inr (instanceQuery_of_key hc hchecking hclass hmem hkey))
  cases hm
  case tick | setPaused | ensureTaskStates | advance | prepare | start | record | send =>
    exact hframe rfl rfl
  case refresh now targets completed hloop _ _ =>
    obtain ⟨-, -, -, hloop', -⟩ := refresh_frame s now targets completed
    simp [hloop', hloop]
  case complete hloop _ => simp [hloop]
  case check run runs hloop =>
    intro run' read runs' heq hclass eligible heligible
    simp only [setLoop, Loop.checking.injEq] at heq
    obtain ⟨rfl, rfl, -⟩ := heq
    have hcapability := (isCollectionQuery_iff.mp hclass).1
    rcases h.held run.key (taskId_ne_of_not_capability hcapability) eligible heligible
      with hrow | ⟨-, hbefore⟩
    · exact .inl (le_nextEligible hclass hrow)
    · have hpending := hc.obligations.runs_pending run (by simp [hloop, Loop.runs])
      exact .inr (.inl (hbefore _ (by simp [waiting, pendingDue, hpending])))
  all_goals simp [setLoop]

end Held

section Runs

theorem respectsBackoff_move (h : BackoffInv s) (hm : Move s a s') : RespectsBackoff s a s' := by
  intro run ha hjournal hclass eligible heligible
  obtain ⟨read, runs, dispatcher, hloop, hread, hadmitted, -⟩ := launch_of_journal hm ha hjournal
  rcases h.checked run read runs hloop hclass eligible heligible with ⟨e, he, hle⟩ | hle | hquery
  · exact Int.le_trans hle (hread e he)
  · exact hle
  · have hfree := Dispatcher.admitWork_instanceQuery hadmitted hclass
    rw [ScheduledRun.work, hquery] at hfree
    cases hfree

theorem backoffInv_step (h : CollectorInv probeLimit queryLimit s) (hb : BackoffInv s)
    (hstep : step s a = some s') (hskips : SkipsPastBackoff s a s') : BackoffInv s' := by
  have hm := move_of_step hstep
  constructor
  · exact fun key hkey => (hb.order key hkey).steps (lineSteps_move h.obligations hkey hm)
  · exact replaced_move hb h.obligations hm
  · exact fun key hkey _ hheld => held_move hb h.obligations h.phases hm hskips hkey hheld
  · exact checked_move hb h hm

theorem backoff_respected (probeLimit queryLimit : ℕ) (clock : ℤ) (actions : List Action)
    (hskips : Along step SkipsPastBackoff (init probeLimit queryLimit clock) actions) :
    Along step RespectsBackoff (init probeLimit queryLimit clock) actions := by
  refine Along.of_guarded (I := fun s => CollectorInv probeLimit queryLimit s ∧ BackoffInv s) ?_
    ⟨collectorInv_init clock, backoffInv_init clock⟩ hskips
  rintro s a t ⟨h, hb⟩ hstep hskip
  exact ⟨respectsBackoff_move hb (move_of_step hstep), collectorInv_step h hstep,
    backoffInv_step h hb hstep hskip⟩

/-- The first run fails at `finish`, and of the two that fall due before 12 s the first is
skipped; then the other one is dispatched. -/
def skipAfterFailure (finish : ℤ) : List Action :=
  firstStart ++ [.tick finish, .finishRun 0 (.failure true false), .recordRun 0 true,
      .tick (12 * second), .accrue (12 * second)]
    ++ List.replicate 11 .accrueNext ++ [.recordSkip true] ++ List.replicate 3 .accrueNext
    ++ [.sendOutcome 0, .complete, .dispatch, .dispatchNext true, .dispatchRun]

theorem backoff_respected_passed :
    (run step (init 10 10 0) (skipAfterFailure (3 * second))).isSome = true
      ∧ Along step SkipsPastBackoff (init 10 10 0) (skipAfterFailure (3 * second))
      ∧ Along step RespectsBackoff (init 10 10 0) (skipAfterFailure (3 * second)) := by
  have hrun : (run step (init 10 10 0) (skipAfterFailure (3 * second))).isSome = true := by
    decide +kernel
  have hskips : Along step SkipsPastBackoff (init 10 10 0) (skipAfterFailure (3 * second)) := by
    decide +kernel
  exact ⟨hrun, hskips, backoff_respected 10 10 0 _ hskips⟩

def launchesEarly (s : Collector) (a : Action) (t : Collector) : Bool :=
  match a, t.journal with
  | .dispatchRun, .dispatched run :: journal =>
    journal = s.journal && run.work.isCollectionQuery
      && (heldUntil run.key s.outcomes).any fun eligible => run.dueAt < eligible
  | _, _ => false

theorem launchesEarly_eq_false (h : RespectsBackoff s a s') : launchesEarly s a s' = false := by
  unfold launchesEarly
  split
  · rename_i run journal hjournal
    by_contra hearly
    simp only [Bool.not_eq_false, Bool.and_eq_true, decide_eq_true_eq,
      Option.any_eq_true_iff_get] at hearly
    obtain ⟨⟨rfl, hclass⟩, hsome, hlt⟩ := hearly
    have := h run rfl hjournal hclass _ (Option.get_mem hsome)
    omega
  · rfl

/-- The run fails at 10 s and holds its task back until 15 s; the run due at 11.56 s is launched. -/
theorem skip_ends_backoff :
    ¬ Along step RespectsBackoff (init 10 10 0) (skipAfterFailure (10 * second)) := by
  intro h
  have hearly : Along step (fun s a t => launchesEarly s a t = false) (init 10 10 0)
      (skipAfterFailure (10 * second)) := Along.mono (fun _ _ _ => launchesEarly_eq_false) h
  have hno : ¬ Along step (fun s a t => launchesEarly s a t = false) (init 10 10 0)
      (skipAfterFailure (10 * second)) := by decide +kernel
  exact hno hearly

end Runs

end Collector

end DbsMonitor
