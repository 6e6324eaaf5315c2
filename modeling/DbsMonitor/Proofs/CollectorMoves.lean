import DbsMonitor.Collector
import DbsMonitor.Proofs.Recording

/-!
# What the collector can do

One constructor of `Move` for each kind of step of the scheduler loop and of the runs in flight,
with its guard and its effect; `move_of_step` says that every step is one of them.
-/

namespace DbsMonitor.Collector

/-- The transactions that record the outcome of a run, with the clock they were given. -/
inductive Outcome (run : ScheduledRun) (clock : ℤ) : Tx → Prop
  | capacityEmergency : Outcome run clock (.capacityEmergency run clock)
  | capabilityNotApplicable (reason : CapabilityBlockReason) :
      Outcome run clock (.capabilityNotApplicable run reason clock)
  | capabilityBlocked (reason : CapabilityBlockReason) (hreason : reason ≠ .notApplicableRole) :
      Outcome run clock (.capabilityBlocked run reason clock)
  | success (batch : CollectedBatch) : Outcome run clock (.success run batch clock)
  | failure (result : TaskResult) (code : ErrorCode) (connectionFailure : Bool) :
      Outcome run clock (.failure run result code connectionFailure clock)

def Action.readsFinish : Action → Option ℕ
  | .rejectRun i | .decideRun i (some (some _)) | .finishRun i _ => some i
  | _ => none

def Action.recordsUnmet : Action → Bool
  | .recordSkip ok | .recordBackoff ok => ok
  | _ => false

inductive Advance (clock : ℤ) (running : Running) : Running → Prop
  | abandon : Advance clock running { running with phase := .finished }
  | snapshot (hphase : running.phase = .launched)
      (hcapability : isCapabilitySnapshotTask running.run.task = true) :
      Advance clock running { running with phase := .snapshotting }
  | begin (hphase : running.phase = .launched)
      (hcapability : isCapabilitySnapshotTask running.run.task = false) :
      Advance clock running
        { run := { running.run with startedAt := some clock }, phase := .deciding }
  | proceed (hphase : running.phase = .deciding) :
      Advance clock running { running with phase := .starting }

inductive Move (s : Collector) : Action → Collector → Prop
  | tick {clock : ℤ} (h : s.clock ≤ clock) : Move s (.tick clock) { s with clock := clock }
  | setPaused {id : InstanceId} {paused : Bool} :
      Move s (.setPaused id paused) (s.commit id (.setPaused paused))
  | ensureTaskStates {id : InstanceId} {ids : List TaskId} :
      Move s (.ensureTaskStates id ids) (s.commit id (.ensureTaskStates ids))
  | refresh {now : ℤ} {targets : List Target} {completed : Bool} (hloop : s.loop = .idle)
      (hnow : s.now ≤ now) (hclock : now ≤ s.clock) :
      Move s (.refresh now targets completed) (s.refresh now targets completed)
  | accrue {now : ℤ} (hloop : s.loop = .idle) (hnow : s.now ≤ now) (hclock : now ≤ s.clock) :
      Move s (.accrue now) { s with now := now, loop := .accruing now s.sortedKeys }
  | accrueEnd {now : ℤ} (hloop : s.loop = .accruing now []) :
      Move s .accrueNext (s.setLoop .idle)
  | accruePass {now : ℤ} {key : TaskKey} {keys : List TaskKey}
      (hloop : s.loop = .accruing now (key :: keys)) :
      Move s .accrueNext (s.setLoop (.accruing now keys))
  | generate {now : ℤ} {key : TaskKey} {keys : List TaskKey} {entry : ScheduleEntry}
      (hloop : s.loop = .accruing now (key :: keys))
      (hentry : s.schedule.lookup key = some entry) (hdue : entry.nextDue ≤ now)
      (hnone : s.pending.items.lookup entry.dueRun.key = none) :
      Move s .accrueNext
        { s with
          schedule := s.schedule.insert key
            { entry with nextDue := entry.nextDue + entry.template.interval }
          pending := { items := s.pending.items.insert entry.dueRun.key entry.dueRun }
          journal := .generated entry.dueRun :: s.journal
          loop := .accruing now (key :: keys) }
  | replace {now : ℤ} {key : TaskKey} {keys : List TaskKey} {entry : ScheduleEntry}
      {replaced : ScheduledRun} (hloop : s.loop = .accruing now (key :: keys))
      (hentry : s.schedule.lookup key = some entry) (hdue : entry.nextDue ≤ now)
      (hsome : s.pending.items.lookup entry.dueRun.key = some replaced) :
      Move s .accrueNext
        { s with
          schedule := s.schedule.insert key
            { entry with nextDue := entry.nextDue + entry.template.interval }
          pending := { items := s.pending.items.insert entry.dueRun.key entry.dueRun }
          journal := .generated entry.dueRun :: .skipped replaced :: s.journal
          loop := .skipping now (key :: keys) replaced s.clock }
  | passSkip {ok : Bool} {now : ℤ} {keys : List TaskKey} {replaced : ScheduledRun} {readAt : ℤ}
      (hloop : s.loop = .skipping now keys replaced readAt) :
      Move s (.recordSkip ok) (s.setLoop (.accruing now keys))
  | recordSkip {now : ℤ} {keys : List TaskKey} {replaced : ScheduledRun} {readAt : ℤ}
      (hloop : s.loop = .skipping now keys replaced readAt)
      (hcapability : isCapabilitySnapshotTask replaced.task = false) :
      Move s (.recordSkip true)
        ((s.commit replaced.target.id
          (.unmet replaced .skippedBackpressure readAt none)).setLoop (.accruing now keys))
  | dispatch (hloop : s.loop = .idle) :
      Move s .dispatch
        { s with
          dispatcher :=
            { s.dispatcher with capabilitySnapshotWaiting := s.pending.hasCapabilitySnapshot }
          loop := .dispatching s.pending.ordered }
  | dispatchEnd {ok : Bool} (hloop : s.loop = .dispatching []) :
      Move s (.dispatchNext ok) (s.setLoop .idle)
  | dispatchPass {run : ScheduledRun} {runs : List ScheduledRun}
      (hloop : s.loop = .dispatching (run :: runs)) :
      Move s (.dispatchNext false) (s.setLoop (.dispatching runs))
  | check {run : ScheduledRun} {runs : List ScheduledRun}
      (hloop : s.loop = .dispatching (run :: runs)) :
      Move s (.dispatchNext true)
        (s.setLoop (.checking run ((s.stores run.target.id).nextEligible run) runs))
  | backOff {run : ScheduledRun} {eligible : ℤ} {runs : List ScheduledRun}
      (hloop : s.loop = .checking run (some eligible) runs) (hdue : run.dueAt < eligible) :
      Move s .dispatchRun
        { s with
          pending := s.pending.take run.key
          journal := .backedOff run :: s.journal
          loop := .backingOff run eligible s.clock runs }
  | wait {run : ScheduledRun} {eligible : Option ℤ} {runs : List ScheduledRun}
      (hloop : s.loop = .checking run eligible runs) :
      Move s .dispatchRun (s.setLoop (.dispatching runs))
  | launch {run : ScheduledRun} {eligible : Option ℤ} {runs : List ScheduledRun}
      {dispatcher : Dispatcher} (hloop : s.loop = .checking run eligible runs)
      (heligible : ∀ e ∈ eligible, e ≤ run.dueAt)
      (hadmitted : s.dispatcher.admitWork run.work = some dispatcher) :
      Move s .dispatchRun
        { s with
          pending := s.pending.take run.key
          dispatcher :=
            { dispatcher with
              capabilitySnapshotWaiting := (s.pending.take run.key).hasCapabilitySnapshot }
          running := s.running ++ [{ run := run, phase := .launched }]
          journal := .dispatched run :: s.journal
          loop := .dispatching runs }
  | passBackoff {run : ScheduledRun} {eligible readAt : ℤ} {runs : List ScheduledRun}
      (hloop : s.loop = .backingOff run eligible readAt runs) :
      Move s (.recordBackoff false) (s.setLoop (.dispatching runs))
  | recordBackoff {run : ScheduledRun} {eligible readAt : ℤ} {runs : List ScheduledRun}
      (hloop : s.loop = .backingOff run eligible readAt runs) :
      Move s (.recordBackoff true)
        ((s.commit run.target.id (.unmet run .backoff readAt (some eligible))).setLoop
          (.dispatching runs))
  | complete {run : ScheduledRun} {rest : List ScheduledRun} (hloop : s.loop = .idle)
      (hcompleted : s.completed = run :: rest) :
      Move s .complete { s with completed := rest, dispatcher := s.dispatcher.finish run.work }
  | advance {a : Action} {i : ℕ} {running running' : Running}
      (hi : s.running[i]? = some running) (hadvance : Advance s.clock running running') :
      Move s a (s.setRunning i running')
  | prepare {a : Action} {i : ℕ} {running : Running} {tx : Tx} (ha : a.readsFinish = some i)
      (hi : s.running[i]? = some running)
      (hphase : running.phase = .deciding ∨ running.phase = .collecting)
      (htx : Outcome running.run s.clock tx) :
      Move s a (s.setRunning i { running with phase := .recording tx })
  | start {i : ℕ} {running : Running} (hi : s.running[i]? = some running)
      (hphase : running.phase = .starting) :
      Move s (.startRun i true)
        ((s.commit running.run.target.id (.started running.run)).setRunning i
          { running with phase := .collecting })
  | record {i : ℕ} {running : Running} {tx : Tx} (hi : s.running[i]? = some running)
      (hphase : running.phase = .recording tx) :
      Move s (.recordRun i true)
        ((s.commit running.run.target.id tx).setRunning i { running with phase := .finished })
  | send {i : ℕ} {running : Running} (hi : s.running[i]? = some running)
      (hphase : running.phase = .finished) :
      Move s (.sendOutcome i)
        { s with
          running := s.running.eraseIdx i
          completed := s.completed ++ [running.run] }

theorem Advance.same {clock : ℤ} {running running' : Running} (h : Advance clock running running') :
    running'.run.key = running.run.key ∧ running'.run.dueAt = running.run.dueAt
      ∧ running'.run.task = running.run.task ∧ running'.run.target = running.run.target := by
  cases h <;> exact ⟨rfl, rfl, rfl, rfl⟩

theorem map_set_of_eq {α β : Type*} {l : List α} {i : ℕ} {a a' : α} {f : α → β}
    (hi : l[i]? = some a) (hf : f a' = f a) : (l.set i a').map f = l.map f := by
  obtain ⟨hlt, rfl⟩ := List.getElem?_eq_some_iff.mp hi
  rw [List.map_set, hf]
  refine List.ext_getElem? fun j => ?_
  by_cases hj : i = j
  · subst hj
    simp [hlt]
  · simp [hj]

theorem scheduledTasks_not_capability :
    ∀ task ∈ scheduledTasks, isCapabilitySnapshotTask task = false := by
  decide

theorem refresh_induction {motive : Collector → Prop} {s : Collector} {now : ℤ}
    {targets : List Target} {completed : Bool} (hstart : motive { s with now := now })
    (hensure : ∀ t id ids, motive t → motive (t.commit id (.ensureTaskStates ids)))
    (htask : ∀ t template, motive t → template.task ∈ scheduledTasks →
      motive (t.enterTask now template))
    (hcapability : ∀ t template, motive t → template.task = capabilitySnapshotTask →
      motive (t.enterCapabilitySnapshot now template))
    (hleave : ∀ t key, motive t → motive (t.leave key)) :
    motive (s.refresh now targets completed) := by
  have hentered : motive (targets.foldl (fun s target => s.enterTarget now target)
      { s with now := now }) := by
    refine List.foldlRecOn _ _ hstart fun t ht target _ => ?_
    refine hcapability _ _ (List.foldlRecOn _ _ (hensure t _ _ ht) fun t ht template hmem => ?_) rfl
    obtain ⟨task, htask', rfl⟩ := List.mem_map.mp hmem
    exact htask t _ ht htask'
  unfold refresh
  split_ifs
  · exact List.foldlRecOn _ _ hentered fun t ht key _ => hleave t key ht
  · exact hentered

section Columns

variable {s : Collector} {f : TaskStateRow → Option ℤ} {id : InstanceId} {tx : Tx}
  {run : ScheduledRun}

def taskColumn (f : TaskStateRow → Option ℤ) (s : Collector) (key : TaskKey) : Option ℤ :=
  ((s.stores key.instanceId).tasks.lookup key.taskId).bind f

theorem taskColumn_commit_of_not_recorded (hf : f {} = none)
    (h : (s.stores id).recorded tx = none) (key : TaskKey) :
    taskColumn f (s.commit id tx) key = taskColumn f s key := by
  by_cases hid : key.instanceId = id
  · rcases CollectStore.commit_lookup_of_not_recorded h key.taskId with heq | ⟨hnone, hnew⟩
    · simp [taskColumn, commit, hid, heq]
    · simp [taskColumn, commit, hid, hnone, hnew, hf]
  · simp [taskColumn, commit, Function.update_of_ne hid]

theorem taskColumn_commit_of_tasks {row : TaskStateRow}
    (h : ((s.stores run.target.id).commit tx).tasks
      = (s.stores run.target.id).tasks.insert run.task.id row) (key : TaskKey) :
    taskColumn f (s.commit run.target.id tx) key
      = if key = run.key then f row else taskColumn f s key := by
  by_cases hkey : key = run.key
  · subst hkey
    simp [taskColumn, commit, ScheduledRun.key, h]
  · rw [if_neg hkey]
    by_cases hid : key.instanceId = run.target.id
    · have htask : key.taskId ≠ run.task.id := by
        intro htask
        apply hkey
        rw [ScheduledRun.key, ← hid, ← htask]
      simp [taskColumn, commit, hid, h, AList.lookup_insert_ne htask]
    · simp [taskColumn, commit, Function.update_of_ne hid]

theorem Outcome.recording {finish : ℤ} (h : Outcome run finish tx) :
    ∀ r ∈ tx.recording, r.run = run ∧ ∀ finished ∈ r.success, finished = finish := by
  intro r hr
  cases h <;> simp only [Tx.recording, Option.mem_def, Option.some.injEq] at hr <;> subst hr <;>
    simp

theorem taskColumn_refresh (hf : f {} = none) (now : ℤ) (targets : List Target)
    (completed : Bool) (key : TaskKey) :
    taskColumn f (s.refresh now targets completed) key = taskColumn f s key := by
  refine refresh_induction (motive := fun t => taskColumn f t key = taskColumn f s key) rfl
    ?_ ?_ ?_ ?_
  · exact fun t id ids ht => (taskColumn_commit_of_not_recorded hf rfl key).trans ht
  · exact fun _ _ ht _ => ht
  · exact fun _ _ ht _ => ht
  · exact fun _ _ ht => ht

end Columns

section Inversion

variable {s s' : Collector} {i : ℕ} {running : Running}

theorem move_of_beginRun {ok : Bool} (hi : s.running[i]? = some running)
    (h : s.beginRun i running ok = some s') : Move s (.beginRun i ok) s' := by
  simp only [beginRun] at h
  split at h
  · rename_i hphase
    split_ifs at h with hend hcapability <;> cases h
    · exact .advance hi .abandon
    · exact .advance hi (.snapshot hphase hcapability)
    · exact .advance hi (.begin hphase (by simpa using hcapability))
  · cases h

theorem move_of_endSnapshot (hi : s.running[i]? = some running)
    (h : s.endSnapshot i running = some s') : Move s (.endSnapshot i) s' := by
  simp only [endSnapshot] at h
  split at h <;> cases h
  exact .advance hi .abandon

theorem move_of_rejectRun (hi : s.running[i]? = some running)
    (h : s.rejectRun i running = some s') : Move s (.rejectRun i) s' := by
  simp only [rejectRun] at h
  split at h <;> cases h
  rename_i hphase
  exact .prepare rfl hi (.inl hphase) .capacityEmergency

theorem move_of_decideRun {decision : Option (Option CapabilityBlockReason)}
    (hi : s.running[i]? = some running) (h : s.decideRun i running decision = some s') :
    Move s (.decideRun i decision) s' := by
  simp only [decideRun] at h
  split at h
  · rename_i hphase
    split_ifs at h with hprobe <;> cases h
    · exact .advance hi (.proceed hphase)
    · rcases decision with _ | _ | reason
      · exact .advance hi .abandon
      · exact .advance hi (.proceed hphase)
      · cases reason
        case notApplicableRole =>
          exact .prepare rfl hi (.inl hphase) (.capabilityNotApplicable _)
        all_goals exact .prepare rfl hi (.inl hphase) (.capabilityBlocked _ (by decide))
  · cases h

theorem move_of_startRun {ok : Bool} (hi : s.running[i]? = some running)
    (h : s.startRun i running ok = some s') : Move s (.startRun i ok) s' := by
  simp only [startRun] at h
  split at h
  · rename_i hphase
    split_ifs at h with hend <;> cases h
    · exact .advance hi .abandon
    · simp only [Bool.or_eq_true, Bool.not_eq_true', not_or, Bool.not_eq_false] at hend
      obtain rfl := hend.1
      exact .start hi hphase
  · cases h

theorem move_of_finishRun {collected : Collected} (hi : s.running[i]? = some running)
    (h : s.finishRun i running collected = some s') : Move s (.finishRun i collected) s' := by
  simp only [finishRun] at h
  split at h <;> cases h
  rename_i hphase
  rcases collected with batch | ⟨timedOut, connectionFailure⟩ | _
  · exact .prepare rfl hi (.inr hphase) (.success batch)
  · exact .prepare rfl hi (.inr hphase) (.failure _ _ _)
  · exact .advance hi .abandon

theorem move_of_recordRun {ok : Bool} (hi : s.running[i]? = some running)
    (h : s.recordRun i running ok = some s') : Move s (.recordRun i ok) s' := by
  simp only [recordRun] at h
  split at h
  · rename_i tx hphase
    cases ok <;> cases h
    · exact .advance hi .abandon
    · exact .record hi hphase
  · cases h

theorem move_of_sendOutcome (hi : s.running[i]? = some running)
    (h : s.sendOutcome i running = some s') : Move s (.sendOutcome i) s' := by
  simp only [sendOutcome] at h
  split at h
  · rename_i hphase
    split_ifs at h
    cases h
    exact .send hi hphase
  · cases h

theorem move_of_accrueNext {now : ℤ} {key : TaskKey} {keys : List TaskKey}
    (hloop : s.loop = .accruing now (key :: keys)) :
    Move s .accrueNext (s.accrueNext now key keys) := by
  unfold accrueNext
  split
  · exact .accruePass hloop
  · rename_i entry hentry
    split_ifs with hdue
    · rcases hput : s.pending.items.lookup entry.dueRun.key with _ | replaced
      · simp only [PendingRuns.put, hput]
        exact .generate hloop hentry hdue hput
      · simp only [PendingRuns.put, hput]
        exact .replace hloop hentry hdue hput
    · exact .accruePass hloop

theorem move_of_dispatchRun {run : ScheduledRun} {eligible : Option ℤ}
    {runs : List ScheduledRun} (hloop : s.loop = .checking run eligible runs) :
    Move s .dispatchRun (s.dispatchRun run eligible runs) := by
  unfold dispatchRun
  split
  · rename_i e he
    obtain ⟨rfl, hdue⟩ := Option.filter_eq_some_iff.mp he
    exact .backOff hloop (by simpa using hdue)
  · rename_i hnone
    split
    · exact .wait hloop
    · rename_i dispatcher hadmitted
      refine .launch hloop (fun e he => ?_) hadmitted
      have := Option.filter_eq_none_iff.mp hnone e he
      simpa using this

theorem move_of_loopStep {a : Action} (h : s.loopStep a = some s') : Move s a s' := by
  cases a <;> simp only [loopStep, reduceCtorEq] at h
  case refresh now targets completed =>
    split at h
    · rename_i hloop
      split_ifs at h with hg
      cases h
      exact .refresh hloop hg.1 hg.2
    · cases h
  case accrue now =>
    split at h
    · rename_i hloop
      split_ifs at h with hg
      cases h
      exact .accrue hloop hg.1 hg.2
    · cases h
  case accrueNext =>
    split at h <;> cases h <;> rename_i hloop
    · exact .accrueEnd hloop
    · exact move_of_accrueNext hloop
  case recordSkip ok =>
    split at h <;> cases h
    rename_i hloop
    cases ok
    · exact .passSkip hloop
    · simp only [↓reduceIte, Collector.recordSkip]
      split_ifs with hcapability
      · exact .passSkip hloop
      · exact .recordSkip hloop (by simpa using hcapability)
  case dispatch =>
    split at h <;> cases h
    rename_i hloop
    exact .dispatch hloop
  case dispatchNext ok =>
    split at h <;> cases h <;> rename_i hloop
    · exact .dispatchEnd hloop
    · cases ok
      · exact .dispatchPass hloop
      · exact .check hloop
  case dispatchRun =>
    split at h <;> cases h
    rename_i hloop
    exact move_of_dispatchRun hloop
  case recordBackoff ok =>
    split at h <;> cases h
    rename_i hloop
    cases ok
    · exact .passBackoff hloop
    · exact .recordBackoff hloop
  case complete =>
    split at h
    · rename_i hloop
      simp only [Collector.complete] at h
      split at h <;> cases h
      rename_i hcompleted
      exact .complete hloop hcompleted
    · cases h

theorem move_of_step {a : Action} (h : step s a = some s') : Move s a s' := by
  cases a
  case tick clock =>
    simp only [step] at h
    split_ifs at h with hclock
    cases h
    exact .tick hclock
  case setPaused => cases h; exact .setPaused
  case ensureTaskStates => cases h; exact .ensureTaskStates
  case beginRun =>
    obtain ⟨running, hi, h⟩ := Option.bind_eq_some_iff.mp h
    exact move_of_beginRun hi h
  case endSnapshot =>
    obtain ⟨running, hi, h⟩ := Option.bind_eq_some_iff.mp h
    exact move_of_endSnapshot hi h
  case rejectRun =>
    obtain ⟨running, hi, h⟩ := Option.bind_eq_some_iff.mp h
    exact move_of_rejectRun hi h
  case decideRun =>
    obtain ⟨running, hi, h⟩ := Option.bind_eq_some_iff.mp h
    exact move_of_decideRun hi h
  case startRun =>
    obtain ⟨running, hi, h⟩ := Option.bind_eq_some_iff.mp h
    exact move_of_startRun hi h
  case finishRun =>
    obtain ⟨running, hi, h⟩ := Option.bind_eq_some_iff.mp h
    exact move_of_finishRun hi h
  case recordRun =>
    obtain ⟨running, hi, h⟩ := Option.bind_eq_some_iff.mp h
    exact move_of_recordRun hi h
  case sendOutcome =>
    obtain ⟨running, hi, h⟩ := Option.bind_eq_some_iff.mp h
    exact move_of_sendOutcome hi h
  all_goals exact move_of_loopStep h

end Inversion

end DbsMonitor.Collector
