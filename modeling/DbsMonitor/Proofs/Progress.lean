import DbsMonitor.Proofs.DueOrder
import DbsMonitor.Proofs.InFlight

/-!
# Collection progress

Nothing in the statements sees to it that the due instant of a task row and the watermark move
forwards only. Under two conditions on the steps (`OrderedRecording`) they do; without them they do
not (`skip_overtaken_by_outcome`).
-/

namespace DbsMonitor

def Running.recordingInstance (running : Running) : Option InstanceId :=
  match running.phase with
  | .recording _ => some running.run.target.id
  | _ => none

namespace Collector

open Machine

def lastDue (s : Collector) (key : TaskKey) : Option ℤ :=
  taskColumn TaskStateRow.lastDueAt s key

def watermark (s : Collector) (id : InstanceId) : Option ℤ :=
  (s.stores id).source.lastSuccessAt

def NotBefore (old new : Option ℤ) : Prop :=
  ∀ t ∈ old, ∃ t' ∈ new, t ≤ t'

def ProgressKept (s : Collector) (_ : Action) (t : Collector) : Prop :=
  (∀ key, NotBefore (s.lastDue key) (t.lastDue key))
    ∧ ∀ id, NotBefore (s.watermark id) (t.watermark id)

/-- A run is recorded as skipped or backed off only when no run of its task in flight can still
record, and reads its finish only when no other run of its instance has yet to commit its own. -/
def OrderedRecording (s : Collector) (a : Action) (_ : Collector) : Prop :=
  (a.recordsUnmet = true → ∀ run ∈ s.loop.handedOver, ∀ running ∈ s.running,
    running.mayRecord = true → running.run.key ≠ run.key)
  ∧ ∀ i ∈ a.readsFinish, ∀ running ∈ s.running[i]?, ∀ other ∈ s.running.eraseIdx i,
    other.recordingInstance ≠ some running.run.target.id

instance (s : Collector) (a : Action) (t : Collector) : Decidable (OrderedRecording s a t) :=
  inferInstanceAs (Decidable (_ ∧ _))

variable {probeLimit queryLimit : ℕ} {s s' : Collector} {a : Action}

theorem NotBefore.refl (t : Option ℤ) : NotBefore t t := fun t ht => ⟨t, ht, Int.le_refl _⟩

section Commit

variable {id : InstanceId} {tx : Tx} {run : ScheduledRun}

theorem lastDue_commit (htx : ∀ r ∈ tx.recording, r.run = run) (key : TaskKey) :
    (s.commit run.target.id tx).lastDue key = s.lastDue key
      ∨ key = run.key ∧ (s.commit run.target.id tx).lastDue key
        = some (timestamptz run.dueAt) := by
  rcases hr : (s.stores run.target.id).recorded tx with _ | r
  · exact .inl (taskColumn_commit_of_not_recorded rfl hr key)
  have hrun : r.run = run := htx r ((CollectStore.recorded_eq_some _).mp hr).1
  obtain ⟨row, htasks, hdue, -⟩ := CollectStore.commit_tasks_of_recorded hr
  rw [hrun] at htasks hdue
  unfold lastDue
  rw [taskColumn_commit_of_tasks htasks, hdue]
  by_cases hkey : key = run.key
  · exact .inr ⟨hkey, if_pos hkey⟩
  · exact .inl (if_neg hkey)

theorem watermark_commit (s : Collector) (id : InstanceId) (tx : Tx) (id' : InstanceId) :
    (s.commit id tx).watermark id' = s.watermark id'
      ∨ id' = id ∧ ∃ r ∈ tx.recording, ∃ finished ∈ r.success,
        (s.commit id tx).watermark id' = some (timestamptz finished) := by
  by_cases hid : id' = id
  · subst hid
    rcases (s.stores id').commit_source_cases tx with h | ⟨r, finished, hr, hsuccess, -, -, hmark⟩
    · left
      simpa [watermark, commit] using h.1
    · right
      exact ⟨rfl, r, hr, finished, hsuccess, by simpa [watermark, commit] using hmark⟩
  · left
    simp [watermark, commit, Function.update_of_ne hid]

end Commit

section Rows

variable {key : TaskKey} {due : ℤ}

def NotAhead (s : Collector) (key : TaskKey) (due : ℤ) : Prop :=
  due ≤ timestamptz s.now ∧ ∀ d ∈ s.line key, due ≤ timestamptz d

theorem NotAhead.steps (h : NotAhead s key due)
    (hsteps : Relation.ReflTransGen (LineStep key) s s') : NotAhead s' key due := by
  obtain ⟨hnow, hline, -⟩ := lineSteps_follow hsteps
  exact ⟨Int.le_trans h.1 (timestamptz_mono hnow), hline.bound timestamptz_mono h.1 h.2⟩

theorem notAhead_head {rest : List ℤ} (h : DueOrder s key)
    (hline : s.generatedLine key = due :: rest) : NotAhead s key (timestamptz due) := by
  refine ⟨timestamptz_mono (h.past due (by simp [hline])), fun d hd => timestamptz_mono ?_⟩
  have hpair := h.increasing
  rw [line, hline, List.cons_append] at hpair hd
  rcases List.mem_cons.mp hd with rfl | hd
  · exact Int.le_refl _
  · have := (List.pairwise_cons.mp hpair).1 d hd
    omega

structure RowInv (s : Collector) : Prop where
  order : ∀ key, key.taskId ≠ capabilitySnapshotTaskId → DueOrder s key
  last : ∀ key, ∀ due ∈ s.lastDue key,
    key.taskId ≠ capabilitySnapshotTaskId ∧ NotAhead s key due

theorem generatedLine_of_running {running : Running} (h : RunsInv s) (hmem : running ∈ s.running)
    (hrecord : running.mayRecord = true) :
    ∃ rest, s.generatedLine running.run.key = running.run.dueAt :: rest := by
  have hfilter : ∀ l : List Running, (l.map fun r => r.run.key).Nodup → running ∈ l →
      l.filterMap (Running.due running.run.key) = [running.run.dueAt] := by
    intro l hnodup hl
    induction l with
    | nil => simp at hl
    | cons r l ih =>
      rw [List.map_cons, List.nodup_cons] at hnodup
      rcases List.mem_cons.mp hl with rfl | hl
      · have hrest : l.filterMap (Running.due running.run.key) = [] := by
          refine List.filterMap_eq_nil_iff.mpr fun other hother => ?_
          have hne : other.run.key ≠ running.run.key := fun heq =>
            hnodup.1 (heq ▸ List.mem_map_of_mem hother)
          simp [Running.due, hne]
        have hdue : running.due running.run.key = some running.run.dueAt := by
          simp [Running.due, hrecord]
        rw [List.filterMap_cons_some hdue, hrest]
      · have hne : r.run.key ≠ running.run.key := fun heq =>
          hnodup.1 (heq ▸ List.mem_map_of_mem hl)
        have hdue : r.due running.run.key = none := by simp [Running.due, hne]
        rw [List.filterMap_cons_none hdue]
        exact ih hnodup.2 hl
  refine ⟨s.handedOver running.run.key ++ s.pendingDue running.run.key, ?_⟩
  rw [generatedLine, hfilter s.running h.distinct hmem]
  simp

theorem generatedLine_of_handedOver {run : ScheduledRun} (hrun : s.loop.handedOver = some run)
    (hrunning : ∀ running ∈ s.running, running.mayRecord = true → running.run.key ≠ run.key) :
    ∃ rest, s.generatedLine run.key = run.dueAt :: rest := by
  have hfilter : s.running.filterMap (Running.due run.key) = [] := by
    refine List.filterMap_eq_nil_iff.mpr fun running hmem => ?_
    have hne := hrunning running hmem
    unfold Running.due
    rw [if_neg]
    intro h
    exact hne h.1 h.2
  have hhanded : s.handedOver run.key = [run.dueAt] := by
    rw [handedOver, hrun, Option.filter_some_pos (by simp)]
    rfl
  exact ⟨s.pendingDue run.key, by simp [generatedLine, hfilter, hhanded]⟩

theorem lastDue_move (hp : PhaseInv s) (hr : RunsInv s) (hm : Move s a s')
    (hordered : OrderedRecording s a s') :
    s'.lastDue key = s.lastDue key
      ∨ ∃ due rest, key.taskId ≠ capabilitySnapshotTaskId
        ∧ s.generatedLine key = due :: rest ∧ s'.lastDue key = some (timestamptz due) := by
  cases hm
  case setPaused | ensureTaskStates => exact .inl (taskColumn_commit_of_not_recorded rfl rfl key)
  case refresh => exact .inl (taskColumn_refresh rfl _ _ _ key)
  case recordSkip now keys replaced readAt hloop hcapability =>
    have hhanded : s.loop.handedOver = some replaced := by rw [hloop]; rfl
    obtain ⟨rest, hline⟩ := generatedLine_of_handedOver hhanded (hordered.1 rfl replaced hhanded)
    refine (lastDue_commit (fun r hr => by cases hr; rfl) key).imp_right ?_
    rintro ⟨rfl, hdue⟩
    exact ⟨replaced.dueAt, rest, taskId_ne_of_not_capability hcapability, hline, hdue⟩
  case recordBackoff run eligible readAt runs hloop =>
    have hhanded : s.loop.handedOver = some run := by rw [hloop]; rfl
    obtain ⟨rest, hline⟩ := generatedLine_of_handedOver hhanded (hordered.1 rfl run hhanded)
    refine (lastDue_commit (fun r hr => by cases hr; rfl) key).imp_right ?_
    rintro ⟨rfl, hdue⟩
    exact ⟨run.dueAt, rest, hp.held_back run eligible readAt runs hloop, hline, hdue⟩
  case start i running hi hphase =>
    have hmem := List.mem_of_getElem? hi
    obtain ⟨rest, hline⟩ := generatedLine_of_running hr hmem (by simp [Running.mayRecord, hphase])
    refine (lastDue_commit (fun r hr => by cases hr; rfl) key).imp_right ?_
    rintro ⟨rfl, hdue⟩
    exact ⟨running.run.dueAt, rest, hp.executing running hmem
      (by simp [Running.executes, hphase]), hline, hdue⟩
  case record i running tx hi hphase =>
    have hmem := List.mem_of_getElem? hi
    obtain ⟨rest, hline⟩ := generatedLine_of_running hr hmem (by simp [Running.mayRecord, hphase])
    obtain ⟨finish, -, htx⟩ := hp.recording running hmem tx hphase
    refine (lastDue_commit (fun r hr => (htx.recording r hr).1) key).imp_right ?_
    rintro ⟨rfl, hdue⟩
    exact ⟨running.run.dueAt, rest, hp.executing running hmem
      (by simp [Running.executes, hphase]), hline, hdue⟩
  all_goals exact .inl rfl

theorem rowInv_init (clock : ℤ) : RowInv (init probeLimit queryLimit clock) where
  order := fun key _ => dueOrder_init _ _ _ key
  last := by simp [init, lastDue, taskColumn]

theorem rowInv_move (h : RowInv s) (ho : ObligationInv s) (hp : PhaseInv s) (hr : RunsInv s)
    (hm : Move s a s') (hordered : OrderedRecording s a s') :
    RowInv s' ∧ ∀ key, NotBefore (s.lastDue key) (s'.lastDue key) := by
  refine ⟨⟨fun key hkey => (h.order key hkey).steps (lineSteps_move ho hkey hm),
    fun key due hdue => ?_⟩, fun key due hdue => ?_⟩
  · rcases lastDue_move hp hr hm hordered with heq | ⟨head, rest, hkey, hline, hnew⟩
    · rw [heq] at hdue
      obtain ⟨hkey, hahead⟩ := h.last key due hdue
      exact ⟨hkey, hahead.steps (lineSteps_move ho hkey hm)⟩
    · rw [hnew, Option.mem_some] at hdue
      subst hdue
      exact ⟨hkey, (notAhead_head (h.order key hkey) hline).steps (lineSteps_move ho hkey hm)⟩
  · rcases lastDue_move hp hr hm hordered with heq | ⟨head, rest, -, hline, hnew⟩
    · exact ⟨due, heq ▸ hdue, Int.le_refl _⟩
    · refine ⟨timestamptz head, hnew, (h.last key due hdue).2.2 head ?_⟩
      simp [line, hline]

end Rows

section Marks

structure MarkInv (s : Collector) : Prop where
  single : (s.running.filterMap Running.recordingInstance).Nodup
  finish : ∀ running ∈ s.running, ∀ tx, running.phase = .recording tx →
    ∃ finish, finish ≤ s.clock ∧ Outcome running.run finish tx
      ∧ ∀ mark ∈ s.watermark running.run.target.id, mark ≤ timestamptz finish
  mark : ∀ id, ∀ mark ∈ s.watermark id, mark ≤ timestamptz s.clock

theorem markInv_init (clock : ℤ) : MarkInv (init probeLimit queryLimit clock) := by
  constructor <;> simp [init, watermark]

theorem MarkInv.frame (h : MarkInv s) (hclock : s.clock ≤ s'.clock)
    (hwatermark : ∀ id, s'.watermark id = s.watermark id)
    (hsingle : (s'.running.filterMap Running.recordingInstance).Sublist
      (s.running.filterMap Running.recordingInstance))
    (hrunning : ∀ running ∈ s'.running, ∀ tx, running.phase = .recording tx →
      running ∈ s.running) : MarkInv s' where
  single := h.single.sublist hsingle
  finish := by
    intro running hmem tx hphase
    obtain ⟨finish, hle, htx, hmark⟩ := h.finish running (hrunning running hmem tx hphase) tx hphase
    exact ⟨finish, Int.le_trans hle hclock, htx, by rwa [hwatermark]⟩
  mark := by
    intro id mark hmark
    rw [hwatermark] at hmark
    exact Int.le_trans (h.mark id mark hmark) (timestamptz_mono hclock)

theorem MarkInv.same (h : MarkInv s) (hclock : s.clock ≤ s'.clock)
    (hwatermark : ∀ id, s'.watermark id = s.watermark id) (hrunning : s'.running = s.running) :
    MarkInv s' :=
  h.frame hclock hwatermark (by rw [hrunning]) fun _ hmem _ _ => hrunning ▸ hmem

theorem MarkInv.setRunning (h : MarkInv s) {i : ℕ} {running running' : Running}
    (hi : s.running[i]? = some running) (hno : running'.recordingInstance = none)
    (hclock : s'.clock = s.clock) (hwatermark : ∀ id, s'.watermark id = s.watermark id)
    (hrunning : s'.running = s.running.set i running') : MarkInv s' := by
  refine h.frame (Int.le_of_eq hclock.symm) hwatermark ?_ fun r hr tx hphase => ?_
  · rw [hrunning]
    exact filterMap_set_sublist hi (.inl hno)
  · rw [hrunning] at hr
    rcases List.mem_or_eq_of_mem_set hr with hr | rfl
    · exact hr
    · simp [Running.recordingInstance, hphase] at hno

theorem watermark_commit_of_no_success (s : Collector) (id : InstanceId) (tx : Tx)
    (htx : tx.recording.bind Recording.success = none) (id' : InstanceId) :
    (s.commit id tx).watermark id' = s.watermark id' := by
  rcases s.watermark_commit id tx id' with heq | ⟨-, r, hr, finished, hsuccess, -⟩
  · exact heq
  · rw [Option.mem_def] at hr hsuccess
    simp [hr, hsuccess] at htx

theorem watermark_refresh (now : ℤ) (targets : List Target) (completed : Bool)
    (id : InstanceId) : (s.refresh now targets completed).watermark id = s.watermark id := by
  refine refresh_induction (motive := fun t => t.watermark id = s.watermark id) rfl ?_ ?_ ?_ ?_
  · exact fun t id' ids ht => (t.watermark_commit_of_no_success _ _ rfl id).trans ht
  · exact fun _ _ ht _ => ht
  · exact fun _ _ ht _ => ht
  · exact fun _ _ ht => ht

theorem MarkInv.prepare (h : MarkInv s) {i : ℕ} {running : Running} {tx : Tx}
    (hi : s.running[i]? = some running) (htx : Outcome running.run s.clock tx)
    (hothers : ∀ other ∈ s.running.eraseIdx i,
      other.recordingInstance ≠ some running.run.target.id) :
    MarkInv (s.setRunning i { running with phase := .recording tx }) := by
  refine { h with single := ?_, finish := fun r hr tx' hphase => ?_ }
  · have hlt := (List.getElem?_eq_some_iff.mp hi).1
    have hperm := (List.set_perm_cons_eraseIdx hlt
      { running with phase := .recording tx }).filterMap Running.recordingInstance
    refine hperm.nodup_iff.mpr ?_
    have hfirst : Running.recordingInstance { running with phase := .recording tx }
        = some running.run.target.id := rfl
    rw [List.filterMap_cons_some hfirst, List.nodup_cons]
    refine ⟨fun hmem => ?_, h.single.sublist ((List.eraseIdx_sublist _ _).filterMap _)⟩
    obtain ⟨other, hother, heq⟩ := List.mem_filterMap.mp hmem
    exact hothers other hother heq
  · rcases List.mem_or_eq_of_mem_set hr with hr | rfl
    · exact h.finish r hr tx' hphase
    · cases hphase
      exact ⟨s.clock, Int.le_refl _, htx, h.mark _⟩

theorem MarkInv.record (h : MarkInv s) {i : ℕ} {running : Running} {tx : Tx}
    (hi : s.running[i]? = some running) (hphase : running.phase = .recording tx) :
    MarkInv ((s.commit running.run.target.id tx).setRunning i { running with phase := .finished })
      ∧ ∀ id, NotBefore (s.watermark id) ((s.commit running.run.target.id tx).watermark id) := by
  obtain ⟨finish, hclock, htx, hbefore⟩ := h.finish running (List.mem_of_getElem? hi) tx hphase
  have hcases : ∀ id, (s.commit running.run.target.id tx).watermark id = s.watermark id
      ∨ id = running.run.target.id
        ∧ (s.commit running.run.target.id tx).watermark id = some (timestamptz finish) := by
    intro id
    refine (s.watermark_commit _ tx id).imp_right fun ⟨hid, r, hr, finished, hsuccess, hmark⟩ => ?_
    rw [(htx.recording r hr).2 finished hsuccess] at hmark
    exact ⟨hid, hmark⟩
  refine ⟨⟨h.single.sublist (filterMap_set_sublist hi (.inl rfl)), fun r hr tx' hphase' => ?_,
    fun id mark hmark => ?_⟩, fun id => ?_⟩
  · have hlt := (List.getElem?_eq_some_iff.mp hi).1
    have hmem : r ∈ s.running.eraseIdx i := by
      rcases List.mem_cons.mp ((List.set_perm_cons_eraseIdx hlt _).mem_iff.mp hr) with rfl | hr
      · cases hphase'
      · exact hr
    have hne : r.run.target.id ≠ running.run.target.id := by
      intro heq
      have hget : s.running[i] = running := (List.getElem?_eq_some_iff.mp hi).2
      have hperm := ((List.getElem_cons_eraseIdx_perm hlt).filterMap
        Running.recordingInstance).nodup_iff.mpr h.single
      rw [hget, List.filterMap_cons_some (by rw [Running.recordingInstance, hphase]),
        List.nodup_cons] at hperm
      refine hperm.1 (List.mem_filterMap.mpr ⟨r, hmem, ?_⟩)
      rw [Running.recordingInstance, hphase', heq]
    obtain ⟨finish', hle, htx', hmark⟩ := h.finish r (List.mem_of_mem_eraseIdx hmem) tx' hphase'
    refine ⟨finish', hle, htx', fun mark hm => hmark mark ?_⟩
    rcases hcases r.run.target.id with heq | ⟨hid, -⟩
    · exact heq ▸ hm
    · exact absurd hid hne
  · rcases hcases id with heq | ⟨-, hnew⟩
    · exact h.mark id mark (heq ▸ hmark)
    · have hmark' : (s.commit running.run.target.id tx).watermark id = some mark := hmark
      rw [hnew, Option.some.injEq] at hmark'
      exact hmark' ▸ timestamptz_mono hclock
  · rcases hcases id with heq | ⟨rfl, hnew⟩
    · rw [heq]
      exact .refl _
    · exact fun mark hmark => ⟨timestamptz finish, hnew, hbefore mark hmark⟩

theorem markInv_move (h : MarkInv s) (hm : Move s a s') (hordered : OrderedRecording s a s') :
    MarkInv s' ∧ ∀ id, NotBefore (s.watermark id) (s'.watermark id) := by
  have hkept : (∀ id, s'.watermark id = s.watermark id) →
      ∀ id, NotBefore (s.watermark id) (s'.watermark id) := by
    intro heq id
    rw [heq]
    exact .refl _
  cases hm
  case tick hclock => exact ⟨h.same hclock (fun _ => rfl) rfl, hkept fun _ => rfl⟩
  case setPaused | ensureTaskStates | recordSkip | recordBackoff =>
    exact ⟨h.same (Int.le_refl _) (s.watermark_commit_of_no_success _ _ rfl) rfl,
      hkept (s.watermark_commit_of_no_success _ _ rfl)⟩
  case refresh now targets completed _ _ _ =>
    obtain ⟨-, hrunning, -, -, hclock⟩ := refresh_frame s now targets completed
    have hwatermark := s.watermark_refresh now targets completed
    exact ⟨h.same (Int.le_of_eq hclock.symm) hwatermark hrunning, hkept hwatermark⟩
  case launch =>
    refine ⟨h.frame (Int.le_refl _) (fun _ => rfl) ?_ fun r hr tx hphase => ?_, hkept fun _ => rfl⟩
    · simp [Running.recordingInstance]
    · rcases List.mem_append.mp hr with hr | hr
      · exact hr
      · rw [List.mem_singleton.mp hr] at hphase
        cases hphase
  case advance i running running' hi hadvance =>
    have hno : running'.recordingInstance = none := by cases hadvance <;> rfl
    exact ⟨h.setRunning hi hno rfl (fun _ => rfl) rfl, hkept fun _ => rfl⟩
  case prepare i running tx hi hphase htx ha =>
    exact ⟨h.prepare hi htx (hordered.2 i ha running hi), hkept fun _ => rfl⟩
  case start i running hi hphase =>
    exact ⟨h.setRunning hi rfl rfl (s.watermark_commit_of_no_success _ _ rfl) rfl,
      hkept (s.watermark_commit_of_no_success _ _ rfl)⟩
  case record i running tx hi hphase => exact h.record hi hphase
  case send =>
    refine ⟨h.frame (Int.le_refl _) (fun _ => rfl) ((List.eraseIdx_sublist _ _).filterMap _)
      fun r hr _ _ => List.mem_of_mem_eraseIdx hr, hkept fun _ => rfl⟩
  all_goals exact ⟨h.same (Int.le_refl _) (fun _ => rfl) rfl, hkept fun _ => rfl⟩

end Marks

section Runs

structure ProgressInv (probeLimit queryLimit : ℕ) (s : Collector) : Prop
    extends CollectorInv probeLimit queryLimit s where
  rows : RowInv s
  marks : MarkInv s

theorem progressInv_step (h : ProgressInv probeLimit queryLimit s) (hstep : step s a = some s')
    (hordered : OrderedRecording s a s') :
    ProgressKept s a s' ∧ ProgressInv probeLimit queryLimit s' := by
  have hm := move_of_step hstep
  obtain ⟨hrows, hdues⟩ := rowInv_move h.rows h.obligations h.phases h.runs hm hordered
  obtain ⟨hmarks, hwatermarks⟩ := markInv_move h.marks hm hordered
  exact ⟨⟨hdues, hwatermarks⟩, collectorInv_step h.toCollectorInv hstep, hrows, hmarks⟩

theorem progress_kept (probeLimit queryLimit : ℕ) (clock : ℤ) (actions : List Action)
    (hordered : Along step OrderedRecording (init probeLimit queryLimit clock) actions) :
    Along step ProgressKept (init probeLimit queryLimit clock) actions := by
  refine Along.of_guarded (I := ProgressInv probeLimit queryLimit) ?_
    ⟨collectorInv_init clock, rowInv_init clock, markInv_init clock⟩ hordered
  intro s a t h hstep hstepOrdered
  exact progressInv_step h hstep hstepOrdered

def firstSuccess : List Action :=
  firstStart ++ [.finishRun 0 (.success {}), .recordRun 0 true]

theorem progress_kept_firstSuccess :
    (run step (init 10 10 0) firstSuccess).isSome = true
      ∧ Along step OrderedRecording (init 10 10 0) firstSuccess
      ∧ Along step ProgressKept (init 10 10 0) firstSuccess := by
  have hrun : (run step (init 10 10 0) firstSuccess).isSome = true := by decide +kernel
  have hordered : Along step OrderedRecording (init 10 10 0) firstSuccess := by decide +kernel
  exact ⟨hrun, hordered, progress_kept 10 10 0 firstSuccess hordered⟩

/-- The first run is still collecting when the next two fall due, and fails after the skip of the
first of them is recorded. -/
def skipThenOutcome : List Action :=
  firstStart ++ [.tick (12 * second), .accrue (12 * second)] ++ List.replicate 11 .accrueNext
    ++ [.recordSkip true, .finishRun 0 (.failure true false), .recordRun 0 true]

instance (old new : Option ℤ) : Decidable (NotBefore old new) :=
  match old, new with
  | none, _ => .isTrue nofun
  | some t, none => .isFalse fun h => by simpa using h t rfl
  | some t, some t' => decidable_of_iff (t ≤ t') (by simp [NotBefore])

/-- The outcome takes the due instant of the row back behind the skip. -/
theorem skip_overtaken_by_outcome :
    ¬ Along step ProgressKept (init 10 10 0) skipThenOutcome := by
  intro h
  have hkey : Along step (fun s _ t =>
      NotBefore (s.lastDue statDatabaseKey) (t.lastDue statDatabaseKey))
      (init 10 10 0) skipThenOutcome := Along.mono (fun _ _ _ h => h.1 statDatabaseKey) h
  have hno : ¬ Along step (fun s _ t =>
      NotBefore (s.lastDue statDatabaseKey) (t.lastDue statDatabaseKey))
      (init 10 10 0) skipThenOutcome := by decide +kernel
  exact hno hkey

end Runs

end Collector

end DbsMonitor
