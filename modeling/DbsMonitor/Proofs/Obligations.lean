import DbsMonitor.Machine
import DbsMonitor.Proofs.CollectorMoves

/-!
# Every due obligation is accounted for

The runs generated for a key, newest first, are the pending one, if there is one, followed by those
that were skipped, backed off, dispatched or dropped (`generatedOf`, `fatesOf`). While a key stays
in the schedule, the due instants generated for it increase.
-/

namespace DbsMonitor

def Loop.runs : Loop → List ScheduledRun
  | .dispatching runs | .backingOff _ _ _ runs => runs
  | .checking run _ runs => run :: runs
  | _ => []

def Loop.accrual : Loop → Option ℤ
  | .accruing now _ | .skipping now _ _ _ => some now
  | _ => none

namespace Collector

def generatedOf (key : TaskKey) (journal : List Event) : List ScheduledRun :=
  journal.filterMap fun
    | .generated run => if run.key = key then some run else none
    | _ => none

def fatesOf (key : TaskKey) (journal : List Event) : List ScheduledRun :=
  journal.filterMap fun
    | .skipped run | .backedOff run | .dispatched run | .dropped run =>
      if run.key = key then some run else none
    | _ => none

/-- The runs generated for the key since it last left the schedule, newest first. -/
def period (key : TaskKey) : List Event → List ScheduledRun
  | [] => []
  | .left key' :: journal => if key' = key then [] else period key journal
  | .generated run :: journal =>
    if run.key = key then run :: period key journal else period key journal
  | _ :: journal => period key journal

structure ObligationInv (s : Collector) : Prop where
  entry_key : ∀ {key entry}, s.schedule.lookup key = some entry → entry.template.key = key
  pending_key : ∀ {key run}, s.pending.items.lookup key = some run → run.key = key
  pending_entry : ∀ {key run}, s.pending.items.lookup key = some run →
    (s.schedule.lookup key).isSome
  runs_pending : ∀ run ∈ s.loop.runs, s.pending.items.lookup run.key = some run
  runs_nodup : (s.loop.runs.map ScheduledRun.key).Nodup
  accrual : ∀ now ∈ s.loop.accrual, now = s.now
  account : ∀ key, generatedOf key s.journal
    = (s.pending.items.lookup key).toList ++ fatesOf key s.journal
  increasing : ∀ key, (period key s.journal).Pairwise fun newer older => older.dueAt < newer.dueAt
  before : ∀ {key entry}, s.schedule.lookup key = some entry →
    ∀ run ∈ period key s.journal, run.dueAt < entry.nextDue ∧ run.dueAt ≤ s.now
  outside : ∀ {key}, s.schedule.lookup key = none → period key s.journal = []

section Journal

variable (key : TaskKey) (run : ScheduledRun) (journal : List Event)

@[simp] theorem generatedOf_generated : generatedOf key (.generated run :: journal)
    = if run.key = key then run :: generatedOf key journal else generatedOf key journal := by
  unfold generatedOf
  split_ifs with h <;> simp [h]

@[simp] theorem generatedOf_skipped :
    generatedOf key (.skipped run :: journal) = generatedOf key journal := rfl
@[simp] theorem generatedOf_dropped :
    generatedOf key (.dropped run :: journal) = generatedOf key journal := rfl
@[simp] theorem generatedOf_left (key' : TaskKey) :
    generatedOf key (.left key' :: journal) = generatedOf key journal := rfl

@[simp] theorem fatesOf_generated :
    fatesOf key (.generated run :: journal) = fatesOf key journal := rfl
@[simp] theorem fatesOf_left (key' : TaskKey) :
    fatesOf key (.left key' :: journal) = fatesOf key journal := rfl

@[simp] theorem fatesOf_skipped : fatesOf key (.skipped run :: journal)
    = if run.key = key then run :: fatesOf key journal else fatesOf key journal := by
  unfold fatesOf
  split_ifs with h <;> simp [h]

@[simp] theorem fatesOf_backedOff : fatesOf key (.backedOff run :: journal)
    = if run.key = key then run :: fatesOf key journal else fatesOf key journal := by
  unfold fatesOf
  split_ifs with h <;> simp [h]

@[simp] theorem fatesOf_dispatched : fatesOf key (.dispatched run :: journal)
    = if run.key = key then run :: fatesOf key journal else fatesOf key journal := by
  unfold fatesOf
  split_ifs with h <;> simp [h]

@[simp] theorem fatesOf_dropped : fatesOf key (.dropped run :: journal)
    = if run.key = key then run :: fatesOf key journal else fatesOf key journal := by
  unfold fatesOf
  split_ifs with h <;> simp [h]

end Journal

section Frame

variable {s s' : Collector}

theorem ObligationInv.frame (h : ObligationInv s) (hnow : s'.now = s.now)
    (hschedule : s'.schedule = s.schedule) (hpending : s'.pending = s.pending)
    (hjournal : s'.journal = s.journal) (hruns : s'.loop.runs.Sublist s.loop.runs)
    (haccrual : ∀ now ∈ s'.loop.accrual, now ∈ s.loop.accrual) : ObligationInv s' where
  entry_key := by rw [hschedule]; exact h.entry_key
  pending_key := by rw [hpending]; exact h.pending_key
  pending_entry := by rw [hpending, hschedule]; exact h.pending_entry
  runs_pending := by rw [hpending]; exact fun run hrun => h.runs_pending run (hruns.subset hrun)
  runs_nodup := h.runs_nodup.sublist (hruns.map _)
  accrual := by rw [hnow]; exact fun now hn => h.accrual now (haccrual now hn)
  account := by rw [hpending, hjournal]; exact h.account
  increasing := by rw [hjournal]; exact h.increasing
  before := by rw [hschedule, hjournal, hnow]; exact h.before
  outside := by rw [hschedule, hjournal]; exact h.outside

theorem ObligationInv.forward (h : ObligationInv s) {now : ℤ} (hnow : s.now ≤ now) {loop : Loop}
    (hruns : loop.runs = []) (haccrual : ∀ t ∈ loop.accrual, t = now) :
    ObligationInv { s with now := now, loop := loop } :=
  { h with
    runs_pending := by simp [hruns]
    runs_nodup := by simp [hruns]
    accrual := haccrual
    before := fun hentry run hrun =>
      ⟨(h.before hentry run hrun).1, Int.le_trans (h.before hentry run hrun).2 hnow⟩ }

end Frame

section Refresh

variable {s : Collector} {now : ℤ} {template : ScheduledRun}

theorem lt_initialDue (now : ℤ) (h : isCapabilitySnapshotTask template.task = false) :
    now < initialDue now template := by
  unfold initialDue
  rw [h]
  exact lt_nextDueAfter template.interval_pos

theorem ObligationInv.enter (h : ObligationInv s) {entry : ScheduleEntry}
    (hloop : s.loop.runs = []) (htemplate : entry.template = template)
    (hnext : ∀ old, s.schedule.lookup template.key = some old →
      old.nextDue ≤ entry.nextDue ∨ s.now < entry.nextDue) :
    ObligationInv { s with schedule := s.schedule.insert template.key entry } := by
  refine { h with
    entry_key := fun {key e} he => ?_
    pending_entry := fun {key run} hrun => ?_
    runs_pending := by simp [hloop]
    runs_nodup := by simp [hloop]
    before := fun {key e} he run hrun => ?_
    outside := fun {key} he => ?_ }
  all_goals by_cases hkey : key = template.key
  · subst hkey
    simp only [AList.lookup_insert, Option.some.injEq] at he
    rw [← he, htemplate]
  · rw [AList.lookup_insert_ne hkey] at he
    exact h.entry_key he
  · subst hkey
    simp
  · rw [AList.lookup_insert_ne hkey]
    exact h.pending_entry hrun
  · subst hkey
    simp only [AList.lookup_insert, Option.some.injEq] at he
    subst he
    rcases hold : s.schedule.lookup template.key with _ | old
    · simp [h.outside hold] at hrun
    · obtain ⟨hlt, hle⟩ := h.before hold run hrun
      refine ⟨?_, hle⟩
      rcases hnext old hold with hn | hn
      · exact Int.lt_of_lt_of_le hlt hn
      · exact Int.lt_of_le_of_lt hle hn
  · rw [AList.lookup_insert_ne hkey] at he
    exact h.before he run hrun
  · subst hkey
    simp at he
  · rw [AList.lookup_insert_ne hkey] at he
    exact h.outside he

theorem enterTask_obligations (h : ObligationInv s) (hnow : s.now = now)
    (hloop : s.loop = .idle) (hcapability : isCapabilitySnapshotTask template.task = false) :
    ObligationInv (s.enterTask now template) := by
  refine h.enter (by simp [hloop, Loop.runs]) ?_ fun old hold => ?_
  · unfold refreshTask
    split <;> rfl
  · simp only [hold, refreshTask]
    split_ifs with hinterval
    · exact .inr (hnow ▸ lt_initialDue now hcapability)
    · exact .inl (Int.le_refl _)

theorem enterCapabilitySnapshot_obligations (h : ObligationInv s) (hloop : s.loop = .idle) :
    ObligationInv (s.enterCapabilitySnapshot now template) := by
  refine h.enter (by simp [hloop, Loop.runs]) ?_ fun old hold => ?_
  · unfold refreshCapabilitySnapshot
    split <;> rfl
  · simp only [hold, refreshCapabilitySnapshot]
    exact .inl (Int.le_refl _)

theorem commit_obligations (h : ObligationInv s) (id : InstanceId) (tx : Tx) :
    ObligationInv (s.commit id tx) :=
  h.frame rfl rfl rfl rfl (List.Sublist.refl _) fun _ h => h

theorem leave_obligations (h : ObligationInv s) (hloop : s.loop = .idle) (key : TaskKey) :
    ObligationInv (s.leave key) := by
  have hperiod : ∀ k journal, k ≠ key → period k (.left key ::
      ((s.pending.items.lookup key).map Event.dropped).toList ++ journal) = period k journal := by
    intro k journal hk
    rcases s.pending.items.lookup key with _ | run <;> simp [period, Ne.symm hk]
  refine
    { entry_key := fun {k e} he => ?_
      pending_key := fun {k run} hrun => ?_
      pending_entry := fun {k run} hrun => ?_
      runs_pending := by simp [leave, hloop, Loop.runs]
      runs_nodup := by simp [leave, hloop, Loop.runs]
      accrual := by simp [leave, hloop, Loop.accrual]
      account := fun k => ?_
      increasing := fun k => ?_
      before := fun {k e} he run hrun => ?_
      outside := fun {k} he => ?_ }
  all_goals by_cases hk : k = key
  all_goals simp only [leave, PendingRuns.take] at *
  · subst hk
    simp at he
  · exact h.entry_key (by simpa [AList.lookup_erase_ne hk] using he)
  · subst hk
    simp at hrun
  · exact h.pending_key (by simpa [AList.lookup_erase_ne hk] using hrun)
  · subst hk
    simp at hrun
  · rw [AList.lookup_erase_ne hk] at hrun ⊢
    exact h.pending_entry hrun
  · subst hk
    rw [AList.lookup_erase, Option.toList_none, List.nil_append]
    have haccount := h.account k
    rcases hp : s.pending.items.lookup k with _ | run
    · simpa [hp] using haccount
    · simpa [hp, h.pending_key hp] using haccount
  · rw [AList.lookup_erase_ne hk]
    have haccount := h.account k
    rcases hp : s.pending.items.lookup key with _ | run
    · simpa [hp] using haccount
    · have hne : run.key ≠ k := by rw [h.pending_key hp]; exact Ne.symm hk
      simpa [hp, hne] using haccount
  · subst hk
    simp [period]
  · rw [hperiod k _ hk]
    exact h.increasing k
  · subst hk
    simp at he
  · rw [hperiod k _ hk] at hrun
    exact h.before (by simpa [AList.lookup_erase_ne hk] using he) run hrun
  · subst hk
    simp [period]
  · rw [hperiod k _ hk]
    exact h.outside (by simpa [AList.lookup_erase_ne hk] using he)

theorem refresh_obligations (h : ObligationInv s) (hloop : s.loop = .idle) (hnow : s.now ≤ now)
    (targets : List Target) (completed : Bool) :
    ObligationInv (s.refresh now targets completed) := by
  have hrefresh : ObligationInv (s.refresh now targets completed)
      ∧ (s.refresh now targets completed).now = now
      ∧ (s.refresh now targets completed).loop = .idle := by
    refine refresh_induction (motive := fun t => ObligationInv t ∧ t.now = now ∧ t.loop = .idle)
      ⟨h.forward hnow ?_ ?_, rfl, hloop⟩ ?_ ?_ ?_ ?_
    · simp [hloop, Loop.runs]
    · simp [hloop, Loop.accrual]
    · exact fun t id ids ht => ⟨commit_obligations ht.1 _ _, ht.2⟩
    · exact fun t template ht hc => ⟨enterTask_obligations ht.1 ht.2.1 ht.2.2
        (scheduledTasks_not_capability _ hc), ht.2⟩
    · exact fun t template ht _ => ⟨enterCapabilitySnapshot_obligations ht.1 ht.2.2, ht.2⟩
    · exact fun t key ht => ⟨leave_obligations ht.1 ht.2.2 key, ht.2⟩
  exact hrefresh.1

end Refresh

section Accrue

variable {s : Collector} {now : ℤ} {key : TaskKey} {entry : ScheduleEntry}

theorem ObligationInv.accrue (h : ObligationInv s) (hnow : s.now = now)
    (hentry : s.schedule.lookup key = some entry) (hdue : entry.nextDue ≤ now)
    {replaced : Option ScheduledRun} (hreplaced : s.pending.items.lookup key = replaced)
    {loop : Loop} (hruns : loop.runs = []) (haccrual : ∀ t ∈ loop.accrual, t = now) :
    ObligationInv
      { s with
        schedule := s.schedule.insert key
          { entry with nextDue := entry.nextDue + entry.template.interval }
        pending := { items := s.pending.items.insert key entry.dueRun }
        journal := .generated entry.dueRun :: (replaced.map Event.skipped).toList ++ s.journal
        loop := loop } := by
  have hkey : entry.dueRun.key = key := h.entry_key hentry
  have hperiod : ∀ k, period k (.generated entry.dueRun :: (replaced.map Event.skipped).toList
      ++ s.journal) = if key = k then entry.dueRun :: period k s.journal
        else period k s.journal := by
    intro k
    rcases replaced with _ | run <;> simp [period, hkey]
  have hinterval := entry.template.interval_pos
  refine
    { entry_key := fun {k e} he => ?_
      pending_key := fun {k run} hrun => ?_
      pending_entry := fun {k run} hrun => ?_
      runs_pending := by simp [hruns]
      runs_nodup := by simp [hruns]
      accrual := fun t ht => (haccrual t ht).trans hnow.symm
      account := fun k => ?_
      increasing := fun k => ?_
      before := fun {k e} he run hrun => ?_
      outside := fun {k} he => ?_ }
  all_goals by_cases hk : k = key
  · subst hk
    simp only [AList.lookup_insert, Option.some.injEq] at he
    exact he ▸ hkey
  · exact h.entry_key (by simpa [AList.lookup_insert_ne hk] using he)
  · subst hk
    simp only [AList.lookup_insert, Option.some.injEq] at hrun
    exact hrun ▸ hkey
  · exact h.pending_key (by simpa [AList.lookup_insert_ne hk] using hrun)
  · subst hk
    simp
  · simp only [AList.lookup_insert_ne hk] at hrun ⊢
    exact h.pending_entry hrun
  · subst hk
    have haccount := h.account k
    rw [hreplaced] at haccount
    rcases replaced with _ | run
    · simp [hkey, haccount]
    · simp [hkey, h.pending_key hreplaced, haccount]
  · have haccount := h.account k
    have hne : entry.dueRun.key ≠ k := by rw [hkey]; exact Ne.symm hk
    rcases replaced with _ | run
    · simp [hne, AList.lookup_insert_ne hk, haccount]
    · have hne' : run.key ≠ k := by rw [h.pending_key hreplaced]; exact Ne.symm hk
      simp [hne, hne', AList.lookup_insert_ne hk, haccount]
  · subst hk
    rw [hperiod, if_pos rfl, List.pairwise_cons]
    exact ⟨fun run hrun => (h.before hentry run hrun).1, h.increasing k⟩
  · rw [hperiod, if_neg (Ne.symm hk)]
    exact h.increasing k
  · subst hk
    simp only [AList.lookup_insert, Option.some.injEq] at he
    rw [hperiod, if_pos rfl, List.mem_cons] at hrun
    subst he
    rcases hrun with rfl | hrun
    · exact ⟨Int.lt_add_of_pos_right _ hinterval, hnow ▸ hdue⟩
    · obtain ⟨hlt, hle⟩ := h.before hentry run hrun
      exact ⟨Int.lt_trans hlt (Int.lt_add_of_pos_right _ hinterval), hle⟩
  · rw [hperiod, if_neg (Ne.symm hk)] at hrun
    exact h.before (by simpa [AList.lookup_insert_ne hk] using he) run hrun
  · subst hk
    simp at he
  · rw [hperiod, if_neg (Ne.symm hk)]
    exact h.outside (by simpa [AList.lookup_insert_ne hk] using he)

end Accrue

section Dispatch

variable {s : Collector}

theorem mem_ordered {pending : PendingRuns} {run : ScheduledRun} (h : run ∈ pending.ordered) :
    ∃ key, pending.items.lookup key = some run := by
  rw [PendingRuns.ordered, List.mem_insertionSort] at h
  obtain ⟨⟨key, run⟩, hmem, rfl⟩ := List.mem_map.mp h
  exact ⟨key, AList.mem_lookup_iff.mpr hmem⟩

theorem ordered_nodup (h : ObligationInv s) :
    (s.pending.ordered.map ScheduledRun.key).Nodup := by
  have hkeys : (s.pending.items.entries.map Sigma.snd).map ScheduledRun.key
      = s.pending.items.keys := by
    rw [List.map_map]
    refine List.map_congr_left fun entry hentry => ?_
    exact h.pending_key (AList.mem_lookup_iff.mpr hentry)
  rw [PendingRuns.ordered, ((List.perm_insertionSort _ _).map _).nodup_iff, hkeys]
  exact s.pending.items.keys_nodup

theorem ObligationInv.take (h : ObligationInv s) {run : ScheduledRun} {runs : List ScheduledRun}
    (hruns : s.loop.runs = run :: runs) {e : Event} (hgenerated : ∀ key,
      generatedOf key (e :: s.journal) = generatedOf key s.journal)
    (hfates : ∀ key, fatesOf key (e :: s.journal)
      = if run.key = key then run :: fatesOf key s.journal else fatesOf key s.journal)
    (hperiod : ∀ key, period key (e :: s.journal) = period key s.journal) {loop : Loop}
    (hloop : loop.runs = runs) (haccrual : loop.accrual = none) :
    ObligationInv { s with pending := s.pending.take run.key, journal := e :: s.journal
                           loop := loop } := by
  have hrun := h.runs_pending run (by simp [hruns])
  have hnodup := h.runs_nodup
  rw [hruns, List.map_cons, List.nodup_cons] at hnodup
  refine
    { entry_key := h.entry_key
      pending_key := fun {k r} hr => ?_
      pending_entry := fun {k r} hr => ?_
      runs_pending := fun r hr => ?_
      runs_nodup := by rw [hloop]; exact hnodup.2
      accrual := by simp [haccrual]
      account := fun k => ?_
      increasing := fun k => by rw [hperiod]; exact h.increasing k
      before := fun he r hr => h.before he r (hperiod _ ▸ hr)
      outside := fun he => by rw [hperiod]; exact h.outside he }
  · by_cases hk : k = run.key
    · subst hk
      simp [PendingRuns.take] at hr
    · exact h.pending_key (by simpa [PendingRuns.take, AList.lookup_erase_ne hk] using hr)
  · by_cases hk : k = run.key
    · subst hk
      simp [PendingRuns.take] at hr
    · exact h.pending_entry (by simpa [PendingRuns.take, AList.lookup_erase_ne hk] using hr)
  · rw [hloop] at hr
    have hne : r.key ≠ run.key := fun heq => hnodup.1 (heq ▸ List.mem_map_of_mem hr)
    rw [PendingRuns.take, AList.lookup_erase_ne hne]
    exact h.runs_pending r (by simp [hruns, hr])
  · have haccount := h.account k
    rw [hgenerated, hfates]
    by_cases hk : k = run.key
    · subst hk
      simpa [PendingRuns.take, hrun] using haccount
    · simpa [PendingRuns.take, AList.lookup_erase_ne hk, Ne.symm hk] using haccount

end Dispatch

section Run

open Machine

variable {s s' : Collector} {a : Action}

theorem obligationInv_init (probeLimit queryLimit : ℕ) (clock : ℤ) :
    ObligationInv (init probeLimit queryLimit clock) := by
  constructor <;> simp [init, Loop.runs, Loop.accrual, generatedOf, fatesOf, period]

theorem obligationInv_move (h : ObligationInv s) (hm : Move s a s') : ObligationInv s' := by
  cases hm
  case refresh hloop hnow _ => exact refresh_obligations h hloop hnow _ _
  case accrue hloop hnow _ =>
    exact h.forward hnow rfl (by simp [Loop.accrual])
  case generate now key keys entry hloop hentry hdue hnone =>
    have hkey : entry.dueRun.key = key := h.entry_key hentry
    have hnow := h.accrual now (by simp [hloop, Loop.accrual])
    rw [hkey] at hnone ⊢
    exact h.accrue hnow.symm hentry hdue hnone rfl (by simp [Loop.accrual])
  case replace now key keys entry replaced hloop hentry hdue hsome =>
    have hkey : entry.dueRun.key = key := h.entry_key hentry
    have hnow := h.accrual now (by simp [hloop, Loop.accrual])
    rw [hkey] at hsome ⊢
    exact h.accrue hnow.symm hentry hdue hsome rfl (by simp [Loop.accrual])
  case dispatch hloop =>
    refine { h with
      runs_pending := fun run hrun => ?_
      runs_nodup := ordered_nodup h
      accrual := by simp [Loop.accrual] }
    obtain ⟨key, hkey⟩ := mem_ordered hrun
    rw [h.pending_key hkey]
    exact hkey
  case backOff run eligible runs hloop _ =>
    exact h.take (by rw [hloop]; rfl) (fun _ => rfl) (fun _ => fatesOf_backedOff _ _ _)
      (fun _ => rfl) rfl rfl
  case launch run eligible runs dispatcher hloop _ _ =>
    have htake : ObligationInv
        { s with
          pending := s.pending.take run.key
          journal := .dispatched run :: s.journal
          loop := .dispatching runs } :=
      h.take (by rw [hloop]; rfl) (fun _ => rfl) (fun _ => fatesOf_dispatched _ _ _)
        (fun _ => rfl) rfl rfl
    exact { htake with }
  all_goals
    refine h.frame rfl rfl rfl rfl ?_ ?_ <;>
      simp [setLoop, setRunning, commit, Loop.runs, Loop.accrual, *]

theorem obligationInv_step (h : ObligationInv s) (hstep : step s a = some s') :
    ObligationInv s' :=
  obligationInv_move h (move_of_step hstep)

/-- The first capability snapshot of `orders` is still pending when the next is due. -/
def replacedSnapshot : List Action :=
  [ .refresh 0 [ordersTarget] true, .tick (5 * minute), .accrue (5 * minute), .accrueNext,
    .accrueNext, .recordSkip true ]

end Run

end Collector

end DbsMonitor
