import DbsMonitor.Proofs.Obligations

/-!
# The order of the due instants of a task

The due instants of a task stand in a line, in the order they were generated (`DueOrder`). This is
so for every task but the capability snapshot, which starts over at the very instant its target
returns.
-/

namespace DbsMonitor

def Running.mayRecord (running : Running) : Bool :=
  match running.phase with
  | .snapshotting | .finished => false
  | _ => true

def Running.due (key : TaskKey) (running : Running) : Option ℤ :=
  if running.mayRecord = true ∧ running.run.key = key then some running.run.dueAt else none

def Loop.handedOver : Loop → Option ScheduledRun
  | .skipping _ _ run _ | .backingOff run _ _ _ => some run
  | _ => none

namespace Collector

variable (s : Collector) (key : TaskKey)

def handedOver : List ℤ :=
  ((s.loop.handedOver.filter fun run => run.key = key).map ScheduledRun.dueAt).toList

def pendingDue : List ℤ := ((s.pending.items.lookup key).map ScheduledRun.dueAt).toList

def nextDue : List ℤ := ((s.schedule.lookup key).map ScheduleEntry.nextDue).toList

def generatedLine : List ℤ :=
  s.running.filterMap (Running.due key) ++ s.handedOver key ++ s.pendingDue key

def line : List ℤ := s.generatedLine key ++ s.nextDue key

def waiting : List ℤ := s.pendingDue key ++ s.nextDue key

structure DueOrder (s : Collector) (key : TaskKey) : Prop where
  increasing : (s.line key).Pairwise (· < ·)
  past : ∀ due ∈ s.generatedLine key, due ≤ s.now

inductive LineStep (key : TaskKey) (s s' : Collector) : Prop
  | leave (hline : (s'.generatedLine key).Sublist (s.generatedLine key))
      (hpending : (s'.pendingDue key).Sublist (s.pendingDue key))
      (hnext : (s'.nextDue key).Sublist (s.nextDue key)) (hnow : s.now ≤ s'.now)
  | next (due : ℤ) (hline : s'.generatedLine key = s.generatedLine key)
      (hpending : s'.pendingDue key = s.pendingDue key) (hnext : s'.nextDue key = [due])
      (hdue : due ∈ s.nextDue key ∨ s.now < due) (hnow : s'.now = s.now)
  | generate (due due' : ℤ) (hline : s'.generatedLine key = s.generatedLine key ++ [due])
      (hpending : s'.pendingDue key = [due]) (hbefore : s.nextDue key = [due])
      (hnext : s'.nextDue key = [due']) (hlt : due < due') (hpast : due ≤ s.now)
      (hnow : s'.now = s.now)

variable {s key} {s' : Collector}

theorem LineStep.now_le (h : LineStep key s s') : s.now ≤ s'.now := by
  cases h
  case leave hnow => exact hnow
  case next hnow => omega
  case generate hnow => omega

theorem DueOrder.step (h : DueOrder s key) (hstep : LineStep key s s') : DueOrder s' key := by
  have hpair := List.pairwise_append.mp h.increasing
  cases hstep
  case leave hline hpending hnext hnow =>
    refine ⟨h.increasing.sublist (hline.append hnext), fun due hdue => ?_⟩
    have := h.past due (hline.subset hdue)
    omega
  case next due hline hpending hnext hdue hnow =>
    refine ⟨List.pairwise_append.mpr ⟨hline ▸ hpair.1, by simp [hnext], fun d hd e he => ?_⟩,
      fun d hd => ?_⟩
    · rw [hline] at hd
      rw [hnext, List.mem_singleton] at he
      subst he
      rcases hdue with hdue | hdue
      · exact hpair.2.2 d hd e hdue
      · have := h.past d hd
        omega
    · rw [hnow]
      exact h.past d (hline ▸ hd)
  case generate due due' hline hpending hbefore hnext hlt hpast hnow =>
    rw [hbefore] at hpair
    refine ⟨?_, fun d hd => ?_⟩
    · rw [line, hline, hnext]
      refine List.pairwise_append.mpr ⟨?_, by simp, fun d hd e he => ?_⟩
      · exact hbefore ▸ h.increasing
      · rw [List.mem_singleton] at he
        subst he
        rcases List.mem_append.mp hd with hd | hd
        · have := hpair.2.2 d hd due (by simp)
          omega
        · rw [List.mem_singleton] at hd
          omega
    · rw [hline] at hd
      rw [hnow]
      rcases List.mem_append.mp hd with hd | hd
      · exact h.past d hd
      · rw [List.mem_singleton] at hd
        omega

def Follows (now : ℤ) (before after : List ℤ) : Prop :=
  ∀ due ∈ after, (∃ d ∈ before, d ≤ due) ∨ now ≤ due

theorem Follows.of_subset {now : ℤ} {before after : List ℤ} (h : after ⊆ before) :
    Follows now before after :=
  fun due hdue => .inl ⟨due, h hdue, Int.le_refl _⟩

theorem Follows.trans {now now' : ℤ} {first before after : List ℤ} (h : Follows now first before)
    (h' : Follows now' before after) (hnow : now ≤ now') : Follows now first after := by
  intro due hdue
  rcases h' due hdue with ⟨d, hd, hle⟩ | hle
  · rcases h d hd with ⟨e, he, hle'⟩ | hle'
    · exact .inl ⟨e, he, by omega⟩
    · exact .inr (by omega)
  · exact .inr (by omega)

theorem Follows.bound {now : ℤ} {before after : List ℤ} {t : ℤ} {f : ℤ → ℤ}
    (hf : ∀ {d e}, d ≤ e → f d ≤ f e) (h : Follows now before after) (hnow : t ≤ f now)
    (hbefore : ∀ d ∈ before, t ≤ f d) : ∀ d ∈ after, t ≤ f d := by
  intro d hd
  rcases h d hd with ⟨e, he, hle⟩ | hle
  · exact Int.le_trans (hbefore e he) (hf hle)
  · exact Int.le_trans hnow (hf hle)

theorem LineStep.follows (h : LineStep key s s') :
    Follows s.now (s.line key) (s'.line key) ∧ Follows s.now (s.waiting key) (s'.waiting key) := by
  cases h
  case leave hline hpending hnext hnow =>
    exact ⟨.of_subset (hline.append hnext).subset, .of_subset (hpending.append hnext).subset⟩
  case next d hline hpending hnext hd hnow =>
    have hfollows : ∀ l : List ℤ, Follows s.now (l ++ s.nextDue key) (l ++ [d]) := by
      intro l due hdue
      rcases List.mem_append.mp hdue with hdue | hdue
      · exact .inl ⟨due, List.mem_append_left _ hdue, Int.le_refl _⟩
      · rw [List.mem_singleton] at hdue
        subst hdue
        rcases hd with hd | hd
        · exact .inl ⟨due, List.mem_append_right _ hd, Int.le_refl _⟩
        · exact .inr (by omega)
    unfold line waiting
    rw [hline, hpending, hnext]
    exact ⟨hfollows _, hfollows _⟩
  case generate d d' hline hpending hbefore hnext hlt hpast hnow =>
    unfold line waiting
    rw [hline, hpending, hbefore, hnext]
    constructor
    · intro due hdue
      rcases List.mem_append.mp hdue with hdue | hdue
      · exact .inl ⟨due, hdue, Int.le_refl _⟩
      · rw [List.mem_singleton] at hdue
        exact .inl ⟨d, by simp, by omega⟩
    · intro due hdue
      refine .inl ⟨d, by simp, ?_⟩
      simp only [List.mem_append, List.mem_singleton] at hdue
      omega

theorem filterMap_set_sublist {α β : Type*} {g : α → Option β} {a a' : α} :
    ∀ {l : List α} {i : ℕ}, l[i]? = some a → g a' = none ∨ g a' = g a →
      ((l.set i a').filterMap g).Sublist (l.filterMap g)
  | [], i, hi, _ => by simp at hi
  | b :: l, 0, hi, hg => by
    simp only [List.getElem?_cons_zero, Option.some.injEq] at hi
    subst hi
    rw [List.set_cons_zero, List.filterMap_cons, List.filterMap_cons]
    rcases hg with hg | hg
    · rw [hg]
      cases g b with
      | none => exact List.Sublist.refl _
      | some c => exact List.sublist_cons_self c _
    · rw [hg]
  | b :: l, i + 1, hi, hg => by
    rw [List.getElem?_cons_succ] at hi
    rw [List.set_cons_succ, List.filterMap_cons, List.filterMap_cons]
    cases g b with
    | none => exact filterMap_set_sublist hi hg
    | some c => exact (filterMap_set_sublist hi hg).cons_cons c

section Refresh

variable {now : ℤ} {template : ScheduledRun}

theorem LineStep.refl_of (hline : s'.generatedLine key = s.generatedLine key)
    (hpending : (s'.pendingDue key).Sublist (s.pendingDue key))
    (hnext : s'.nextDue key = s.nextDue key) (hnow : s.now ≤ s'.now) : LineStep key s s' :=
  .leave (hline ▸ List.Sublist.refl _) hpending (hnext ▸ List.Sublist.refl _) hnow

theorem lineStep_enterTask (hnow : s.now = now)
    (hcapability : isCapabilitySnapshotTask template.task = false) :
    LineStep key s (s.enterTask now template) := by
  by_cases hkey : key = template.key
  · subst hkey
    have hlt := lt_initialDue now hcapability
    refine .next (refreshTask now template (s.schedule.lookup template.key)).nextDue rfl
      rfl (by simp [nextDue, enterTask]) ?_ rfl
    rcases hold : s.schedule.lookup template.key with _ | old
    · exact .inr (hnow ▸ hlt)
    · simp only [refreshTask]
      split_ifs
      · exact .inr (hnow ▸ hlt)
      · exact .inl (by simp [nextDue, hold])
  · refine .refl_of rfl (.refl _) ?_ (Int.le_refl _)
    rw [nextDue, enterTask, AList.lookup_insert_ne hkey, ← nextDue]

theorem lineStep_enterCapabilitySnapshot (hkey : key.taskId ≠ capabilitySnapshotTaskId)
    (hcapability : isCapabilitySnapshotTask template.task = true) :
    LineStep key s (s.enterCapabilitySnapshot now template) := by
  have hne : key ≠ template.key := by
    rintro rfl
    exact hkey (by simpa [isCapabilitySnapshotTask, ScheduledRun.key] using hcapability)
  refine .refl_of rfl (.refl _) ?_ (Int.le_refl _)
  rw [nextDue, enterCapabilitySnapshot, AList.lookup_insert_ne hne, ← nextDue]

theorem lineStep_leave (key' : TaskKey) : LineStep key s (s.leave key') := by
  by_cases hkey : key = key'
  · subst hkey
    have hpending : (s.leave key).pendingDue key = [] := by
      simp [pendingDue, Collector.leave, PendingRuns.take]
    have hnext : (s.leave key).nextDue key = [] := by simp [nextDue, Collector.leave]
    refine .leave ?_ (hpending ▸ List.nil_sublist _) (hnext ▸ List.nil_sublist _) (Int.le_refl _)
    rw [generatedLine, hpending, List.append_nil]
    exact List.sublist_append_left _ _
  · have hpending : (s.leave key').pendingDue key = s.pendingDue key := by
      rw [pendingDue, Collector.leave, PendingRuns.take, AList.lookup_erase_ne hkey, ← pendingDue]
    refine .refl_of ?_ (hpending ▸ .refl _) ?_ (Int.le_refl _)
    · rw [generatedLine, hpending]
      rfl
    · rw [nextDue, Collector.leave, AList.lookup_erase_ne hkey, ← nextDue]

theorem lineSteps_refresh (hkey : key.taskId ≠ capabilitySnapshotTaskId) (hnow : s.now ≤ now)
    (targets : List Target) (completed : Bool) :
    Relation.ReflTransGen (LineStep key) s (s.refresh now targets completed) := by
  have hrefresh : Relation.ReflTransGen (LineStep key) s (s.refresh now targets completed)
      ∧ (s.refresh now targets completed).now = now := by
    refine refresh_induction (motive := fun t => Relation.ReflTransGen (LineStep key) s t
      ∧ t.now = now) ⟨.single (.refl_of rfl (.refl _) rfl hnow), rfl⟩ ?_ ?_ ?_ ?_
    · exact fun t id ids ht => ⟨ht.1.tail (.refl_of rfl (.refl _) rfl (Int.le_refl _)), ht.2⟩
    · exact fun t template ht hc => ⟨ht.1.tail (lineStep_enterTask ht.2
        (scheduledTasks_not_capability _ hc)), ht.2⟩
    · exact fun t template ht hc => ⟨ht.1.tail (lineStep_enterCapabilitySnapshot hkey
        (by rw [hc]; rfl)), ht.2⟩
    · exact fun t key' ht => ⟨ht.1.tail (lineStep_leave key'), ht.2⟩
  exact hrefresh.1

end Refresh

section Move

variable {a : Action}

theorem LineStep.loop (hrunning : s'.running = s.running) (hpending : s'.pending = s.pending)
    (hschedule : s'.schedule = s.schedule) (hnow : s.now ≤ s'.now)
    (hloop : s'.loop.handedOver = none) : LineStep key s s' := by
  have hnext : s'.nextDue key = s.nextDue key := by rw [nextDue, hschedule, ← nextDue]
  have hpendingDue : s'.pendingDue key = s.pendingDue key := by
    rw [pendingDue, hpending, ← pendingDue]
  have hhanded : s'.handedOver key = [] := by simp [handedOver, hloop]
  refine .leave ?_ (hpendingDue ▸ .refl _) (hnext ▸ List.Sublist.refl _) hnow
  rw [generatedLine, hrunning, hhanded, hpendingDue, List.append_nil]
  exact (List.sublist_append_left _ _).append_right _

theorem LineStep.running (hloop : s'.loop = s.loop) (hpending : s'.pending = s.pending)
    (hschedule : s'.schedule = s.schedule) (hnow : s'.now = s.now)
    (hrunning : (s'.running.filterMap (Running.due key)).Sublist
      (s.running.filterMap (Running.due key))) : LineStep key s s' := by
  have hnext : s'.nextDue key = s.nextDue key := by rw [nextDue, hschedule, ← nextDue]
  have hpendingDue : s'.pendingDue key = s.pendingDue key := by
    rw [pendingDue, hpending, ← pendingDue]
  refine .leave ?_ (hpendingDue ▸ .refl _) (hnext ▸ List.Sublist.refl _) (Int.le_of_eq hnow.symm)
  rw [generatedLine, handedOver, pendingDue, hloop, hpending]
  exact (hrunning.append_right _).append_right _

theorem Advance.due {clock : ℤ} {running running' : Running} (h : Advance clock running running') :
    running'.due key = none ∨ running'.due key = running.due key := by
  cases h
  case abandon | snapshot => exact .inl (by simp [Running.due, Running.mayRecord])
  case begin hphase _ =>
    exact .inr (by simp [Running.due, Running.mayRecord, hphase, ScheduledRun.key])
  case proceed hphase => exact .inr (by simp [Running.due, Running.mayRecord, hphase])

theorem LineStep.moveUp {run : ScheduledRun} (hrun : s.pending.items.lookup run.key = some run)
    (hhanded : s.loop.handedOver = none) (hpending : s'.pending = s.pending.take run.key)
    (hschedule : s'.schedule = s.schedule) (hnow : s'.now = s.now)
    (hfront : s'.running.filterMap (Running.due key) ++ s'.handedOver key
      = s.running.filterMap (Running.due key) ++ if run.key = key then [run.dueAt] else []) :
    LineStep key s s' := by
  refine .refl_of ?_ ?_ ?_ (Int.le_of_eq hnow.symm)
  · rw [generatedLine, hfront, generatedLine, handedOver, hhanded, pendingDue, pendingDue, hpending]
    by_cases hkey : run.key = key
    · subst hkey
      simp [PendingRuns.take, hrun]
    · rw [if_neg hkey, PendingRuns.take, AList.lookup_erase_ne (Ne.symm hkey)]
      rfl
  · rw [pendingDue, hpending, PendingRuns.take]
    by_cases hkey : key = run.key
    · subst hkey
      simp
    · rw [AList.lookup_erase_ne hkey, ← pendingDue]
  · rw [nextDue, hschedule, ← nextDue]

theorem LineStep.accrue {key' : TaskKey} {entry : ScheduleEntry}
    (hentry : s.schedule.lookup key' = some entry) (hdue : entry.nextDue ≤ s.now)
    (hhanded : s.loop.handedOver = none)
    (hreplaced : s'.loop.handedOver = s.pending.items.lookup key')
    (hreplacedKey : ∀ run, s.pending.items.lookup key' = some run → run.key = key')
    (hpending : s'.pending = { items := s.pending.items.insert key' entry.dueRun })
    (hschedule : s'.schedule = s.schedule.insert key'
      { entry with nextDue := entry.nextDue + entry.template.interval })
    (hrunning : s'.running = s.running) (hnow : s'.now = s.now) : LineStep key s s' := by
  have hinterval := entry.template.interval_pos
  by_cases hkey : key = key'
  · subst hkey
    have hmoved : s'.handedOver key = s.pendingDue key := by
      rw [handedOver, hreplaced, pendingDue]
      rcases hp : s.pending.items.lookup key with _ | run
      · rfl
      · simp [hreplacedKey run hp]
    refine .generate entry.nextDue (entry.nextDue + entry.template.interval) ?_
      (by simp [pendingDue, hpending, ScheduleEntry.dueRun]) (by simp [nextDue, hentry])
      (by simp [nextDue, hschedule]) (by omega) hdue hnow
    rw [generatedLine, hmoved, hrunning, generatedLine, handedOver, hhanded, pendingDue,
      pendingDue, hpending]
    simp [ScheduleEntry.dueRun]
  · have hmoved : s'.handedOver key = [] := by
      rw [handedOver, hreplaced]
      rcases hp : s.pending.items.lookup key' with _ | run
      · rfl
      · have hne : run.key ≠ key := by rw [hreplacedKey run hp]; exact Ne.symm hkey
        simp [hne]
    refine .refl_of ?_ ?_ ?_ (Int.le_of_eq hnow.symm)
    · rw [generatedLine, hmoved, hrunning, generatedLine, handedOver, hhanded, pendingDue,
        pendingDue, hpending, AList.lookup_insert_ne hkey]
      rfl
    · rw [pendingDue, hpending, AList.lookup_insert_ne hkey, ← pendingDue]
    · rw [nextDue, hschedule, AList.lookup_insert_ne hkey, ← nextDue]

theorem lineSteps_move (ho : ObligationInv s) (hkey : key.taskId ≠ capabilitySnapshotTaskId)
    (hm : Move s a s') : Relation.ReflTransGen (LineStep key) s s' := by
  cases hm
  case tick | setPaused | ensureTaskStates | complete =>
    exact .single (.refl_of rfl (.refl _) rfl (Int.le_refl _))
  case refresh hnow _ => exact lineSteps_refresh hkey hnow _ _
  case accrue hnow _ => exact .single (.loop rfl rfl rfl hnow rfl)
  case generate now key' keys entry hloop hentry hdue hnone =>
    have hdueKey : entry.dueRun.key = key' := ho.entry_key hentry
    have hs := ho.accrual now (by simp [hloop, Loop.accrual])
    rw [hdueKey] at hnone ⊢
    exact .single (.accrue hentry (hs ▸ hdue) (by rw [hloop]; rfl) hnone.symm
      (fun run hrun => ho.pending_key hrun) rfl rfl rfl rfl)
  case replace now key' keys entry replaced hloop hentry hdue hsome =>
    have hdueKey : entry.dueRun.key = key' := ho.entry_key hentry
    have hs := ho.accrual now (by simp [hloop, Loop.accrual])
    rw [hdueKey] at hsome ⊢
    exact .single (.accrue hentry (hs ▸ hdue) (by rw [hloop]; rfl) hsome.symm
      (fun run hrun => ho.pending_key hrun) rfl rfl rfl rfl)
  case backOff run eligible runs hloop _ =>
    have hrun := ho.runs_pending run (by simp [hloop, Loop.runs])
    refine .single (.moveUp hrun (by rw [hloop]; rfl) rfl rfl rfl ?_)
    by_cases hk : run.key = key <;> simp [handedOver, Loop.handedOver, hk]
  case launch run eligible runs dispatcher hloop _ _ =>
    have hrun := ho.runs_pending run (by simp [hloop, Loop.runs])
    refine .single (.moveUp hrun (by rw [hloop]; rfl) rfl rfl rfl ?_)
    by_cases hk : run.key = key <;>
      simp [handedOver, Loop.handedOver, Running.due, Running.mayRecord, hk]
  case advance i running running' hi hadvance =>
    exact .single (.running rfl rfl rfl rfl (filterMap_set_sublist hi hadvance.due))
  case prepare i running tx hi hphase _ _ =>
    refine .single (.running rfl rfl rfl rfl (filterMap_set_sublist hi (.inr ?_)))
    rcases hphase with hphase | hphase <;> simp [Running.due, Running.mayRecord, hphase]
  case start i running hi hphase =>
    refine .single (.running rfl rfl rfl rfl (filterMap_set_sublist hi (.inr ?_)))
    simp [Running.due, Running.mayRecord, hphase]
  case record i running tx hi hphase =>
    refine .single (.running rfl rfl rfl rfl (filterMap_set_sublist hi (.inl ?_)))
    simp [Running.due, Running.mayRecord]
  case send i running hi hphase =>
    exact .single (.running rfl rfl rfl rfl ((List.eraseIdx_sublist _ _).filterMap _))
  all_goals exact .single (.loop rfl rfl rfl (Int.le_refl _) rfl)

theorem dueOrder_init (probeLimit queryLimit : ℕ) (clock : ℤ) (key : TaskKey) :
    DueOrder (init probeLimit queryLimit clock) key := by
  constructor <;> simp [init, line, generatedLine, handedOver, pendingDue, nextDue,
    Loop.handedOver]

theorem DueOrder.steps (h : DueOrder s key) (hsteps : Relation.ReflTransGen (LineStep key) s s') :
    DueOrder s' key := by
  induction hsteps with
  | refl => exact h
  | tail _ hstep ih => exact ih.step hstep

theorem lineSteps_follow (hsteps : Relation.ReflTransGen (LineStep key) s s') :
    s.now ≤ s'.now ∧ Follows s.now (s.line key) (s'.line key)
      ∧ Follows s.now (s.waiting key) (s'.waiting key) := by
  induction hsteps with
  | refl => exact ⟨Int.le_refl _, .of_subset (List.Subset.refl _), .of_subset (List.Subset.refl _)⟩
  | tail _ hstep ih =>
    obtain ⟨hnow, hline, hwaiting⟩ := ih
    obtain ⟨hline', hwaiting'⟩ := hstep.follows
    exact ⟨Int.le_trans hnow hstep.now_le, hline.trans hline' hnow,
      hwaiting.trans hwaiting' hnow⟩

end Move

end Collector

end DbsMonitor
