import DbsMonitor.Alternation
import DbsMonitor.CollectionPause
import DbsMonitor.Machine
import DbsMonitor.Proofs.AlertWrites

/-!
# A paused instance is frozen

A transaction that writes shares the row of the switch from its check to its commit, so the switch
stays as it was read (`SwitchInv`). For each alert it is the turn of `FROZEN` or of `UNFROZEN` as
the switch says (`FreezeInv`).
-/

namespace DbsMonitor

open AlertStore RowLock

def EventKind.isFreeze (kind : EventKind) : Bool := kind = .frozen || kind = .unfrozen

def AlertStore.freezes (s : AlertStore) (id : AlertId) : List EventKind :=
  (s.events.filter fun event => event.kind.isFreeze && event.alertInstanceId = id).map
    AlertEvent.kind

/-- Alerts are created and changed, but no resolved one comes back, and no freeze is logged. -/
structure Advances (s t : AlertStore) : Prop where
  nextId : s.nextId ≤ t.nextId
  fresh : (∀ id, s.nextId ≤ id → s.life id = none) → ∀ id, t.nextId ≤ id → t.life id = none
  kept : ∀ id, t.life id = none → s.life id = none
  unresolved : ∀ id life, t.life id = some life → life.status ≠ .recovered →
    (∃ old, s.life id = some old ∧ old.key = life.key ∧ old.status ≠ .recovered) ∨ s.nextId ≤ id
  events : ∃ events, t.events = s.events ++ events ∧ ∀ event ∈ events, event.kind.isFreeze = false

section Advances

variable {s t u : AlertStore}

theorem Advances.of_life (hlife : t.life = s.life) (hnext : t.nextId = s.nextId)
    (hevents : ∃ events, t.events = s.events ++ events
      ∧ ∀ event ∈ events, event.kind.isFreeze = false) : Advances s t where
  nextId := hnext.ge
  fresh := by
    rw [hlife, hnext]
    exact id
  kept := by
    rw [hlife]
    exact fun _ => id
  unresolved := by
    rw [hlife]
    exact fun id life h hstatus => .inl ⟨life, h, rfl, hstatus⟩
  events := hevents

theorem Advances.refl : Advances s s := .of_life rfl rfl ⟨[], by simp⟩

theorem Advances.trans (h : Advances s t) (h' : Advances t u) : Advances s u where
  nextId := h.nextId.trans h'.nextId
  fresh := fun hfresh => h'.fresh (h.fresh hfresh)
  kept := fun id hnone => h.kept id (h'.kept id hnone)
  unresolved := by
    intro id life hlife hstatus
    rcases h'.unresolved id life hlife hstatus with ⟨mid, hmid, hkey, hstatus'⟩ | hnext
    · rcases h.unresolved id mid hmid hstatus' with ⟨old, hold, hkey', hstatus''⟩ | hnext
      · exact .inl ⟨old, hold, hkey'.trans hkey, hstatus''⟩
      · exact .inr hnext
    · exact .inr (h.nextId.trans hnext)
  events := by
    obtain ⟨events, hevents, hquiet⟩ := h.events
    obtain ⟨events', hevents', hquiet'⟩ := h'.events
    refine ⟨events ++ events', by rw [hevents', hevents, List.append_assoc], fun event hevent => ?_⟩
    rcases List.mem_append.mp hevent with hevent | hevent
    · exact hquiet event hevent
    · exact hquiet' event hevent

theorem advances_createAlertEvent (s : AlertStore) (event : AlertEvent)
    (h : event.kind.isFreeze = false) : Advances s (s.createAlertEvent event) :=
  .of_life rfl rfl ⟨[event], rfl, by simpa using h⟩

theorem advances_updateAlert {id : AlertId} {g : AlertRow → AlertRow}
    (h : ∀ row, (g row).life = row.life) : Advances s (s.updateAlert id g) :=
  .of_life (column_updateAlert_of_eq _ _ _ h) (by simp) ⟨[], by simp⟩

theorem advances_recordMaintenanceSuppressed (s : AlertStore) (id : AlertId)
    (windowId : Option String) (evaluatedAt : ℤ) :
    Advances s (s.recordMaintenanceSuppressed id windowId evaluatedAt) := by
  unfold recordMaintenanceSuppressed
  rcases s.alerts.lookup id with _ | row
  · exact .refl
  · refine Advances.trans ?_ (advances_createAlertEvent _ _ rfl)
    exact advances_updateAlert fun _ => rfl

theorem advances_updateAlertDisposition {id : AlertId} {columns : DispositionColumns}
    {actorId : String} {actedAt : ℤ}
    (h : s.updateAlertDisposition id columns actorId actedAt = some t) : Advances s t := by
  obtain ⟨dispositions, event, hkind, rfl⟩ := updateAlertDisposition_spec h
  refine Advances.trans ?_ (advances_createAlertEvent _ _ ?_)
  · exact advances_updateAlert fun _ => rfl
  · rcases hkind with hkind | hkind <;> rw [hkind] <;> rfl

section Evaluation

variable {target : EvaluationTargetRow} {found : Findings} {now : ℤ} {current next : Snapshot}

theorem isFreeze_of_stateEvents {before after : AlertState} {kind : EventKind}
    (h : kind ∈ stateEvents before after) : kind.isFreeze = false := by
  revert h
  cases before <;> cases after <;> cases kind <;> decide

theorem advances_saveEvent (id : AlertId) (snapshotId : Option ℕ) (s : AlertStore)
    {kind : EventKind} (hkind : kind.isFreeze = false) :
    Advances s (saveEvent target found now current next id snapshotId s kind) := by
  rcases saveEvent_cases target found now current next id snapshotId s kind with
    ⟨-, hsaved⟩ | ⟨event, rfl, -, -, hsaved | ⟨-, hsaved⟩⟩
  · rw [hsaved]
    exact .refl
  · rw [hsaved]
    exact advances_createAlertEvent _ _ hkind
  · rw [hsaved]
    exact (advances_createAlertEvent _ _ hkind).trans (advances_recordMaintenanceSuppressed _ _ _ _)

theorem advances_foldl_saveEvent (id : AlertId) (snapshotId : Option ℕ) :
    ∀ (kinds : List EventKind) (s : AlertStore), (∀ kind ∈ kinds, kind.isFreeze = false) →
      Advances s (kinds.foldl (saveEvent target found now current next id snapshotId) s)
  | [], _, _ => .refl
  | kind :: kinds, s, h =>
    (advances_saveEvent id snapshotId s (h kind List.mem_cons_self)).trans
      (advances_foldl_saveEvent id snapshotId kinds _ fun kind hkind =>
        h kind (List.mem_cons_of_mem _ hkind))

theorem Saved.unresolved {id : AlertId} {life : Life}
    (h : Saved target found now current next s id life) :
    (∃ old, s.life id = some old ∧ old.key = life.key ∧ old.status ≠ .recovered)
      ∨ id = s.nextId := by
  cases h with
  | recover _ hlife hunresolved => exact .inl ⟨_, hlife, rfl, hunresolved⟩
  | update hid hlife =>
    obtain ⟨old, hold, -, hunresolved⟩ := unresolvedAlert_some hid
    obtain rfl := Option.some.inj (hlife.symm.trans hold)
    exact .inl ⟨_, hlife, rfl, hunresolved⟩
  | insert => exact .inr rfl

theorem advances_saveEvaluation {id : AlertId}
    (h : saveEvaluation target found now current next s = some (t, id)) : Advances s t := by
  obtain ⟨life, hsaved, hwrites⟩ := saveEvaluation_spec h
  have hlife : ∀ {id'}, id' ≠ id → t.life id' = s.life id' := by
    intro id' hid
    rw [hwrites.life, Function.update_of_ne hid]
  have hself : t.life id = some life := by rw [hwrites.life, Function.update_self]
  refine ⟨?_, fun hfresh id' hid' => ?_, fun id' hnone => ?_, fun id' life' hlife' hstatus => ?_,
    [], by simp [saveEvaluation_events h]⟩
  · rcases hwrites.row with ⟨hnext, -⟩ | ⟨hnext, -⟩ <;> rw [hnext]
    exact Nat.le_succ _
  · rcases hwrites.row with ⟨hnext, hsome, -⟩ | ⟨hnext, hid, -⟩ <;> rw [hnext] at hid'
    · have hne : id' ≠ id := by
        rintro rfl
        rw [hfresh id' hid'] at hsome
        exact Bool.noConfusion hsome
      rw [hlife hne]
      exact hfresh id' hid'
    · rw [hlife (hid ▸ Nat.ne_of_gt hid')]
      exact hfresh id' (Nat.le_of_succ_le hid')
  · have hne : id' ≠ id := by
      rintro rfl
      rw [hself] at hnone
      exact nomatch hnone
    rw [← hlife hne]
    exact hnone
  · by_cases hid : id' = id
    · subst hid
      obtain rfl := Option.some.inj (hself.symm.trans hlife')
      exact hsaved.unresolved.imp_right fun hid => hid.ge
    · rw [hlife hid] at hlife'
      exact .inl ⟨life', hlife', rfl, hstatus⟩

theorem advances_writeEvaluation (h : writeEvaluation target found now current next s = some t) :
    Advances s t := by
  unfold writeEvaluation at h
  obtain ⟨⟨s', id⟩, hsave, h⟩ := Option.bind_eq_some_iff.mp h
  obtain ⟨⟨s'', snapshotId⟩, htrigger, h⟩ := Option.bind_eq_some_iff.mp h
  cases h
  obtain ⟨snapshots, events, rfl, -, -⟩ := saveTrigger_spec htrigger
  have htriggered : Advances s' { s' with triggerSnapshots := snapshots
                                          performanceEvents := events } :=
    .of_life rfl rfl ⟨[], by simp⟩
  exact ((advances_saveEvaluation hsave).trans htriggered).trans
    (advances_foldl_saveEvent id snapshotId _ _ fun _ => isFreeze_of_stateEvents)

theorem advances_evaluateRule (h : evaluateRule target found now s = some t) : Advances s t := by
  rcases evaluateRule_inv h with rfl | ⟨id, columns, rfl⟩ | ⟨-, hwrite⟩
  · exact .refl
  · refine advances_updateAlert fun row => ?_
    split_ifs <;> rfl
  · exact advances_writeEvaluation hwrite

theorem advances_foldlM_evaluateRule :
    ∀ (targets : List (AlertKey × EvaluationRule × Findings)) {s t : AlertStore},
      targets.foldlM (fun s (key, rule, found) =>
        evaluateRule (s.getEvaluationTarget key rule) found now s) s = some t → Advances s t
  | [], _, _, h => by
    cases h
    exact .refl
  | (key, rule, found) :: targets, s, t, h => by
    rw [List.foldlM_cons] at h
    obtain ⟨u, hevaluate, h⟩ := Option.bind_eq_some_iff.mp h
    exact (advances_evaluateRule hevaluate).trans (advances_foldlM_evaluateRule targets h)

end Evaluation

end Advances

/-- The unresolved alerts of the instance are next `FROZEN` or `UNFROZEN`, as the switch says. -/
structure FreezeInv (instanceId : InstanceId) (paused : Bool) (s : AlertStore) : Prop where
  fresh : ∀ id, s.nextId ≤ id → s.life id = none
  absent : ∀ id, s.life id = none → s.freezes id = []
  alternates : ∀ id, Alternates .frozen .unfrozen (s.freezes id)
  phase : ∀ id life, s.life id = some life → life.key.instanceId = instanceId →
    life.status ≠ .recovered →
    turn .frozen .unfrozen (s.freezes id) = if paused then .unfrozen else .frozen

section FreezeInv

variable {instanceId : InstanceId} {paused : Bool} {s t : AlertStore}

theorem freezes_append {events : List AlertEvent} (h : t.events = s.events ++ events)
    (id : AlertId) :
    t.freezes id = s.freezes id ++ (events.filter fun event =>
      event.kind.isFreeze && event.alertInstanceId = id).map AlertEvent.kind := by
  rw [freezes, h, List.filter_append, List.map_append]
  rfl

theorem Advances.freezes (h : Advances s t) (id : AlertId) : t.freezes id = s.freezes id := by
  obtain ⟨events, hevents, hquiet⟩ := h.events
  rw [freezes_append hevents, List.filter_eq_nil_iff.mpr, List.map_nil, List.append_nil]
  intro event hevent hfreeze
  rw [hquiet event hevent] at hfreeze
  exact Bool.noConfusion hfreeze

theorem FreezeInv.advance (h : FreezeInv instanceId false s) (hstep : Advances s t) :
    FreezeInv instanceId false t where
  fresh := hstep.fresh h.fresh
  absent := fun id hnone => by
    rw [hstep.freezes]
    exact h.absent id (hstep.kept id hnone)
  alternates := fun id => by
    rw [hstep.freezes]
    exact h.alternates id
  phase := by
    intro id life hlife hinstance hstatus
    rw [hstep.freezes]
    rcases hstep.unresolved id life hlife hstatus with ⟨old, hold, hkey, hstatus'⟩ | hnext
    · exact h.phase id old hold (hkey ▸ hinstance) hstatus'
    · rw [h.absent id (h.fresh id hnext)]
      rfl

theorem FreezeInv.keep (h : FreezeInv instanceId paused s) (hstep : Advances s t)
    (hlife : t.life = s.life) : FreezeInv instanceId paused t where
  fresh := hstep.fresh h.fresh
  absent := fun id hnone => by
    rw [hstep.freezes]
    exact h.absent id (hlife ▸ hnone)
  alternates := fun id => by
    rw [hstep.freezes]
    exact h.alternates id
  phase := by
    rw [hlife]
    intro id
    rw [hstep.freezes]
    exact h.phase id

theorem filter_fst_eq {α : Type*} [DecidableEq α] {β : α → Type*} (a : α) :
    ∀ l : List (Σ a, β a),
      l.filter (fun entry => entry.1 = a) = (l.lookupAll a).map (Sigma.mk a)
  | [] => rfl
  | ⟨a', b⟩ :: l => by
    by_cases h : a' = a
    · subst h
      rw [List.filter_cons_of_pos (by simp), filter_fst_eq a' l, List.lookupAll_cons_eq,
        List.map_cons]
    · rw [List.filter_cons_of_neg (by simpa using h), filter_fst_eq a l,
        List.lookupAll_cons_ne _ _ (fun heq => h heq.symm)]

theorem freezes_createCollectionPauseEvents (s : AlertStore) {kind : EventKind}
    (hkind : kind.isFreeze = true) (evaluatedAt : ℤ) (actorId : String) (id : AlertId) :
    (s.createCollectionPauseEvents instanceId kind evaluatedAt actorId).freezes id
      = s.freezes id ++ if (s.alerts.lookup id).any fun row =>
          row.key.instanceId = instanceId && row.unresolved then [kind] else [] := by
  have hfilter : ∀ p : (Σ _ : AlertId, AlertRow) → Bool, (s.alerts.entries.filter p).filter
      (fun entry => entry.1 = id)
        = ((s.alerts.lookup id).toList.map (Sigma.mk id)).filter p := by
    intro p
    rw [List.filter_comm, filter_fst_eq, List.lookupAll_eq_dlookup _ s.alerts.nodupKeys]
    rfl
  rw [freezes_append rfl]
  congr 1
  rw [List.filter_map, List.map_map, List.filter_congr (q := fun entry => entry.1 = id), hfilter]
  · rcases s.alerts.lookup id with _ | row
    · rfl
    · simp only [Option.toList_some, List.map_cons, List.map_nil, List.filter_cons,
        List.filter_nil, Option.any_some]
      by_cases hmatch : (decide (row.key.instanceId = instanceId) && row.unresolved) = true
      · rw [if_pos hmatch, if_pos hmatch]
        rfl
      · rw [if_neg hmatch, if_neg hmatch]
        rfl
  · intro entry _
    exact (congrArg (· && _) hkind).trans (Bool.true_and _)

theorem FreezeInv.switch (h : FreezeInv instanceId (!paused) s) (evaluatedAt : ℤ)
    (actorId : String) :
    FreezeInv instanceId paused (s.createCollectionPauseEvents instanceId
      (if paused then .frozen else .unfrozen) evaluatedAt actorId) := by
  have hkind : (if paused then EventKind.frozen else .unfrozen).isFreeze = true := by
    cases paused <;> rfl
  refine ⟨h.fresh, fun id hnone => ?_, fun id => ?_, fun id life hlife hinstance hstatus => ?_⟩
  · have hlookup : s.alerts.lookup id = none := Option.map_eq_none_iff.mp hnone
    rw [freezes_createCollectionPauseEvents s hkind, hlookup, h.absent id hnone]
    rfl
  · rw [freezes_createCollectionPauseEvents s hkind]
    by_cases hany : (s.alerts.lookup id).any fun row =>
        row.key.instanceId = instanceId && row.unresolved
    · rw [if_pos hany]
      obtain ⟨row, hrow, hmatch⟩ := (Option.any_eq_true _ _).mp hany
      obtain ⟨hinstance, hstatus⟩ := Bool.and_eq_true_iff.mp hmatch
      have hlife : s.life id = some row.life := life_of_entry (AList.mem_lookup_iff.mp hrow)
      have hturn := h.phase id row.life hlife (of_decide_eq_true hinstance)
        (of_decide_eq_true hstatus)
      have hconcat := (h.alternates id).concat
      rw [hturn] at hconcat
      cases paused <;> simpa using hconcat
    · rw [if_neg hany, List.append_nil]
      exact h.alternates id
  · have hturn := h.phase id life hlife hinstance hstatus
    obtain ⟨row, hrow, rfl⟩ := Option.map_eq_some_iff.mp hlife
    have hrow : s.alerts.lookup id = some row := hrow
    have hmatch : (decide (row.key.instanceId = instanceId) && row.unresolved) = true :=
      Bool.and_eq_true_iff.mpr ⟨decide_eq_true hinstance, decide_eq_true hstatus⟩
    rw [freezes_createCollectionPauseEvents s hkind, hrow, Option.any_some, if_pos hmatch,
      turn_concat]
    rcases turn_cases EventKind.frozen .unfrozen (s.freezes id) with ⟨h₁, h₂⟩ | ⟨h₁, h₂⟩ <;>
      rw [h₁] at hturn <;> rw [h₂] <;> cases paused <;> first | rfl | exact nomatch hturn

end FreezeInv

namespace Pauses

variable {instanceId : InstanceId} {s t : Pauses} {a : Action}

structure SwitchInv (instanceId : InstanceId) (s : Pauses) : Prop where
  concerns : ∀ tx work, s.transactions.lookup tx = some work → work.concerns instanceId = true
  consistent : Consistent s.collect.paused s.configLocks
  holders : ∀ holder ∈ s.configLocks, ∃ work, s.transactions.lookup holder.tx = some work
    ∧ work.configMode = some holder.mode ∧ s.nothingToSwitch work = false

inductive Moves (instanceId : InstanceId) (s : Pauses) : Action → Pauses → Prop
  | begin {tx : TxId} {work : InstanceTx} (hnew : s.transactions.lookup tx = none)
    (hconcerns : work.concerns instanceId = true) :
    Moves instanceId s (.begin tx work) { s with transactions := s.transactions.insert tx work }
  | lockInstance {tx : TxId} {locks : List (Holder TxId Unit)} :
    Moves instanceId s (.lockInstance tx) { s with instanceLocks := locks }
  | lockConfig {tx : TxId} {work : InstanceTx} {mode : Mode} {locks : List (Holder TxId Bool)}
    (hwork : s.transactions.lookup tx = some work) (hmode : work.configMode = some mode)
    (hswitch : s.nothingToSwitch work = false)
    (hgrant : grant s.configLocks tx mode s.collect.paused = some locks) :
    Moves instanceId s (.lockConfig tx) { s with configLocks := locks }
  | finish {a : Action} (tx : TxId) : Moves instanceId s a (s.finish tx)
  | commit {tx : TxId} {work : InstanceTx} {t : Pauses}
    (hwork : s.transactions.lookup tx = some work)
    (hheld : work.configMode = none ∨ ∃ holder, holder? s.configLocks tx = some holder)
    (hwrite : s.write instanceId (((holder? s.configLocks tx).map Holder.read).getD false) work
      = some t) : Moves instanceId s (.commit tx) (t.finish tx)
  | alerts {a : Action} {alerts : AlertStore} (h : Advances s.alerts alerts)
    (hlife : alerts.life = s.alerts.life) (ha : ∀ tx, a ≠ .commit tx) :
    Moves instanceId s a { s with alerts := alerts }

theorem moves_of_step (h : s.step instanceId a = some t) : Moves instanceId s a t := by
  rcases a with ⟨tx, work⟩ | tx | tx | tx | tx | ⟨id, columns, actorId, actedAt⟩
    | ⟨id, windowId, evaluatedAt⟩
  case begin =>
    simp only [step] at h
    split_ifs at h with hguard
    cases h
    rw [Bool.or_eq_true, not_or] at hguard
    exact .begin (Option.not_isSome_iff_eq_none.mp hguard.1) (by simpa using hguard.2)
  case lockInstance =>
    obtain ⟨work, -, h⟩ := Option.bind_eq_some_iff.mp h
    obtain ⟨mode, -, h⟩ := Option.bind_eq_some_iff.mp h
    obtain ⟨_, -, h⟩ := Option.bind_eq_some_iff.mp h
    obtain ⟨locks, -, h⟩ := Option.bind_eq_some_iff.mp h
    cases h
    exact .lockInstance
  case lockConfig =>
    obtain ⟨work, hwork, h⟩ := Option.bind_eq_some_iff.mp h
    obtain ⟨_, -, h⟩ := Option.bind_eq_some_iff.mp h
    obtain ⟨_, -, h⟩ := Option.bind_eq_some_iff.mp h
    split_ifs at h with hswitch
    · cases h
      exact .finish tx
    · obtain ⟨mode, hmode, h⟩ := Option.bind_eq_some_iff.mp h
      obtain ⟨locks, hgrant, h⟩ := Option.bind_eq_some_iff.mp h
      cases h
      exact .lockConfig hwork hmode (Bool.not_eq_true _ ▸ hswitch) hgrant
  case commit =>
    obtain ⟨work, hwork, h⟩ := Option.bind_eq_some_iff.mp h
    obtain ⟨_, -, h⟩ := Option.bind_eq_some_iff.mp h
    obtain ⟨_, hguard, h⟩ := Option.bind_eq_some_iff.mp h
    obtain ⟨t, hwrite, h⟩ := Option.bind_eq_some_iff.mp h
    cases h
    refine .commit hwork ?_ hwrite
    have hheld := Machine.of_guard hguard
    rw [Bool.or_eq_true, Option.isNone_iff_eq_none, Option.isSome_iff_exists] at hheld
    exact hheld
  case abort =>
    cases h
    exact .finish tx
  case dispose =>
    obtain ⟨alerts, hdispose, h⟩ := Option.bind_eq_some_iff.mp h
    cases h
    have hcloses : Closes s.alerts alerts [] 0 := closes_updateAlertDisposition hdispose
    refine .alerts (advances_updateAlertDisposition hdispose) (funext fun id => ?_) (by simp)
    simpa using hcloses.life id
  case suppress =>
    cases h
    exact .alerts (advances_recordMaintenanceSuppressed _ _ _ _)
      (logs_recordMaintenanceSuppressed _ _ _ _).life (by simp)

section Write

variable {work : InstanceTx} {paused : Bool}

theorem write_tables (h : s.write instanceId paused work = some t) :
    t.transactions = s.transactions ∧ t.configLocks = s.configLocks
      ∧ (work.isPause = false → t.collect.paused = s.collect.paused) := by
  cases work with
  | evaluate targets now =>
    obtain ⟨alerts, -, rfl⟩ := Option.map_eq_some_iff.mp h
    exact ⟨rfl, rfl, fun _ => rfl⟩
  | pause =>
    cases h
    exact ⟨rfl, rfl, fun h => nomatch h⟩
  | _ =>
    cases h
    exact ⟨rfl, rfl, fun _ => rfl⟩

theorem commit_paused {collect : CollectStore} {tx : Tx} (hpaused : collect.paused = true)
    (htx : tx.recording.isSome) : collect.commit tx = collect := by
  cases tx with
  | ensureTaskStates => exact Bool.noConfusion htx
  | setPaused => exact Bool.noConfusion htx
  | _ => exact if_pos hpaused

theorem commitRead_paused (collect : CollectStore) {tx : Tx} (htx : tx.recording.isSome) :
    collect.commitRead true tx = collect := by
  unfold CollectStore.commitRead
  rw [commit_paused rfl htx]

theorem write_paused (h : s.write instanceId true work = some t)
    (hconcerns : work.concerns instanceId = true) (hpause : work.isPause = false) :
    t.collect = s.collect ∧ t.alerts = s.alerts := by
  cases work with
  | collect tx =>
    cases h
    obtain ⟨recording, hrecording, -⟩ := (Option.any_eq_true _ _).mp hconcerns
    exact ⟨commitRead_paused _ (Option.isSome_of_mem hrecording), rfl⟩
  | report =>
    cases h
    exact ⟨rfl, rfl⟩
  | reject =>
    cases h
    exact ⟨rfl, rfl⟩
  | evaluate targets now =>
    cases h
    exact ⟨rfl, rfl⟩
  | pause => exact Bool.noConfusion hpause

theorem write_unlocked (h : s.write instanceId paused work = some t)
    (hmode : work.configMode = none) : t.collect = s.collect ∧ t.alerts = s.alerts := by
  cases work with
  | reject =>
    cases h
    exact ⟨rfl, rfl⟩
  | _ => exact nomatch hmode

theorem write_switches (h : s.write instanceId paused work = some t)
    (hpause : work.isPause = true) (hswitch : s.nothingToSwitch work = false) :
    t.collect.paused ≠ s.collect.paused := by
  cases work with
  | pause =>
    cases h
    exact Ne.symm (of_decide_eq_false hswitch)
  | _ => exact Bool.noConfusion hpause

theorem freezeInv_write (hinv : FreezeInv instanceId s.collect.paused s.alerts)
    (h : s.write instanceId s.collect.paused work = some t)
    (hswitch : s.nothingToSwitch work = false) :
    FreezeInv instanceId t.collect.paused t.alerts := by
  cases work with
  | evaluate targets now =>
    obtain ⟨alerts, hevaluate, rfl⟩ := Option.map_eq_some_iff.mp h
    dsimp only
    unfold evaluateInstance at hevaluate
    split_ifs at hevaluate with hpaused
    · cases hevaluate
      exact hinv
    · rw [Bool.not_eq_true] at hpaused
      rw [hpaused] at hinv ⊢
      exact hinv.advance (advances_foldlM_evaluateRule targets hevaluate)
  | pause value actorId updatedAt reason =>
    cases h
    have hvalue : s.collect.paused = !value := by
      have hne : s.collect.paused ≠ value := of_decide_eq_false hswitch
      cases value <;> simpa using hne
    rw [hvalue] at hinv
    exact hinv.switch updatedAt actorId
  | _ =>
    cases h
    exact hinv

end Write

/-- What every step keeps. While collection is paused the collection rows stay as they are, and no
commit changes the alerts; only a request to pause or resume throws the switch. -/
structure Frozen (s : Pauses) (a : Action) (t : Pauses) : Prop where
  rows : s.collect.paused = true → t.collect.paused = true →
    t.collect = s.collect ∧ ∀ tx, a = .commit tx → t.alerts = s.alerts
  switch : t.collect.paused ≠ s.collect.paused → ∃ tx work, a = .commit tx
    ∧ s.transactions.lookup tx = some work ∧ work.isPause = true
  alternate : ∀ id, Alternates .frozen .unfrozen (t.alerts.freezes id)

structure PauseInv (instanceId : InstanceId) (s : Pauses) : Prop where
  switch : SwitchInv instanceId s
  freeze : FreezeInv instanceId s.collect.paused s.alerts

theorem SwitchInv.finish (h : SwitchInv instanceId s) (tx : TxId) :
    SwitchInv instanceId (s.finish tx) := by
  refine ⟨fun tx' work hwork => ?_, h.consistent.release tx, fun holder hholder => ?_⟩
  · have hne : tx' ≠ tx := by
      rintro rfl
      rw [Pauses.finish, AList.lookup_erase] at hwork
      exact nomatch hwork
    rw [Pauses.finish, AList.lookup_erase_ne hne] at hwork
    exact h.concerns tx' work hwork
  · obtain ⟨hmem, hne⟩ := List.mem_filter.mp hholder
    obtain ⟨work, hwork, hmode, hswitch⟩ := h.holders holder hmem
    refine ⟨work, ?_, hmode, hswitch⟩
    rw [Pauses.finish, AList.lookup_erase_ne (of_decide_eq_true hne)]
    exact hwork

theorem SwitchInv.read (h : SwitchInv instanceId s) {tx : TxId} {holder : Holder TxId Bool}
    {work : InstanceTx} (hholder : holder? s.configLocks tx = some holder)
    (hwork : s.transactions.lookup tx = some work) :
    holder.read = s.collect.paused ∧ work.configMode = some holder.mode
      ∧ s.nothingToSwitch work = false := by
  obtain ⟨work', hwork', hmode, hswitch⟩ :=
    h.holders holder (List.mem_of_find?_eq_some hholder)
  have htx := List.find?_some hholder
  rw [of_decide_eq_true htx, hwork] at hwork'
  cases hwork'
  exact ⟨h.consistent.holder_read hholder, hmode, hswitch⟩

theorem SwitchInv.write (h : SwitchInv instanceId s) {tx : TxId} {work : InstanceTx}
    {paused : Bool} (hwork : s.transactions.lookup tx = some work)
    (hheld : work.configMode = none ∨ ∃ holder, holder? s.configLocks tx = some holder)
    (hwrite : s.write instanceId paused work = some t) : SwitchInv instanceId (t.finish tx) := by
  obtain ⟨htransactions, hlocks, hpaused⟩ := write_tables hwrite
  rcases hpause : work.isPause with _ | _
  · refine SwitchInv.finish ⟨?_, ?_, ?_⟩ tx
    · rw [htransactions]
      exact h.concerns
    · rw [hpaused hpause, hlocks]
      exact h.consistent
    · rw [hlocks]
      intro holder hholder
      obtain ⟨work', hwork', hmode, hswitch⟩ := h.holders holder hholder
      refine ⟨work', htransactions ▸ hwork', hmode, ?_⟩
      unfold nothingToSwitch at hswitch ⊢
      rw [hpaused hpause]
      exact hswitch
  · -- the only lock on the switch is the one released
    have hmode : work.configMode = some .update := by
      cases work <;> first | rfl | exact Bool.noConfusion hpause
    obtain ⟨holder, hholder⟩ := hheld.resolve_left fun hnone => nomatch hmode.symm.trans hnone
    have hupdate := (h.read hholder hwork).2.1
    have hnil := h.consistent.release_eq_nil hholder (Option.some.inj (hupdate.symm.trans hmode))
    refine ⟨?_, ?_, ?_⟩
    · intro tx' work' hwork'
      rw [Pauses.finish, htransactions] at hwork'
      by_cases hne : tx' = tx
      · rw [hne, AList.lookup_erase] at hwork'
        exact nomatch hwork'
      · rw [AList.lookup_erase_ne hne] at hwork'
        exact h.concerns tx' work' hwork'
    · rw [Pauses.finish, hlocks, hnil]
      exact .nil
    · rw [Pauses.finish, hlocks, hnil]
      exact fun _ hholder => nomatch hholder

theorem pauseInv_step (hinv : PauseInv instanceId s) (h : s.step instanceId a = some t) :
    Frozen s a t ∧ PauseInv instanceId t := by
  obtain ⟨hswitch, hfreeze⟩ := hinv
  have hsame : ∀ {u : Pauses}, u.collect = s.collect → u.alerts = s.alerts →
      SwitchInv instanceId u → Frozen s a u ∧ PauseInv instanceId u := by
    intro u hcollect halerts hswitch
    refine ⟨⟨fun _ _ => ⟨hcollect, fun _ _ => halerts⟩, fun hne => ?_, ?_⟩, hswitch, ?_⟩
    · rw [hcollect] at hne
      exact absurd rfl hne
    · rw [halerts]
      exact hfreeze.alternates
    · rw [hcollect, halerts]
      exact hfreeze
  cases moves_of_step h with
  | @begin tx work hnew hconcerns =>
    refine hsame rfl rfl ⟨fun tx' work' hwork' => ?_, hswitch.consistent, fun holder hholder => ?_⟩
    · by_cases hne : tx' = tx
      · rw [hne, AList.lookup_insert] at hwork'
        cases hwork'
        exact hconcerns
      · rw [AList.lookup_insert_ne hne] at hwork'
        exact hswitch.concerns tx' work' hwork'
    · obtain ⟨work', hwork', hmode, hvalue⟩ := hswitch.holders holder hholder
      refine ⟨work', ?_, hmode, hvalue⟩
      have hne : holder.tx ≠ tx := by
        intro heq
        rw [heq, hnew] at hwork'
        exact nomatch hwork'
      rw [AList.lookup_insert_ne hne]
      exact hwork'
  | lockInstance => exact hsame rfl rfl ⟨hswitch.concerns, hswitch.consistent, hswitch.holders⟩
  | @lockConfig tx work mode locks hwork hmode hvalue hgrant =>
    refine hsame rfl rfl ⟨hswitch.concerns, hswitch.consistent.grant hgrant,
      fun holder hholder => ?_⟩
    unfold grant at hgrant
    split_ifs at hgrant
    cases hgrant
    rcases List.mem_cons.mp hholder with rfl | hholder
    · exact ⟨work, hwork, hmode, hvalue⟩
    · exact hswitch.holders holder hholder
  | finish tx => exact hsame rfl rfl (hswitch.finish tx)
  | @commit tx work u hwork hheld hwrite =>
    have hafter := hswitch.write hwork hheld hwrite
    rcases hheld with hnone | ⟨holder, hholder⟩
    · obtain ⟨hcollect, halerts⟩ := write_unlocked hwrite hnone
      exact hsame hcollect halerts hafter
    · obtain ⟨hread, -, hvalue⟩ := hswitch.read hholder hwork
      rw [hholder, Option.map_some, Option.getD_some, hread] at hwrite
      have hfreeze' := freezeInv_write hfreeze hwrite hvalue
      refine ⟨⟨fun hpaused hpaused' => ?_, fun hne => ?_, hfreeze'.alternates⟩, hafter, hfreeze'⟩
      · have hpause : work.isPause = false := by
          by_contra hpause
          refine write_switches hwrite (by simpa using hpause) hvalue ?_
          exact hpaused'.trans hpaused.symm
        rw [hpaused] at hwrite
        obtain ⟨hcollect, halerts⟩ := write_paused hwrite (hswitch.concerns tx work hwork) hpause
        exact ⟨hcollect, fun _ _ => halerts⟩
      · refine ⟨tx, work, rfl, hwork, ?_⟩
        by_contra hpause
        exact hne ((write_tables hwrite).2.2 (by simpa using hpause))
  | alerts hadvances hlife ha =>
    have hfreeze' := hfreeze.keep hadvances hlife
    exact ⟨⟨fun _ _ => ⟨rfl, fun tx heq => absurd heq (ha tx)⟩, fun hne => absurd rfl hne,
      hfreeze'.alternates⟩, ⟨hswitch.concerns, hswitch.consistent, hswitch.holders⟩, hfreeze'⟩

theorem pauseInv_init : PauseInv instanceId {} where
  switch := ⟨(fun _ _ h => nomatch h), .nil, fun _ h => nomatch h⟩
  freeze := ⟨fun _ _ => rfl, fun _ _ => rfl, fun _ => trivial, fun _ _ h => nomatch h⟩

theorem paused_is_frozen (instanceId : InstanceId) (actions : List Action) :
    Machine.Along (fun s => s.step instanceId) Frozen {} actions := by
  refine Machine.Along.of_invariant (I := PauseInv instanceId) (fun s a t hinv h => ?_)
    pauseInv_init
  exact pauseInv_step hinv h

end Pauses

end DbsMonitor
