import DbsMonitor.CollectionPause
import DbsMonitor.Proofs.AlertHistory

/-!
# What the notifications see of the alerts

A resolved alert stays so, an alert that has fired keeps the instant of it and does not fire again,
and `RECOVERED` is logged for an alert that is resolved by that step. The evaluator logs a
suppression only together with `FIRED` or `RECOVERED` of the same alert (`evaluateRule_events`).
-/

namespace DbsMonitor

open AlertStore

def EventKind.isState (kind : EventKind) : Bool :=
  kind ∈ [.pendingStarted, .fired, .updated, .recovered, .noDataEntered, .noDataExited]

def AlertStore.Resolved (s : AlertStore) (id : AlertId) : Prop :=
  ∃ life, s.life id = some life ∧ life.status = .recovered

def OfEvaluation (events : List AlertEvent) : Prop :=
  ∀ event ∈ events, timestamptz event.evaluatedAt = event.evaluatedAt
    ∧ (event.kind.isState = true
      ∨ event.kind = .maintenanceSuppressed ∧ ∃ cause ∈ events, cause.kind.isLifecycle = true
        ∧ cause.alertInstanceId = event.alertInstanceId)

section Events

variable (target : EvaluationTargetRow) (found : Findings) (now : ℤ) (current next : Snapshot)

theorem OfEvaluation.append {events events' : List AlertEvent} (h : OfEvaluation events)
    (h' : OfEvaluation events') : OfEvaluation (events ++ events') := by
  intro event hevent
  rcases List.mem_append.mp hevent with hevent | hevent
  · refine (h event hevent).imp_right (Or.imp_right fun ⟨hkind, cause, hcause, hsame⟩ => ?_)
    exact ⟨hkind, cause, List.mem_append_left _ hcause, hsame⟩
  · refine (h' event hevent).imp_right (Or.imp_right fun ⟨hkind, cause, hcause, hsame⟩ => ?_)
    exact ⟨hkind, cause, List.mem_append_right _ hcause, hsame⟩

theorem isState_of_stateEvents {before after : AlertState} {kind : EventKind}
    (h : kind ∈ stateEvents before after) : kind.isState = true := by
  revert h
  cases before <;> cases after <;> cases kind <;> decide

theorem updateAlert_createAlertEvent_events (s : AlertStore) (id : AlertId)
    (g : AlertRow → AlertRow) (event : AlertEvent) :
    ((s.updateAlert id g).createAlertEvent event).events = s.events ++ [event] := by
  unfold AlertStore.createAlertEvent
  rw [updateAlert_events]

theorem recordMaintenanceSuppressed_events (s : AlertStore) (id : AlertId)
    (windowId : Option String) (evaluatedAt : ℤ) :
    (s.alerts.lookup id = none
        ∧ (s.recordMaintenanceSuppressed id windowId evaluatedAt).events = s.events)
      ∨ ∃ event, (s.recordMaintenanceSuppressed id windowId evaluatedAt).events
          = s.events ++ [event]
        ∧ event.kind = .maintenanceSuppressed ∧ event.alertInstanceId = id
        ∧ event.evaluatedAt = timestamptz evaluatedAt := by
  unfold recordMaintenanceSuppressed
  rcases hrow : s.alerts.lookup id with _ | row
  · exact .inl ⟨rfl, rfl⟩
  · exact .inr ⟨_, updateAlert_createAlertEvent_events .., rfl, rfl, rfl⟩

theorem saveEvent_events (id : AlertId) (snapshotId : Option ℕ) (s : AlertStore)
    {kind : EventKind} (hkind : kind.isState = true) :
    ∃ events, (saveEvent target found now current next id snapshotId s kind).events
        = s.events ++ events ∧ OfEvaluation events := by
  rcases saveEvent_cases target found now current next id snapshotId s kind with
    ⟨-, hsaved⟩ | ⟨event, rfl, hid, hat, hsaved⟩
  · rw [hsaved]
    exact ⟨[], (List.append_nil _).symm, fun _ h => nomatch h⟩
  · have hof : timestamptz event.evaluatedAt = event.evaluatedAt := by
      rw [hat, timestamptz_timestamptz]
    have hone : OfEvaluation [event] := by
      intro event' hevent'
      rw [List.mem_singleton.mp hevent']
      exact ⟨hof, .inl hkind⟩
    rcases hsaved with hsaved | ⟨hlifecycle, hsaved⟩
    · rw [hsaved]
      exact ⟨_, rfl, hone⟩
    · rw [hsaved]
      rcases recordMaintenanceSuppressed_events (s.createAlertEvent event) id found.maintenance now
        with ⟨-, hevents⟩ | ⟨event', hevents, hsuppression, hid', hat'⟩
      · rw [hevents]
        exact ⟨_, rfl, hone⟩
      · rw [hevents]
        refine ⟨_, List.append_assoc .., fun event'' hevent'' => ?_⟩
        rcases List.mem_cons.mp hevent'' with rfl | hevent''
        · exact ⟨hof, .inl hkind⟩
        · rw [List.mem_singleton.mp hevent'', hat']
          exact ⟨timestamptz_timestamptz _, .inr ⟨hsuppression, _, List.mem_cons_self, hlifecycle,
            hid.trans hid'.symm⟩⟩

theorem foldl_saveEvent_events (id : AlertId) (snapshotId : Option ℕ) :
    ∀ (kinds : List EventKind) (s : AlertStore), (∀ kind ∈ kinds, kind.isState = true) →
      ∃ events, (kinds.foldl (saveEvent target found now current next id snapshotId) s).events
        = s.events ++ events ∧ OfEvaluation events
  | [], _, _ => ⟨[], (List.append_nil _).symm, fun _ h => nomatch h⟩
  | kind :: kinds, s, h => by
    obtain ⟨events, hevents, hof⟩ := saveEvent_events target found now current next id snapshotId
      s (h kind List.mem_cons_self)
    obtain ⟨events', hevents', hof'⟩ := foldl_saveEvent_events id snapshotId kinds
      (saveEvent target found now current next id snapshotId s kind)
      fun kind hkind => h kind (List.mem_cons_of_mem _ hkind)
    refine ⟨events ++ events', ?_, hof.append hof'⟩
    rw [List.foldl_cons, hevents', hevents, List.append_assoc]

variable {target found now} {s t : AlertStore}

theorem evaluateRule_events (h : evaluateRule target found now s = some t) :
    ∃ events, t.events = s.events ++ events ∧ OfEvaluation events := by
  have hnothing : ∃ events, s.events = s.events ++ events ∧ OfEvaluation events :=
    ⟨[], (List.append_nil _).symm, fun _ h => nomatch h⟩
  rcases evaluateRule_inv h with rfl | ⟨id, columns, rfl⟩ | ⟨-, hwrite⟩
  · exact hnothing
  · unfold resetIgnoredMissingAlert
    rw [updateAlert_events]
    exact hnothing
  · unfold writeEvaluation at hwrite
    obtain ⟨⟨s', id⟩, hsave, hwrite⟩ := Option.bind_eq_some_iff.mp hwrite
    obtain ⟨⟨s'', snapshotId⟩, htrigger, hwrite⟩ := Option.bind_eq_some_iff.mp hwrite
    cases hwrite
    obtain ⟨snapshots, events, rfl, -, -⟩ := saveTrigger_spec htrigger
    rw [← saveEvaluation_events hsave]
    exact foldl_saveEvent_events _ _ _ _ _ id snapshotId _ _ fun _ => isState_of_stateEvents

theorem evaluateRule_firstTriggeredAt (h : evaluateRule target found now s = some t) (id : AlertId)
    {instant : ℤ} (hinstant : instant ∈ t.firstTriggeredAt id) :
    instant ∈ s.firstTriggeredAt id ∨ instant = timestamptz now := by
  rw [Alerts.firstTriggeredAt_eq] at hinstant ⊢
  rcases evaluateRule_cases h with ⟨_, hlogs⟩ | ⟨-, hwrite⟩
  · rw [hlogs.life] at hinstant
    exact .inl hinstant
  · obtain ⟨id', life, hsaved, hwrites⟩ := writeEvaluation_spec hwrite
    rw [hwrites.life] at hinstant
    by_cases hid : id = id'
    · subst hid
      rw [Function.update_self] at hinstant
      cases hsaved with
      | recover _ hlife _ _ =>
        rw [hlife]
        exact .inl hinstant
      | update _ hlife _ =>
        rw [hlife]
        rcases Option.or_eq_some_iff.mp hinstant with hold | ⟨-, hnew⟩
        · exact .inl hold
        · split_ifs at hnew
          exact .inr (Option.some.inj hnew).symm
      | insert _ _ =>
        simp only [Option.bind_some, Option.mem_def] at hinstant
        split_ifs at hinstant
        exact .inr (Option.some.inj hinstant).symm
    · rw [Function.update_of_ne hid] at hinstant
      exact .inl hinstant

end Events

namespace Alerts

variable {s t : Alerts} {a : Action} {evaluated : Prop} {suppressed : AlertId → ℤ → Prop}

structure Tells (s t : Alerts) (evaluated : Prop) (suppressed : AlertId → ℤ → Prop)
    (event : AlertEvent) : Prop where
  lifecycle : event.kind.isLifecycle = true → evaluated
  stored : event.kind = .maintenanceSuppressed → timestamptz event.evaluatedAt = event.evaluatedAt
  fired : event.kind = .fired → s.store.firstTriggeredAt event.alertInstanceId = none
    ∧ ¬ s.store.Resolved event.alertInstanceId
  recovered : event.kind = .recovered → t.store.Resolved event.alertInstanceId
  suppression : event.kind = .maintenanceSuppressed →
    suppressed event.alertInstanceId event.evaluatedAt
      ∨ s.store.firstTriggeredAt event.alertInstanceId = none
      ∨ t.store.Resolved event.alertInstanceId

structure Moves (s t : Alerts) (evaluated : Prop) (suppressed : AlertId → ℤ → Prop) : Prop where
  inv : LifeInv t
  known : ∀ id, s.store.life id ≠ none → t.store.life id ≠ none
  resolved : ∀ id, s.store.Resolved id → t.store.Resolved id
  triggered : ∀ id, ∀ instant ∈ s.store.firstTriggeredAt id,
    t.store.firstTriggeredAt id = some instant
  stored : ∀ id, ∀ instant ∈ t.store.firstTriggeredAt id,
    instant ∈ s.store.firstTriggeredAt id ∨ timestamptz instant = instant
  events : ∃ events, t.store.events = s.store.events ++ events
    ∧ ∀ event ∈ events, Tells s t evaluated suppressed event

theorem Moves.refl (hinv : LifeInv s) : Moves s s evaluated suppressed :=
  ⟨hinv, fun _ h => h, fun _ h => h, fun _ _ h => h, fun _ _ h => .inl h, [],
    (List.append_nil _).symm, fun _ h => nomatch h⟩

theorem Moves.of_false (h : Moves s t False suppressed) : Moves s t evaluated suppressed := by
  obtain ⟨events, hevents, htells⟩ := h.events
  exact ⟨h.inv, h.known, h.resolved, h.triggered, h.stored, events, hevents, fun event hevent =>
    { htells event hevent with
      lifecycle := fun hkind => ((htells event hevent).lifecycle hkind).elim }⟩

theorem Settles.moves {ids : List AlertId} {closedAt : ℤ} (h : Settles s t ids closedAt)
    (hinv : LifeInv s) {events : List AlertEvent}
    (hevents : t.store.events = s.store.events ++ events)
    (hsuppressed : ∀ event ∈ events, event.kind = .maintenanceSuppressed →
      timestamptz event.evaluatedAt = event.evaluatedAt
        ∧ suppressed event.alertInstanceId event.evaluatedAt) : Moves s t evaluated suppressed := by
  obtain ⟨events', hevents', hquiet⟩ := h.closes.events
  obtain rfl := List.append_cancel_left (hevents.symm.trans hevents')
  refine ⟨hinv.settle h, fun id hid => ?_, fun id ⟨life, hlife, hstatus⟩ => ?_,
    fun id instant hinstant => ?_, fun id instant hinstant => .inl ?_, events, hevents,
    fun event hevent => ⟨?_, fun hkind => (hsuppressed event hevent hkind).1, ?_, ?_, ?_⟩⟩
  · rw [h.closes.life]
    split_ifs
    · simpa using hid
    · exact hid
  · unfold Resolved
    rw [h.closes.life, hlife]
    split_ifs
    · exact ⟨_, rfl, rfl⟩
    · exact ⟨life, rfl, hstatus⟩
  · rw [h.firstTriggeredAt]
    exact hinstant
  · rw [h.firstTriggeredAt] at hinstant
    exact hinstant
  · intro hlifecycle
    rw [hquiet event hevent] at hlifecycle
    exact Bool.noConfusion hlifecycle
  · intro hkind
    exact absurd ((fires_iff hevents _).mpr ⟨event, hevent, hkind, rfl⟩) (h.fires _)
  · intro hkind
    have hnot := hquiet event hevent
    rw [hkind] at hnot
    exact Bool.noConfusion hnot
  · exact fun hkind => .inl (hsuppressed event hevent hkind).2

theorem Evaluates.moves {id : AlertId} {life : Life} {starts : Bool} {kinds : List EventKind}
    (h : Evaluates s t id life starts kinds) (hinv : LifeInv s) (hevaluated : evaluated)
    {events : List AlertEvent}
    (hevents : t.store.events = s.store.events ++ events) (hof : OfEvaluation events)
    (hstored : ∀ id, ∀ instant ∈ t.store.firstTriggeredAt id,
      instant ∈ s.store.firstTriggeredAt id ∨ timestamptz instant = instant) :
    Moves s t evaluated suppressed := by
  obtain ⟨events', hevents', hids, hkinds⟩ := h.writes.events
  obtain rfl := List.append_cancel_left (hevents.symm.trans hevents')
  have hkept := h.kept (a := .abandon) hinv (hinv.evaluate h)
  -- the events `FIRED` and `RECOVERED` are those of the change
  have hfired : ∀ event ∈ events, event.kind = .fired →
      s.store.firstTriggeredAt event.alertInstanceId = none
        ∧ ¬ s.store.Resolved event.alertInstanceId := by
    intro event hevent hkind
    refine ⟨((hkept.triggered _).mp ((fires_iff hevents _).mpr ⟨event, hevent, hkind, rfl⟩)).1, ?_⟩
    rintro ⟨old, hold, hstatus⟩
    rw [hids event hevent] at hold
    exact (h.change.unresolved old hold).2 hstatus
  have hrecovered : ∀ event ∈ events, event.kind = .recovered →
      t.store.Resolved event.alertInstanceId := by
    intro event hevent hkind
    have hmem : EventKind.recovered ∈ kinds.filter EventKind.isLifecycle := by
      rw [← hkinds]
      refine List.mem_filter.mpr ⟨?_, rfl⟩
      rw [← hkind]
      exact List.mem_map_of_mem hevent
    rw [hids event hevent]
    refine ⟨life, h.life_self, ?_⟩
    rcases h.change.firing with ⟨-, hlife, -⟩ | ⟨-, -, -, hstatus⟩ | ⟨-, hlife, -⟩
    · rw [hlife] at hmem
      exact absurd hmem (by decide)
    · exact hstatus
    · rw [hlife] at hmem
      exact absurd hmem List.not_mem_nil
  refine ⟨hinv.evaluate h, fun id' hid' => ?_, fun id' ⟨old, hold, hstatus⟩ => ?_,
    hkept.triggeredAt, hstored, events, hevents, fun event hevent =>
      ⟨fun _ => hevaluated, fun _ => (hof event hevent).1, hfired event hevent,
        hrecovered event hevent, fun hkind => .inr ?_⟩⟩
  · by_cases hid : id' = id
    · rw [hid, h.life_self]
      exact Option.some_ne_none _
    · rwa [h.life_ne hid]
  · have hid : id' ≠ id := by
      rintro rfl
      exact (h.change.unresolved old hold).2 hstatus
    exact ⟨old, by rwa [h.life_ne hid], hstatus⟩
  · rcases (hof event hevent).2 with hstate | ⟨-, cause, hcause, hlifecycle, hsame⟩
    · rw [hkind] at hstate
      exact absurd hstate (by decide)
    · rw [← hsame]
      rcases Bool.or_eq_true_iff.mp hlifecycle with hfire | hrecover
      · exact .inl (hfired cause hcause (of_decide_eq_true hfire)).1
      · exact .inr (hrecovered cause hcause (of_decide_eq_true hrecover))

theorem moves_evaluate (hinv : LifeInv s) (hevaluated : evaluated) {found : Findings} {now : ℤ}
    (h : step s (.evaluate found now) = some t) : Moves s t evaluated suppressed := by
  have hevaluate : ∃ target, evaluateRule target found now s.store = some t.store := by
    obtain ⟨target, -, h⟩ := Option.bind_eq_some_iff.mp h
    obtain ⟨store, hevaluate, h⟩ := Option.bind_eq_some_iff.mp h
    cases h
    exact ⟨target, hevaluate⟩
  obtain ⟨target, hevaluate⟩ := hevaluate
  obtain ⟨events, hevents, hof⟩ := evaluateRule_events hevaluate
  rcases step_cases hinv h with ⟨ids, closedAt, hsettles, -⟩ | ⟨id, life, starts, kinds, hevaluates⟩
  · refine hsettles.moves hinv hevents fun event hevent hkind => ?_
    obtain ⟨events', hevents', hquiet⟩ := hsettles.closes.events
    obtain rfl := List.append_cancel_left (hevents.symm.trans hevents')
    rcases (hof event hevent).2 with hstate | ⟨-, cause, hcause, hlifecycle, -⟩
    · rw [hkind] at hstate
      exact absurd hstate (by decide)
    · rw [hquiet cause hcause] at hlifecycle
      exact Bool.noConfusion hlifecycle
  · refine hevaluates.moves hinv hevaluated hevents hof fun id instant hinstant => ?_
    refine (evaluateRule_firstTriggeredAt hevaluate id hinstant).imp_right ?_
    rintro rfl
    exact timestamptz_timestamptz now

theorem moves_of_closes (hinv : LifeInv s) {store : AlertStore} {events : List AlertEvent}
    (hcloses : Closes s.store store [] 0) (hevents : store.events = s.store.events ++ events)
    (hsuppressed : ∀ event ∈ events, event.kind = .maintenanceSuppressed →
      timestamptz event.evaluatedAt = event.evaluatedAt
        ∧ suppressed event.alertInstanceId event.evaluatedAt) :
    Moves s { s with store := store } evaluated suppressed :=
  (hinv.settles hcloses).moves hinv hevents hsuppressed

theorem moves_read (hinv : LifeInv s) {key : AlertKey} {rule : EvaluationRule}
    (h : step s (.read key rule) = some t) : Moves s t evaluated suppressed := by
  rcases step_cases hinv h with ⟨ids, closedAt, hsettles, -⟩ | ⟨id, life, starts, kinds, hevaluates⟩
  · simp only [step] at h
    split_ifs at h
    cases h
    refine hsettles.moves hinv (List.append_nil _).symm ?_
    rintro _ ⟨⟩
  · have hreading := hevaluates.reading
    simp only [step] at h
    split_ifs at h
    cases h
    cases hreading

theorem moves_abandon (hinv : LifeInv s) (h : step s .abandon = some t) :
    Moves s t evaluated suppressed := by
  cases h
  have hsettles : Settles s { s with reading := none } [] 0 :=
    ⟨.refl, fun _ h => h, (fun _ h => nomatch h), fun _ h => nomatch h⟩
  exact hsettles.moves hinv (List.append_nil _).symm fun _ h => nomatch h

theorem moves_dispose (hinv : LifeInv s) {id : AlertId} {columns : DispositionColumns}
    {actorId : String} {actedAt : ℤ} (h : step s (.dispose id columns actorId actedAt) = some t) :
    Moves s t evaluated suppressed := by
  obtain ⟨store, hdispose, h⟩ := Option.bind_eq_some_iff.mp h
  cases h
  have hcloses : Closes s.store store [] 0 := closes_updateAlertDisposition hdispose
  obtain ⟨dispositions, event, hkind, rfl⟩ := updateAlertDisposition_spec hdispose
  refine moves_of_closes hinv hcloses (updateAlert_createAlertEvent_events ..) ?_
  intro event' hevent' hsuppressed
  rw [List.mem_singleton.mp hevent'] at hsuppressed
  rcases hkind with hkind | hkind <;> exact nomatch hkind.symm.trans hsuppressed

theorem foldl_closeAlert_events (removedAt : ℤ) (actorId : String) :
    ∀ (ids : List AlertId) (s : AlertStore), ∃ events,
      (ids.foldl (closeAlert removedAt actorId) s).events = s.events ++ events
        ∧ ∀ event ∈ events, event.kind = .instanceRemoved
  | [], _ => ⟨[], (List.append_nil _).symm, fun _ h => nomatch h⟩
  | id :: ids, s => by
    obtain ⟨events, hevents, hkinds⟩ := foldl_closeAlert_events removedAt actorId ids
      (closeAlert removedAt actorId s id)
    have hfirst : ∃ first, (closeAlert removedAt actorId s id).events = s.events ++ first
        ∧ ∀ event ∈ first, event.kind = .instanceRemoved := by
      unfold closeAlert
      rcases s.alerts.lookup id with _ | row
      · exact ⟨[], (List.append_nil _).symm, fun _ h => nomatch h⟩
      · refine ⟨_, updateAlert_createAlertEvent_events .., fun event hevent => ?_⟩
        rw [List.mem_singleton.mp hevent]
        rfl
    obtain ⟨first, hclose, hkind⟩ := hfirst
    refine ⟨first ++ events, by rw [List.foldl_cons, hevents, hclose, List.append_assoc], ?_⟩
    intro event hevent
    rcases List.mem_append.mp hevent with hevent | hevent
    · exact hkind event hevent
    · exact hkinds event hevent

theorem moves_remove (hinv : LifeInv s) {instanceId : InstanceId} {actorId : String}
    {removedAt : ℤ} (h : step s (.remove instanceId actorId removedAt) = some t) :
    Moves s t evaluated suppressed := by
  rcases step_cases hinv h with ⟨ids, closedAt, hsettles, -⟩ | ⟨id, life, starts, kinds, hevaluates⟩
  · simp only [step] at h
    split_ifs at h
    cases h
    obtain ⟨events, hevents, hkinds⟩ := foldl_closeAlert_events removedAt actorId
      (s.store.unresolvedOfInstance instanceId) s.store
    refine hsettles.moves hinv hevents fun event hevent hkind => ?_
    rw [hkinds event hevent] at hkind
    exact EventKind.noConfusion hkind
  · have hremoved := hevaluates.removed
    simp only [step] at h
    split_ifs at h with hguard
    cases h
    have hinUse : s.removed instanceId = false := by simp_all
    have hself := congrFun hremoved instanceId
    dsimp only at hself
    rw [Function.update_self, hinUse] at hself
    exact Bool.noConfusion hself

theorem moves_createCollectionPauseEvents (hinv : LifeInv s) (instanceId : InstanceId)
    {kind : EventKind} (evaluatedAt : ℤ) (actorId : String)
    (hkind : kind = .frozen ∨ kind = .unfrozen) :
    Moves s { s with
      store := s.store.createCollectionPauseEvents instanceId kind evaluatedAt actorId }
      evaluated suppressed := by
  have hlogged : ∃ events,
      (s.store.createCollectionPauseEvents instanceId kind evaluatedAt actorId).events
        = s.store.events ++ events ∧ ∀ event ∈ events, event.kind = kind := by
    refine ⟨_, rfl, fun event hevent => ?_⟩
    obtain ⟨entry, -, rfl⟩ := List.mem_map.mp hevent
    rfl
  obtain ⟨events, hevents, hkinds⟩ := hlogged
  refine moves_of_closes hinv ⟨fun id => ?_, rfl, rfl, rfl, events, hevents, ?_⟩ hevents ?_
  · rw [if_neg List.not_mem_nil]
    rfl
  · intro event hevent
    rw [hkinds event hevent]
    rcases hkind with rfl | rfl <;> rfl
  · intro event hevent hsuppressed
    rw [hkinds event hevent] at hsuppressed
    rcases hkind with rfl | rfl <;> exact EventKind.noConfusion hsuppressed

theorem moves_createAlertEvent (hinv : LifeInv s) (event : AlertEvent)
    (hkind : event.kind = .notificationSent ∨ event.kind = .notificationFailed) :
    Moves s { s with store := s.store.createAlertEvent event } evaluated suppressed := by
  refine moves_of_closes hinv (.createAlertEvent _ _ ?_) rfl fun event' hevent' hsuppressed => ?_
  · rcases hkind with hkind | hkind <;> rw [hkind] <;> rfl
  · rw [List.mem_singleton.mp hevent'] at hsuppressed
    rcases hkind with hkind | hkind <;> rw [hkind] at hsuppressed <;>
      exact EventKind.noConfusion hsuppressed

theorem moves_recordMaintenanceSuppressed (hinv : LifeInv s) (id : AlertId)
    (windowId : Option String) (evaluatedAt : ℤ) :
    Moves s { s with store := s.store.recordMaintenanceSuppressed id windowId evaluatedAt } False
      fun id' instant => id' = id ∧ instant = timestamptz evaluatedAt := by
  have hcloses :
      Closes s.store (s.store.recordMaintenanceSuppressed id windowId evaluatedAt) [] 0 :=
    (logs_recordMaintenanceSuppressed s.store id windowId evaluatedAt).closes
  rcases recordMaintenanceSuppressed_events s.store id windowId evaluatedAt with
    ⟨-, hevents⟩ | ⟨event, hevents, -, hid, hat⟩
  · exact moves_of_closes hinv hcloses (hevents.trans (List.append_nil _).symm)
      fun _ h => nomatch h
  · refine moves_of_closes hinv hcloses hevents fun event' hevent' _ => ?_
    rw [List.mem_singleton.mp hevent', hat]
    exact ⟨timestamptz_timestamptz _, hid, rfl⟩

end Alerts

end DbsMonitor
