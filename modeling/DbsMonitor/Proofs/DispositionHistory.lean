import Mathlib.Data.List.Chain
import DbsMonitor.Proofs.AlertMoves

/-!
# The history of the dispositions of an alert

The row of the alert is locked while a disposition is recorded, so each one starts from the
disposition before it. The history is listed in the order of the instants at which the requests came
in, before they waited for the row. It is the order of the commits as long as no request records an
earlier instant than the one it finds.
-/

namespace DbsMonitor

open AlertStore

def lastDisposition : Option AlertDispositionEvent → DispositionColumns
  | none => {}
  | some event =>
    { disposition := event.toDisposition, dispositionBy := some event.actorId
      dispositionAt := some event.actedAt, dispositionNote := event.dispositionNote
      ignoreReasonCode := event.ignoreReasonCode, ignoreReasonDetail := event.ignoreReasonDetail }

structure AlertDispositionDetail.Consistent (detail : AlertDispositionDetail) : Prop where
  first : ∀ event ∈ detail.history.head?, event.fromDisposition = .none
  chained : detail.history.IsChain fun event event' => event'.fromDisposition = event.toDisposition
  last : detail.toDispositionColumns = lastDisposition detail.history.getLast?

def AlertStore.disposed (s : AlertStore) (id : AlertId) : List AlertEvent :=
  s.events.filter fun event => event.alertInstanceId = id && event.isDisposition

structure Chained (columns : DispositionColumns) (events : List AlertEvent) : Prop where
  ordered : events.Pairwise fun event event' => event.actedAt ≤ event'.actedAt
  latest : ∀ event ∈ events, ∃ last ∈ columns.dispositionAt, event.actedAt ≤ last
  first : ∀ event ∈ (events.filterMap AlertEvent.dispositionEvent).head?,
    event.fromDisposition = .none
  chained : (events.filterMap AlertEvent.dispositionEvent).IsChain fun event event' =>
    event'.fromDisposition = event.toDisposition
  last : columns = lastDisposition (events.filterMap AlertEvent.dispositionEvent).getLast?

theorem chained_nil : Chained {} [] :=
  ⟨.nil, (fun _ h => nomatch h), (fun _ h => nomatch h), .nil, rfl⟩

theorem Chained.append {columns : DispositionColumns} {events : List AlertEvent}
    {event : AlertEvent} {entry : AlertDispositionEvent} (h : Chained columns events)
    (hentry : event.dispositionEvent = some entry)
    (hfrom : entry.fromDisposition = columns.disposition) (hat : event.actedAt = entry.actedAt)
    (horder : ∀ last ∈ columns.dispositionAt, last ≤ event.actedAt) :
    Chained (lastDisposition (some entry)) (events ++ [event]) := by
  have hentries : (events ++ [event]).filterMap AlertEvent.dispositionEvent
      = events.filterMap AlertEvent.dispositionEvent ++ [entry] := by
    rw [List.filterMap_append, List.filterMap_cons_some hentry, List.filterMap_nil]
  have hbefore : ∀ event' ∈ events, event'.actedAt ≤ event.actedAt := by
    intro event' hevent'
    obtain ⟨last, hlast, hle⟩ := h.latest event' hevent'
    exact hle.trans (horder last hlast)
  refine ⟨?_, ?_, ?_, ?_, ?_⟩
  · rw [List.pairwise_append]
    refine ⟨h.ordered, List.pairwise_singleton _ _, ?_⟩
    intro event' hevent' last hlast
    obtain rfl := List.mem_singleton.mp hlast
    exact hbefore event' hevent'
  · intro event' hevent'
    refine ⟨entry.actedAt, rfl, hat ▸ ?_⟩
    rcases List.mem_append.mp hevent' with hevent' | hevent'
    · exact hbefore event' hevent'
    · obtain rfl := List.mem_singleton.mp hevent'
      exact le_rfl
  · rw [hentries]
    intro event' hevent'
    rcases hold : events.filterMap AlertEvent.dispositionEvent with _ | ⟨head, rest⟩
    · rw [hold] at hevent'
      cases hevent'
      rw [hfrom, h.last, hold]
      rfl
    · rw [hold] at hevent'
      exact h.first event' (hold ▸ hevent')
  · rw [hentries, List.isChain_append]
    refine ⟨h.chained, .singleton _, ?_⟩
    intro last hlast event' hevent'
    cases hevent'
    rw [hfrom, h.last, Option.mem_def.mp hlast]
    rfl
  · rw [hentries, List.getLast?_concat]

section Store

variable {s t : AlertStore} {id : AlertId}

theorem listAlertDispositionEvents_eq {columns : DispositionColumns}
    (h : Chained columns (s.disposed id)) : s.listAlertDispositionEvents id = s.disposed id :=
  h.ordered.insertionSort_eq

theorem consistent_of_chained {row : AlertRow}
    (h : Chained row.dispositions (s.disposed id)) :
    (s.loadAlertDispositionDetail id row).Consistent := by
  refine ⟨?_, ?_, ?_⟩
  all_goals
    unfold loadAlertDispositionDetail
    rw [listAlertDispositionEvents_eq h]
  · exact h.first
  · exact h.chained
  · exact h.last

theorem disposed_of_quiet {events : List AlertEvent} (h : t.events = s.events ++ events)
    (hquiet : ∀ event ∈ events, event.isDisposition = false) : t.disposed id = s.disposed id := by
  have hnone : (events.filter fun event => event.alertInstanceId = id && event.isDisposition)
      = [] := by
    refine List.filter_eq_nil_iff.mpr fun event hevent => ?_
    simp [hquiet event hevent]
  rw [AlertStore.disposed, h, List.filter_append, hnone, List.append_nil]
  rfl

theorem updateAlertDisposition_inv {columns : DispositionColumns} {actorId : String} {actedAt : ℤ}
    (h : s.updateAlertDisposition id columns actorId actedAt = some t) :
    ∃ current event entry, s.alerts.lookup id = some current ∧ current.status ≠ .recovered
      ∧ t = (s.updateAlert id fun row =>
          { row with dispositions := lastDisposition (some entry) }).createAlertEvent event
      ∧ event.alertInstanceId = id ∧ event.isDisposition = true
      ∧ event.dispositionEvent = some entry
      ∧ entry.fromDisposition = current.dispositions.disposition
      ∧ event.actedAt = entry.actedAt ∧ event.actedAt = timestamptz actedAt := by
  unfold updateAlertDisposition at h
  obtain ⟨_, -, h⟩ := Option.bind_eq_some_iff.mp h
  obtain ⟨current, hcurrent, h⟩ := Option.bind_eq_some_iff.mp h
  obtain ⟨_, hguard, h⟩ := Option.bind_eq_some_iff.mp h
  have hunresolved : current.status ≠ .recovered := by
    simpa [AlertRow.unresolved] using Machine.of_guard hguard
  cases h
  let entry : AlertDispositionEvent :=
    { actedAt := timestamptz actedAt, fromDisposition := current.dispositions.disposition
      toDisposition := columns.disposition, dispositionNote := columns.dispositionNote
      ignoreReasonCode := columns.ignoreReasonCode
      ignoreReasonDetail := columns.ignoreReasonDetail
      kind := if columns.disposition = .ignored then .ignored else .acked, actorId := actorId
      ruleVersion := current.ruleVersion, currentValue := current.currentValue
      ruleSnapshot := current.ruleSnapshot, evaluatedAt := current.updatedAt }
  refine ⟨current, _, entry, hcurrent, hunresolved, rfl, rfl, ?_, rfl, rfl, rfl, rfl⟩
  dsimp only [AlertEvent.isDisposition]
  split_ifs <;> rfl

theorem disposed_createAlertEvent (g : AlertRow → AlertRow) {event : AlertEvent}
    (hdisposition : event.isDisposition = true) :
    ((s.updateAlert event.alertInstanceId g).createAlertEvent event).disposed id
      = if id = event.alertInstanceId then s.disposed id ++ [event] else s.disposed id := by
  unfold AlertStore.disposed
  rw [updateAlert_createAlertEvent_events, List.filter_append]
  split_ifs with hid
  · simp [hid, hdisposition]
  · simp [Ne.symm hid]

end Store

namespace Alerts

variable {s t : Alerts} {a : Action}

structure DispositionInv (s : AlertStore) : Prop where
  unknown : ∀ id, s.dispositions id = none → s.disposed id = []
  chained : ∀ id columns, s.dispositions id = some columns → Chained columns (s.disposed id)

/-- A disposition does not record an earlier instant than the one it finds. -/
def ActsInOrder (s : Alerts) (a : Action) (_ : Alerts) : Prop :=
  match a with
  | .dispose id _ _ actedAt =>
    ∀ row ∈ s.store.alerts.lookup id, ∀ last ∈ row.dispositions.dispositionAt,
      last ≤ timestamptz actedAt
  | _ => True

structure DispositionsKept (s : Alerts) (_ : Action) (t : Alerts) : Prop where
  consistent : ∀ id detail, t.store.getAlertDisposition id = some detail → detail.Consistent
  closed : ∀ id row, s.store.alerts.lookup id = some row → row.status = .recovered →
    t.store.listAlertDispositionEvents id = s.store.listAlertDispositionEvents id
      ∧ ∃ row', t.store.alerts.lookup id = some row' ∧ row'.status = .recovered

theorem isDisposition_of_kind {event : AlertEvent} (hacked : event.kind ≠ .acked)
    (hignored : event.kind ≠ .ignored) : event.isDisposition = false := by
  simp [AlertEvent.isDisposition, hacked, hignored]

theorem disposed_step (h : step s a = some t) (ha : a.disposes = false) (id : AlertId) :
    t.store.disposed id = s.store.disposed id := by
  rcases a with ⟨key, rule⟩ | ⟨found, now⟩ | _ | ⟨id', columns, actorId, actedAt⟩
    | ⟨id', windowId, evaluatedAt⟩ | ⟨instanceId, actorId, removedAt⟩
  case read =>
    simp only [step] at h
    split_ifs at h
    cases h
    rfl
  case evaluate =>
    obtain ⟨target, -, h⟩ := Option.bind_eq_some_iff.mp h
    obtain ⟨store, hevaluate, h⟩ := Option.bind_eq_some_iff.mp h
    cases h
    obtain ⟨events, hevents, hof⟩ := evaluateRule_events hevaluate
    refine disposed_of_quiet hevents fun event hevent => ?_
    obtain ⟨-, hstate | ⟨hsuppressed, -⟩⟩ := hof event hevent
    · refine isDisposition_of_kind ?_ ?_ <;> intro hkind <;> rw [hkind] at hstate <;>
        exact Bool.noConfusion hstate
    · refine isDisposition_of_kind ?_ ?_ <;> rw [hsuppressed] <;> decide
  case abandon =>
    cases h
    rfl
  case dispose => cases ha
  case suppress =>
    cases h
    rcases recordMaintenanceSuppressed_events s.store id' windowId evaluatedAt with
      ⟨-, hevents⟩ | ⟨event, hevents, hkind, -, -⟩
    · exact disposed_of_quiet (hevents.trans (List.append_nil _).symm) (List.forall_mem_nil _)
    · refine disposed_of_quiet hevents fun event' hevent' => ?_
      obtain rfl := List.mem_singleton.mp hevent'
      refine isDisposition_of_kind ?_ ?_ <;> rw [hkind] <;> decide
  case remove =>
    simp only [step] at h
    split_ifs at h
    cases h
    obtain ⟨events, hevents, hkinds⟩ := foldl_closeAlert_events removedAt actorId
      (s.store.unresolvedOfInstance instanceId) s.store
    refine disposed_of_quiet hevents fun event hevent => ?_
    refine isDisposition_of_kind ?_ ?_ <;> rw [hkinds event hevent] <;> decide

theorem DispositionInv.quiet (h : DispositionInv s.store) (hinv : LifeInv s)
    (hstep : step s a = some t) (ha : a.disposes = false) : DispositionInv t.store := by
  have hdisposed := disposed_step hstep ha
  rcases step_cases hinv hstep with ⟨ids, closedAt, -, hdispositions⟩
    | ⟨id, life, starts, kinds, hevaluates⟩
  · have hsame := hdispositions ha
    refine ⟨fun id hid => ?_, fun id columns hid => ?_⟩ <;> rw [hdisposed]
    · exact h.unknown id (hsame ▸ hid)
    · exact h.chained id columns (hsame ▸ hid)
  · rcases hevaluates.writes.row with ⟨-, -, hsame⟩ | ⟨-, hid, hinsert⟩
    · refine ⟨fun id hid => ?_, fun id columns hid => ?_⟩ <;> rw [hdisposed]
      · exact h.unknown id (hsame ▸ hid)
      · exact h.chained id columns (hsame ▸ hid)
    · -- the alert is new, and has no dispositions yet
      have hfresh : s.store.dispositions id = none := by
        have hlife := hinv.fresh id (hid ▸ le_rfl)
        exact Option.map_eq_none_iff.mpr (Option.map_eq_none_iff.mp hlife)
      refine ⟨fun id' hid' => ?_, fun id' columns hid' => ?_⟩ <;> rw [hdisposed] <;>
        rw [hinsert] at hid' <;> by_cases hnew : id' = id
      · rw [hnew, Function.update_self] at hid'
        cases hid'
      · rw [Function.update_of_ne hnew] at hid'
        exact h.unknown id' hid'
      · subst hnew
        rw [Function.update_self, Option.some.injEq] at hid'
        rw [h.unknown id' hfresh, ← hid']
        exact chained_nil
      · rw [Function.update_of_ne hnew] at hid'
        exact h.chained id' columns hid'

theorem DispositionInv.dispose (h : DispositionInv s.store) {id : AlertId}
    {columns : DispositionColumns} {actorId : String} {actedAt : ℤ} {store : AlertStore}
    (hdispose : s.store.updateAlertDisposition id columns actorId actedAt = some store)
    (horder : ActsInOrder s (.dispose id columns actorId actedAt) t) : DispositionInv store := by
  obtain ⟨current, event, entry, hcurrent, -, rfl, rfl, hdisposition, hentry, hfrom, hat, hacted⟩ :=
    updateAlertDisposition_inv hdispose
  have hbefore : s.store.dispositions event.alertInstanceId = some current.dispositions := by
    simp [AlertStore.dispositions, column, hcurrent]
  have hchained := h.chained _ _ hbefore
  have hafter : ∀ id, ((s.store.updateAlert event.alertInstanceId fun row =>
      { row with dispositions := lastDisposition (some entry) }).createAlertEvent
        event).dispositions id
      = if id = event.alertInstanceId then some (lastDisposition (some entry))
        else s.store.dispositions id := by
    intro id
    change ((s.store.updateAlert _ _).column AlertRow.dispositions) id = _
    rw [column_updateAlert]
    split_ifs with hid
    · subst hid
      simp [column, hcurrent]
    · rw [Function.update_of_ne hid]
  refine ⟨fun id hid => ?_, fun id columns' hid => ?_⟩ <;> rw [hafter] at hid <;>
    rw [disposed_createAlertEvent _ hdisposition] <;> split_ifs at hid ⊢ with hsame
  · exact h.unknown id hid
  · cases hid
    subst hsame
    refine hchained.append hentry hfrom hat fun last hlast => ?_
    rw [hacted]
    exact horder current hcurrent last hlast
  · exact h.chained id columns' hid

theorem dispositionInv_step (h : DispositionInv s.store) (hinv : LifeInv s)
    (hstep : step s a = some t) (horder : ActsInOrder s a t) : DispositionInv t.store := by
  by_cases ha : a.disposes = false
  · exact h.quiet hinv hstep ha
  · cases a with
    | dispose id columns actorId actedAt =>
      obtain ⟨store, hdispose, hstep⟩ := Option.bind_eq_some_iff.mp hstep
      cases hstep
      exact h.dispose hdispose horder
    | read _ _ | evaluate _ _ | abandon | suppress _ _ _ | remove _ _ _ => exact absurd rfl ha

theorem recovered_step (hinv : LifeInv s) (hstep : step s a = some t) {id : AlertId}
    {row : AlertRow} (hrow : s.store.alerts.lookup id = some row)
    (hrecovered : row.status = .recovered) :
    ∃ row', t.store.alerts.lookup id = some row' ∧ row'.status = .recovered := by
  have hlife : s.store.life id = some row.life := by simp [AlertStore.life, column, hrow]
  suffices ∃ life, t.store.life id = some life ∧ life.status = .recovered by
    obtain ⟨life, hlife', hstatus⟩ := this
    obtain ⟨row', hrow', rfl⟩ := Option.map_eq_some_iff.mp hlife'
    exact ⟨row', hrow', hstatus⟩
  rcases step_cases hinv hstep with ⟨ids, closedAt, hsettles, -⟩
    | ⟨id', life, starts, kinds, hevaluates⟩
  · rw [hsettles.closes.life, hlife]
    split_ifs
    · exact ⟨_, rfl, rfl⟩
    · exact ⟨_, rfl, hrecovered⟩
  · have hne : id ≠ id' := by
      rintro rfl
      exact (hevaluates.change.unresolved _ hlife).2 hrecovered
    rw [hevaluates.life_ne hne, hlife]
    exact ⟨_, rfl, hrecovered⟩

theorem listed_step (hstep : step s a = some t) {id : AlertId} {row : AlertRow}
    (hrow : s.store.alerts.lookup id = some row) (hrecovered : row.status = .recovered) :
    t.store.listAlertDispositionEvents id = s.store.listAlertDispositionEvents id := by
  have hdisposed : t.store.disposed id = s.store.disposed id := by
    by_cases ha : a.disposes = false
    · exact disposed_step hstep ha id
    · cases a with
      | dispose id' columns actorId actedAt =>
        obtain ⟨store, hdispose, hstep⟩ := Option.bind_eq_some_iff.mp hstep
        cases hstep
        obtain ⟨current, event, entry, hcurrent, hunresolved, rfl, rfl, hdisposition, -⟩ :=
          updateAlertDisposition_inv hdispose
        have hne : id ≠ event.alertInstanceId := by
          rintro rfl
          rw [hrow, Option.some.injEq] at hcurrent
          exact hunresolved (hcurrent ▸ hrecovered)
        exact (disposed_createAlertEvent _ hdisposition).trans (if_neg hne)
      | read _ _ | evaluate _ _ | abandon | suppress _ _ _ | remove _ _ _ => exact absurd rfl ha
  exact congrArg _ hdisposed

/-- While the dispositions of each alert record instants in the order in which they commit. -/
theorem dispositions_kept (actions : List Action)
    (horder : Machine.Along step ActsInOrder {} actions) :
    Machine.Along step DispositionsKept {} actions := by
  refine Machine.Along.of_guarded (I := fun s => LifeInv s ∧ DispositionInv s.store) ?_
    ⟨lifeInv_init, fun _ _ => rfl, fun _ _ h => nomatch h⟩ horder
  rintro s a t ⟨hinv, h⟩ hstep hacts
  have ht := dispositionInv_step h hinv hstep hacts
  refine ⟨⟨fun id detail hdetail => ?_, fun id row hrow hrecovered => ?_⟩,
    lifeInv_step hinv hstep, ht⟩
  · obtain ⟨row, hrow, rfl⟩ := Option.map_eq_some_iff.mp hdetail
    refine consistent_of_chained (ht.chained id row.dispositions ?_)
    simp [AlertStore.dispositions, column, hrow]
  · exact ⟨listed_step hstep hrow hrecovered, recovered_step hinv hstep hrow hrecovered⟩

instance ActsInOrder.decidable (s : Alerts) : ∀ a t, Decidable (ActsInOrder s a t)
  | .dispose id _ _ actedAt, _ => inferInstanceAs (Decidable
      (∀ row ∈ s.store.alerts.lookup id, ∀ last ∈ row.dispositions.dispositionAt,
        last ≤ timestamptz actedAt))
  | .read _ _, _ | .evaluate _ _, _ | .abandon, _ | .suppress _ _ _, _ | .remove _ _ _, _ =>
    .isTrue trivial

/-- The alert fires, and then is acknowledged and ignored, each at an instant of its own. -/
def acknowledgedThenIgnored (acknowledgedAt ignoredAt : ℤ) : List Action :=
  evaluates .breaching 0
    ++ [.dispose 0 { disposition := .acked, dispositionNote := some "on it" } "on-call"
          acknowledgedAt,
        .dispose 0 { disposition := .ignored, ignoreReasonCode := some "KNOWN_ISSUE" } "operator"
          ignoredAt]

/-- The request to ignore the alert came in first, and got the row second. -/
theorem history_out_of_order :
    ∃ t detail, Machine.run step {} (acknowledgedThenIgnored (2 * second) second) = some t
      ∧ t.store.getAlertDisposition 0 = some detail ∧ ¬ detail.Consistent := by
  refine ⟨_, _, rfl, rfl, fun h => ?_⟩
  exact absurd (h.first _ rfl) (by decide +kernel)

theorem dispositions_kept_in_order :
    (Machine.run step {} (acknowledgedThenIgnored second (2 * second))).isSome
      ∧ Machine.Along step DispositionsKept {} (acknowledgedThenIgnored second (2 * second)) :=
  ⟨by decide +kernel, dispositions_kept _ (by decide +kernel)⟩

end Alerts

end DbsMonitor
