import DbsMonitor.Machine
import DbsMonitor.Proofs.AlertLifecycle

/-!
# The history of the alerts

Other transactions commit between the read and the write of an evaluation. What was read stays true,
and a step either settles alerts without an event of their lifecycle (`Settles`) or is the change of
one alert (`Evaluates`). Both keep the invariant of the tables (`LifeInv`).
-/

namespace DbsMonitor

open AlertStore

namespace Alerts

variable {s t : Alerts} {a : Action}

def Action.disposes : Action → Bool
  | .dispose .. => true
  | _ => false

structure LifeInv (s : Alerts) : Prop where
  fresh : ∀ id, s.store.nextId ≤ id → s.store.life id = none
  rows : ∀ id, RowInv (s.store.life id) (s.store.eventCount .fired id)
    (s.store.eventCount .recovered id)
  single : SingleUnresolved s.store.life
  keys : ∀ key, KeyInv (s.store.lifecycle key) (s.removed key.instanceId = false)
    (FiringOf s.store.life key)
  reading : ∀ target ∈ s.reading,
    s.removed target.key.instanceId = false ∧ Reads s.store.life target
  triggerSnapshots : (s.store.triggerSnapshots.map TriggerSnapshot.alertInstanceId).Nodup
  performanceEvents : (s.store.performanceEvents.map PerformanceEvent.alertInstanceId).Nodup

structure Settles (s t : Alerts) (ids : List AlertId) (closedAt : ℤ) : Prop where
  closes : Closes s.store t.store ids closedAt
  removed : ∀ instanceId, t.removed instanceId = false → s.removed instanceId = false
  closed : ∀ id ∈ ids, ∀ life, s.store.life id = some life →
    t.removed life.key.instanceId = true
  reading : ∀ target ∈ t.reading, t.removed target.key.instanceId = false
    ∧ (target ∈ s.reading ∨ Reads t.store.life target)

section Settles

variable {ids : List AlertId} {closedAt : ℤ}

theorem LifeInv.known (h : LifeInv s) {event : AlertEvent} (hevent : event ∈ s.store.events)
    (hkind : event.kind.isLifecycle = true) : s.store.life event.alertInstanceId ≠ none := by
  intro hnone
  have hcount : 0 < s.store.eventCount event.kind event.alertInstanceId :=
    List.countP_pos_iff.mpr ⟨event, hevent, by simp⟩
  have hrow := h.rows event.alertInstanceId
  rw [hnone] at hrow
  have hfired : s.store.eventCount .fired event.alertInstanceId = 0 := hrow.fired
  have hrecovered := hrow.absent rfl
  rcases Bool.or_eq_true_iff.mp hkind with hkind | hkind <;>
    rw [of_decide_eq_true hkind] at hcount <;> omega

theorem Settles.life_of_key (h : Settles s t ids closedAt) {key : AlertKey}
    (hkey : t.removed key.instanceId = false) {id : AlertId} {life : Life}
    (hlife : life.key = key) :
    t.store.life id = some life ↔ s.store.life id = some life := by
  rw [h.closes.life]
  split_ifs with hid
  · constructor
    · intro hclosed
      obtain ⟨life', hlife', hclose⟩ := Option.map_eq_some_iff.mp hclosed
      have hremoved := h.closed id hid life' hlife'
      rw [show life'.key = key from (congrArg Life.key hclose).trans hlife, hkey] at hremoved
      exact Bool.noConfusion hremoved
    · intro hlife'
      have hremoved := h.closed id hid life hlife'
      rw [hlife, hkey] at hremoved
      exact Bool.noConfusion hremoved
  · exact Iff.rfl

theorem LifeInv.settle (h : LifeInv s) (hstep : Settles s t ids closedAt) : LifeInv t := by
  have hclose := hstep.closes
  obtain ⟨events, hevents, hquiet⟩ := hclose.events
  have hlifecycle := lifecycle_of_quiet hevents (fun event _ _ => by
    rw [column_key_eq, column_key_eq, hclose.life]
    split_ifs
    · rw [Option.map_map]
      rfl
    · rfl) hquiet
  refine ⟨?_, ?_, ?_, ?_, ?_, ?_, ?_⟩
  · intro id hid
    rw [hclose.nextId] at hid
    rw [hclose.life, h.fresh id hid]
    split_ifs <;> rfl
  · intro id
    rw [eventCount_of_quiet hevents hquiet rfl, eventCount_of_quiet hevents hquiet rfl, hclose.life]
    split_ifs
    · exact (h.rows id).close closedAt
    · exact h.rows id
  · have hunresolved : ∀ id life, t.store.life id = some life → life.status ≠ .recovered →
        s.store.life id = some life := by
      intro id life hlife hstatus
      rw [hclose.life] at hlife
      split_ifs at hlife
      · obtain ⟨life', -, rfl⟩ := Option.map_eq_some_iff.mp hlife
        exact absurd rfl hstatus
      · exact hlife
    intro id id' life life' hlife hlife' hkey hstatus hstatus'
    exact h.single _ _ _ _ (hunresolved _ _ hlife hstatus) (hunresolved _ _ hlife' hstatus') hkey
      hstatus hstatus'
  · intro key
    rw [hlifecycle]
    refine ⟨(h.keys key).alternates, fun hkey => ?_⟩
    rw [(h.keys key).phase (hstep.removed _ hkey)]
    exact exists_congr fun id => exists_congr fun life => and_congr_left fun hlife =>
      (hstep.life_of_key hkey hlife.1).symm
  · intro target htarget
    obtain ⟨hkey, hread⟩ := hstep.reading target htarget
    refine ⟨hkey, hread.elim (fun hread => ?_) id⟩
    exact (h.reading target hread).2.congr (hstep.life_of_key hkey)
  · rw [hclose.triggerSnapshots]
    exact h.triggerSnapshots
  · rw [hclose.performanceEvents]
    exact h.performanceEvents

end Settles

structure Evaluates (s t : Alerts) (id : AlertId) (life : Life) (starts : Bool)
    (kinds : List EventKind) : Prop where
  writes : Writes s.store t.store id life starts kinds
  change : Change (s.store.life id) life starts kinds
  others : OthersResolved s.store.life id life.key
  inUse : s.removed life.key.instanceId = false
  removed : t.removed = s.removed
  reading : t.reading = none

section Evaluates

variable {id : AlertId} {life : Life} {starts : Bool} {kinds : List EventKind}

theorem AddsFirst.nodup {β : Type*} {alertOf : β → AlertId} {records records' : List β}
    (h : AddsFirst alertOf records records' id starts) (hnodup : (records.map alertOf).Nodup) :
    (records'.map alertOf).Nodup := by
  rcases h with rfl | ⟨-, record, rfl, hnew, rfl⟩
  · exact hnodup
  · rw [List.map_append]
    exact hnodup.append (List.nodup_singleton _) (by simpa using hnew)

theorem Evaluates.life_self (h : Evaluates s t id life starts kinds) :
    t.store.life id = some life := by
  rw [h.writes.life, Function.update_self]

theorem Evaluates.life_ne (h : Evaluates s t id life starts kinds) {id' : AlertId}
    (hid : id' ≠ id) : t.store.life id' = s.store.life id' := by
  rw [h.writes.life, Function.update_of_ne hid]

theorem Evaluates.fresh (h : Evaluates s t id life starts kinds)
    (hfresh : ∀ id, s.store.nextId ≤ id → s.store.life id = none) :
    ∀ id, t.store.nextId ≤ id → t.store.life id = none := by
  intro id' hid'
  rcases h.writes.row with ⟨hnext, hsome, -⟩ | ⟨hnext, hid, -⟩
  · rw [hnext] at hid'
    have hne : id' ≠ id := by
      intro heq
      rw [← heq, hfresh id' hid'] at hsome
      exact Bool.noConfusion hsome
    rw [h.life_ne hne]
    exact hfresh id' hid'
  · rw [hnext] at hid'
    rw [h.life_ne (hid ▸ Nat.ne_of_gt hid')]
    exact hfresh id' (Nat.le_of_succ_le hid')

theorem Evaluates.single (h : Evaluates s t id life starts kinds)
    (hsingle : SingleUnresolved s.store.life) : SingleUnresolved t.store.life := by
  -- the written alert against any other one of its key, which is resolved
  have hself : ∀ id' life', t.store.life id' = some life' → life'.key = life.key →
      life'.status ≠ .recovered → id' = id := by
    intro id' life' hlife' hkey hstatus
    by_contra hid
    rw [h.life_ne hid] at hlife'
    exact hstatus (h.others id' life' hid hlife' hkey)
  intro id₁ id₂ life₁ life₂ hlife₁ hlife₂ hkey hstatus₁ hstatus₂
  by_cases hid : life₁.key = life.key
  · rw [hself _ _ hlife₁ hid hstatus₁, hself _ _ hlife₂ (hkey ▸ hid) hstatus₂]
  · have hne : ∀ {id' life'}, t.store.life id' = some life' → life'.key ≠ life.key →
        s.store.life id' = some life' := by
      intro id' life' hlife' hkey'
      rwa [h.life_ne] at hlife'
      rintro rfl
      rw [h.life_self] at hlife'
      cases hlife'
      exact hkey' rfl
    exact hsingle _ _ _ _ (hne hlife₁ hid) (hne hlife₂ (hkey ▸ hid)) hkey hstatus₁ hstatus₂

theorem LifeInv.evaluate (h : LifeInv s) (hstep : Evaluates s t id life starts kinds) :
    LifeInv t := by
  obtain ⟨events, hevents, hids, hkinds⟩ := hstep.writes.events
  have hkeys : ∀ event ∈ s.store.events, event.kind.isLifecycle = true →
      t.store.column AlertRow.key event.alertInstanceId
        = s.store.column AlertRow.key event.alertInstanceId := by
    intro event hevent hkind
    rw [column_key_eq, column_key_eq]
    by_cases hid : event.alertInstanceId = id
    · obtain ⟨old, hold⟩ := Option.ne_none_iff_exists'.mp (h.known hevent hkind)
      rw [hid] at hold ⊢
      rw [hstep.life_self, hold]
      exact congrArg some (hstep.change.unresolved old hold).1.symm
    · rw [hstep.life_ne hid]
  have hlifecycle := lifecycle_of_alert hevents hkeys hids hstep.life_self hkinds
  refine ⟨hstep.fresh h.fresh, ?_, hstep.single h.single, ?_, ?_,
    AddsFirst.nodup hstep.writes.triggerSnapshots h.triggerSnapshots,
    AddsFirst.nodup hstep.writes.performanceEvents h.performanceEvents⟩
  · intro id'
    rw [eventCount_of_alert hevents hids hkinds rfl, eventCount_of_alert hevents hids hkinds rfl]
    by_cases hid : id' = id
    · subst hid
      rw [hstep.life_self, if_pos rfl, if_pos rfl]
      exact hstep.change.rowInv (h.rows id')
    · rw [hstep.life_ne hid, if_neg hid, if_neg hid]
      exact h.rows id'
  · intro key
    rw [hlifecycle, hstep.removed]
    by_cases hkey : life.key = key
    · subst hkey
      rw [if_pos rfl]
      have hothers : OthersResolved t.store.life id life.key := by
        intro id' life' hid hlife'
        rw [hstep.life_ne hid] at hlife'
        exact hstep.others id' life' hid hlife'
      have hfiring := firingOf_iff hstep.others fun old hold => (hstep.change.unresolved old hold).1
      have hfiring' := firingOf_iff hothers fun new hnew => by
        rw [hstep.life_self] at hnew
        cases hnew
        rfl
      rw [hstep.life_self] at hfiring'
      have hturn := hstep.change.keyInv ⟨(h.keys life.key).alternates, fun _ =>
        ((h.keys life.key).phase hstep.inUse).trans hfiring⟩
      exact ⟨hturn.alternates, fun _ => (hturn.phase trivial).trans hfiring'.symm⟩
    · rw [if_neg hkey, List.append_nil]
      refine ⟨(h.keys key).alternates, fun hused => ?_⟩
      rw [(h.keys key).phase hused]
      refine exists_congr fun id' => exists_congr fun life' => and_congr_left fun hlife' => ?_
      by_cases hid : id' = id
      · subst hid
        rw [hstep.life_self]
        constructor
        · intro hold
          exact absurd ((hstep.change.unresolved life' hold).1.symm.trans hlife'.1) hkey
        · intro hnew
          cases hnew
          exact absurd hlife'.1 hkey
      · rw [hstep.life_ne hid]
  · rw [hstep.reading]
    exact fun _ h => nomatch h

end Evaluates

theorem step_evaluate (hinv : LifeInv s) {target : EvaluationTargetRow} {found : Findings} {now : ℤ}
    {store : AlertStore} (hreading : s.reading = some target)
    (hevaluate : evaluateRule target found now s.store = some store) :
    (Settles s { s with store := store, reading := none } [] 0
        ∧ store.dispositions = s.store.dispositions)
      ∨ ∃ id life starts kinds,
        Evaluates s { s with store := store, reading := none } id life starts kinds := by
  obtain ⟨hinUse, hread⟩ := hinv.reading target hreading
  rcases evaluateRule_cases hevaluate with ⟨id, hlogs⟩ | ⟨hresolved, hwrite⟩
  · exact .inl ⟨⟨hlogs.closes, fun _ h => h, (fun _ h => nomatch h), (fun _ h => nomatch h)⟩,
      hlogs.dispositions⟩
  · have hpaired := paired_of_reads hread fun id life hlife => (hinv.rows id).sound life hlife
    have hcross := (transition_nextSnapshot target hpaired hresolved).crossing hpaired
    obtain ⟨id, life, hsaved, hwrites⟩ := writeEvaluation_spec hwrite
    obtain ⟨hkey, hothers, hchange⟩ := change_of_saved hsaved hread hinv.single
      (hinv.fresh _ le_rfl) hcross
    exact .inr ⟨id, life, _, _, hwrites, hchange, hkey ▸ hothers, hkey ▸ hinUse, rfl, rfl⟩

theorem LifeInv.settles (hinv : LifeInv s) {store : AlertStore}
    (h : Closes s.store store [] 0) : Settles s { s with store := store } [] 0 :=
  ⟨h, fun _ h => h, (fun _ h => nomatch h), fun target htarget =>
    ⟨(hinv.reading target htarget).1, .inl htarget⟩⟩

theorem step_cases (hinv : LifeInv s) (h : step s a = some t) :
    (∃ ids closedAt, Settles s t ids closedAt
        ∧ (a.disposes = false → t.store.dispositions = s.store.dispositions))
      ∨ ∃ id life starts kinds, Evaluates s t id life starts kinds := by
  rcases a with ⟨key, rule⟩ | ⟨found, now⟩ | _ | ⟨id, columns, actorId, actedAt⟩
    | ⟨id, windowId, evaluatedAt⟩ | ⟨instanceId, actorId, removedAt⟩
  case read =>
    simp only [step] at h
    split_ifs at h with hguard
    cases h
    have hused : s.removed key.instanceId = false := by simp_all
    refine .inl ⟨[], 0, ⟨.refl, fun _ h => h, (fun _ h => nomatch h), ?_⟩, fun _ => rfl⟩
    rintro _ ⟨⟩
    exact ⟨hused, .inr (reads_getEvaluationTarget _ _ _)⟩
  case evaluate =>
    obtain ⟨target, hreading, h⟩ := Option.bind_eq_some_iff.mp h
    obtain ⟨store, hevaluate, h⟩ := Option.bind_eq_some_iff.mp h
    cases h
    rcases step_evaluate hinv hreading hevaluate with ⟨hsettles, hdispositions⟩ | hevaluates
    · exact .inl ⟨[], 0, hsettles, fun _ => hdispositions⟩
    · exact .inr hevaluates
  case abandon =>
    cases h
    exact .inl ⟨[], 0, ⟨.refl, fun _ h => h, (fun _ h => nomatch h), (fun _ h => nomatch h)⟩,
      fun _ => rfl⟩
  case dispose =>
    obtain ⟨store, hdispose, h⟩ := Option.bind_eq_some_iff.mp h
    cases h
    exact .inl ⟨[], 0, hinv.settles (closes_updateAlertDisposition hdispose),
      fun h => Bool.noConfusion h⟩
  case suppress =>
    cases h
    have hlogs := logs_recordMaintenanceSuppressed s.store id windowId evaluatedAt
    exact .inl ⟨[], 0, hinv.settles hlogs.closes, fun _ => hlogs.dispositions⟩
  case remove =>
    simp only [step] at h
    split_ifs at h with hguard
    cases h
    rw [Bool.or_eq_true, not_or] at hguard
    obtain ⟨hcloses, hdispositions⟩ := closes_foldl_closeAlert removedAt actorId
      (s.store.unresolvedOfInstance instanceId) s.store
    refine .inl ⟨_, _, ⟨hcloses, ?_, ?_, ?_⟩, fun _ => hdispositions⟩
    · intro instanceId' hremoved
      dsimp only at hremoved
      by_cases hsame : instanceId' = instanceId
      · rw [hsame, Function.update_self] at hremoved
        exact Bool.noConfusion hremoved
      · rwa [Function.update_of_ne hsame] at hremoved
    · intro id hid life hlife
      rw [unresolvedOfInstance_life hid hlife]
      exact Function.update_self ..
    · intro target htarget
      have hother : target.key.instanceId ≠ instanceId := by
        intro hsame
        refine hguard.2 ((Option.any_eq_true _ _).mpr ⟨target, htarget, ?_⟩)
        exact decide_eq_true hsame
      dsimp only
      rw [Function.update_of_ne hother]
      exact ⟨(hinv.reading target htarget).1, .inl htarget⟩

theorem lifeInv_step (hinv : LifeInv s) (h : step s a = some t) : LifeInv t := by
  rcases step_cases hinv h with ⟨ids, closedAt, hsettles, -⟩ | ⟨id, life, starts, kinds, hevaluates⟩
  · exact hinv.settle hsettles
  · exact hinv.evaluate hevaluates

theorem lifeInv_init : LifeInv {} where
  fresh := fun _ _ => rfl
  rows := fun _ =>
    ⟨(fun _ h => nomatch h), rfl, Nat.zero_le _, fun _ => rfl, (fun _ h => nomatch h)⟩
  single := fun _ _ _ _ h => nomatch h
  keys := fun _ => ⟨trivial, fun _ => ⟨(fun h => nomatch h), fun ⟨_, _, h, _⟩ => nomatch h⟩⟩
  reading := fun _ h => nomatch h
  triggerSnapshots := List.nodup_nil
  performanceEvents := List.nodup_nil

def Fires (s t : AlertStore) (id : AlertId) : Prop :=
  ∃ event ∈ t.events.drop s.events.length, event.kind = .fired ∧ event.alertInstanceId = id

/-- What every step keeps. The rows and records it adds to are those of `s`, so that what it adds
is what `t` has beyond them. -/
structure LifecycleKept (s : Alerts) (a : Action) (t : Alerts) : Prop where
  unresolved : ∀ id id' row row', t.store.alerts.lookup id = some row →
    t.store.alerts.lookup id' = some row' → row.key = row'.key → row.status ≠ .recovered →
    row'.status ≠ .recovered → id = id'
  noData : ∀ id row, t.store.alerts.lookup id = some row →
    (row.status = .noData
      ↔ row.stateBeforeNoData ∈ [some .ok, some .pending, some AlertState.firing])
  alternate : ∀ key, Alternates .fired .recovered (t.store.lifecycle key)
  once : ∀ id, t.store.eventCount .fired id ≤ 1 ∧ t.store.eventCount .recovered id ≤ 1
  triggered : ∀ id, Fires s.store t.store id
    ↔ s.store.firstTriggeredAt id = none ∧ (t.store.firstTriggeredAt id).isSome
  triggeredAt : ∀ id, ∀ instant ∈ s.store.firstTriggeredAt id,
    t.store.firstTriggeredAt id = some instant
  /-- Trigger snapshots and performance events are those of alerts that fire, one for each. -/
  snapshots : s.store.triggerSnapshots <+: t.store.triggerSnapshots
    ∧ (t.store.triggerSnapshots.map TriggerSnapshot.alertInstanceId).Nodup
    ∧ ∀ snapshot ∈ t.store.triggerSnapshots.drop s.store.triggerSnapshots.length,
      Fires s.store t.store snapshot.alertInstanceId
  performance : s.store.performanceEvents <+: t.store.performanceEvents
    ∧ (t.store.performanceEvents.map PerformanceEvent.alertInstanceId).Nodup
    ∧ ∀ event ∈ t.store.performanceEvents.drop s.store.performanceEvents.length,
      Fires s.store t.store event.alertInstanceId
  recoveredAt : ∀ id row, t.store.alerts.lookup id = some row →
    (row.recoveredAt.isSome ↔ row.status = .recovered)
  dispositions : a.disposes = false → ∀ id row, s.store.alerts.lookup id = some row →
    ∃ row', t.store.alerts.lookup id = some row' ∧ row'.dispositions = row.dispositions

theorem fires_iff {s t : AlertStore} {events : List AlertEvent} (h : t.events = s.events ++ events)
    (id : AlertId) :
    Fires s t id ↔ ∃ event ∈ events, event.kind = .fired ∧ event.alertInstanceId = id := by
  rw [Fires, h, List.drop_left]

theorem firstTriggeredAt_eq (s : AlertStore) (id : AlertId) :
    s.firstTriggeredAt id = (s.life id).bind Life.firstTriggeredAt := by
  rw [firstTriggeredAt, AlertStore.life, column]
  rcases s.alerts.lookup id with _ | row <;> rfl

theorem LifecycleKept.of_lifeInv (hinv : LifeInv t)
    (htriggered : ∀ id, Fires s.store t.store id
      ↔ s.store.firstTriggeredAt id = none ∧ (t.store.firstTriggeredAt id).isSome)
    (htriggeredAt : ∀ id, ∀ instant ∈ s.store.firstTriggeredAt id,
      t.store.firstTriggeredAt id = some instant)
    (hsnapshots : s.store.triggerSnapshots <+: t.store.triggerSnapshots
      ∧ ∀ snapshot ∈ t.store.triggerSnapshots.drop s.store.triggerSnapshots.length,
        Fires s.store t.store snapshot.alertInstanceId)
    (hperformance : s.store.performanceEvents <+: t.store.performanceEvents
      ∧ ∀ event ∈ t.store.performanceEvents.drop s.store.performanceEvents.length,
        Fires s.store t.store event.alertInstanceId)
    (hdispositions : a.disposes = false → ∀ id row, s.store.alerts.lookup id = some row →
      ∃ row', t.store.alerts.lookup id = some row' ∧ row'.dispositions = row.dispositions) :
    LifecycleKept s a t := by
  have hlife : ∀ {id row}, t.store.alerts.lookup id = some row →
      t.store.life id = some row.life := fun hrow => life_of_entry (AList.mem_lookup_iff.mp hrow)
  refine ⟨?_, ?_, fun key => (hinv.keys key).alternates, ?_, htriggered, htriggeredAt,
    ⟨hsnapshots.1, hinv.triggerSnapshots, hsnapshots.2⟩,
    ⟨hperformance.1, hinv.performanceEvents, hperformance.2⟩, ?_, hdispositions⟩
  · intro id id' row row' hrow hrow' hkey hstatus hstatus'
    exact hinv.single id id' _ _ (hlife hrow) (hlife hrow') hkey hstatus hstatus'
  · intro id row hrow
    exact ((hinv.rows id).sound _ (hlife hrow)).noData
  · intro id
    refine ⟨?_, (hinv.rows id).recovered⟩
    rw [(hinv.rows id).fired]
    split_ifs <;> omega
  · intro id row hrow
    exact ((hinv.rows id).sound _ (hlife hrow)).recoveredAt

theorem Settles.fires {ids : List AlertId} {closedAt : ℤ} (h : Settles s t ids closedAt)
    (id : AlertId) : ¬ Fires s.store t.store id := by
  obtain ⟨events, hevents, hquiet⟩ := h.closes.events
  rw [fires_iff hevents]
  rintro ⟨event, hevent, hkind, -⟩
  have hnot := hquiet event hevent
  rw [hkind] at hnot
  exact Bool.noConfusion hnot

theorem Settles.firstTriggeredAt {ids : List AlertId} {closedAt : ℤ}
    (h : Settles s t ids closedAt) (id : AlertId) :
    t.store.firstTriggeredAt id = s.store.firstTriggeredAt id := by
  rw [firstTriggeredAt_eq, firstTriggeredAt_eq, h.closes.life]
  split_ifs
  · rcases s.store.life id with _ | life <;> rfl
  · rfl

section Evaluates

variable {id : AlertId} {life : Life} {starts : Bool} {kinds : List EventKind}

theorem AddsFirst.added {β : Type*} {alertOf : β → AlertId} {records records' : List β}
    (h : AddsFirst alertOf records records' id starts) :
    records <+: records'
      ∧ ∀ record ∈ records'.drop records.length, alertOf record = id ∧ starts = true := by
  rcases h with rfl | ⟨hstarts, record, hid, -, rfl⟩
  · exact ⟨List.prefix_rfl, by simp⟩
  · refine ⟨List.prefix_append _ _, ?_⟩
    rw [List.drop_left]
    intro record' hrecord'
    rw [List.mem_singleton.mp hrecord']
    exact ⟨hid, hstarts⟩

theorem Evaluates.fires (h : Evaluates s t id life starts kinds) (id' : AlertId) :
    Fires s.store t.store id' ↔ id' = id ∧ starts = true := by
  obtain ⟨events, hevents, hids, hkinds⟩ := h.writes.events
  rw [fires_iff hevents, ← h.change.starts_iff, ← hkinds]
  constructor
  · rintro ⟨event, hevent, hkind, hid⟩
    refine ⟨hid.symm.trans (hids event hevent), List.mem_filter.mpr ⟨?_, rfl⟩⟩
    rw [← hkind]
    exact List.mem_map_of_mem hevent
  · rintro ⟨rfl, hmem⟩
    obtain ⟨event, hevent, hkind⟩ := List.mem_map.mp (List.mem_filter.mp hmem).1
    exact ⟨event, hevent, hkind, hids event hevent⟩

theorem Evaluates.firstTriggeredAt (h : Evaluates s t id life starts kinds) :
    ∃ now, ∀ id', t.store.firstTriggeredAt id' = (s.store.firstTriggeredAt id').or
      (if id' = id ∧ starts = true then some now else none) := by
  obtain ⟨now, hnow⟩ := h.change.first
  refine ⟨now, fun id' => ?_⟩
  rw [firstTriggeredAt_eq, firstTriggeredAt_eq]
  by_cases hid : id' = id
  · subst hid
    rw [h.life_self]
    simpa using hnow
  · rw [h.life_ne hid]
    simp [hid]

theorem Evaluates.first (h : Evaluates s t id life true kinds) (hinv : LifeInv s) :
    s.store.firstTriggeredAt id = none := by
  have hfirst := (h.change.first_old (hinv.rows id)).2
  have hold : (s.store.life id).any Life.firing = false := by
    rcases h.change.firing with ⟨-, -, hold, -⟩ | ⟨hstarts, -⟩ | ⟨hstarts, -⟩
    · exact hold
    all_goals exact Bool.noConfusion hstarts
  rw [hold, ← firstTriggeredAt_eq] at hfirst
  exact Option.isNone_iff_eq_none.mp (by simpa using hfirst)

end Evaluates

theorem lookup_of_dispositions {s t : AlertStore} {id : AlertId} {row : AlertRow}
    (h : t.dispositions id = s.dispositions id) (hrow : s.alerts.lookup id = some row) :
    ∃ row', t.alerts.lookup id = some row' ∧ row'.dispositions = row.dispositions := by
  rw [AlertStore.dispositions, AlertStore.dispositions, column, column, hrow] at h
  exact Option.map_eq_some_iff.mp h

theorem Settles.kept {ids : List AlertId} {closedAt : ℤ} (h : Settles s t ids closedAt)
    (hinv : LifeInv t)
    (hdispositions : a.disposes = false → t.store.dispositions = s.store.dispositions) :
    LifecycleKept s a t := by
  refine .of_lifeInv hinv ?_ ?_ ?_ ?_ ?_
  · intro id
    rw [h.firstTriggeredAt]
    refine ⟨fun hfires => absurd hfires (h.fires id), ?_⟩
    rintro ⟨hnone, hsome⟩
    rw [hnone] at hsome
    exact Bool.noConfusion hsome
  · intro id instant hinstant
    rw [h.firstTriggeredAt]
    exact hinstant
  · rw [h.closes.triggerSnapshots]
    exact ⟨List.prefix_rfl, by simp⟩
  · rw [h.closes.performanceEvents]
    exact ⟨List.prefix_rfl, by simp⟩
  · intro ha id row hrow
    exact lookup_of_dispositions (congrFun (hdispositions ha) id) hrow

theorem Evaluates.kept {id : AlertId} {life : Life} {starts : Bool} {kinds : List EventKind}
    (h : Evaluates s t id life starts kinds) (hinv : LifeInv s) (hinv' : LifeInv t) :
    LifecycleKept s a t := by
  obtain ⟨now, hfirst⟩ := h.firstTriggeredAt
  refine .of_lifeInv hinv' ?_ ?_ ?_ ?_ ?_
  · intro id'
    rw [h.fires, hfirst]
    constructor
    · rintro ⟨rfl, rfl⟩
      simp [h.first hinv]
    · rintro ⟨hnone, hsome⟩
      by_contra hnot
      rw [hnone, if_neg hnot] at hsome
      exact Bool.noConfusion hsome
  · intro id' instant hinstant
    rw [hfirst, hinstant]
    rfl
  · obtain ⟨hkept, hadded⟩ := AddsFirst.added h.writes.triggerSnapshots
    exact ⟨hkept, fun record hrecord => (h.fires _).mpr (hadded record hrecord)⟩
  · obtain ⟨hkept, hadded⟩ := AddsFirst.added h.writes.performanceEvents
    exact ⟨hkept, fun record hrecord => (h.fires _).mpr (hadded record hrecord)⟩
  · intro _ id' row hrow
    refine lookup_of_dispositions ?_ hrow
    rcases h.writes.row with ⟨-, -, hsame⟩ | ⟨-, hid, hinsert⟩
    · rw [hsame]
    · have hne : id' ≠ id := by
        rintro rfl
        have hnone := hinv.fresh id' (hid ▸ le_rfl)
        rw [AlertStore.life, column, hrow] at hnone
        cases hnone
      rw [hinsert, Function.update_of_ne hne]

theorem lifecycle_kept (actions : List Action) :
    Machine.Along step LifecycleKept {} actions := by
  refine Machine.Along.of_invariant (I := LifeInv) (fun s a t hinv h => ?_) lifeInv_init
  have hinv' := lifeInv_step hinv h
  rcases step_cases hinv h with ⟨ids, closedAt, hsettles, hdispositions⟩ | ⟨id, life, starts, kinds,
    hevaluates⟩
  · exact ⟨hsettles.kept hinv' hdispositions, hinv'⟩
  · exact ⟨hevaluates.kept hinv hinv', hinv'⟩

section Example

/-- A rule that fires and recovers at once, on a metric with sessions to capture. -/
def activeSessions : EvaluationRule :=
  { metricId := "pg.connection.active", consecutiveCount := 1, recoveryConsecutiveCount := 1
    severity := .critical, noDataPolicy := .markNoData, version := 1, ruleSnapshot := ""
    lastErrorCode := none, agentMetricsEnabled := false, agentExpected := false }

def activeSessionsKey : AlertKey :=
  { ruleId := "active-sessions", instanceId := "db", metricDimensionKey := "" }

def evaluates (outcome : Evaluation) (now : ℤ) : List Action :=
  [.read activeSessionsKey activeSessions,
    .evaluate { metric := { outcome := outcome, currentValue := some 1, unavailability := none }
                maintenance := none, enqueued := false
                capture := { succeeded := true, failureReason := none, originalMatchCount := 0
                             truncated := false } } now]

end Example

end Alerts

end DbsMonitor
