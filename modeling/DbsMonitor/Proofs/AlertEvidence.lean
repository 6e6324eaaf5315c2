import DbsMonitor.Proofs.AlertCounts
import DbsMonitor.Proofs.AlertHistory

/-!
# Alerts go by consecutive evidence

Each evaluation of a key is added to the history of the key (`Observed`). The counts of the
unresolved alert are the streaks of the history, and a resolved key has not been breached since
(`Tallied`).
-/

namespace DbsMonitor

open AlertStore

structure Tally where
  life : Life
  ruleVersion : ℕ
  breachCount : ℕ
  recoveryCount : ℕ
  noDataCount : ℕ

def AlertRow.tally (row : AlertRow) : Tally :=
  { life := row.life, ruleVersion := row.ruleVersion, breachCount := row.breachCount
    recoveryCount := row.recoveryCount, noDataCount := row.noDataCount }

def Tally.snapshot (tally : Tally) : Snapshot :=
  { state := tally.life.status, stateBeforeNoData := tally.life.stateBeforeNoData.getD .empty
    breachCount := tally.breachCount, recoveryCount := tally.recoveryCount
    noDataCount := tally.noDataCount }

namespace AlertStore

abbrev tally (s : AlertStore) : AlertId → Option Tally := s.column AlertRow.tally

def keyState (s : AlertStore) (key : AlertKey) : AlertState :=
  ((s.candidate key).map fun alert => alert.2.status).getD .ok

def keyStateBeforeNoData (s : AlertStore) (key : AlertKey) : AlertState :=
  ((s.candidate key).bind fun alert => alert.2.stateBeforeNoData).getD .empty

theorem life_eq_tally (s : AlertStore) (id : AlertId) :
    s.life id = (s.tally id).map Tally.life := by
  rw [AlertStore.life, tally, column, column, Option.map_map]
  rfl

theorem life_of_tally {s : AlertStore} {id : AlertId} {tally : Tally}
    (h : s.tally id = some tally) : s.life id = some tally.life := by
  rw [life_eq_tally, h]
  rfl

theorem tally_of_life {s : AlertStore} {id : AlertId} {life : Life} (h : s.life id = some life) :
    ∃ tally, s.tally id = some tally ∧ tally.life = life := by
  rw [life_eq_tally] at h
  exact Option.map_eq_some_iff.mp h

end AlertStore

/-- The state of a key and the one from before `NO_DATA`, by the alerts of the key. -/
inductive Stands (lives : AlertId → Option Life) (key : AlertKey) : AlertState → AlertState → Prop
  | absent (h : ∀ id life, lives id = some life → life.key ≠ key) : Stands lives key .ok .empty
  | resolved {id : AlertId} {life : Life} (hlife : lives id = some life) (hkey : life.key = key)
    (h : ∀ id life, lives id = some life → life.key = key → life.status = .recovered) :
    Stands lives key .recovered .empty
  | unresolved {id : AlertId} {life : Life} (hlife : lives id = some life) (hkey : life.key = key)
    (hstatus : life.status ≠ .recovered) :
    Stands lives key life.status (life.stateBeforeNoData.getD .empty)

section Stands

variable {lives lives' : AlertId → Option Life} {key : AlertKey}
  {state before state' before' : AlertState}

theorem Stands.unique (hsingle : SingleUnresolved lives) (h : Stands lives key state before)
    (h' : Stands lives key state' before') : state = state' ∧ before = before' := by
  cases h with
  | absent hnone =>
    cases h' with
    | absent => exact ⟨rfl, rfl⟩
    | resolved hlife hkey => exact absurd hkey (hnone _ _ hlife)
    | unresolved hlife hkey => exact absurd hkey (hnone _ _ hlife)
  | resolved hlife hkey hall =>
    cases h' with
    | absent hnone => exact absurd hkey (hnone _ _ hlife)
    | resolved => exact ⟨rfl, rfl⟩
    | unresolved hlife' hkey' hstatus => exact absurd (hall _ _ hlife' hkey') hstatus
  | unresolved hlife hkey hstatus =>
    cases h' with
    | absent hnone => exact absurd hkey (hnone _ _ hlife)
    | resolved _ _ hall => exact absurd (hall _ _ hlife hkey) hstatus
    | unresolved hlife' hkey' hstatus' =>
      have hid := hsingle _ _ _ _ hlife hlife' (hkey.trans hkey'.symm) hstatus hstatus'
      subst hid
      obtain rfl := Option.some.inj (hlife.symm.trans hlife')
      exact ⟨rfl, rfl⟩

theorem Stands.congr (h : Stands lives key state before)
    (hlives : ∀ {id life}, life.key = key → (lives' id = some life ↔ lives id = some life)) :
    Stands lives' key state before := by
  cases h with
  | absent hnone =>
    exact .absent fun id life hlife hkey => hnone id life ((hlives hkey).mp hlife) hkey
  | resolved hlife hkey hall =>
    refine .resolved ((hlives hkey).mpr hlife) hkey fun id life hlife' hkey' => ?_
    exact hall id life ((hlives hkey').mp hlife') hkey'
  | unresolved hlife hkey hstatus => exact .unresolved ((hlives hkey).mpr hlife) hkey hstatus

theorem Life.Sound.before_of_recovered {life : Life} (h : life.Sound)
    (hstatus : life.status = .recovered) : life.stateBeforeNoData.getD .empty = .empty := by
  have hpaired := h.paired
  rw [hstatus] at hpaired
  rcases hpaired with ⟨hnoData, -⟩ | ⟨-, hbefore⟩
  · exact AlertState.noConfusion hnoData
  · exact hbefore

theorem stands_key {s : AlertStore} (hsound : ∀ id life, s.life id = some life → life.Sound)
    (key : AlertKey) : Stands s.life key (s.keyState key) (s.keyStateBeforeNoData key) := by
  unfold keyState keyStateBeforeNoData
  rcases hcandidate : s.candidate key with _ | ⟨id, row⟩
  · exact .absent fun id life hlife => candidate_none hcandidate hlife
  · obtain ⟨hlife, hkey, hresolved⟩ := candidate_some hcandidate
    by_cases hstatus : row.status = .recovered
    · have hbefore := (hsound _ _ hlife).before_of_recovered hstatus
      have hstands := Stands.resolved hlife hkey (hresolved hstatus)
      rw [← hbefore, ← hstatus] at hstands
      exact hstands
    · exact .unresolved hlife hkey hstatus

theorem Reads.stands {s : AlertStore} {target : EvaluationTargetRow} (h : Reads s.life target)
    (hsound : ∀ id life, s.life id = some life → life.Sound) :
    Stands s.life target.key (snapshotFromEvaluationTarget target).state
      (snapshotFromEvaluationTarget target).stateBeforeNoData := by
  unfold Reads at h
  unfold snapshotFromEvaluationTarget
  rcases halert : target.alert with _ | alert
  · rw [halert] at h
    exact .absent h
  · rw [halert] at h
    obtain ⟨life, hlife, hkey, hstatus, hbefore, hresolved⟩ := h
    dsimp only
    by_cases hrecovered : alert.status = .recovered
    · have hempty := (hsound _ _ hlife).before_of_recovered (hstatus.trans hrecovered)
      have hstands := Stands.resolved hlife hkey (hresolved hrecovered)
      rw [← hempty, hbefore, ← hrecovered] at hstands
      exact hstands
    · rw [← hstatus, ← hbefore]
      exact .unresolved hlife hkey (hstatus ▸ hrecovered)

end Stands

section Statements

variable {target : EvaluationTargetRow} {found : Findings} {now : ℤ} {current next : Snapshot}
  {s t : AlertStore} {id : AlertId}

theorem tally_recordMaintenanceSuppressed (s : AlertStore) (id : AlertId)
    (windowId : Option String) (evaluatedAt : ℤ) :
    (s.recordMaintenanceSuppressed id windowId evaluatedAt).tally = s.tally := by
  unfold recordMaintenanceSuppressed
  rcases s.alerts.lookup id with _ | row
  · rfl
  · exact column_updateAlert_of_eq _ _ _ fun _ => rfl

theorem tally_foldl_saveEvent (snapshotId : Option ℕ) :
    ∀ (kinds : List EventKind) (s : AlertStore),
      (kinds.foldl (saveEvent target found now current next id snapshotId) s).tally = s.tally
  | [], _ => rfl
  | kind :: kinds, s => by
    rw [List.foldl_cons, tally_foldl_saveEvent snapshotId kinds]
    rcases saveEvent_cases target found now current next id snapshotId s kind with
      ⟨-, hsaved⟩ | ⟨event, -, -, -, hsaved | ⟨-, hsaved⟩⟩
    · rw [hsaved]
    · rw [hsaved]
      rfl
    · rw [hsaved, tally_recordMaintenanceSuppressed]
      rfl

theorem tally_updateAlertDisposition {columns : DispositionColumns} {actorId : String}
    {actedAt : ℤ} (h : s.updateAlertDisposition id columns actorId actedAt = some t) :
    t.tally = s.tally := by
  obtain ⟨dispositions, event, -, rfl⟩ := updateAlertDisposition_spec h
  exact column_updateAlert_of_eq _ _ _ fun _ => rfl

theorem tally_closeAlert (removedAt : ℤ) (actorId : String) (s : AlertStore) {id id' : AlertId}
    (h : id' ≠ id) : (closeAlert removedAt actorId s id).tally id' = s.tally id' := by
  unfold closeAlert
  rcases s.alerts.lookup id with _ | row
  · rfl
  · refine (congrFun (column_updateAlert s AlertRow.tally id _) id').trans ?_
    exact Function.update_of_ne h _ _

theorem tally_foldl_closeAlert (removedAt : ℤ) (actorId : String) {id' : AlertId} :
    ∀ (ids : List AlertId) (s : AlertStore), id' ∉ ids →
      (ids.foldl (closeAlert removedAt actorId) s).tally id' = s.tally id'
  | [], _, _ => rfl
  | id :: ids, s, h => by
    rw [List.mem_cons, not_or] at h
    rw [List.foldl_cons, tally_foldl_closeAlert removedAt actorId ids _ h.2,
      tally_closeAlert removedAt actorId s h.1]

def Snapshot.tally (next : Snapshot) (life : Life) (version : ℕ) : Tally :=
  { life := life, ruleVersion := version, breachCount := next.breachCount
    recoveryCount := next.recoveryCount, noDataCount := next.noDataCount }

theorem tally_resetIgnoredMissingAlert {life : Life} (hlife : s.life id = some life)
    (hstatus : life.status ≠ .recovered) :
    (s.resetIgnoredMissingAlert id (evaluationColumns target found now next)).tally
      = Function.update s.tally id (some (next.tally life target.rule.version)) := by
  obtain ⟨row, hrow, rfl⟩ := Option.map_eq_some_iff.mp hlife
  have hunresolved : row.unresolved = true := decide_eq_true hstatus
  unfold resetIgnoredMissingAlert
  rw [AlertStore.tally, column_updateAlert]
  congr 1
  simp only [column, hrow, Option.map_some, Function.comp_apply, hunresolved, if_true]
  rfl

theorem tally_recoverAlertSnapshot {read : Option AlertId} {recoveredAt : Option ℤ}
    (h : s.recoverAlertSnapshot read (evaluationColumns target found now next) recoveredAt
      = some (t, id)) :
    ∃ life, t.tally = Function.update s.tally id (some (next.tally life target.rule.version)) := by
  unfold recoverAlertSnapshot at h
  obtain ⟨id', -, h⟩ := Option.bind_eq_some_iff.mp h
  obtain ⟨row, hrow, h⟩ := Option.bind_eq_some_iff.mp h
  obtain ⟨closedAt, -, h⟩ := Option.bind_eq_some_iff.mp h
  obtain ⟨_, -, h⟩ := Option.bind_eq_some_iff.mp h
  cases h
  refine ⟨row.life.close closedAt, ?_⟩
  rw [AlertStore.tally, column_updateAlert]
  simp only [column, hrow]
  rfl

theorem tally_saveAlertSnapshot {p : SaveAlertSnapshotParams}
    (h : s.saveAlertSnapshot p = (t, id))
    (hcolumns : p.toAlertColumns = evaluationColumns target found now next) :
    ∃ life, t.tally = Function.update s.tally id (some (next.tally life target.rule.version)) := by
  obtain rfl : (s.saveAlertSnapshot p).1 = t := congrArg Prod.fst h
  obtain rfl : (s.saveAlertSnapshot p).2 = id := congrArg Prod.snd h
  unfold saveAlertSnapshot
  rw [hcolumns]
  rcases hunresolved : s.unresolvedAlert p.key with _ | id
  · exact ⟨_, (column_insert s AlertRow.tally s.nextId _ _ rfl).trans rfl⟩
  · obtain ⟨old, hold, -, -⟩ := unresolvedAlert_some hunresolved
    obtain ⟨row, hrow, -⟩ := Option.map_eq_some_iff.mp hold
    refine ⟨?_, ?_⟩
    rotate_left
    · dsimp only
      rw [AlertStore.tally, column_updateAlert]
      simp only [column, hrow]
      rfl

theorem tally_saveEvaluation
    (h : saveEvaluation target found now current next s = some (t, id)) :
    ∃ life, t.tally = Function.update s.tally id (some (next.tally life target.rule.version)) := by
  unfold saveEvaluation at h
  dsimp only at h
  by_cases hnext : next.state = .recovered
  · rw [if_pos hnext] at h
    exact tally_recoverAlertSnapshot h
  · rw [if_neg hnext, Option.some_inj] at h
    exact tally_saveAlertSnapshot h rfl

theorem writeEvaluation_tally (h : writeEvaluation target found now current next s = some t) :
    ∃ id life, Saved target found now current next s id life
      ∧ Writes s t id life (startsFiringLifecycle current next)
        (stateEvents current.state next.state)
      ∧ t.tally = Function.update s.tally id (some (next.tally life target.rule.version)) := by
  unfold writeEvaluation at h
  obtain ⟨⟨s', id⟩, hsave, h⟩ := Option.bind_eq_some_iff.mp h
  obtain ⟨⟨s'', snapshotId⟩, htrigger, h⟩ := Option.bind_eq_some_iff.mp h
  cases h
  obtain ⟨life, hsaved, hwrites⟩ := saveEvaluation_spec hsave
  obtain ⟨life', htally⟩ := tally_saveEvaluation hsave
  obtain rfl : life = life' := by
    have hlife : s'.life id = some life := by rw [hwrites.life, Function.update_self]
    rw [life_eq_tally, htally, Function.update_self] at hlife
    exact (Option.some.inj hlife).symm
  obtain ⟨snapshots, events, rfl, hsnapshots, hevents⟩ := saveTrigger_spec htrigger
  refine ⟨id, life, hsaved, (hwrites.trigger hsnapshots hevents).logs
    (logs_foldl_saveEvent target found now current next id snapshotId _ _), ?_⟩
  rw [tally_foldl_saveEvent]
  exact htally

end Statements

structure Tallied (tallies : AlertId → Option Tally) (key : AlertKey)
    (history : List Assessment) : Prop where
  unresolved : ∀ id tally, tallies id = some tally → tally.life.key = key →
    tally.life.status ≠ .recovered → Counted tally.snapshot tally.ruleVersion history
      ∧ ∀ a ∈ history.head?, a.version = tally.ruleVersion
  resolved : ∀ id tally, tallies id = some tally → tally.life.key = key →
    tally.life.status = .recovered → tally.breachCount = 0
  /-- While no alert is unresolved there is no breach, and without an alert nothing that counts. -/
  quiet : (∀ id tally, tallies id = some tally → tally.life.key = key →
    tally.life.status = .recovered) → ∀ a ∈ history.head?, a.evaluation ≠ .breaching
  absent : (∀ id tally, tallies id = some tally → tally.life.key ≠ key) →
    ∀ a ∈ history.head?, a.evaluation = .missingIgnored

def ReadsCounts (tallies : AlertId → Option Tally) (target : EvaluationTargetRow) : Prop :=
  ∀ alert ∈ target.alert, ∃ tally, tallies alert.alertInstanceId = some tally
    ∧ tally.ruleVersion = alert.evaluatedRuleVersion ∧ tally.breachCount = alert.breachCount
    ∧ tally.recoveryCount = alert.recoveryCount ∧ tally.noDataCount = alert.noDataCount

theorem readsCounts_getEvaluationTarget (s : AlertStore) (key : AlertKey)
    (rule : EvaluationRule) : ReadsCounts s.tally (s.getEvaluationTarget key rule) := by
  unfold ReadsCounts getEvaluationTarget
  rcases hcandidate : s.candidate key with _ | ⟨id, row⟩
  · exact fun _ h => nomatch h
  · rintro _ ⟨⟩
    have hentry := (mem_candidates.mp (List.argmax_mem hcandidate)).1
    have hlookup : s.alerts.lookup id = some row := AList.mem_lookup_iff.mpr hentry
    exact ⟨row.tally, by rw [AlertStore.tally, column, hlookup]; rfl, rfl, rfl, rfl, rfl⟩

section Tallied

variable {tallies tallies' : AlertId → Option Tally} {key : AlertKey} {history : List Assessment}

theorem Tallied.congr (h : Tallied tallies key history)
    (hsame : ∀ {id tally}, tally.life.key = key →
      (tallies' id = some tally ↔ tallies id = some tally)) : Tallied tallies' key history where
  unresolved := fun id tally htally hkey => h.unresolved id tally ((hsame hkey).mp htally) hkey
  resolved := fun id tally htally hkey => h.resolved id tally ((hsame hkey).mp htally) hkey
  quiet := fun hall => h.quiet fun id tally htally hkey =>
    hall id tally ((hsame hkey).mpr htally) hkey
  absent := fun hall => h.absent fun id tally htally hkey =>
    hall id tally ((hsame hkey).mpr htally) hkey

theorem Tallied.skip (h : Tallied tallies key history) {a : Assessment}
    (hresolved : ∀ id tally, tallies id = some tally → tally.life.key = key →
      tally.life.status = .recovered) (hquiet : a.evaluation ≠ .breaching)
    (habsent : (∀ id tally, tallies id = some tally → tally.life.key ≠ key) →
      a.evaluation = .missingIgnored) : Tallied tallies key (a :: history) where
  unresolved := fun id tally htally hkey hstatus =>
    absurd (hresolved id tally htally hkey) hstatus
  resolved := h.resolved
  quiet := fun _ => by
    rintro _ ⟨⟩
    exact hquiet
  absent := fun hall => by
    rintro _ ⟨⟩
    exact habsent hall

theorem Tallied.write (h : Tallied tallies key history) {id : AlertId} {tally : Tally}
    {a : Assessment} (hkey : tally.life.key = key)
    (hothers : ∀ id' tally', id' ≠ id → tallies id' = some tally' → tally'.life.key = key →
      tally'.life.status = .recovered)
    (hcounted : Counted tally.snapshot tally.ruleVersion (a :: history))
    (hversion : a.version = tally.ruleVersion)
    (hrecovered : tally.life.status = .recovered → a.evaluation = .recovering) :
    Tallied (Function.update tallies id (some tally)) key (a :: history) := by
  have hself : Function.update tallies id (some tally) id = some tally := Function.update_self ..
  refine ⟨?_, ?_, ?_, ?_⟩
  · intro id' tally' htally' hkey' hstatus
    by_cases hid : id' = id
    · subst hid
      obtain rfl := Option.some.inj (hself.symm.trans htally')
      refine ⟨hcounted, ?_⟩
      rintro _ ⟨⟩
      exact hversion
    · rw [Function.update_of_ne hid] at htally'
      exact absurd (hothers id' tally' hid htally' hkey') hstatus
  · intro id' tally' htally' hkey' hstatus
    by_cases hid : id' = id
    · subst hid
      obtain rfl := Option.some.inj (hself.symm.trans htally')
      refine (hcounted.breaching (.inr (.inr hstatus))).trans (streak_of_evaluation ?_)
      rintro _ ⟨⟩
      rw [hrecovered hstatus]
      decide
    · rw [Function.update_of_ne hid] at htally'
      exact h.resolved id' tally' htally' hkey' hstatus
  · intro hall
    rintro _ ⟨⟩
    rw [hrecovered (hall id tally hself hkey)]
    decide
  · intro hall
    exact absurd hkey (hall id tally hself)

theorem Tallied.counted {s : AlertStore} {target : EvaluationTargetRow}
    (h : Tallied s.tally target.key history) (hread : Reads s.life target)
    (hcounts : ReadsCounts s.tally target) :
    Counted (snapshotFromEvaluationTarget target) target.rule.version history := by
  unfold Reads at hread
  unfold ReadsCounts at hcounts
  unfold snapshotFromEvaluationTarget
  rcases halert : target.alert with _ | alert
  · rw [halert] at hread
    have habsent := h.absent fun id tally htally => hread id _ (life_of_tally htally)
    have hzero : ∀ kind : Evaluation, kind ≠ .missingIgnored →
        streak history kind target.rule.version = 0 := by
      refine fun kind hkind => streak_of_evaluation fun a ha => ?_
      rw [habsent a ha]
      exact hkind.symm
    exact ⟨fun _ => (hzero _ (by decide)).symm, fun _ => (hzero _ (by decide)).symm,
      fun _ _ => (hzero _ (by decide)).symm, fun _ => ⟨rfl, rfl⟩⟩
  · rw [halert] at hread hcounts
    obtain ⟨life, hlife, hkey, hstatus, hbefore, hresolved⟩ := hread
    obtain ⟨tally, htally, hversion, hbreach, hrecovery, hnoData⟩ := hcounts alert rfl
    obtain rfl : tally.life = life := Option.some.inj ((life_of_tally htally).symm.trans hlife)
    dsimp only
    by_cases hrecovered : alert.status = .recovered
    · have hquiet := h.quiet fun id tally htally hkey =>
        hresolved hrecovered id _ (life_of_tally htally) hkey
      have hbreached := h.resolved _ tally htally hkey (hstatus.trans hrecovered)
      refine ⟨fun _ => ?_, ?_, ?_, ?_⟩
      · rw [streak_of_evaluation hquiet, ← hbreach, hbreached]
        exact ite_self 0
      · simp [hrecovered]
      · simp [hrecovered]
      · simp [hrecovered]
    · obtain ⟨hcounted, hhead⟩ := h.unresolved _ tally htally hkey (hstatus ▸ hrecovered)
      by_cases hsame : alert.evaluatedRuleVersion = target.rule.version
      · rw [if_pos hsame, if_pos hsame, if_pos hsame, ← hstatus, ← hbefore, ← hbreach, ← hrecovery,
          ← hnoData, ← hsame, ← hversion]
        exact hcounted
      · rw [if_neg hsame, if_neg hsame, if_neg hsame]
        have hzero : ∀ kind : Evaluation, streak history kind target.rule.version = 0 :=
          fun kind => streak_of_version hhead (hversion ▸ hsame)
        exact ⟨fun _ => (hzero _).symm, fun _ => (hzero _).symm, fun _ _ => (hzero _).symm,
          fun _ => ⟨rfl, rfl⟩⟩

end Tallied

/-- What an evaluation counts as: a missing value that the rule ignores is no evidence. -/
def EvaluationRule.counted (rule : EvaluationRule) (outcome : Evaluation) : Evaluation :=
  if outcome = .missing ∧ rule.noDataPolicy = .ignore then .missingIgnored else outcome

/-- The alerts with the history of every key, the newest evaluation first. -/
structure Observed where
  alerts : Alerts := {}
  history : AlertKey → List Assessment := fun _ => []

namespace Observed

def evaluation (s : Alerts) (a : Alerts.Action) : Option (EvaluationTargetRow × Evaluation) :=
  match a with
  | .evaluate found _ => s.reading.bind fun target =>
    if structurallyNotApplicable target.rule then none
    else some (target, target.rule.counted found.metric.outcome)
  | _ => none

def record (s : Observed) (a : Alerts.Action) : AlertKey → List Assessment :=
  match evaluation s.alerts a with
  | none => s.history
  | some (target, evaluation) =>
    Function.update s.history target.key
      ((s.alerts.store.keyState target.key).assessment target.rule.version evaluation
        :: s.history target.key)

def step (s : Observed) (a : Alerts.Action) : Option Observed :=
  (s.alerts.step a).map fun alerts => { alerts := alerts, history := s.record a }

end Observed

section Evaluation

variable {target : EvaluationTargetRow} {found : Findings} {now : ℤ} {current next : Snapshot}
  {s : AlertStore} {id : AlertId} {life : Life}

theorem Saved.state (h : Saved target found now current next s id life)
    (hpaired : Paired next.state next.stateBeforeNoData) :
    life.status = next.state ∧ life.stateBeforeNoData.getD .empty = next.stateBeforeNoData := by
  have hbefore : (evaluationColumns target found now next).stateBeforeNoData.getD .empty
      = next.stateBeforeNoData := by
    unfold evaluationColumns
    split_ifs with h
    · rfl
    · rw [not_not.mp h]
      rfl
  cases h with
  | recover _ _ _ hnext =>
    rw [hnext] at hpaired
    rcases hpaired with ⟨hnoData, -⟩ | ⟨-, hempty⟩
    · exact AlertState.noConfusion hnoData
    · exact ⟨hnext.symm, hempty.symm⟩
  | update => exact ⟨rfl, hbefore⟩
  | insert => exact ⟨rfl, hbefore⟩

structure Skips (target : EvaluationTargetRow) (evaluation : Evaluation) : Prop where
  quiet : evaluation ≠ .breaching
  resolved : (target.alert = none ∧ evaluation = .missingIgnored)
    ∨ (snapshotFromEvaluationTarget target).state = .recovered

theorem Skips.all_resolved {evaluation : Evaluation} (h : Skips target evaluation)
    (hread : Reads s.life target) {id : AlertId} {life : Life} (hlife : s.life id = some life)
    (hkey : life.key = target.key) : life.status = .recovered := by
  unfold Reads at hread
  rcases halert : target.alert with _ | alert
  · rw [halert] at hread
    exact absurd hkey (hread id life hlife)
  · rw [halert] at hread
    obtain ⟨-, -, -, -, -, hresolved⟩ := hread
    refine hresolved ?_ id life hlife hkey
    rcases h.resolved with ⟨hnone, -⟩ | hstate
    · rw [halert] at hnone
      exact nomatch hnone
    · unfold snapshotFromEvaluationTarget at hstate
      rw [halert] at hstate
      exact hstate

theorem Skips.absent {evaluation : Evaluation} (h : Skips target evaluation)
    (hread : Reads s.life target)
    (hnone : ∀ id life, s.life id = some life → life.key ≠ target.key) :
    evaluation = .missingIgnored := by
  rcases h.resolved with ⟨-, hignored⟩ | hstate
  · exact hignored
  · unfold Reads at hread
    unfold snapshotFromEvaluationTarget at hstate
    rcases halert : target.alert with _ | alert
    · rw [halert] at hstate
      exact AlertState.noConfusion hstate
    · rw [halert] at hread
      obtain ⟨life, hlife, hkey, -⟩ := hread
      exact absurd hkey (hnone _ life hlife)

structure Tallies (s t : AlertStore) (target : EvaluationTargetRow) (evaluation : Evaluation)
    (id : AlertId) (life : Life) : Prop where
  breached : (snapshotFromEvaluationTarget target).state = .recovered → evaluation = .breaching
  key : life.key = target.key
  old : ∀ old ∈ s.life id, old.key = target.key
  others : OthersResolved s.life id target.key
  status : life.status
    = (nextSnapshot target (snapshotFromEvaluationTarget target) evaluation).state
  before : life.stateBeforeNoData.getD .empty
    = (nextSnapshot target (snapshotFromEvaluationTarget target) evaluation).stateBeforeNoData
  tally : t.tally = Function.update s.tally id
    (some ((nextSnapshot target (snapshotFromEvaluationTarget target) evaluation).tally life
      target.rule.version))

theorem Tallies.keyState {t : AlertStore} {outcome : Evaluation}
    (h : Tallies s t target outcome id life) (hsingle : SingleUnresolved t.life)
    (hsound : ∀ id life, t.life id = some life → life.Sound) :
    t.keyState target.key
      = (nextSnapshot target (snapshotFromEvaluationTarget target) outcome).state := by
  have hself : t.life id = some life := by
    rw [life_eq_tally, h.tally, Function.update_self]
    rfl
  have hothers : OthersResolved t.life id target.key := by
    intro id' life' hid hlife'
    rw [life_eq_tally, h.tally, Function.update_of_ne hid, ← life_eq_tally] at hlife'
    exact h.others id' life' hid hlife'
  have hstands := stands_key hsound target.key
  rw [← h.status]
  by_cases hstatus : life.status = .recovered
  · have hresolved : Stands t.life target.key .recovered .empty := by
      refine .resolved hself h.key fun id' life' hlife' hkey' => ?_
      by_cases hid : id' = id
      · subst hid
        obtain rfl := Option.some.inj (hself.symm.trans hlife')
        exact hstatus
      · exact hothers id' life' hid hlife' hkey'
    rw [hstatus]
    exact (hstands.unique hsingle hresolved).1
  · exact (hstands.unique hsingle (.unresolved hself h.key hstatus)).1

end Evaluation

namespace Alerts

variable {s t : Alerts} {a : Action} {target : EvaluationTargetRow} {found : Findings} {now : ℤ}
  {store : AlertStore}

theorem resetEvaluation_tally (hinv : LifeInv s) (hreading : s.reading = some target) :
    (resetEvaluation target found now (snapshotFromEvaluationTarget target)
        (nextSnapshot target (snapshotFromEvaluationTarget target) .missingIgnored) s.store
          = s.store ∧ Skips target .missingIgnored)
      ∨ ∃ id life, Tallies s.store
        (resetEvaluation target found now (snapshotFromEvaluationTarget target)
          (nextSnapshot target (snapshotFromEvaluationTarget target) .missingIgnored) s.store)
        target .missingIgnored id life := by
  obtain ⟨-, hread⟩ := hinv.reading target hreading
  unfold resetEvaluation
  rcases halert : target.alert with _ | alert
  · exact .inl ⟨rfl, by decide, .inl ⟨halert, rfl⟩⟩
  · dsimp only
    split_ifs with hresolved
    · exact .inl ⟨rfl, by decide, .inr hresolved⟩
    · unfold Reads at hread
      rw [halert] at hread
      obtain ⟨life, hlife, hkey, hstatus, hbefore, -⟩ := hread
      have hstate : (snapshotFromEvaluationTarget target).state = life.status := by
        unfold snapshotFromEvaluationTarget
        rw [halert, hstatus]
      have hstateBefore : (snapshotFromEvaluationTarget target).stateBeforeNoData
          = life.stateBeforeNoData.getD .empty := by
        unfold snapshotFromEvaluationTarget
        rw [halert, hbefore]
      rw [hstate] at hresolved
      refine .inr ⟨alert.alertInstanceId, life, fun h => absurd (hstate.symm.trans h) hresolved,
        hkey, ?_, hkey ▸ hinv.single.others hlife hresolved, hstate.symm, hstateBefore.symm, ?_⟩
      · rw [hlife]
        rintro _ ⟨⟩
        exact hkey
      · exact tally_resetIgnoredMissingAlert hlife hresolved

theorem evaluateRule_tally (hinv : LifeInv s) (hreading : s.reading = some target)
    (happlicable : structurallyNotApplicable target.rule = false)
    (h : evaluateRule target found now s.store = some store) :
    (store = s.store ∧ Skips target (target.rule.counted found.metric.outcome))
      ∨ ∃ id life, Tallies s.store store target (target.rule.counted found.metric.outcome) id
        life := by
  unfold evaluateRule at h
  dsimp only at h
  rw [if_neg (by simp [happlicable])] at h
  by_cases hignored : found.metric.outcome = .missing ∧ target.rule.noDataPolicy = .ignore
  · have hcounted : target.rule.counted found.metric.outcome = .missingIgnored := if_pos hignored
    rw [if_pos hignored, Option.some_inj] at h
    rw [hcounted, ← h]
    exact resetEvaluation_tally hinv hreading
  · have hcounted : target.rule.counted found.metric.outcome = found.metric.outcome :=
      if_neg hignored
    rw [if_neg hignored] at h
    rw [hcounted]
    by_cases hresolved : (snapshotFromEvaluationTarget target).state = .recovered
        ∧ found.metric.outcome ≠ .breaching
    · rw [if_pos hresolved, Option.some_inj] at h
      exact .inl ⟨h.symm, hresolved.2, .inr hresolved.1⟩
    · rw [if_neg hresolved] at h
      have hbreached : (snapshotFromEvaluationTarget target).state = .recovered →
          found.metric.outcome = .breaching := fun h => not_not.mp fun hne => hresolved ⟨h, hne⟩
      obtain ⟨-, hread⟩ := hinv.reading target hreading
      have hpaired := paired_of_reads hread fun id life hlife => (hinv.rows id).sound life hlife
      have hcross := (transition_nextSnapshot target hpaired hbreached).crossing hpaired
      obtain ⟨id, life, hsaved, -, htally⟩ := writeEvaluation_tally h
      obtain ⟨hkey, hothers, hchange⟩ := change_of_saved hsaved hread hinv.single
        (hinv.fresh _ le_rfl) hcross
      obtain ⟨hstatus, hbefore⟩ := hsaved.state hcross.paired
      exact .inr ⟨id, life, hbreached, hkey,
        fun old hold => (hchange.unresolved old hold).1.trans hkey, hothers, hstatus, hbefore,
        htally⟩

theorem tally_of_step (h : step s a = some t)
    (hnone : Observed.evaluation s a = none) :
    (∀ id tally, t.removed tally.life.key.instanceId = false →
      (t.store.tally id = some tally ↔ s.store.tally id = some tally))
      ∧ ∀ target ∈ t.reading, target ∈ s.reading ∨ ReadsCounts t.store.tally target := by
  rcases a with ⟨key, rule⟩ | ⟨found, now⟩ | _ | ⟨id, columns, actorId, actedAt⟩
    | ⟨id, windowId, evaluatedAt⟩ | ⟨instanceId, actorId, removedAt⟩
  case read =>
    simp only [step] at h
    split_ifs at h
    cases h
    refine ⟨fun _ _ _ => Iff.rfl, ?_⟩
    rintro _ ⟨⟩
    exact .inr (readsCounts_getEvaluationTarget _ _ _)
  case evaluate =>
    obtain ⟨target, hreading, h⟩ := Option.bind_eq_some_iff.mp h
    obtain ⟨store, hevaluate, h⟩ := Option.bind_eq_some_iff.mp h
    cases h
    have happlicable : structurallyNotApplicable target.rule = true := by
      simp only [Observed.evaluation, hreading, Option.bind_some, ite_eq_left_iff] at hnone
      by_contra hnot
      cases hnone hnot
    unfold evaluateRule at hevaluate
    dsimp only at hevaluate
    rw [if_pos happlicable] at hevaluate
    cases hevaluate
    refine ⟨fun _ _ _ => Iff.rfl, ?_⟩
    rintro _ ⟨⟩
  case abandon =>
    cases h
    refine ⟨fun _ _ _ => Iff.rfl, ?_⟩
    rintro _ ⟨⟩
  case dispose =>
    obtain ⟨store, hdispose, h⟩ := Option.bind_eq_some_iff.mp h
    cases h
    refine ⟨fun id tally _ => ?_, fun _ h => .inl h⟩
    rw [tally_updateAlertDisposition hdispose]
  case suppress =>
    cases h
    refine ⟨fun id tally _ => ?_, fun _ h => .inl h⟩
    rw [tally_recordMaintenanceSuppressed]
  case remove =>
    simp only [step] at h
    split_ifs at h
    cases h
    refine ⟨fun id tally hremoved => ?_, fun _ h => .inl h⟩
    dsimp only at hremoved ⊢
    unfold closeAlertsForInstanceRemoval
    by_cases hid : id ∈ s.store.unresolvedOfInstance instanceId
    · have hother : tally.life.key.instanceId ≠ instanceId := by
        intro hsame
        rw [hsame, Function.update_self] at hremoved
        exact Bool.noConfusion hremoved
      obtain ⟨hcloses, -⟩ := closes_foldl_closeAlert removedAt actorId
        (s.store.unresolvedOfInstance instanceId) s.store
      constructor
      · intro htally
        have hlife := life_of_tally htally
        rw [hcloses.life, if_pos hid] at hlife
        obtain ⟨life, hold, hclose⟩ := Option.map_eq_some_iff.mp hlife
        refine absurd ?_ hother
        rw [← hclose]
        show life.key.instanceId = instanceId
        exact unresolvedOfInstance_life hid hold
      · intro htally
        exact absurd (unresolvedOfInstance_life hid (life_of_tally htally)) hother
    · rw [tally_foldl_closeAlert removedAt actorId _ _ hid]

end Alerts

namespace Observed

variable {s t : Observed} {a : Alerts.Action}

structure CountInv (s : Observed) : Prop where
  life : Alerts.LifeInv s.alerts
  keys : ∀ key, s.alerts.removed key.instanceId = false →
    Tallied s.alerts.store.tally key (s.history key)
  reading : ∀ target ∈ s.alerts.reading, ReadsCounts s.alerts.store.tally target

/-- What every step keeps: evaluations go by the evidence of the key, other steps move no key in
use. -/
structure OnEvidence (s : Observed) (a : Alerts.Action) (t : Observed) : Prop where
  evaluated : ∀ target outcome, evaluation s.alerts a = some (target, outcome) →
    1 ≤ target.rule.consecutiveCount → 1 ≤ target.rule.recoveryConsecutiveCount →
    Exact (s.alerts.store.keyState target.key) (s.alerts.store.keyStateBeforeNoData target.key)
      outcome (t.alerts.store.keyState target.key) target.rule.consecutiveCount
      target.rule.recoveryConsecutiveCount target.rule.version (t.history target.key)
  otherwise : ∀ key, t.alerts.removed key.instanceId = false →
    (∀ target outcome, evaluation s.alerts a = some (target, outcome) → target.key ≠ key) →
    t.alerts.store.keyState key = s.alerts.store.keyState key

theorem CountInv.sound (h : CountInv s) (id : AlertId) (life : Life)
    (hlife : s.alerts.store.life id = some life) : life.Sound :=
  (h.life.rows id).sound life hlife

theorem CountInv.stands (h : CountInv s) (key : AlertKey) :
    Stands s.alerts.store.life key (s.alerts.store.keyState key)
      (s.alerts.store.keyStateBeforeNoData key) :=
  stands_key h.sound key

theorem CountInv.keyState (h : CountInv s) {target : EvaluationTargetRow}
    (hreading : s.alerts.reading = some target) :
    s.alerts.store.keyState target.key = (snapshotFromEvaluationTarget target).state
      ∧ s.alerts.store.keyStateBeforeNoData target.key
        = (snapshotFromEvaluationTarget target).stateBeforeNoData :=
  (h.stands target.key).unique h.life.single
    ((h.life.reading target hreading).2.stands h.sound)

theorem life_iff_of_tally {s t : AlertStore} {id : AlertId} {life : Life}
    (h : ∀ tally : Tally, tally.life.key = life.key →
      (t.tally id = some tally ↔ s.tally id = some tally)) :
    t.life id = some life ↔ s.life id = some life := by
  constructor <;> intro hlife
  · obtain ⟨tally, htally, rfl⟩ := tally_of_life hlife
    exact life_of_tally ((h tally rfl).mp htally)
  · obtain ⟨tally, htally, rfl⟩ := tally_of_life hlife
    exact life_of_tally ((h tally rfl).mpr htally)

theorem keyState_of_tally (h : CountInv s) (h' : Alerts.LifeInv t.alerts) {key : AlertKey}
    (hsame : ∀ id (tally : Tally), tally.life.key = key →
      (t.alerts.store.tally id = some tally ↔ s.alerts.store.tally id = some tally)) :
    t.alerts.store.keyState key = s.alerts.store.keyState key := by
  have hstands : Stands t.alerts.store.life key (s.alerts.store.keyState key)
      (s.alerts.store.keyStateBeforeNoData key) :=
    (h.stands key).congr fun hkey => life_iff_of_tally fun tally htally =>
      hsame _ tally (htally.trans hkey)
  have hsound : ∀ id life, t.alerts.store.life id = some life → life.Sound :=
    fun id life hlife => (h'.rows id).sound life hlife
  exact ((stands_key hsound key).unique h'.single hstands).1

theorem step_unevaluated (h : CountInv s) (hstep : s.alerts.step a = some t.alerts)
    (hhistory : t.history = s.history) (hnone : evaluation s.alerts a = none) :
    OnEvidence s a t ∧ CountInv t := by
  have hlife := Alerts.lifeInv_step h.life hstep
  obtain ⟨hsame, hreading⟩ := Alerts.tally_of_step hstep hnone
  have hremoved : ∀ instanceId, t.alerts.removed instanceId = false →
      s.alerts.removed instanceId = false := by
    rcases Alerts.step_cases h.life hstep with ⟨_, _, hsettles, -⟩ | ⟨_, _, _, _, hevaluates⟩
    · exact hsettles.removed
    · rw [hevaluates.removed]
      exact fun _ h => h
  refine ⟨⟨fun target outcome hsome => ?_, fun key hkey _ => ?_⟩, hlife, fun key hkey => ?_,
    fun target htarget => ?_⟩
  · rw [hnone] at hsome
    exact nomatch hsome
  · exact keyState_of_tally h hlife fun id tally htally => hsame id tally (htally ▸ hkey)
  · rw [hhistory]
    exact (h.keys key (hremoved _ hkey)).congr fun {id tally} htally =>
      hsame id tally (htally ▸ hkey)
  · rcases hreading target htarget with hbefore | hnew
    · intro alert halert
      obtain ⟨tally, htally, hcounts⟩ := h.reading target hbefore alert halert
      obtain ⟨hinUse, hread⟩ := hlife.reading target htarget
      obtain ⟨-, hread⟩ := h.life.reading target hbefore
      unfold Reads at hread
      rw [halert] at hread
      obtain ⟨life, hlife, hkey, -⟩ := hread
      obtain rfl : tally.life = life :=
        Option.some.inj ((life_of_tally htally).symm.trans hlife)
      exact ⟨tally, (hsame _ tally (hkey ▸ hinUse)).mpr htally, hcounts⟩
    · exact hnew

theorem CountInv.counted (h : CountInv s) {target : EvaluationTargetRow}
    (hreading : s.alerts.reading = some target) :
    Counted (snapshotFromEvaluationTarget target) target.rule.version (s.history target.key) := by
  obtain ⟨hinUse, hread⟩ := h.life.reading target hreading
  exact (h.keys target.key hinUse).counted hread (h.reading target hreading)

theorem CountInv.steps (h : CountInv s) {target : EvaluationTargetRow} {outcome : Evaluation}
    (hreading : s.alerts.reading = some target)
    (hbreached : (snapshotFromEvaluationTarget target).state = .recovered → outcome = .breaching) :
    Steps target.rule.consecutiveCount target.rule.recoveryConsecutiveCount
      (snapshotFromEvaluationTarget target) outcome
      (nextSnapshot target (snapshotFromEvaluationTarget target) outcome) :=
  steps_step (paired_of_reads (h.life.reading target hreading).2 h.sound) hbreached

structure Evaluated (s : Observed) (a : Alerts.Action) (t : Observed) (target : EvaluationTargetRow)
    (outcome : Evaluation) : Prop where
  reading : s.alerts.reading = some target
  evaluation : evaluation s.alerts a = some (target, outcome)
  removed : t.alerts.removed = s.alerts.removed
  done : t.alerts.reading = none
  history : t.history = s.record a
  life : Alerts.LifeInv t.alerts

section Evaluated

variable {target : EvaluationTargetRow} {outcome : Evaluation}

theorem Evaluated.history_eq (h : Evaluated s a t target outcome) (hinv : CountInv s) :
    t.history = Function.update s.history target.key
      ((snapshotFromEvaluationTarget target).state.assessment target.rule.version outcome
        :: s.history target.key) := by
  rw [h.history, record, h.evaluation, ← (hinv.keyState h.reading).1]

theorem Evaluated.kept (h : Evaluated s a t target outcome) (hinv : CountInv s)
    (hexact : 1 ≤ target.rule.consecutiveCount → 1 ≤ target.rule.recoveryConsecutiveCount →
      Exact (snapshotFromEvaluationTarget target).state
        (snapshotFromEvaluationTarget target).stateBeforeNoData outcome
        (t.alerts.store.keyState target.key) target.rule.consecutiveCount
        target.rule.recoveryConsecutiveCount target.rule.version
        ((snapshotFromEvaluationTarget target).state.assessment target.rule.version outcome
          :: s.history target.key))
    (htallied : Tallied t.alerts.store.tally target.key
      ((snapshotFromEvaluationTarget target).state.assessment target.rule.version outcome
        :: s.history target.key))
    (hothers : ∀ id (tally : Tally), tally.life.key ≠ target.key →
      (t.alerts.store.tally id = some tally ↔ s.alerts.store.tally id = some tally)) :
    OnEvidence s a t ∧ CountInv t := by
  obtain ⟨hstate, hbefore⟩ := hinv.keyState h.reading
  have hhistory := h.history_eq hinv
  refine ⟨⟨?_, ?_⟩, h.life, fun key hkey => ?_, fun _ htarget => ?_⟩
  · intro target' outcome' hsome htrigger hrecovery
    rw [h.evaluation] at hsome
    cases hsome
    rw [hhistory, Function.update_self, hstate, hbefore]
    exact hexact htrigger hrecovery
  · intro key _ hne
    have hkey : target.key ≠ key := hne target outcome h.evaluation
    exact keyState_of_tally hinv h.life fun id tally htally =>
      hothers id tally fun hsame => hkey (hsame.symm.trans htally)
  · rw [hhistory]
    by_cases hsame : key = target.key
    · subst hsame
      rw [Function.update_self]
      exact htallied
    · rw [Function.update_of_ne hsame]
      rw [h.removed] at hkey
      exact (hinv.keys key hkey).congr fun {id tally} htally =>
        hothers id tally (htally ▸ hsame)
  · rw [h.done] at htarget
    exact nomatch htarget

theorem Evaluated.skips (h : Evaluated s a t target outcome) (hinv : CountInv s)
    (hskips : Skips target outcome) (hstore : t.alerts.store = s.alerts.store) :
    OnEvidence s a t ∧ CountInv t := by
  obtain ⟨hinUse, hread⟩ := hinv.life.reading target h.reading
  have hstate := (hinv.keyState h.reading).1
  refine h.kept hinv (fun htrigger hrecovery => ?_) ?_ fun id tally _ => by rw [hstore]
  · rw [hstore, hstate]
    rcases hskips.resolved with ⟨halert, rfl⟩ | hresolved
    · have hlive : (snapshotFromEvaluationTarget target).state ≠ .recovered := by
        unfold snapshotFromEvaluationTarget
        rw [halert]
        exact fun h => nomatch h
      have hexact := (hinv.counted h.reading).exact (.ignore hlive) htrigger hrecovery
      exact hexact
    · rw [hresolved]
      exact exact_resolved hskips.quiet htrigger
  · rw [hstore]
    refine (hinv.keys target.key hinUse).skip ?_ hskips.quiet ?_
    · intro id tally htally hkey
      exact hskips.all_resolved hread (life_of_tally htally) hkey
    · intro hnone
      refine hskips.absent hread fun id life hlife => ?_
      obtain ⟨tally, htally, rfl⟩ := tally_of_life hlife
      exact hnone id tally htally

theorem Evaluated.tallies (h : Evaluated s a t target outcome) (hinv : CountInv s) {id : AlertId}
    {life : Life} (htallies : Tallies s.alerts.store t.alerts.store target outcome id life) :
    OnEvidence s a t ∧ CountInv t := by
  obtain ⟨hinUse, hread⟩ := hinv.life.reading target h.reading
  have hsteps := hinv.steps h.reading htallies.breached
  have hcounted := hinv.counted h.reading
  have hnext := htallies.keyState h.life.single fun id life hlife =>
    (h.life.rows id).sound life hlife
  refine h.kept hinv (fun htrigger hrecovery => ?_) ?_ ?_
  · rw [hnext]
    exact hcounted.exact hsteps htrigger hrecovery
  · rw [htallies.tally]
    refine (hinv.keys target.key hinUse).write htallies.key ?_ ?_ rfl ?_
    · intro id' tally' hid htally' hkey'
      exact htallies.others id' _ hid (life_of_tally htally') hkey'
    · have hsnapshot : ((nextSnapshot target (snapshotFromEvaluationTarget target) outcome).tally
          life target.rule.version).snapshot
            = nextSnapshot target (snapshotFromEvaluationTarget target) outcome := by
        unfold Tally.snapshot Snapshot.tally
        rw [htallies.status, htallies.before]
      rw [hsnapshot]
      exact hcounted.step hsteps
    · intro hrecovered
      exact hsteps.recovering (paired_of_reads hread hinv.sound)
        (htallies.status.symm.trans hrecovered)
  · intro id' tally' hkey'
    rw [htallies.tally]
    by_cases hid : id' = id
    · subst hid
      rw [Function.update_self]
      constructor
      · rintro ⟨⟩
        exact absurd htallies.key hkey'
      · intro hold
        exact absurd (htallies.old _ (life_of_tally hold)) hkey'
    · rw [Function.update_of_ne hid]

end Evaluated

theorem countInv_init : CountInv {} where
  life := Alerts.lifeInv_init
  keys := fun _ _ =>
    ⟨(fun _ _ h => nomatch h), (fun _ _ h => nomatch h), (fun _ _ h => nomatch h),
      fun _ _ h => nomatch h⟩
  reading := fun _ h => nomatch h

theorem evidence_step (hinv : CountInv s) (h : step s a = some t) :
    OnEvidence s a t ∧ CountInv t := by
  obtain ⟨alerts, hstep, rfl⟩ := Option.map_eq_some_iff.mp h
  have hlife := Alerts.lifeInv_step hinv.life hstep
  rcases hevaluation : evaluation s.alerts a with _ | ⟨target, outcome⟩
  · refine step_unevaluated hinv hstep ?_ hevaluation
    rw [record, hevaluation]
  · rcases a with _ | ⟨found, now⟩ | _ | _ | _ | _
    case evaluate =>
      obtain ⟨target', hreading, hbind⟩ := Option.bind_eq_some_iff.mp hstep
      obtain ⟨store, hevaluate, heq⟩ := Option.bind_eq_some_iff.mp hbind
      cases heq
      have happlicable := hevaluation
      simp only [evaluation, hreading, Option.bind_some] at happlicable
      split_ifs at happlicable with happlies
      cases happlicable
      have hevaluated : Evaluated s (.evaluate found now)
          { alerts := { s.alerts with store := store, reading := none }
            history := s.record (.evaluate found now) } target
          (target.rule.counted found.metric.outcome) :=
        ⟨hreading, hevaluation, rfl, rfl, rfl, hlife⟩
      rcases Alerts.evaluateRule_tally hinv.life hreading (by simpa using happlies) hevaluate with
        ⟨hstore, hskips⟩ | ⟨id, life, htallies⟩
      · exact hevaluated.skips hinv hskips hstore
      · exact hevaluated.tallies hinv htallies
    all_goals exact nomatch hevaluation

theorem evaluates_on_evidence (actions : List Alerts.Action) :
    Machine.Along step OnEvidence {} actions := by
  refine Machine.Along.of_invariant (I := CountInv) (fun s a t hinv h => ?_) countInv_init
  exact evidence_step hinv h

end Observed

end DbsMonitor
