import DbsMonitor.Alternation
import DbsMonitor.Proofs.AlertWrites

/-!
# An alert, its key and their events

As long as what an evaluation read is still so (`Reads`), its write is a `Change` of one alert. What
a row says of its firing and what its events say agree (`RowInv`), and a change is the next turn in
the events of its key (`KeyInv`).
-/

namespace DbsMonitor

open AlertStore

namespace AlertStore

variable (s : AlertStore)

def firstTriggeredAt (id : AlertId) : Option ℤ :=
  (s.alerts.lookup id).bind AlertRow.firstTriggeredAt

/-- The events `FIRED` and `RECOVERED` of the alerts of a key, in the order they were logged. -/
def lifecycle (key : AlertKey) : List EventKind :=
  (s.events.filter fun event =>
    event.kind.isLifecycle && s.column AlertRow.key event.alertInstanceId = some key).map
    AlertEvent.kind

def eventCount (kind : EventKind) (id : AlertId) : ℕ :=
  s.events.countP fun event => event.kind = kind && event.alertInstanceId = id

end AlertStore

structure Life.Sound (life : Life) : Prop where
  paired : Paired life.status (life.stateBeforeNoData.getD .empty)
  before : life.stateBeforeNoData ≠ some .empty
  recoveredAt : life.recoveredAt.isSome ↔ life.status = .recovered

theorem Life.Sound.close {life : Life} {closedAt : ℤ} : (life.close closedAt).Sound :=
  ⟨.inr ⟨.inr (.inr (.inr rfl)), rfl⟩, (fun h => nomatch h), fun _ => rfl, fun _ => rfl⟩

theorem Life.Sound.noData {life : Life} (h : life.Sound) :
    life.status = .noData
      ↔ life.stateBeforeNoData ∈ [some .ok, some .pending, some AlertState.firing] := by
  have hpaired := h.paired
  unfold Paired at hpaired
  rcases hbefore : life.stateBeforeNoData with _ | before
  · rw [hbefore] at hpaired
    rcases hpaired with ⟨-, h | h | h⟩ | ⟨h | h | h | h, -⟩
    · exact AlertState.noConfusion h
    · exact AlertState.noConfusion h
    · exact AlertState.noConfusion h
    all_goals simp [h]
  · have hempty : before ≠ .empty := fun heq => h.before (hbefore.trans (congrArg some heq))
    rw [hbefore] at hpaired
    rcases hpaired with ⟨hstatus, hstates⟩ | ⟨-, heq⟩
    · simpa [hstatus] using hstates
    · exact absurd heq hempty

/-- What the write of an evaluation does to its alert, which is new or was unresolved. -/
structure Change (old : Option Life) (new : Life) (starts : Bool) (kinds : List EventKind) :
    Prop where
  unresolved : ∀ life ∈ old, life.key = new.key ∧ life.status ≠ .recovered
  sound : new.Sound
  first : ∃ now, new.firstTriggeredAt
    = (old.bind Life.firstTriggeredAt).or (if starts then some now else none)
  firing : (starts = true ∧ kinds.filter EventKind.isLifecycle = [.fired]
      ∧ old.any Life.firing = false ∧ new.firing = true)
    ∨ (starts = false ∧ kinds.filter EventKind.isLifecycle = [.recovered]
      ∧ old.any Life.firing = true ∧ new.status = .recovered)
    ∨ (starts = false ∧ kinds.filter EventKind.isLifecycle = []
      ∧ new.firing = old.any Life.firing ∧ new.status ≠ .recovered)

def Reads (lives : AlertId → Option Life) (target : EvaluationTargetRow) : Prop :=
  match target.alert with
  | none => ∀ id life, lives id = some life → life.key ≠ target.key
  | some alert => ∃ life, lives alert.alertInstanceId = some life ∧ life.key = target.key
    ∧ life.status = alert.status ∧ life.stateBeforeNoData = alert.stateBeforeNoData
    ∧ (alert.status = .recovered → ∀ id' life', lives id' = some life' → life'.key = target.key →
      life'.status = .recovered)

def SingleUnresolved (lives : AlertId → Option Life) : Prop :=
  ∀ id id' life life', lives id = some life → lives id' = some life' → life.key = life'.key →
    life.status ≠ .recovered → life'.status ≠ .recovered → id = id'

def OthersResolved (lives : AlertId → Option Life) (id : AlertId) (key : AlertKey) : Prop :=
  ∀ id' life, id' ≠ id → lives id' = some life → life.key = key → life.status = .recovered

theorem SingleUnresolved.others {lives : AlertId → Option Life} (h : SingleUnresolved lives)
    {id : AlertId} {life : Life} (hlife : lives id = some life)
    (hunresolved : life.status ≠ .recovered) : OthersResolved lives id life.key := by
  intro id' life' hid hlife' hkey
  by_contra hstatus
  exact hid (h _ _ _ _ hlife' hlife hkey hstatus hunresolved)

theorem reads_getEvaluationTarget (s : AlertStore) (key : AlertKey) (rule : EvaluationRule) :
    Reads s.life (s.getEvaluationTarget key rule) := by
  unfold getEvaluationTarget Reads
  rcases hcandidate : s.candidate key with _ | ⟨id, row⟩
  · intro id life hlife
    exact candidate_none hcandidate hlife
  · obtain ⟨hlife, hkey, hresolved⟩ := candidate_some hcandidate
    exact ⟨row.life, hlife, hkey, rfl, rfl, hresolved⟩

theorem Reads.congr {lives lives' : AlertId → Option Life} {target : EvaluationTargetRow}
    (h : Reads lives target)
    (hlives : ∀ {id life}, life.key = target.key →
      (lives' id = some life ↔ lives id = some life)) : Reads lives' target := by
  unfold Reads at h ⊢
  rcases halert : target.alert with _ | alert
  · rw [halert] at h
    intro id life hlife hkey
    exact h id life ((hlives hkey).mp hlife) hkey
  · rw [halert] at h
    obtain ⟨life, hlife, hkey, hstatus, hbefore, hresolved⟩ := h
    refine ⟨life, (hlives hkey).mpr hlife, hkey, hstatus, hbefore, ?_⟩
    intro hrecovered id' life' hlife' hkey'
    exact hresolved hrecovered id' life' ((hlives hkey').mp hlife') hkey'

section Evaluation

variable {target : EvaluationTargetRow} {found : Findings} {now : ℤ} {s : AlertStore}
  {id : AlertId} {life : Life} {next : Snapshot}

theorem paired_of_reads (hread : Reads s.life target)
    (hsound : ∀ id life, s.life id = some life → life.Sound) :
    Paired (snapshotFromEvaluationTarget target).state
      (snapshotFromEvaluationTarget target).stateBeforeNoData := by
  unfold Reads at hread
  unfold snapshotFromEvaluationTarget
  rcases halert : target.alert with _ | alert
  · exact .inr ⟨.inl rfl, rfl⟩
  · rw [halert] at hread
    obtain ⟨life, hlife, -, hstatus, hbefore, -⟩ := hread
    have hpaired := (hsound _ _ hlife).paired
    rwa [hstatus, hbefore] at hpaired

theorem current_of_unresolved (hread : Reads s.life target) (hsingle : SingleUnresolved s.life)
    (hlife : s.life id = some life) (hkey : life.key = target.key)
    (hunresolved : life.status ≠ .recovered) :
    (snapshotFromEvaluationTarget target).state = life.status
      ∧ (snapshotFromEvaluationTarget target).stateBeforeNoData
        = life.stateBeforeNoData.getD .empty := by
  unfold Reads at hread
  unfold snapshotFromEvaluationTarget
  rcases halert : target.alert with _ | alert
  · rw [halert] at hread
    exact absurd hkey (hread id life hlife)
  · rw [halert] at hread
    obtain ⟨life', hlife', hkey', hstatus, hbefore, hresolved⟩ := hread
    have hlive : alert.status ≠ .recovered :=
      fun h => hunresolved (hresolved h id life hlife hkey)
    have hid := hsingle _ _ _ _ hlife hlife' (hkey.trans hkey'.symm) hunresolved
      (hstatus ▸ hlive)
    subst hid
    obtain rfl : life = life' := Option.some.inj (hlife.symm.trans hlife')
    exact ⟨hstatus.symm, by rw [hbefore]⟩

theorem not_firing_of_resolved (hread : Reads s.life target)
    (hnone : s.unresolvedAlert target.key = none) :
    isFiring (snapshotFromEvaluationTarget target).state
      (snapshotFromEvaluationTarget target).stateBeforeNoData = false := by
  unfold Reads at hread
  unfold snapshotFromEvaluationTarget
  rcases halert : target.alert with _ | alert
  · rfl
  · rw [halert] at hread
    obtain ⟨life, hlife, hkey, hstatus, -, -⟩ := hread
    have hrecovered : alert.status = .recovered :=
      hstatus ▸ unresolvedAlert_none hnone hlife hkey
    simp [isFiring, hrecovered]

theorem firing_of_crossing {current next : Snapshot} {old : Option Life} {new : Life}
    (h : Crossing current.state current.stateBeforeNoData next.state next.stateBeforeNoData)
    (hold : old.any Life.firing = isFiring current.state current.stateBeforeNoData)
    (hstatus : new.status = next.state)
    (hfiring : new.firing = isFiring next.state next.stateBeforeNoData) :
    (startsFiringLifecycle current next = true
        ∧ (stateEvents current.state next.state).filter EventKind.isLifecycle = [.fired]
        ∧ old.any Life.firing = false ∧ new.firing = true)
      ∨ (startsFiringLifecycle current next = false
        ∧ (stateEvents current.state next.state).filter EventKind.isLifecycle = [.recovered]
        ∧ old.any Life.firing = true ∧ new.status = .recovered)
      ∨ (startsFiringLifecycle current next = false
        ∧ (stateEvents current.state next.state).filter EventKind.isLifecycle = []
        ∧ new.firing = old.any Life.firing ∧ new.status ≠ .recovered) := by
  rw [startsFiringLifecycle_eq, hold, hstatus, hfiring]
  rcases h.events with ⟨hstarts, hkinds⟩ | ⟨hstate, hnext, hkinds⟩ | ⟨hstarts, hnext, hsame, hkinds⟩
  · obtain ⟨hnot, hnext⟩ := Bool.and_eq_true_iff.mp hstarts
    have hnext := of_decide_eq_true hnext
    refine .inl ⟨hstarts, hkinds, by simpa using hnot, ?_⟩
    rw [hnext]
    rfl
  · refine .inr (.inl ⟨?_, hkinds, ?_, hnext⟩)
    · simp [hnext]
    · rw [hstate]
      rfl
  · exact .inr (.inr ⟨hstarts, hkinds, hsame, hnext⟩)

theorem change_of_saved
    (hsaved : Saved target found now (snapshotFromEvaluationTarget target) next s id life)
    (hread : Reads s.life target) (hsingle : SingleUnresolved s.life)
    (hfresh : s.life s.nextId = none)
    (hcross : Crossing (snapshotFromEvaluationTarget target).state
      (snapshotFromEvaluationTarget target).stateBeforeNoData next.state next.stateBeforeNoData) :
    life.key = target.key ∧ OthersResolved s.life id target.key
      ∧ Change (s.life id) life (startsFiringLifecycle (snapshotFromEvaluationTarget target) next)
        (stateEvents (snapshotFromEvaluationTarget target).state next.state) := by
  have hbefore : (evaluationColumns target found now next).stateBeforeNoData.getD .empty
      = next.stateBeforeNoData := by
    unfold evaluationColumns
    split_ifs with h
    · rfl
    · rw [not_not.mp h]
      rfl
  have hempty : (evaluationColumns target found now next).stateBeforeNoData ≠ some .empty := by
    unfold evaluationColumns
    split_ifs with h
    · exact fun heq => h (Option.some.inj heq)
    · rintro ⟨⟩
  cases hsaved with
  | @recover _ life hid hlife hunresolved hnext =>
    have hkey : life.key = target.key := by
      obtain ⟨alert, halert, rfl⟩ := Option.map_eq_some_iff.mp hid
      unfold Reads at hread
      rw [halert] at hread
      obtain ⟨life', hlife', hkey, -⟩ := hread
      obtain rfl : life = life' := Option.some.inj (hlife.symm.trans hlife')
      exact hkey
    obtain ⟨hstate, hstateBefore⟩ := current_of_unresolved hread hsingle hlife hkey hunresolved
    have hothers := hkey ▸ hsingle.others hlife hunresolved
    rw [hlife]
    refine ⟨hkey, hothers, ?_, .close, ⟨now, ?_⟩, firing_of_crossing hcross ?_ hnext.symm ?_⟩
    · rintro _ ⟨⟩
      exact ⟨rfl, hunresolved⟩
    · rw [startsFiringLifecycle_eq, hnext]
      simp [Life.close]
    · rw [hstate, hstateBefore]
      rfl
    · rw [hnext]
      rfl
  | @update _ life hid hlife hnext =>
    obtain ⟨life', hlife', hkey, hunresolved⟩ := unresolvedAlert_some hid
    obtain rfl : life = life' := Option.some.inj (hlife.symm.trans hlife')
    obtain ⟨hstate, hstateBefore⟩ := current_of_unresolved hread hsingle hlife hkey hunresolved
    have hothers := hkey ▸ hsingle.others hlife hunresolved
    rw [hlife]
    refine ⟨hkey, hothers, ?_, ⟨hbefore ▸ hcross.paired, hempty, by simp [hnext]⟩, ⟨_, rfl⟩,
      firing_of_crossing hcross ?_ rfl ?_⟩
    · rintro _ ⟨⟩
      exact ⟨rfl, hunresolved⟩
    · rw [hstate, hstateBefore]
      rfl
    · rw [Life.firing, hbefore]
  | insert hid hnext =>
    have hothers : OthersResolved s.life s.nextId target.key :=
      fun _ _ _ hlife hkey => unresolvedAlert_none hid hlife hkey
    rw [hfresh]
    refine ⟨rfl, hothers, ?_, ⟨hbefore ▸ hcross.paired, hempty, by simp [hnext]⟩, ⟨_, rfl⟩,
      firing_of_crossing hcross ?_ rfl ?_⟩
    · rintro _ ⟨⟩
    · rw [not_firing_of_resolved hread hid]
      rfl
    · rw [Life.firing, hbefore]

end Evaluation

structure RowInv (life : Option Life) (firedCount recoveredCount : ℕ) : Prop where
  sound : ∀ l ∈ life, l.Sound
  fired : firedCount = if (life.bind Life.firstTriggeredAt).isSome then 1 else 0
  recovered : recoveredCount ≤ 1
  absent : life = none → recoveredCount = 0
  unresolved : ∀ l ∈ life, l.status ≠ .recovered →
    recoveredCount = 0 ∧ l.firstTriggeredAt.isSome = l.firing

section RowInv

variable {firedCount recoveredCount : ℕ}

theorem RowInv.close {life : Option Life} (h : RowInv life firedCount recoveredCount)
    (closedAt : ℤ) : RowInv (life.map (Life.close closedAt)) firedCount recoveredCount := by
  rcases life with _ | life
  · exact h
  · refine ⟨?_, h.fired, h.recovered, (fun h => nomatch h), ?_⟩
    · rintro _ ⟨⟩
      exact .close
    · rintro _ ⟨⟩ hstatus
      exact absurd rfl hstatus

theorem Change.first_old {old : Option Life} {new : Life} {starts : Bool} {kinds : List EventKind}
    (h : Change old new starts kinds) (hrow : RowInv old firedCount recoveredCount) :
    recoveredCount = 0 ∧ (old.bind Life.firstTriggeredAt).isSome = old.any Life.firing := by
  rcases old with _ | life
  · exact ⟨hrow.absent rfl, rfl⟩
  · exact hrow.unresolved life rfl (h.unresolved life rfl).2

theorem Change.starts_iff {old : Option Life} {new : Life} {starts : Bool}
    {kinds : List EventKind} (h : Change old new starts kinds) :
    .fired ∈ kinds.filter EventKind.isLifecycle ↔ starts = true := by
  rcases h.firing with ⟨hstarts, hkinds, -⟩ | ⟨hstarts, hkinds, -⟩ | ⟨hstarts, hkinds, -⟩ <;>
    simp [hstarts, hkinds]

theorem Change.rowInv {old : Option Life} {new : Life} {starts : Bool} {kinds : List EventKind}
    (h : Change old new starts kinds) (hrow : RowInv old firedCount recoveredCount) :
    RowInv (some new) (firedCount + (kinds.filter EventKind.isLifecycle).count .fired)
      (recoveredCount + (kinds.filter EventKind.isLifecycle).count .recovered) := by
  obtain ⟨hrecovered, hfirst⟩ := h.first_old hrow
  have hsound : ∀ l ∈ some new, l.Sound := by
    rintro _ ⟨⟩
    exact h.sound
  have hfired := hrow.fired
  rw [hfirst] at hfired
  obtain ⟨now, hnow⟩ := h.first
  have hfirst' : new.firstTriggeredAt.isSome = (old.any Life.firing || starts) := by
    rw [hnow, Option.isSome_or, hfirst]
    rcases starts <;> rfl
  rcases h.firing with ⟨hstarts, hkinds, hold, hnew⟩ | ⟨hstarts, hkinds, hold, hnew⟩
    | ⟨hstarts, hkinds, hold, hnew⟩
  · refine ⟨hsound, ?_, ?_, (fun h => nomatch h), ?_⟩
    · simp [hfired, hold, hkinds, hfirst', hstarts]
    · simp [hrecovered, hkinds]
    · rintro _ ⟨⟩ -
      simp [hrecovered, hkinds, hfirst', hstarts, hnew]
  · refine ⟨hsound, ?_, ?_, (fun h => nomatch h), ?_⟩
    · simp [hfired, hold, hkinds, hfirst']
    · simp [hrecovered, hkinds]
    · rintro _ ⟨⟩ hstatus
      exact absurd hnew hstatus
  · refine ⟨hsound, ?_, ?_, (fun h => nomatch h), ?_⟩
    · simp [hfired, hkinds, hfirst', hstarts]
    · simp [hrecovered, hkinds]
    · rintro _ ⟨⟩ -
      simp [hrecovered, hkinds, hfirst', hstarts, hold]

end RowInv

section Events

variable {s t : AlertStore} {events : List AlertEvent} {kind : EventKind}

theorem eventCount_append (h : t.events = s.events ++ events) (id : AlertId) :
    t.eventCount kind id = s.eventCount kind id
      + events.countP fun event => event.kind = kind && event.alertInstanceId = id := by
  rw [eventCount, h, List.countP_append]
  rfl

theorem eventCount_of_quiet (h : t.events = s.events ++ events)
    (hquiet : ∀ event ∈ events, event.kind.isLifecycle = false) (hkind : kind.isLifecycle = true)
    (id : AlertId) : t.eventCount kind id = s.eventCount kind id := by
  rw [eventCount_append h, List.countP_eq_zero.mpr, Nat.add_zero]
  intro event hevent hmatch
  have hsame := of_decide_eq_true (Bool.and_eq_true_iff.mp hmatch).1
  have hnot := hquiet event hevent
  rw [hsame, hkind] at hnot
  exact Bool.noConfusion hnot

theorem eventCount_of_alert {id : AlertId} {kinds : List EventKind}
    (h : t.events = s.events ++ events) (hid : ∀ event ∈ events, event.alertInstanceId = id)
    (hkinds : (events.map AlertEvent.kind).filter EventKind.isLifecycle = kinds)
    (hkind : kind.isLifecycle = true) (id' : AlertId) :
    t.eventCount kind id' = s.eventCount kind id' + if id' = id then kinds.count kind else 0 := by
  rw [eventCount_append h]
  congr 1
  split_ifs with heq
  · rw [← hkinds, List.count_filter hkind, List.count_eq_countP, List.countP_map]
    refine List.countP_congr fun event hevent => ?_
    simp [hid event hevent, heq]
  · refine List.countP_eq_zero.mpr fun event hevent hmatch => heq ?_
    rw [← hid event hevent]
    exact (of_decide_eq_true (Bool.and_eq_true_iff.mp hmatch).2).symm

theorem column_key_eq (s : AlertStore) (id : AlertId) :
    s.column AlertRow.key id = (s.life id).map Life.key := by
  rw [AlertStore.life, column, column, Option.map_map]
  rfl

theorem lifecycle_append (h : t.events = s.events ++ events)
    (hkeys : ∀ event ∈ s.events, event.kind.isLifecycle = true →
      t.column AlertRow.key event.alertInstanceId = s.column AlertRow.key event.alertInstanceId)
    (key : AlertKey) :
    t.lifecycle key = s.lifecycle key ++ (events.filter fun event =>
      event.kind.isLifecycle && t.column AlertRow.key event.alertInstanceId = some key).map
        AlertEvent.kind := by
  rw [lifecycle, h, List.filter_append, List.map_append]
  congr 2
  refine List.filter_congr fun event hevent => ?_
  rcases hkind : event.kind.isLifecycle with _ | _
  · rfl
  · rw [hkeys event hevent hkind]

theorem lifecycle_of_quiet (h : t.events = s.events ++ events)
    (hkeys : ∀ event ∈ s.events, event.kind.isLifecycle = true →
      t.column AlertRow.key event.alertInstanceId = s.column AlertRow.key event.alertInstanceId)
    (hquiet : ∀ event ∈ events, event.kind.isLifecycle = false) (key : AlertKey) :
    t.lifecycle key = s.lifecycle key := by
  have hnil : (events.filter fun event => event.kind.isLifecycle
      && t.column AlertRow.key event.alertInstanceId = some key) = [] := by
    refine List.filter_eq_nil_iff.mpr fun event hevent hmatch => ?_
    rw [hquiet event hevent] at hmatch
    exact Bool.noConfusion hmatch
  rw [lifecycle_append h hkeys, hnil, List.map_nil, List.append_nil]

theorem lifecycle_of_alert {id : AlertId} {kinds : List EventKind} {life : Life}
    (h : t.events = s.events ++ events)
    (hkeys : ∀ event ∈ s.events, event.kind.isLifecycle = true →
      t.column AlertRow.key event.alertInstanceId = s.column AlertRow.key event.alertInstanceId)
    (hid : ∀ event ∈ events, event.alertInstanceId = id) (hlife : t.life id = some life)
    (hkinds : (events.map AlertEvent.kind).filter EventKind.isLifecycle = kinds)
    (key : AlertKey) :
    t.lifecycle key = s.lifecycle key ++ if life.key = key then kinds else [] := by
  have hcolumn : t.column AlertRow.key id = some life.key := by
    rw [column_key_eq, hlife]
    rfl
  rw [lifecycle_append h hkeys]
  congr 1
  split_ifs with hkey
  · rw [← hkinds, List.filter_map]
    refine congrArg _ (List.filter_congr fun event hevent => ?_)
    rw [hid event hevent, hcolumn, hkey]
    simp
  · rw [List.filter_eq_nil_iff.mpr, List.map_nil]
    intro event hevent hmatch
    rw [hid event hevent, hcolumn] at hmatch
    exact hkey (Option.some.inj (of_decide_eq_true (Bool.and_eq_true_iff.mp hmatch).2))

end Events

def FiringOf (lives : AlertId → Option Life) (key : AlertKey) : Prop :=
  ∃ id life, lives id = some life ∧ life.key = key ∧ life.firing = true

theorem Life.not_firing {life : Life} (h : life.status = .recovered) : life.firing = false := by
  rw [Life.firing, h]
  rfl

theorem firingOf_iff {lives : AlertId → Option Life} {id : AlertId} {key : AlertKey}
    (hothers : OthersResolved lives id key) (hkey : ∀ life ∈ lives id, life.key = key) :
    FiringOf lives key ↔ (lives id).any Life.firing = true := by
  constructor
  · rintro ⟨id', life, hlife, hlifeKey, hfiring⟩
    by_cases hid : id' = id
    · subst hid
      rw [hlife]
      exact hfiring
    · rw [Life.not_firing (hothers id' life hid hlife hlifeKey)] at hfiring
      exact Bool.noConfusion hfiring
  · intro hany
    obtain ⟨life, hlife, hfiring⟩ := (Option.any_eq_true _ _).mp hany
    exact ⟨id, life, hlife, hkey life hlife, hfiring⟩

/-- The events of a key take turns, and say of a key in use whether an alert of it fires. -/
structure KeyInv (events : List EventKind) (inUse firing : Prop) : Prop where
  alternates : Alternates .fired .recovered events
  phase : inUse → (turn .fired .recovered events = .recovered ↔ firing)

theorem Change.keyInv {old : Option Life} {new : Life} {starts : Bool} {kinds : List EventKind}
    {events : List EventKind} (h : Change old new starts kinds)
    (hkey : KeyInv events True (old.any Life.firing = true)) :
    KeyInv (events ++ kinds.filter EventKind.isLifecycle) True (new.firing = true) := by
  have hphase := hkey.phase trivial
  have hturn := turn_cases EventKind.fired .recovered events
  rcases h.firing with ⟨-, hkinds, hold, hnew⟩ | ⟨-, hkinds, hold, hnew⟩ | ⟨-, hkinds, hold, -⟩
  · rw [hold] at hphase
    rcases hturn with ⟨hturn, hturn'⟩ | ⟨hturn, -⟩
    · rw [hkinds]
      refine ⟨?_, fun _ => ?_⟩
      · have hconcat := hkey.alternates.concat
        rwa [hturn] at hconcat
      · rw [turn_concat, hturn', hnew]
        simp
    · exact absurd (hphase.mp hturn) Bool.false_ne_true
  · rw [hold] at hphase
    rcases hturn with ⟨hturn, -⟩ | ⟨hturn, hturn'⟩
    · rw [hturn] at hphase
      exact absurd (hphase.mpr rfl) (by decide)
    · rw [hkinds]
      refine ⟨?_, fun _ => ?_⟩
      · have hconcat := hkey.alternates.concat
        rwa [hturn] at hconcat
      · rw [turn_concat, hturn', Life.not_firing hnew]
        simp
  · rw [hkinds, List.append_nil, hold]
    exact hkey

end DbsMonitor
