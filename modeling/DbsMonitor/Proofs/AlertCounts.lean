import DbsMonitor.Proofs.AlertLifecycle

/-!
# What the counts of an alert stand for

The rule asks for the last evaluations of a key to be all of one kind under one version (`LastAll`).
An alert keeps three counts instead. They are the lengths of the streaks the history ends in
(`Counted`), and a step of the alert keeps them so (`Counted.step`).
-/

namespace DbsMonitor

/-- An evaluation of a key. One that finds the key in `NO_DATA` and has a value restores the state
from before, and is not counted. -/
structure Assessment where
  version : ℕ
  evaluation : Evaluation
  restores : Bool
  deriving DecidableEq

def Assessment.countsFor (kind : Evaluation) (version : ℕ) (a : Assessment) : Bool :=
  a.evaluation = kind && a.version = version && !a.restores

/-- The last `n` evaluations are all of the kind, under the version of the rule. -/
def LastAll (history : List Assessment) (n : ℕ) (kind : Evaluation) (version : ℕ) : Prop :=
  n ≤ history.length ∧ ∀ a ∈ history.take n, a.countsFor kind version = true

instance (history : List Assessment) (n : ℕ) (kind : Evaluation) (version : ℕ) :
    Decidable (LastAll history n kind version) :=
  inferInstanceAs (Decidable (_ ∧ _))

def streak (history : List Assessment) (kind : Evaluation) (version : ℕ) : ℕ :=
  (history.takeWhile (Assessment.countsFor kind version)).length

section Streak

variable {history : List Assessment} {kind : Evaluation} {version : ℕ}

theorem streak_cons (a : Assessment) (history : List Assessment) (kind : Evaluation)
    (version : ℕ) :
    streak (a :: history) kind version
      = if a.countsFor kind version then streak history kind version + 1 else 0 := by
  unfold streak
  rw [List.takeWhile_cons]
  split_ifs <;> rfl

theorem lastAll_iff : ∀ {n : ℕ} {history : List Assessment},
    LastAll history n kind version ↔ n ≤ streak history kind version
  | 0, history => by simp [LastAll]
  | n + 1, [] => by simp [LastAll, streak]
  | n + 1, a :: history => by
    rw [streak_cons]
    by_cases ha : a.countsFor kind version = true
    · rw [if_pos ha, Nat.add_le_add_iff_right, ← lastAll_iff (n := n)]
      simp [LastAll, ha]
    · rw [if_neg ha]
      simp [LastAll, ha]

theorem streak_of_head (h : ∀ a ∈ history.head?, a.countsFor kind version = false) :
    streak history kind version = 0 := by
  rcases history with _ | ⟨a, history⟩
  · rfl
  · rw [streak_cons, h a rfl]
    rfl

theorem streak_of_version {version' : ℕ} (h : ∀ a ∈ history.head?, a.version = version')
    (hne : version' ≠ version) : streak history kind version = 0 := by
  refine streak_of_head fun a ha => ?_
  have hversion : a.version ≠ version := h a ha ▸ hne
  simp [Assessment.countsFor, hversion]

theorem streak_of_evaluation (h : ∀ a ∈ history.head?, a.evaluation ≠ kind) :
    streak history kind version = 0 := by
  refine streak_of_head fun a ha => ?_
  simp [Assessment.countsFor, h a ha]

end Streak

def Evaluation.hasValue (evaluation : Evaluation) : Bool :=
  evaluation ≠ .missing && evaluation ≠ .missingIgnored

def AlertState.assessment (state : AlertState) (version : ℕ) (evaluation : Evaluation) :
    Assessment :=
  { version := version, evaluation := evaluation
    restores := state = .noData && evaluation.hasValue }

/-- The counts of an alert are the streaks of the history, those of them that its state uses. -/
structure Counted (current : Snapshot) (version : ℕ) (history : List Assessment) : Prop where
  breaching : current.state = .ok ∨ current.state = .pending ∨ current.state = .recovered →
    current.breachCount = streak history .breaching version
  recovering : current.state = .firing →
    current.recoveryCount = streak history .recovering version
  missing : current.state ≠ .noData → current.state ≠ .recovered →
    current.noDataCount = streak history .missing version
  lost : current.state = .noData → current.breachCount = 0 ∧ current.recoveryCount = 0

/-- The evidence an evaluation goes by, for a key in `state`, with the state from before `NO_DATA`
in `before`, that is in `next` afterwards. The history has the evaluation. -/
structure Exact (state before : AlertState) (evaluation : Evaluation) (next : AlertState)
    (triggerCount recoveryCount version : ℕ) (history : List Assessment) : Prop where
  fires : state = .ok ∨ state = .pending ∨ state = .recovered →
    (next = .firing ↔ LastAll history triggerCount .breaching version)
  recovers : state = .firing →
    (next = .recovered ↔ LastAll history recoveryCount .recovering version)
  restores : state = .noData → next = if evaluation.hasValue then before else .noData
  loses : state ≠ .noData → state ≠ .recovered →
    (next = .noData ↔ LastAll history 2 .missing version)
  resolved : state = .recovered → next ≠ .noData

inductive Steps (triggerCount recoveryCount : ℕ) (c : Snapshot) : Evaluation → Snapshot → Prop
  | ignore (hlive : c.state ≠ .recovered) :
    Steps triggerCount recoveryCount c .missingIgnored
      { c with breachCount := 0, recoveryCount := 0, noDataCount := 0 }
  | miss (hlive : c.state ≠ .recovered) (h : c.noDataCount = 0 ∨ c.state = .noData) :
    Steps triggerCount recoveryCount c .missing
      { c with breachCount := 0, recoveryCount := 0, noDataCount := c.noDataCount + 1 }
  | lose (hlive : c.state ≠ .recovered) (hstate : c.state ≠ .noData) (h : 1 ≤ c.noDataCount) :
    Steps triggerCount recoveryCount c .missing
      { state := .noData, stateBeforeNoData := c.state, noDataCount := c.noDataCount + 1 }
  | restore {evaluation : Evaluation} (hvalue : evaluation.hasValue = true)
    (hstate : c.state = .noData) :
    Steps triggerCount recoveryCount c evaluation
      { c with state := c.stateBeforeNoData, stateBeforeNoData := .empty, noDataCount := 0 }
  | calm (hlive : c.state ≠ .recovered) (hstate : c.state ≠ .noData) :
    Steps triggerCount recoveryCount c .stable
      { c with
        breachCount := 0
        recoveryCount := 0
        noDataCount := 0
        state := if c.state = .pending then .ok else c.state }
  | breach (hstate : c.state = .ok ∨ c.state = .pending ∨ c.state = .recovered) :
    Steps triggerCount recoveryCount c .breaching
      { c with
        breachCount := c.breachCount + 1
        recoveryCount := 0
        noDataCount := 0
        state := if triggerCount ≤ c.breachCount + 1 then .firing else .pending }
  | persist (hstate : c.state = .firing) :
    Steps triggerCount recoveryCount c .breaching { c with recoveryCount := 0, noDataCount := 0 }
  | relieve (hstate : c.state = .firing) :
    Steps triggerCount recoveryCount c .recovering
      { c with
        breachCount := 0
        recoveryCount := c.recoveryCount + 1
        noDataCount := 0
        state := if recoveryCount ≤ c.recoveryCount + 1 then .recovered else .firing }
  | relax (hstate : c.state = .ok ∨ c.state = .pending) :
    Steps triggerCount recoveryCount c .recovering
      { c with breachCount := 0, noDataCount := 0, state := .ok }

section Step

variable {current next : Snapshot} {version triggerCount recoveryCount : ℕ}
  {history : List Assessment} {evaluation : Evaluation}

theorem steps_missing (hlive : current.state ≠ .recovered) :
    Steps triggerCount recoveryCount current .missing
      (current.step triggerCount recoveryCount .missing) := by
  simp only [Snapshot.step, if_neg hlive]
  split_ifs with hlost
  · exact .lose hlive hlost.2 (Nat.le_of_succ_le_succ hlost.1)
  · refine .miss hlive ?_
    by_cases hstate : current.state = .noData
    · exact .inr hstate
    · refine .inl ?_
      have hcount : ¬ 2 ≤ current.noDataCount + 1 := fun h => hlost ⟨h, hstate⟩
      omega

theorem steps_stepValue
    (hstate : current.state = .ok ∨ current.state = .pending ∨ current.state = .firing
      ∨ current.state = .recovered)
    (hresolved : current.state = .recovered → evaluation = .breaching)
    (hvalue : evaluation.hasValue = true) :
    Steps triggerCount recoveryCount current evaluation
      ({ current with noDataCount := 0 }.stepValue triggerCount recoveryCount evaluation) := by
  obtain ⟨state, before, breachCount, count, noDataCount⟩ := current
  dsimp only at hstate hresolved
  cases evaluation with
  | missing => exact Bool.noConfusion hvalue
  | missingIgnored => exact Bool.noConfusion hvalue
  | stable =>
    have hlive : state ≠ .recovered := fun h => nomatch hresolved h
    refine .calm hlive ?_
    rintro rfl
    simp at hstate
  | breaching =>
    rcases hstate with rfl | rfl | rfl | rfl
    · exact .breach (.inl rfl)
    · exact .breach (.inr (.inl rfl))
    · exact .persist rfl
    · exact .breach (.inr (.inr rfl))
  | recovering =>
    rcases hstate with rfl | rfl | rfl | rfl
    · exact .relax (.inl rfl)
    · exact .relax (.inr rfl)
    · exact .relieve rfl
    · exact nomatch hresolved rfl

theorem steps_step (hpaired : Paired current.state current.stateBeforeNoData)
    (hresolved : current.state = .recovered → evaluation = .breaching) :
    Steps triggerCount recoveryCount current evaluation
      (current.step triggerCount recoveryCount evaluation) := by
  by_cases hvalue : evaluation.hasValue = true
  · by_cases hnoData : current.state = .noData
    · have hstep : current.step triggerCount recoveryCount evaluation
          = { current with
              state := current.stateBeforeNoData
              stateBeforeNoData := .empty
              noDataCount := 0 } := by
        cases evaluation <;> first | exact Bool.noConfusion hvalue | exact if_pos hnoData
      rw [hstep]
      exact .restore hvalue hnoData
    · have hstep : current.step triggerCount recoveryCount evaluation
          = { current with noDataCount := 0 }.stepValue triggerCount recoveryCount evaluation := by
        cases evaluation <;> first | exact Bool.noConfusion hvalue | exact if_neg hnoData
      rw [hstep]
      rcases hpaired with ⟨hlost, -⟩ | ⟨hstate, -⟩
      · exact absurd hlost hnoData
      · exact steps_stepValue hstate hresolved hvalue
  · have hlive : current.state ≠ .recovered := by
      intro hrecovered
      rw [hresolved hrecovered] at hvalue
      exact hvalue rfl
    cases evaluation with
    | missing => exact steps_missing hlive
    | missingIgnored => exact .ignore hlive
    | _ => exact absurd rfl hvalue

theorem streak_assessment (kind : Evaluation) :
    streak (current.state.assessment version evaluation :: history) kind version
      = if evaluation = kind ∧ (current.state = .noData → evaluation.hasValue = false) then
          streak history kind version + 1
        else 0 := by
  rw [streak_cons]
  refine if_congr ?_ rfl rfl
  unfold Assessment.countsFor AlertState.assessment
  by_cases hnoData : current.state = .noData <;> simp [hnoData]

theorem streak_other {kind : Evaluation} (h : evaluation ≠ kind) :
    streak (current.state.assessment version evaluation :: history) kind version = 0 := by
  rw [streak_assessment, if_neg fun hboth => h hboth.1]

theorem streak_same (h : current.state = .noData → evaluation.hasValue = false) :
    streak (current.state.assessment version evaluation :: history) evaluation version
      = streak history evaluation version + 1 := by
  rw [streak_assessment, if_pos ⟨rfl, h⟩]

theorem streak_restored (hvalue : evaluation.hasValue = true) (hstate : current.state = .noData)
    (kind : Evaluation) :
    streak (current.state.assessment version evaluation :: history) kind version = 0 := by
  rw [streak_assessment, if_neg]
  rintro ⟨-, hnone⟩
  rw [hnone hstate] at hvalue
  exact Bool.noConfusion hvalue

theorem Counted.step (h : Counted current version history)
    (hstep : Steps triggerCount recoveryCount current evaluation next) :
    Counted next version (current.state.assessment version evaluation :: history) := by
  cases hstep with
  | ignore =>
    exact ⟨fun _ => (streak_other (by decide)).symm, fun _ => (streak_other (by decide)).symm,
      fun _ _ => (streak_other (by decide)).symm, fun _ => ⟨rfl, rfl⟩⟩
  | miss hlive =>
    refine ⟨fun _ => (streak_other (by decide)).symm, fun _ => (streak_other (by decide)).symm,
      fun hnoData _ => ?_, fun _ => ⟨rfl, rfl⟩⟩
    rw [streak_same fun _ => rfl, ← h.missing hnoData hlive]
  | lose =>
    exact ⟨by simp, by simp, fun hnoData => absurd rfl hnoData, fun _ => ⟨rfl, rfl⟩⟩
  | restore hvalue hstate =>
    obtain ⟨hbreach, hrecovery⟩ := h.lost hstate
    exact ⟨fun _ => by rw [streak_restored hvalue hstate]; exact hbreach,
      fun _ => by rw [streak_restored hvalue hstate]; exact hrecovery,
      fun _ _ => by rw [streak_restored hvalue hstate], fun _ => ⟨hbreach, hrecovery⟩⟩
  | calm =>
    exact ⟨fun _ => (streak_other (by decide)).symm, fun _ => (streak_other (by decide)).symm,
      fun _ _ => (streak_other (by decide)).symm, fun _ => ⟨rfl, rfl⟩⟩
  | breach hstate =>
    refine ⟨fun _ => ?_, fun _ => (streak_other (by decide)).symm,
      fun _ _ => (streak_other (by decide)).symm, ?_⟩
    · rw [streak_same, ← h.breaching hstate]
      intro hnoData
      simp [hnoData] at hstate
    · dsimp only
      split_ifs <;> exact fun hnoData => nomatch hnoData
  | persist hstate =>
    refine ⟨?_, fun _ => (streak_other (by decide)).symm,
      fun _ _ => (streak_other (by decide)).symm, ?_⟩
    · simp [hstate]
    · simp [hstate]
  | relieve hstate =>
    refine ⟨fun _ => (streak_other (by decide)).symm, fun _ => ?_,
      fun _ _ => (streak_other (by decide)).symm, ?_⟩
    · rw [streak_same, ← h.recovering hstate]
      intro hnoData
      simp [hnoData] at hstate
    · dsimp only
      split_ifs <;> exact fun hnoData => nomatch hnoData
  | relax =>
    exact ⟨fun _ => (streak_other (by decide)).symm, by simp,
      fun _ _ => (streak_other (by decide)).symm, by simp⟩

theorem not_lastAll {n : ℕ} {kind : Evaluation} (hn : 1 ≤ n) (h : streak history kind version = 0) :
    ¬ LastAll history n kind version := by
  rw [lastAll_iff, h]
  omega

theorem Counted.fires (h : Counted current version history)
    (hstep : Steps triggerCount recoveryCount current evaluation next) (htrigger : 1 ≤ triggerCount)
    (hstate : current.state = .ok ∨ current.state = .pending ∨ current.state = .recovered) :
    next.state = .firing
      ↔ LastAll (current.state.assessment version evaluation :: history) triggerCount .breaching
        version := by
  have hfiring : current.state ≠ .firing := by
    rcases hstate with h | h | h <;> simp [h]
  have hdata : current.state ≠ .noData := by
    rcases hstate with h | h | h <;> simp [h]
  have hnone : evaluation ≠ .breaching → next.state ≠ .firing →
      (next.state = .firing
        ↔ LastAll (current.state.assessment version evaluation :: history) triggerCount .breaching
          version) :=
    fun hother hnot => iff_of_false hnot (not_lastAll htrigger (streak_other hother))
  cases hstep with
  | ignore => exact hnone (by decide) hfiring
  | miss => exact hnone (by decide) hfiring
  | lose => exact hnone (by decide) (by simp)
  | restore _ hnoData => exact absurd hnoData hdata
  | calm =>
    refine hnone (by decide) ?_
    dsimp only
    split_ifs <;> simp [hfiring]
  | breach =>
    rw [lastAll_iff, streak_same fun hnoData => absurd hnoData hdata, ← h.breaching hstate]
    simp
  | persist hpersist => exact absurd hpersist hfiring
  | relieve hpersist => exact absurd hpersist hfiring
  | relax => exact hnone (by decide) (by simp)

theorem Counted.recovers (h : Counted current version history)
    (hstep : Steps triggerCount recoveryCount current evaluation next)
    (hrecovery : 1 ≤ recoveryCount) (hstate : current.state = .firing) :
    next.state = .recovered
      ↔ LastAll (current.state.assessment version evaluation :: history) recoveryCount .recovering
        version := by
  have hdata : current.state ≠ .noData := by simp [hstate]
  have hnone : evaluation ≠ .recovering → next.state ≠ .recovered →
      (next.state = .recovered
        ↔ LastAll (current.state.assessment version evaluation :: history) recoveryCount .recovering
          version) :=
    fun hother hnot => iff_of_false hnot (not_lastAll hrecovery (streak_other hother))
  cases hstep with
  | ignore hlive => exact hnone (by decide) hlive
  | miss hlive => exact hnone (by decide) hlive
  | lose => exact hnone (by decide) (by simp)
  | restore _ hnoData => exact absurd hnoData hdata
  | calm => exact hnone (by decide) (by simp [hstate])
  | breach hwaits => simp [hstate] at hwaits
  | persist => exact hnone (by decide) (by simp [hstate])
  | relieve =>
    rw [lastAll_iff, streak_same fun hnoData => absurd hnoData hdata, ← h.recovering hstate]
    simp
  | relax hwaits => simp [hstate] at hwaits

theorem Counted.loses (h : Counted current version history)
    (hstep : Steps triggerCount recoveryCount current evaluation next)
    (hdata : current.state ≠ .noData) (hlive : current.state ≠ .recovered) :
    next.state = .noData
      ↔ LastAll (current.state.assessment version evaluation :: history) 2 .missing version := by
  have hnone : evaluation ≠ .missing → next.state ≠ .noData →
      (next.state = .noData
        ↔ LastAll (current.state.assessment version evaluation :: history) 2 .missing version) :=
    fun hother hnot => iff_of_false hnot (not_lastAll (by omega) (streak_other hother))
  cases hstep with
  | ignore => exact hnone (by decide) hdata
  | miss _ hcount =>
    rw [lastAll_iff, streak_same fun _ => rfl, ← h.missing hdata hlive]
    refine iff_of_false hdata ?_
    have hzero := hcount.resolve_right hdata
    omega
  | lose _ _ hcount =>
    rw [lastAll_iff, streak_same fun _ => rfl, ← h.missing hdata hlive]
    exact iff_of_true rfl (by omega)
  | restore _ hnoData => exact absurd hnoData hdata
  | calm =>
    refine hnone (by decide) ?_
    dsimp only
    split_ifs <;> simp [hdata]
  | breach =>
    refine hnone (by decide) ?_
    dsimp only
    split_ifs <;> simp
  | persist hstate => exact hnone (by decide) hdata
  | relieve =>
    refine hnone (by decide) ?_
    dsimp only
    split_ifs <;> simp
  | relax => exact hnone (by decide) (by simp)

theorem Steps.restores (hstep : Steps triggerCount recoveryCount current evaluation next)
    (hstate : current.state = .noData) :
    next.state = if evaluation.hasValue then current.stateBeforeNoData else .noData := by
  cases hstep with
  | ignore => exact hstate
  | miss => exact hstate
  | lose _ hdata => exact absurd hstate hdata
  | restore hvalue => rw [if_pos hvalue]
  | calm _ hdata => exact absurd hstate hdata
  | breach hwaits => simp [hstate] at hwaits
  | persist hfiring => simp [hstate] at hfiring
  | relieve hfiring => simp [hstate] at hfiring
  | relax hwaits => simp [hstate] at hwaits

theorem Steps.resolved (hstep : Steps triggerCount recoveryCount current evaluation next)
    (hstate : current.state = .recovered) : next.state ≠ .noData := by
  cases hstep with
  | ignore hlive => exact absurd hstate hlive
  | miss hlive => exact absurd hstate hlive
  | lose hlive => exact absurd hstate hlive
  | restore _ hnoData => simp [hstate] at hnoData
  | calm hlive => exact absurd hstate hlive
  | breach =>
    dsimp only
    split_ifs <;> simp
  | persist hfiring => simp [hstate] at hfiring
  | relieve hfiring => simp [hstate] at hfiring
  | relax hwaits => simp [hstate] at hwaits

theorem Counted.exact (h : Counted current version history)
    (hstep : Steps triggerCount recoveryCount current evaluation next)
    (htrigger : 1 ≤ triggerCount) (hrecovery : 1 ≤ recoveryCount) :
    Exact current.state current.stateBeforeNoData evaluation next.state triggerCount recoveryCount
      version (current.state.assessment version evaluation :: history) where
  fires := h.fires hstep htrigger
  recovers := h.recovers hstep hrecovery
  restores := hstep.restores
  loses := h.loses hstep
  resolved := hstep.resolved

theorem exact_resolved {before : AlertState} (hevaluation : evaluation ≠ .breaching)
    (htrigger : 1 ≤ triggerCount) :
    Exact .recovered before evaluation .recovered triggerCount recoveryCount version
      (AlertState.recovered.assessment version evaluation :: history) where
  fires := fun _ => iff_of_false (by simp)
    (not_lastAll htrigger (streak_of_evaluation (by rintro _ ⟨⟩; exact hevaluation)))
  recovers := fun h => nomatch h
  restores := fun h => nomatch h
  loses := fun _ h => absurd rfl h
  resolved := fun _ => by simp

theorem Steps.recovering (hstep : Steps triggerCount recoveryCount current evaluation next)
    (hpaired : Paired current.state current.stateBeforeNoData) (hnext : next.state = .recovered) :
    evaluation = .recovering := by
  cases hstep with
  | ignore hlive => exact absurd hnext hlive
  | miss hlive => exact absurd hnext hlive
  | lose => exact AlertState.noConfusion hnext
  | restore _ hnoData =>
    dsimp only at hnext
    rw [hnoData, hnext] at hpaired
    exact absurd hpaired (by decide)
  | calm hlive =>
    dsimp only at hnext
    split_ifs at hnext
    exact absurd hnext hlive
  | breach =>
    dsimp only at hnext
    split_ifs at hnext
  | persist hfiring => simp [hfiring] at hnext
  | relieve => rfl
  | relax => rfl

end Step

end DbsMonitor
