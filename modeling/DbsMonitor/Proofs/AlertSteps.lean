import DbsMonitor.AlertStore

/-!
# What an evaluation does to an alert

An alert moves between its states by the transitions listed here (`transition_step`). Each keeps the
state and the one before `NO_DATA` paired, and the events that `stateEvents` derives for it name the
start and the end of firing exactly, also when data is lost in between (`Transition.crossing`).
-/

namespace DbsMonitor

def EventKind.isLifecycle (kind : EventKind) : Bool := kind = .fired || kind = .recovered

def Paired (state before : AlertState) : Prop :=
  (state = .noData ∧ (before = .ok ∨ before = .pending ∨ before = .firing))
    ∨ ((state = .ok ∨ state = .pending ∨ state = .firing ∨ state = .recovered)
      ∧ before = .empty)

def isFiring (state before : AlertState) : Bool :=
  state = .firing || (state = .noData && before = .firing)

theorem startsFiringLifecycle_eq (current next : Snapshot) :
    startsFiringLifecycle current next
      = (!isFiring current.state current.stateBeforeNoData && next.state = .firing) := by
  unfold startsFiringLifecycle isFiring
  rw [Bool.not_or, decide_not]

inductive Transition : AlertState → AlertState → AlertState → AlertState → Prop
  | stay {state before : AlertState} (h : state ≠ .recovered) : Transition state before state before
  | lose {state : AlertState} (h : state = .ok ∨ state = .pending ∨ state = .firing) :
    Transition state .empty .noData state
  | regain {before : AlertState} : Transition .noData before before .empty
  | wait {state : AlertState} (h : state = .ok ∨ state = .pending ∨ state = .recovered) :
    Transition state .empty .pending .empty
  | fire {state : AlertState} (h : state = .ok ∨ state = .pending ∨ state = .recovered) :
    Transition state .empty .firing .empty
  | calm : Transition .pending .empty .ok .empty
  | recover : Transition .firing .empty .recovered .empty

section Step

variable {triggerCount recoveryCount : ℕ} {evaluation : Evaluation}

theorem transition_stepValue (current : Snapshot)
    (hstate : current.state = .ok ∨ current.state = .pending ∨ current.state = .firing
      ∨ current.state = .recovered)
    (hbefore : current.stateBeforeNoData = .empty)
    (hresolved : current.state = .recovered → evaluation = .breaching) :
    Transition current.state current.stateBeforeNoData
      (current.stepValue triggerCount recoveryCount evaluation).state
      (current.stepValue triggerCount recoveryCount evaluation).stateBeforeNoData := by
  obtain ⟨state, before, breachCount, count, noDataCount⟩ := current
  dsimp only at hstate hbefore hresolved ⊢
  subst hbefore
  by_cases hbreaching : evaluation = .breaching
  · subst hbreaching
    by_cases hfiring : state = .firing
    · subst hfiring
      exact .stay (fun h => nomatch h)
    · have hwaits : state = .ok ∨ state = .pending ∨ state = .recovered := by tauto
      by_cases htrigger : triggerCount ≤ breachCount + 1
      · have hfire := Transition.fire hwaits
        rcases hwaits with rfl | rfl | rfl <;> simpa [Snapshot.stepValue, htrigger] using hfire
      · have hwait := Transition.wait hwaits
        rcases hwaits with rfl | rfl | rfl <;> simpa [Snapshot.stepValue, htrigger] using hwait
  · have hlive : state ≠ .recovered := fun h => hbreaching (hresolved h)
    have hstay : Transition state .empty state .empty := .stay hlive
    by_cases hstable : evaluation = .stable
    · subst hstable
      by_cases hpending : state = .pending
      · simpa [Snapshot.stepValue, hpending] using Transition.calm
      · simpa [Snapshot.stepValue, hpending] using hstay
    · rcases hstate with rfl | rfl | rfl | rfl
      · simpa [Snapshot.stepValue, hstable, hbreaching] using hstay
      · simpa [Snapshot.stepValue, hstable, hbreaching] using Transition.calm
      · by_cases hrecovers : recoveryCount ≤ count + 1
        · simpa [Snapshot.stepValue, hstable, hbreaching, hrecovers] using Transition.recover
        · simpa [Snapshot.stepValue, hstable, hbreaching, hrecovers] using hstay
      · exact absurd rfl hlive

variable {current : Snapshot}

theorem transition_missing (h : Paired current.state current.stateBeforeNoData)
    (hlive : current.state ≠ .recovered) :
    Transition current.state current.stateBeforeNoData
      (current.step triggerCount recoveryCount .missing).state
      (current.step triggerCount recoveryCount .missing).stateBeforeNoData := by
  simp only [Snapshot.step, if_neg hlive]
  split_ifs with hlost
  · rcases h with ⟨hnoData, -⟩ | ⟨hstate, hbefore⟩
    · exact absurd hnoData hlost.2
    · rw [hbefore]
      exact .lose (by tauto)
  · exact .stay hlive

theorem transition_step (h : Paired current.state current.stateBeforeNoData)
    (hresolved : current.state = .recovered → evaluation = .breaching) :
    Transition current.state current.stateBeforeNoData
      (current.step triggerCount recoveryCount evaluation).state
      (current.step triggerCount recoveryCount evaluation).stateBeforeNoData := by
  by_cases hignored : evaluation = .missingIgnored
  · subst hignored
    exact .stay (fun h => nomatch hresolved h)
  · by_cases hmissing : evaluation = .missing
    · subst hmissing
      exact transition_missing h (fun h => nomatch hresolved h)
    · have hstep : current.step triggerCount recoveryCount evaluation
          = if current.state = .noData then
              { current with
                noDataCount := 0
                state := current.stateBeforeNoData
                stateBeforeNoData := .empty }
            else { current with noDataCount := 0 }.stepValue triggerCount recoveryCount
              evaluation := by
        cases evaluation <;> first | rfl | contradiction
      rw [hstep]
      split_ifs with hnoData
      · rw [hnoData]
        exact .regain
      · rcases h with ⟨hlost, -⟩ | ⟨hstate, hbefore⟩
        · exact absurd hlost hnoData
        · exact transition_stepValue { current with noDataCount := 0 } hstate hbefore hresolved

theorem transition_nextSnapshot (target : EvaluationTargetRow)
    (h : Paired current.state current.stateBeforeNoData)
    (hresolved : current.state = .recovered → evaluation = .breaching) :
    Transition current.state current.stateBeforeNoData
      (nextSnapshot target current evaluation).state
      (nextSnapshot target current evaluation).stateBeforeNoData :=
  transition_step h hresolved

end Step

instance (state before : AlertState) : Decidable (Paired state before) := by
  unfold Paired
  infer_instance

/-- What a transition is to the firing of the alert: its start, its end, or neither. -/
structure Crossing (state before state' before' : AlertState) : Prop where
  paired : Paired state' before'
  events : ((!isFiring state before && state' = .firing) = true
      ∧ (stateEvents state state').filter EventKind.isLifecycle = [.fired])
    ∨ (state = .firing ∧ state' = .recovered
      ∧ (stateEvents state state').filter EventKind.isLifecycle = [.recovered])
    ∨ ((!isFiring state before && state' = .firing) = false ∧ state' ≠ .recovered
      ∧ isFiring state' before' = isFiring state before
      ∧ (stateEvents state state').filter EventKind.isLifecycle = [])

theorem Transition.crossing {state before state' before' : AlertState}
    (h : Transition state before state' before') (hpaired : Paired state before) :
    Crossing state before state' before' := by
  unfold Paired at hpaired
  rcases hpaired with ⟨rfl, rfl | rfl | rfl⟩ | ⟨rfl | rfl | rfl | rfl, rfl⟩ <;> cases h <;>
    first | contradiction | exact ⟨by decide, by decide⟩

end DbsMonitor
