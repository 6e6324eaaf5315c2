import DbsMonitor.Health

/-!
# The roll-up does not depend on the order of the alerts

The loop of `RollupInstanceHealth` keeps counts, flags and a running choice. An alert acts on each
by a rule of its own, so the loop is three folds. Those of the counts and the flags commute. The
choice takes the first of the worst alerts: which one depends on the order, that it is a worst one
does not.
-/

namespace DbsMonitor

namespace HealthAlert

variable (alert : HealthAlert)

def attributable : Bool :=
  alert.exclusion = .included && (alert.state = .firing || alert.state = .noData) && !alert.ignored

def inert : Bool :=
  alert.exclusion ≠ .included || alert.state = .ok || alert.state = .pending

def attribution : HealthAttribution where
  ruleName := alert.ruleName
  currentValue := alert.currentValue

/-- One of the candidates, with the highest severity, and the earliest of those. -/
structure Worst (alerts : List HealthAlert) : Prop where
  mem : alert ∈ alerts
  attributable : alert.attributable
  le : ∀ other ∈ alerts, other.attributable →
    severityRank other.severity < severityRank alert.severity
      ∨ other.severity = alert.severity ∧ alert.firstTriggeredAt ≤ other.firstTriggeredAt

end HealthAlert

theorem severityRank_injective : Function.Injective severityRank := by
  intro first second h
  cases first <;> cases second <;> simp_all [severityRank]

def HealthFlags.add (now : ℤ) (flags : HealthFlags) (alert : HealthAlert) : HealthFlags :=
  let active := alert.exclusion = .included && (alert.state = .firing || alert.state = .noData)
  { flags with
    noData := flags.noData || (active && alert.state = .noData)
    recentlyRecovered := flags.recentlyRecovered
      || (alert.exclusion = .included && alert.state = .recovered
        && recoveredRecently alert.recoveredAt now)
    ignored := flags.ignored + if active && alert.ignored then 1 else 0 }

def HealthAlertCounts.addAlert (counts : HealthAlertCounts) (alert : HealthAlert) :
    HealthAlertCounts :=
  if alert.attributable then counts.add alert.severity else counts

def attributeStep : Option HealthAlert → HealthAlert → Option HealthAlert :=
  List.argAux fun candidate current => hasHigherAttributionPriority candidate current = true

namespace RollupState

variable (now : ℤ) (acc : RollupState) (alert : HealthAlert)

theorem counts_add : (acc.add now alert).counts = acc.counts.addAlert alert := by
  unfold add HealthAlertCounts.addAlert HealthAlert.attributable
  cases alert.exclusion <;> cases alert.state <;> cases alert.ignored <;>
    cases recoveredRecently alert.recoveredAt now <;> rfl

theorem flags_add : (acc.add now alert).flags = acc.flags.add now alert := by
  unfold add HealthFlags.add
  cases alert.exclusion <;> cases alert.state <;> cases alert.ignored <;>
    cases recoveredRecently alert.recoveredAt now <;> simp

theorem attributed_add : (acc.add now alert).attributed
    = if alert.attributable then attributeStep acc.attributed alert else acc.attributed := by
  have hchoice : (if acc.attributed.all (hasHigherAttributionPriority alert) then some alert
      else acc.attributed) = attributeStep acc.attributed alert := by
    cases h : acc.attributed with
    | none => rfl
    | some current => simp [attributeStep, List.argAux]
  rw [← hchoice]
  unfold add HealthAlert.attributable
  cases alert.exclusion <;> cases alert.state <;> cases alert.ignored <;>
    cases recoveredRecently alert.recoveredAt now <;> rfl

theorem add_inert (h : alert.inert) : acc.add now alert = acc := by
  unfold HealthAlert.inert at h
  unfold add
  cases hexclusion : alert.exclusion <;> cases hstate : alert.state <;> simp_all

end RollupState

namespace HealthRollupInput

variable (input : HealthRollupInput)

theorem counts_loop :
    input.loop.counts = input.alerts.foldl HealthAlertCounts.addAlert {} :=
  (List.foldl_hom RollupState.counts fun acc alert =>
    (RollupState.counts_add input.now acc alert).symm).symm

theorem flags_loop :
    input.loop.flags = input.alerts.foldl (HealthFlags.add input.now)
      { inMaintenance := input.inMaintenance
        configurationMissing := input.configurationMissing } :=
  (List.foldl_hom RollupState.flags fun acc alert =>
    (RollupState.flags_add input.now acc alert).symm).symm

theorem attributed_loop :
    input.loop.attributed
      = (input.alerts.filter HealthAlert.attributable).foldl attributeStep none := by
  rw [List.foldl_filter]
  exact (List.foldl_hom RollupState.attributed fun acc alert =>
    (RollupState.attributed_add input.now acc alert).symm).symm

end HealthRollupInput

theorem HealthAlertCounts.addAlert_comm (counts : HealthAlertCounts) (first second : HealthAlert) :
    (counts.addAlert first).addAlert second = (counts.addAlert second).addAlert first := by
  unfold addAlert
  cases first.attributable <;> cases second.attributable <;>
    cases first.severity <;> cases second.severity <;> rfl

theorem HealthFlags.add_comm (now : ℤ) (flags : HealthFlags) (first second : HealthAlert) :
    (flags.add now first).add now second = (flags.add now second).add now first := by
  simp only [add, HealthFlags.mk.injEq, true_and, and_true]
  exact ⟨Bool.or_right_comm _ _ _, Bool.or_right_comm _ _ _, Nat.add_right_comm _ _ _⟩

theorem hasHigherAttributionPriority_iff (candidate current : HealthAlert) :
    hasHigherAttributionPriority candidate current = true
      ↔ severityRank current.severity < severityRank candidate.severity
        ∨ severityRank current.severity = severityRank candidate.severity
          ∧ candidate.firstTriggeredAt < current.firstTriggeredAt := by
  unfold hasHigherAttributionPriority
  split_ifs with h
  · simp only [decide_eq_true_eq]
    omega
  · simp only [decide_eq_true_eq]
    omega

theorem mem_of_foldl_attributeStep {alert : HealthAlert} :
    ∀ {alerts : List HealthAlert} {attributed : Option HealthAlert},
      alerts.foldl attributeStep attributed = some alert →
        alert ∈ alerts ∨ attributed = some alert
  | [], attributed, h => .inr h
  | first :: alerts, attributed, h => by
    have ih : alert ∈ alerts ∨ attributeStep attributed first = some alert :=
      mem_of_foldl_attributeStep h
    rcases ih with hmem | hstep
    · exact .inl (List.mem_cons_of_mem _ hmem)
    · cases attributed with
      | none => simp_all [attributeStep, List.argAux]
      | some current =>
        simp only [attributeStep, List.argAux] at hstep
        split_ifs at hstep
        · simp_all
        · exact .inr hstep

theorem attributed_worst {input : HealthRollupInput} {alert : HealthAlert}
    (h : input.loop.attributed = some alert) : alert.Worst input.alerts := by
  rw [input.attributed_loop] at h
  have hmem : alert ∈ input.alerts.filter HealthAlert.attributable := by
    simpa using mem_of_foldl_attributeStep h
  obtain ⟨hmem, hattributable⟩ := List.mem_filter.mp hmem
  refine ⟨hmem, hattributable, fun other hother hcandidate => ?_⟩
  have hnot : ¬ hasHigherAttributionPriority other alert = true := by
    refine List.not_of_mem_foldl_argAux
      (fun candidate current => hasHigherAttributionPriority candidate current = true)
      ⟨fun first => ?_⟩ ⟨fun first second third => ?_⟩
      (List.mem_filter.mpr ⟨hother, hcandidate⟩) h
    · simp [hasHigherAttributionPriority_iff]
    · simp only [hasHigherAttributionPriority_iff]
      omega
  rw [hasHigherAttributionPriority_iff] at hnot
  by_cases heq : severityRank other.severity = severityRank alert.severity
  · exact .inr ⟨severityRank_injective heq, by omega⟩
  · exact .inl (by omega)

theorem attributed_isSome_iff (input : HealthRollupInput) :
    input.loop.attributed.isSome ↔ ∃ alert ∈ input.alerts, alert.attributable := by
  have hnone : input.loop.attributed = none
      ↔ input.alerts.filter HealthAlert.attributable = [] := by
    rw [input.attributed_loop]
    simp [attributeStep]
  rw [← Option.ne_none_iff_isSome, Ne, hnone, List.filter_eq_nil_iff]
  simp

theorem HealthAlert.Worst.eq {alerts alerts' : List HealthAlert} {alert alert' : HealthAlert}
    (h : alert.Worst alerts) (h' : alert'.Worst alerts') (hmem : ∀ a, a ∈ alerts ↔ a ∈ alerts') :
    alert'.severity = alert.severity ∧ alert'.firstTriggeredAt = alert.firstTriggeredAt := by
  rcases h.le alert' ((hmem _).mpr h'.mem) h'.attributable with hlt | ⟨hseverity, hle⟩
  · rcases h'.le alert ((hmem _).mp h.mem) h.attributable with hlt' | ⟨hseverity, -⟩
    · omega
    · rw [hseverity] at hlt
      omega
  · rcases h'.le alert ((hmem _).mp h.mem) h.attributable with hlt' | ⟨-, hle'⟩
    · rw [hseverity] at hlt'
      omega
    · exact ⟨hseverity, by omega⟩

theorem rollupInstanceHealth_perm (input : HealthRollupInput) {alerts : List HealthAlert}
    (h : alerts.Perm input.alerts) :
    (rollupInstanceHealth { input with alerts := alerts }).counts
        = (rollupInstanceHealth input).counts
      ∧ (rollupInstanceHealth { input with alerts := alerts }).flags
        = (rollupInstanceHealth input).flags := by
  constructor
  · simp only [rollupInstanceHealth, HealthRollupInput.counts_loop]
    exact h.foldl_eq' (fun first _ second _ counts => counts.addAlert_comm first second) _
  · simp only [rollupInstanceHealth, HealthRollupInput.flags_loop]
    exact h.foldl_eq' (fun first _ second _ flags => flags.add_comm input.now first second) _

theorem attribution_eq (input : HealthRollupInput) :
    (rollupInstanceHealth input).attribution
      = input.loop.attributed.map HealthAlert.attribution := rfl

theorem status_eq_of_counts_eq {input : HealthRollupInput} {alerts : List HealthAlert}
    (h : (rollupInstanceHealth { input with alerts := alerts }).counts
      = (rollupInstanceHealth input).counts) :
    (rollupInstanceHealth { input with alerts := alerts }).status
      = (rollupInstanceHealth input).status := by
  simp only [rollupInstanceHealth] at h ⊢
  rw [h]

theorem loop_filter_inert (input : HealthRollupInput) :
    HealthRollupInput.loop
        { input with alerts := input.alerts.filter fun alert => !alert.inert }
      = input.loop := by
  unfold HealthRollupInput.loop
  rw [List.foldl_filter]
  congr 1
  funext acc alert
  cases hinert : alert.inert with
  | true => simp [RollupState.add_inert _ _ _ hinert]
  | false => rfl

theorem rollupInstanceHealth_filter_inert (input : HealthRollupInput) :
    rollupInstanceHealth { input with alerts := input.alerts.filter fun alert => !alert.inert }
      = rollupInstanceHealth input := by
  simp only [rollupInstanceHealth]
  rw [loop_filter_inert]

theorem counts_insert_ignored (input : HealthRollupInput) {before after : List HealthAlert}
    {alert : HealthAlert} (hignored : alert.ignored) :
    (rollupInstanceHealth { input with alerts := before ++ alert :: after }).counts
      = (rollupInstanceHealth { input with alerts := before ++ after }).counts := by
  have hskip : ∀ counts : HealthAlertCounts, counts.addAlert alert = counts := by
    simp [HealthAlertCounts.addAlert, HealthAlert.attributable, hignored]
  simp only [rollupInstanceHealth, HealthRollupInput.counts_loop, List.foldl_append,
    List.foldl_cons, hskip]

theorem rollup_order_independent_and_worst (input : HealthRollupInput) :
    -- the order
    (∀ alerts, alerts.Perm input.alerts →
      (rollupInstanceHealth { input with alerts := alerts }).status
          = (rollupInstanceHealth input).status
        ∧ (rollupInstanceHealth { input with alerts := alerts }).counts
          = (rollupInstanceHealth input).counts
        ∧ (rollupInstanceHealth { input with alerts := alerts }).flags
          = (rollupInstanceHealth input).flags
        ∧ ((rollupInstanceHealth { input with alerts := alerts }).attribution = none
            ∧ (rollupInstanceHealth input).attribution = none
          ∨ ∃ first ∈ input.alerts, ∃ second ∈ input.alerts,
            (rollupInstanceHealth { input with alerts := alerts }).attribution
                = some first.attribution
              ∧ (rollupInstanceHealth input).attribution = some second.attribution
              ∧ first.severity = second.severity
              ∧ first.firstTriggeredAt = second.firstTriggeredAt))
    -- the attributed alert
    ∧ (∀ attribution, (rollupInstanceHealth input).attribution = some attribution →
      ∃ alert : HealthAlert, alert.Worst input.alerts ∧ attribution = alert.attribution)
    ∧ ((rollupInstanceHealth input).attribution.isSome
      ↔ ∃ alert ∈ input.alerts, alert.attributable)
    -- alerts that do not count
    ∧ (∀ alerts, (alerts.filter fun alert => !alert.inert)
        = (input.alerts.filter fun alert => !alert.inert) →
      rollupInstanceHealth { input with alerts := alerts } = rollupInstanceHealth input)
    ∧ ∀ before after alert, input.alerts = before ++ alert :: after → alert.ignored →
      (rollupInstanceHealth input).status
        = (rollupInstanceHealth { input with alerts := before ++ after }).status := by
  refine ⟨fun alerts hperm => ?_, fun attribution h => ?_, ?_, fun alerts h => ?_, ?_⟩
  · obtain ⟨hcounts, hflags⟩ := rollupInstanceHealth_perm input hperm
    refine ⟨status_eq_of_counts_eq hcounts, hcounts, hflags, ?_⟩
    have hmem : ∀ alert, alert ∈ input.alerts ↔ alert ∈ alerts := fun _ => hperm.mem_iff.symm
    have hsome : input.loop.attributed.isSome
        ↔ (HealthRollupInput.loop { input with alerts := alerts }).attributed.isSome := by
      simp only [attributed_isSome_iff, hmem]
    rw [attribution_eq, attribution_eq]
    cases hfirst : (HealthRollupInput.loop { input with alerts := alerts }).attributed with
    | none =>
      rw [hfirst] at hsome
      have hnone : input.loop.attributed = none := by simpa using hsome
      exact .inl ⟨rfl, by rw [hnone]; rfl⟩
    | some first =>
      rw [hfirst] at hsome
      obtain ⟨second, hsecond⟩ := Option.isSome_iff_exists.mp (hsome.mpr rfl)
      have hworst := attributed_worst hsecond
      have hworst' := attributed_worst hfirst
      refine .inr ⟨first, (hmem _).mpr hworst'.mem, second, hworst.mem, rfl, ?_,
        hworst.eq hworst' hmem⟩
      rw [hsecond]
      rfl
  · rw [attribution_eq, Option.map_eq_some_iff] at h
    obtain ⟨alert, halert, rfl⟩ := h
    exact ⟨alert, attributed_worst halert, rfl⟩
  · rw [attribution_eq, Option.isSome_map]
    exact attributed_isSome_iff input
  · have hfiltered := rollupInstanceHealth_filter_inert { input with alerts := alerts }
    rw [← hfiltered, ← rollupInstanceHealth_filter_inert input]
    simp only [h]
  · intro before after alert halerts hignored
    have hcounts : (rollupInstanceHealth { input with alerts := before ++ alert :: after }).counts
        = (rollupInstanceHealth { input with alerts := before ++ after }).counts :=
      counts_insert_ignored input hignored
    rw [← halerts] at hcounts
    exact (status_eq_of_counts_eq hcounts.symm).symm

end DbsMonitor
