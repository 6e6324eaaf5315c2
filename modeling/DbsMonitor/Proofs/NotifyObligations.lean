import DbsMonitor.Proofs.NotifierMoves

/-!
# No notification without a trace

`EnqueueAlertNotifications` inserts a row for each outlet of the policy, and nothing when there is
none: a policy without an SMTP channel that is enabled and without an enabled webhook target drops
the event.
-/

namespace DbsMonitor

open NotifyStore

namespace NotifySettings

variable (settings : NotifySettings) (policy : NotificationPolicy)

def HasOutlet : Prop :=
  PolicyChannel.smtp ∈ policy.channels ∧ settings.smtp.any SMTPChannel.enabled = true
    ∨ ∃ targetId, PolicyChannel.webhook targetId ∈ policy.channels
      ∧ (settings.webhooks targetId).any WebhookTarget.enabled = true

theorem smtpDestinations_ne_nil :
    settings.smtpDestinations policy ≠ []
      ↔ PolicyChannel.smtp ∈ policy.channels ∧ settings.smtp.any SMTPChannel.enabled = true := by
  unfold smtpDestinations
  rcases settings.smtp with _ | smtp
  · simp
  · dsimp only
    by_cases henabled : smtp.enabled = true
    · rw [if_pos henabled]
      by_cases hchannel : PolicyChannel.smtp ∈ policy.channels
      · by_cases hrecipients : settings.smtpRecipients policy = []
        · simp [hchannel, hrecipients, henabled]
        · simp [hchannel, hrecipients, henabled]
      · have hrecipients : settings.smtpRecipients policy = [] := by
          simp [smtpRecipients, hchannel]
        simp [hchannel, hrecipients]
    · rw [if_neg henabled]
      simp [henabled]

theorem webhookDestination_isSome (targetId : WebhookId) :
    (settings.webhookDestination (.webhook targetId)).isSome
      = (settings.webhooks targetId).any WebhookTarget.enabled := by
  unfold webhookDestination
  dsimp only
  rcases settings.webhooks targetId with _ | target
  · rfl
  · by_cases henabled : target.enabled = true <;> simp [henabled]

theorem destinations_ne_nil : settings.destinations policy ≠ [] ↔ settings.HasOutlet policy := by
  unfold destinations HasOutlet
  rw [Ne, List.append_eq_nil_iff, not_and_or]
  refine or_congr (settings.smtpDestinations_ne_nil policy) ?_
  rw [List.filterMap_eq_nil_iff]
  constructor
  · intro h
    push Not at h
    obtain ⟨channel, hchannel, hsome⟩ := h
    rcases channel with _ | targetId
    · exact absurd rfl hsome
    · refine ⟨targetId, hchannel, ?_⟩
      rw [← settings.webhookDestination_isSome]
      exact Option.isSome_iff_ne_none.mpr hsome
  · rintro ⟨targetId, hchannel, henabled⟩ hnone
    rw [← settings.webhookDestination_isSome, hnone _ hchannel] at henabled
    exact nomatch henabled

end NotifySettings

namespace Notifier

variable {s t : Notifier} {a : Action} {retryBackoffCap : RetryBackoffCap}

def logged (s t : Notifier) : List AlertEvent :=
  t.alerts.store.events.drop s.alerts.store.events.length

/-- An event outside maintenance that the effective policy of its alert includes. -/
structure Obliges (s t : Notifier) (event : AlertEvent) (type : EventType)
    (policy : NotificationPolicy) : Prop where
  mem : event ∈ s.logged t
  kind : (notificationOf event.kind).map Prod.fst = some type
  outside : event.inMaintenance = false
  includes : ∃ row, t.alerts.store.alerts.lookup event.alertInstanceId = some row
    ∧ t.settings.effectivePolicy row.key.ruleId = some policy
    ∧ policy.notifies row.severity type = true

def Leaves (s t : Notifier) (alertId : AlertId) (type : EventType) : Prop :=
  (∃ row ∈ t.notify.deliveries, s.notify.nextDelivery ≤ row.id
      ∧ row.alertInstanceId = some alertId ∧ row.eventType = type)
    ∨ ∃ failure ∈ s.logged t, failure.kind = .notificationFailed
      ∧ failure.alertInstanceId = alertId

def LeavesTrace (s : Notifier) (_ : Action) (t : Notifier) : Prop :=
  ∀ event type policy, Obliges s t event type policy → Leaves s t event.alertInstanceId type

def HasOutlets (s : Notifier) (_ : Action) (t : Notifier) : Prop :=
  ∀ event type policy, Obliges s t event type policy → s.settings.HasOutlet policy

theorem Obliges.alertDestinations {event : AlertEvent} {type : EventType}
    {policy : NotificationPolicy} (h : Obliges s t event type policy) :
    t.view.alertDestinations event.alertInstanceId type = t.settings.destinations policy := by
  obtain ⟨row, hrow, hpolicy, hnotifies⟩ := h.includes
  unfold NotifyView.alertDestinations NotifySettings.eventDestinations NotifySettings.selectedPolicy
  rw [show t.view.alerts.alerts.lookup event.alertInstanceId = some row from hrow]
  dsimp only
  rw [show t.view.settings.effectivePolicy row.key.ruleId = some policy from hpolicy,
    Option.filter_some, if_pos hnotifies]
  rfl

theorem evaluate_enqueues {metric : MetricEvaluation} {capture : TriggerSnapshotCapture}
    {payload : AlertPayload} {now : ℤ} (h : s.evaluate metric capture payload now = some t) :
    t.settings = s.settings ∧ OfEvaluation (s.logged t)
      ∧ ∃ rows, Inserts s.notify t.notify rows
        ∧ ∀ alert type, (∃ row ∈ rows, row.alertInstanceId = alert ∧ row.eventType = type)
          ↔ ∃ event ∈ s.logged t, alert = some event.alertInstanceId ∧ event.inMaintenance = false
            ∧ (notificationOf event.kind).map Prod.fst = some type
            ∧ t.view.alertDestinations event.alertInstanceId type ≠ [] := by
  unfold evaluate at h
  obtain ⟨target, hreading, h⟩ := Option.bind_eq_some_iff.mp h
  obtain ⟨alerts, halerts, h⟩ := Option.bind_eq_some_iff.mp h
  obtain ⟨rows, henqueues, hrows⟩ := enqueues_foldl_enqueueEvent payload now
    (alerts.store.events.drop s.alerts.store.events.length) { s with alerts := alerts }
  rw [Option.some.inj h] at henqueues
  have hframe := henqueues.frame
  have hlogged : s.logged t = alerts.store.events.drop s.alerts.store.events.length := by
    rw [hframe]
    rfl
  have hview : t.view.alertDestinations
      = ({ s with alerts := alerts } : Notifier).view.alertDestinations := by
    rw [hframe]
    rfl
  rw [hlogged, hview]
  refine ⟨by rw [hframe], ?_, rows, henqueues.inserts, hrows⟩
  obtain ⟨_, -, halerts⟩ := Option.bind_eq_some_iff.mp halerts
  obtain ⟨store, hevaluate, halerts⟩ := Option.bind_eq_some_iff.mp halerts
  cases halerts
  obtain ⟨events, hevents, hof⟩ := evaluateRule_events hevaluate
  dsimp only
  rwa [hevents, List.drop_left]

theorem leaves_iff_hasOutlet (hinv : NotifyInv s) (h : step retryBackoffCap s a = some t)
    {event : AlertEvent} {type : EventType} {policy : NotificationPolicy}
    (hobliges : Obliges s t event type policy) :
    Leaves s t event.alertInstanceId type ↔ s.settings.HasOutlet policy := by
  -- only an evaluation logs such an event
  have hlifecycle : event.kind.isLifecycle = true := by
    rcases notificationOf_some hobliges.kind with ⟨-, hkind⟩ | ⟨-, hkind⟩ <;> rw [hkind] <;> rfl
  obtain ⟨suppressed, hmoves⟩ := hinv.alerts_moves h
  obtain ⟨events, hevents, htells⟩ := hmoves.events
  have hmem := hobliges.mem
  rw [logged, hevents, List.drop_left] at hmem
  obtain ⟨metric, capture, payload, now, rfl⟩ := (htells event hmem).lifecycle hlifecycle
  simp only [step] at h
  split_ifs at h
  obtain ⟨hsettings, hof, rows, hinserts, hrows⟩ := evaluate_enqueues h
  rw [← hsettings, ← NotifySettings.destinations_ne_nil, ← hobliges.alertDestinations]
  constructor
  · rintro (⟨row, hrow, hid, halert, htype⟩ | ⟨failure, hfailure, hkind, -⟩)
    · rw [hinserts.deliveries] at hrow
      rcases List.mem_append.mp hrow with hrow | hrow
      · exact absurd (hinv.fresh row hrow) (Nat.not_lt.mpr hid)
      · obtain ⟨event', -, hsame, -, -, hdestinations⟩ :=
          (hrows _ _).mp ⟨row, hrow, halert, htype⟩
        rwa [Option.some.inj hsame]
    · rcases (hof failure hfailure).2 with hstate | ⟨hsuppressed, -⟩
      · rw [hkind] at hstate
        exact absurd hstate (by decide)
      · rw [hkind] at hsuppressed
        exact EventKind.noConfusion hsuppressed
  · intro hdestinations
    obtain ⟨row, hrow, halert, htype⟩ := (hrows (some event.alertInstanceId) type).mpr
      ⟨event, hobliges.mem, rfl, hobliges.outside, hobliges.kind, hdestinations⟩
    refine .inl ⟨row, ?_, (hinserts.ids row hrow).1, halert, htype⟩
    rw [hinserts.deliveries]
    exact List.mem_append_right _ hrow

/-- Every event to be notified leaves a trace exactly if the policies of such events have an
outlet. -/
theorem leaves_trace_iff (retryBackoffCap : RetryBackoffCap) (actions : List Action) :
    Machine.Along (step retryBackoffCap) LeavesTrace {} actions
      ↔ Machine.Along (step retryBackoffCap) HasOutlets {} actions := by
  refine Machine.along_congr (I := NotifyInv) (fun s a t hinv h => ?_) notifyInv_init
  refine ⟨?_, fun _ => notifyInv_step hinv h⟩
  exact forall_congr' fun event => forall_congr' fun type => forall_congr' fun policy =>
    forall_congr' fun hobliges => leaves_iff_hasOutlet hinv h hobliges

section Example

def noOutlet : List Action :=
  .configure { mailSettings with smtp := none } :: evaluates .breaching second

/-- The alert has fired outside maintenance, under a policy that includes it, without a trace. -/
theorem fired_without_trace :
    (Machine.run (step defaultRetryBackoffCap) {} noOutlet).map
        (fun s => (s.alerts.store.events.map fun event => (event.kind, event.inMaintenance),
          ((s.settings.effectivePolicy Alerts.activeSessionsKey.ruleId).map
            fun policy => policy.notifies Alerts.activeSessions.severity .firing),
          s.notify.deliveries.length, s.notify.attempts.length))
      = some ([(.fired, false)], some true, 0, 0) := by
  decide +kernel

end Example

end Notifier

end DbsMonitor
