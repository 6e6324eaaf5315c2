import DbsMonitor.Proofs.NotifierMoves

/-!
# What is checked before a channel is used

`DispatchOne` asks `ShouldDeliver` with one fact only, whether a maintenance window of the alert's
instance is in effect. The row of the SMTP channel has to be enabled to be used, that of a webhook
target only to be decrypted.
-/

namespace DbsMonitor

def ChannelRows.enabled (rows : ChannelRows) : Destination → Bool
  | .smtp _ => rows.smtp.any SMTPChannel.enabled
  | .webhook targetId _ => (targetId.bind rows.webhooks).any WebhookTarget.enabled

namespace Notifier

variable {s t : Notifier} {a : Action} {retryBackoffCap : RetryBackoffCap}

/-- A delivery of an alert passes by the decision of `ShouldDeliver` on the facts at the check, and
what is handed to a channel has passed. -/
structure DecidesOnFacts (s : Notifier) (a : Action) (t : Notifier) : Prop where
  check : ∀ call id row, a = .check → s.pass = .claimed call →
    s.deliveryAlert call.delivery = some (id, row) → s.clock < call.deadline →
    (t.pass = .passed call (s.suppressionFacts row)
      ↔ shouldDeliver call.delivery.eventType (s.suppressionFacts row) = true)
  attempt : ∀ call facts outcome, a = .attempt outcome → s.pass = .passed call facts →
    shouldDeliver call.delivery.eventType facts = true

/-- The window that the pass looks up is in effect if and only if the delivery is suppressed. -/
def WindowTells (s : Notifier) (a : Action) (_ : Notifier) : Prop :=
  ∀ call id row, a = .check → s.pass = .claimed call →
    s.deliveryAlert call.delivery = some (id, row) → s.clock < call.deadline →
    ((findActiveMaintenanceWindow s.settings.windows row.key.instanceId call.now).isSome = true
      ↔ (findActiveMaintenanceWindow s.settings.windows row.key.instanceId s.clock).isSome = true
        ∨ s.paused row.key.instanceId = true
        ∨ call.delivery.eventType = .repeating ∧ row.dispositions.disposition = .acked)

theorem passed_of_step (hinv : NotifyInv s) (h : step retryBackoffCap s a = some t)
    {call : DispatchCall} {facts : SuppressionFacts} (hpass : t.pass = .passed call facts) :
    s.pass = .passed call facts ∨ a = .check ∧ ∃ call', s.pass = .claimed call'
      ∧ t = s.check call' := by
  cases moves_of_step hinv.life h with
  | quiet _ _ _ _ hsame => exact .inl (hsame.symm.trans hpass)
  | go hgoes ht =>
    subst ht
    dsimp only at hpass
    cases hgoes with
    | check ha hclaimed hp =>
      subst hp
      exact .inr ⟨ha, _, hclaimed, (check_eq s _).symm⟩
    | rest hrest _ _ =>
      rw [hpass] at hrest
      exact nomatch hrest
    | _ => simp_all
  | clear ht =>
    subst ht
    exact .inl hpass
  | insert _ _ _ _ hsame _ _ => exact .inl (hsame.symm.trans hpass)
  | repeats _ _ _ _ _ hp ht =>
    subst ht
    rcases hp with rfl | ⟨-, rfl⟩ <;> exact nomatch hpass
  | @attempt call facts outcome ha hpassed ht =>
    obtain ⟨entry, error, heq, -⟩ := attempt_spec s call outcome
    rw [ht, heq] at hpass
    exact nomatch hpass
  | _ =>
    subst t
    exact nomatch hpass

theorem check_pass_iff {call : DispatchCall} {id : AlertId} {row : AlertRow}
    (halert : s.deliveryAlert call.delivery = some (id, row))
    (hdeadline : s.clock < call.deadline) :
    (s.check call).pass = .passed call (s.suppressionFacts row)
      ↔ ¬ (findActiveMaintenanceWindow s.settings.windows row.key.instanceId call.now).isSome
        = true := by
  unfold check
  rw [if_neg (not_le.mpr hdeadline), halert]
  dsimp only
  rw [shouldDeliver_maintenance]
  split_ifs with hwindow
  · simpa using hwindow
  · simpa using hwindow

theorem check_passed {call call' : DispatchCall} {facts : SuppressionFacts}
    (h : (s.check call').pass = .passed call facts) :
    call' = call ∧ s.clock < call.deadline
      ∧ (facts = {} ∨ ∃ id row, s.deliveryAlert call.delivery = some (id, row)
        ∧ facts = s.suppressionFacts row) := by
  unfold check at h
  split_ifs at h with hdeadline
  rcases halert : s.deliveryAlert call'.delivery with _ | ⟨id, row⟩
  · rw [halert] at h
    cases h
    exact ⟨rfl, not_le.mp hdeadline, .inl rfl⟩
  · rw [halert] at h
    dsimp only at h
    split_ifs at h
    cases h
    exact ⟨rfl, not_le.mp hdeadline, .inr ⟨id, row, halert, rfl⟩⟩

structure PassedInv (s : Notifier) : Prop where
  notify : NotifyInv s
  passed : ∀ call facts, s.pass = .passed call facts →
    shouldDeliver call.delivery.eventType facts = true

theorem passedInv_step (hinv : PassedInv s) (h : step retryBackoffCap s a = some t)
    (hdecides : DecidesOnFacts s a t) : PassedInv t := by
  refine ⟨notifyInv_step hinv.notify h, fun call facts hpass => ?_⟩
  rcases passed_of_step hinv.notify h hpass with hpassed | ⟨ha, call', hclaimed, ht⟩
  · exact hinv.passed call facts hpassed
  · have hchecked := hpass
    rw [ht] at hchecked
    obtain ⟨rfl, hdeadline, rfl | ⟨id, row, halert, rfl⟩⟩ := check_passed hchecked
    · exact shouldDeliver_maintenance _ _
    · exact (hdecides.check call' id row ha hclaimed halert hdeadline).mp hpass

/-- What is handed to a channel goes to a destination enabled in the rows the pass has read. -/
def HandsToEnabled (s : Notifier) (_ : Action) (t : Notifier) : Prop :=
  ∀ entry ∈ t.tries.drop s.tries.length, entry.message.isSome = true →
    entry.channels.enabled entry.delivery.destination = true

/-- A webhook target with a channel is enabled when a delivery to it is tried. -/
def TriesEnabledTargets (s : Notifier) (a : Action) (_ : Notifier) : Prop :=
  ∀ call facts outcome targetId url target, a = .attempt outcome → s.pass = .passed call facts →
    call.delivery.destination = .webhook (some targetId) url →
    call.channels.webhooks targetId = some target → target.decrypts = true →
    target.enabled = true

theorem enabled_of_hasChannel_iff (rows : ChannelRows) (destination : Destination) :
    (rows.hasChannel destination.channelKey = true → rows.enabled destination = true)
      ↔ ∀ targetId url target, destination = .webhook (some targetId) url →
        rows.webhooks targetId = some target → target.decrypts = true → target.enabled = true := by
  rcases destination with recipient | ⟨_ | targetId, url⟩
  · refine iff_of_true (fun h => ?_) fun _ _ _ h => nomatch h
    obtain ⟨smtp, hsmtp, hchannel⟩ := Option.any_eq_true .. |>.mp h
    exact Option.any_eq_true .. |>.mpr ⟨smtp, hsmtp, (Bool.and_eq_true _ _ |>.mp hchannel).1⟩
  · exact iff_of_true (fun h => nomatch h) fun _ _ _ h => nomatch h
  · rcases hrow : rows.webhooks targetId with _ | row
    · refine iff_of_true (fun h => ?_) ?_
      · rw [Destination.channelKey, ChannelRows.hasChannel, hrow] at h
        exact nomatch h
      · rintro _ _ target ⟨⟩ htarget
        exact nomatch hrow.symm.trans htarget
    · have hself : (rows.hasChannel (Destination.webhook (some targetId) url).channelKey = true →
          rows.enabled (.webhook (some targetId) url) = true)
          ↔ (row.decrypts = true → row.enabled = true) := by
        simp [Destination.channelKey, ChannelRows.hasChannel, ChannelRows.enabled, hrow]
      rw [hself]
      constructor
      · rintro henabled _ _ target ⟨⟩ htarget
        obtain rfl := Option.some.inj (hrow.symm.trans htarget)
        exact henabled
      · exact fun henabled => henabled targetId url row rfl hrow

section Example

/-- Collection is paused after the alert has fired, and then its mail is sent. -/
def pausedSend : List Action :=
  .configure mailSettings :: evaluates .breaching second
    ++ .pause "db" true "ops" (2 * second) :: opens (3 * second) ++ .matchRepeat :: hands 0 none

/-- A repeat fails, the alert is acknowledged, and the repeat is sent again. -/
def acknowledgedRepeat : List Action :=
  .configure mailSettings :: evaluates .breaching second ++ opens (2 * second)
    ++ .matchRepeat :: hands 0 none ++ .drained :: opens (62 * second)
    ++ [.matchRepeat, .enqueueRepeat, .matchRepeat] ++ hands 1 (some "connection refused")
    ++ .drained :: .dispose 0 { disposition := .acked } "ops" (63 * second) :: opens (64 * second)
    ++ .matchRepeat :: hands 1 none

def webhookSettings (enabled : Bool) : NotifySettings :=
  { mailSettings with
    webhooks := fun id =>
      if id = "pager" then some { enabled := enabled, url := "https://pager" } else none }

def disabledTarget : List Action :=
  [.configure (webhookSettings true), .testWebhook "pager" 0, .configure (webhookSettings false)]
    ++ opens second ++ .matchRepeat :: hands 0 none

end Example

end Notifier

end DbsMonitor
