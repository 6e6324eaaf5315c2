import DbsMonitor.CollectionPause
import DbsMonitor.Notify

/-!
# The notification loop

`drainNotifications` reads the channels, enqueues the due repeats and then dispatches the due
deliveries one by one. Other transactions commit between its statements. A delivery is dispatched
under a deadline: once it has passed, statements fail and the pass ends. A pass keeps the instant it
works with.

The state also remembers every delivery created and every attempt made, and a pass the tables it
listed its repeats from and the facts that held when it checked a delivery.
-/

namespace DbsMonitor

def notificationDeliveryTimeout : ℤ := 30 * second

structure DispatchCall where
  channels : ChannelRows
  now : ℤ
  deadline : ℤ
  delivery : Delivery

inductive Pass
  | idle
  | opened (smtp : Option SMTPChannel) (now : ℤ)
  | scheduling (channels : ChannelRows) (now : ℤ)
  | repeating (channels : ChannelRows) (now : ℤ) (listed : NotifyView)
    (candidates : List RepeatCandidate)
  | matched (channels : ChannelRows) (now : ℤ) (listed : NotifyView) (candidate : RepeatCandidate)
    (window : Option String) (candidates : List RepeatCandidate)
  | discarding (channels : ChannelRows) (now : ℤ) (listed : NotifyView)
    (candidate : RepeatCandidate) (window : Option String) (ids : List DeliveryId)
    (candidates : List RepeatCandidate)
  | dispatching (channels : ChannelRows) (now : ℤ)
  | claimed (call : DispatchCall)
  | suppressing (call : DispatchCall) (alertId : AlertId) (window : Option String)
  | passed (call : DispatchCall) (facts : SuppressionFacts)
  | attempted (call : DispatchCall) (error : Option String)

/-- An attempt at a delivery: with a message when handed to a channel, none when there was no
channel. -/
structure Try where
  channels : ChannelRows
  delivery : Delivery
  message : Option Message
  error : Option String

structure Notifier where
  alerts : Alerts := {}
  notify : NotifyStore := {}
  settings : NotifySettings := {}
  paused : InstanceId → Bool := fun _ => false
  clock : ℤ := 0
  pass : Pass := .idle
  created : List Delivery := []
  tries : List Try := []

def notificationOf : EventKind → Option (EventType × String)
  | .fired => some (.firing, "builtin.notification.firing.v1")
  | .recovered => some (.recovery, "builtin.notification.recovery.v1")
  | _ => none

namespace Notifier

variable (s : Notifier)

def view : NotifyView := { alerts := s.alerts.store, notify := s.notify, settings := s.settings }

def alertDelivery (alertId : AlertId) (event : EventType) (templateId : String)
    (payload : AlertPayload) (now : ℤ) (id : DeliveryId) (destination : Destination) : Delivery :=
  { id := id, alertInstanceId := some alertId, eventType := event, destination := destination
    templateId := templateId, payload := payload, nextAttemptAt := timestamptz now
    createdAt := timestamptz now }

def enqueueAlertNotifications (alertId : AlertId) (event : EventType) (templateId : String)
    (payload : AlertPayload) (now : ℤ) : Notifier :=
  let destinations := s.view.alertDestinations alertId event
  let row := alertDelivery alertId event templateId payload now
  { s with
    notify := s.notify.insertDeliveries destinations row
    created := s.created ++ s.notify.newDeliveries destinations row }

def recordSuppressed (alertId : AlertId) (window : Option String) (now : ℤ) : Notifier :=
  { s with
    alerts := { s.alerts with
      store := s.alerts.store.recordMaintenanceSuppressed alertId window now } }

/-- What an evaluation finds: the window of its instance, and whether its event is notified to
anyone. -/
def findings (target : EvaluationTargetRow) (metric : MetricEvaluation)
    (capture : TriggerSnapshotCapture) (now : ℤ) : Findings :=
  let next := nextSnapshot target (snapshotFromEvaluationTarget target) metric.outcome
  let event := if next.state = .recovered then EventType.recovery else .firing
  { metric := metric, capture := capture
    maintenance := findActiveMaintenanceWindow s.settings.windows target.key.instanceId now
    enqueued := s.settings.eventDestinations target.key.ruleId target.rule.severity event ≠ [] }

def enqueueEvent (payload : AlertPayload) (now : ℤ) (s : Notifier) (event : AlertEvent) :
    Notifier :=
  match notificationOf event.kind with
  | none => s
  | some (eventType, templateId) =>
    if event.inMaintenance then s
    else s.enqueueAlertNotifications event.alertInstanceId eventType templateId payload now

def evaluate (metric : MetricEvaluation) (capture : TriggerSnapshotCapture)
    (payload : AlertPayload) (now : ℤ) : Option Notifier := do
  let target ← s.alerts.reading
  let alerts ← s.alerts.step (.evaluate (s.findings target metric capture now) now)
  return (alerts.store.events.drop s.alerts.store.events.length).foldl (enqueueEvent payload now)
    { s with alerts := alerts }

def matchRepeat (channels : ChannelRows) (now : ℤ) (listed : NotifyView) :
    List RepeatCandidate → Notifier
  | [] => { s with pass := .dispatching channels now }
  | candidate :: candidates =>
    if notificationDue .repeating (some candidate.lastNotificationAt)
        (candidate.repeatInterval * second) candidate.disposition now then
      let window := findActiveMaintenanceWindow s.settings.windows candidate.instanceId now
      { s with pass := .matched channels now listed candidate window candidates }
    else { s with pass := .repeating channels now listed candidates }

def enqueueRepeat (channels : ChannelRows) (now : ℤ) (listed : NotifyView)
    (candidate : RepeatCandidate) (window : Option String) (candidates : List RepeatCandidate) :
    Notifier :=
  let destinations := s.view.alertDestinations candidate.alertInstanceId .repeating
  let ids := List.range' s.notify.nextDelivery destinations.length
  { s.enqueueAlertNotifications candidate.alertInstanceId .repeating
      "builtin.notification.repeat.v1" candidate.payload now with
    pass :=
      if !shouldDeliver .repeating { maintenance := window.isSome } && destinations ≠ [] then
        .discarding channels now listed candidate window ids candidates
      else .repeating channels now listed candidates }

def discardRepeat (channels : ChannelRows) (now : ℤ) (listed : NotifyView)
    (candidate : RepeatCandidate) (window : Option String) (candidates : List RepeatCandidate) :
    List DeliveryId → Notifier
  | [] =>
    { s.recordSuppressed candidate.alertInstanceId window now with
      pass := .repeating channels now listed candidates }
  | id :: ids =>
    { s with
      notify := s.notify.deletePendingNotification id
      pass := .discarding channels now listed candidate window ids candidates }

/-- What `ShouldDeliver` is meant to be asked about an alert, as it is now. -/
def suppressionFacts (row : AlertRow) : SuppressionFacts :=
  { maintenance :=
      (findActiveMaintenanceWindow s.settings.windows row.key.instanceId s.clock).isSome
    acknowledged := row.dispositions.disposition = .acked
    paused := s.paused row.key.instanceId }

def deliveryAlert (delivery : Delivery) : Option (AlertId × AlertRow) := do
  let id ← delivery.alertInstanceId
  let row ← s.alerts.store.alerts.lookup id
  return (id, row)

def check (call : DispatchCall) : Notifier :=
  if call.deadline ≤ s.clock then { s with pass := .idle }
  else match s.deliveryAlert call.delivery with
    | none => { s with pass := .passed call {} }
    | some (id, row) =>
      let window := findActiveMaintenanceWindow s.settings.windows row.key.instanceId call.now
      if shouldDeliver call.delivery.eventType { maintenance := window.isSome } then
        { s with pass := .passed call (s.suppressionFacts row) }
      else { s with pass := .suppressing call id window }

def suppressNotificationForMaintenance (delivery : Delivery) (alertId : AlertId)
    (window : Option String) (now : ℤ) : Notifier :=
  if (s.notify.delivery? delivery.id).any (·.status = .pending) then
    { s with notify := s.notify.deletePendingNotification delivery.id }.recordSuppressed alertId
      window now
  else s

def suppress (call : DispatchCall) (alertId : AlertId) (window : Option String) : Notifier :=
  if call.deadline ≤ s.clock then { s with pass := .idle }
  else { s.suppressNotificationForMaintenance call.delivery alertId window call.now with
    pass := .dispatching call.channels s.clock }

def attempt (call : DispatchCall) (outcome : Option String) : Notifier :=
  match prepareDelivery call.channels call.delivery with
  | .ok message =>
    { s with
      tries := s.tries ++ [{ channels := call.channels, delivery := call.delivery
                             message := some message, error := outcome }]
      pass := .attempted call outcome }
  | .error reason =>
    { s with
      tries := s.tries ++ [{ channels := call.channels, delivery := call.delivery
                             message := none, error := some reason }]
      pass := .attempted call (some reason) }

def recorded (retryBackoffCap : RetryBackoffCap) (call : DispatchCall) (error : Option String) :
    Option NotifyStore :=
  let retryCount := call.delivery.attemptCount
  match error with
  | none => s.notify.recordNotificationSent call.delivery.id call.now retryCount
  | some reason =>
    let failureCount := retryCount + 1
    let terminal : Bool := maxAttempts ≤ failureCount
    let nextAttemptAt :=
      if terminal then call.now else call.now + retryDelay failureCount retryBackoffCap
    s.notify.recordNotificationFailure call.delivery.id call.now reason retryCount terminal
      nextAttemptAt

def attemptEvent (call : DispatchCall) (error : Option String) : Option EventKind :=
  match error with
  | none => some .notificationSent
  | some _ =>
    if maxAttempts ≤ call.delivery.attemptCount + 1 then some .notificationFailed else none

def logAttempt (call : DispatchCall) (error : Option String) : AlertStore :=
  match attemptEvent call error,
      ((s.notify.delivery? call.delivery.id).filter (·.status = .pending)).bind s.deliveryAlert with
  | some kind, some (id, row) =>
    s.alerts.store.createAlertEvent (row.event id kind row.status (timestamptz call.now))
  | _, _ => s.alerts.store

def record (retryBackoffCap : RetryBackoffCap) (call : DispatchCall) (error : Option String) :
    Notifier :=
  if call.deadline ≤ s.clock then { s with pass := .idle }
  else match s.recorded retryBackoffCap call error with
    | none => { s with pass := .idle }
    | some notify =>
      { s with
        notify := notify
        alerts := { s.alerts with store := s.logAttempt call error }
        pass := .dispatching call.channels s.clock }

inductive Action
  | advance (clock : ℤ)
  | configure (settings : NotifySettings)
  | pause (instanceId : InstanceId) (paused : Bool) (actorId : String) (updatedAt : ℤ)
  | remove (instanceId : InstanceId) (actorId : String) (removedAt : ℤ)
  | dispose (id : AlertId) (columns : DispositionColumns) (actorId : String) (actedAt : ℤ)
  | read (key : AlertKey) (rule : EvaluationRule)
  | evaluate (metric : MetricEvaluation) (capture : TriggerSnapshotCapture)
    (payload : AlertPayload) (now : ℤ)
  | abandon
  | testSMTP (target : String) (now : ℤ)
  | testWebhook (targetId : WebhookId) (now : ℤ)
  | tick (now : ℤ)
  | readWebhooks
  | listRepeats (payloads : AlertId → AlertPayload)
  | matchRepeat
  | enqueueRepeat
  | discardRepeat
  | claim (id : DeliveryId)
  | drained
  | check
  | suppress
  | attempt (outcome : Option String)
  | record
  | fail

def insertTest (destination : Destination) (templateId : String) (now : ℤ) : Notifier :=
  let row := fun id destination =>
    ({ id := id, eventType := .test, destination := destination, templateId := templateId
       nextAttemptAt := timestamptz now, createdAt := timestamptz now } : Delivery)
  { s with
    notify := s.notify.insertDeliveries [destination] row
    created := s.created ++ s.notify.newDeliveries [destination] row }

/-- The rows that refer to a removed instance or webhook target go with it. -/
def removeScopes (instanceId : InstanceId) (settings : NotifySettings) : NotifySettings :=
  { settings with
    windows := settings.windows.map fun window =>
      { window with instanceIds := window.instanceIds.filter (· ≠ instanceId) } }

def step (retryBackoffCap : RetryBackoffCap) (s : Notifier) : Action → Option Notifier
  | .advance clock => if s.clock ≤ clock then some { s with clock := clock } else none
  | .configure settings =>
    some { s with settings := settings, notify := s.notify.clearTargets settings.webhooks }
  | .pause instanceId paused actorId updatedAt =>
    if s.paused instanceId = paused || s.alerts.removed instanceId
        || s.alerts.reading.any (·.key.instanceId = instanceId) then none
    else some { s with
      paused := Function.update s.paused instanceId paused
      alerts := { s.alerts with
        store := s.alerts.store.createCollectionPauseEvents instanceId
          (if paused then .frozen else .unfrozen) updatedAt actorId } }
  | .remove instanceId actorId removedAt => do
    let alerts ← s.alerts.step (.remove instanceId actorId removedAt)
    return { s with
      alerts := alerts
      paused := Function.update s.paused instanceId false
      settings := removeScopes instanceId s.settings }
  | .dispose id columns actorId actedAt => do
    let alerts ← s.alerts.step (.dispose id columns actorId actedAt)
    return { s with alerts := alerts }
  | .read key rule => do
    guard (!s.paused key.instanceId)
    let alerts ← s.alerts.step (.read key rule)
    return { s with alerts := alerts }
  | .evaluate metric capture payload now =>
    if now ≤ s.clock then s.evaluate metric capture payload now else none
  | .abandon => do
    let alerts ← s.alerts.step .abandon
    return { s with alerts := alerts }
  | .testSMTP target now =>
    if s.settings.smtp.any SMTPChannel.enabled then
      some (s.insertTest (.smtp target) "builtin.smtp.test.v1" now)
    else none
  | .testWebhook targetId now => do
    let target ← s.settings.webhooks targetId
    guard target.enabled
    return s.insertTest (.webhook targetId target.url) "builtin.webhook.test.v1" now
  | .tick now =>
    match s.pass with
    | .idle => if now ≤ s.clock then some { s with pass := .opened s.settings.smtp now } else none
    | _ => none
  | .readWebhooks =>
    match s.pass with
    | .opened smtp now =>
      some { s with pass := .scheduling { smtp := smtp, webhooks := s.settings.webhooks } now }
    | _ => none
  | .listRepeats payloads =>
    match s.pass with
    | .scheduling channels now =>
      some { s with
        pass := .repeating channels now s.view (s.view.listRepeatCandidates payloads) }
    | _ => none
  | .matchRepeat =>
    match s.pass with
    | .repeating channels now listed candidates =>
      some (s.matchRepeat channels now listed candidates)
    | _ => none
  | .enqueueRepeat =>
    match s.pass with
    | .matched channels now listed candidate window candidates =>
      some (s.enqueueRepeat channels now listed candidate window candidates)
    | _ => none
  | .discardRepeat =>
    match s.pass with
    | .discarding channels now listed candidate window ids candidates =>
      some (s.discardRepeat channels now listed candidate window candidates ids)
    | _ => none
  | .claim id =>
    match s.pass with
    | .dispatching channels now => do
      let (notify, delivery) ← s.notify.claimDueNotification id (timestamptz now)
      return { s with
        notify := notify
        pass := .claimed { channels := channels, now := now
                           deadline := s.clock + notificationDeliveryTimeout
                           delivery := delivery } }
    | _ => none
  | .drained =>
    match s.pass with
    | .dispatching _ now =>
      if s.notify.deliveries.any (·.claimable (timestamptz now)) then none
      else some { s with pass := .idle }
    | _ => none
  | .check =>
    match s.pass with
    | .claimed call => some (s.check call)
    | _ => none
  | .suppress =>
    match s.pass with
    | .suppressing call alertId window => some (s.suppress call alertId window)
    | _ => none
  | .attempt outcome =>
    match s.pass with
    | .passed call _ => some (s.attempt call outcome)
    | _ => none
  | .record =>
    match s.pass with
    | .attempted call error => some (s.record retryBackoffCap call error)
    | _ => none
  | .fail =>
    match s.pass with
    | .idle | .attempted _ _ => none
    | _ => some { s with pass := .idle }

end Notifier

end DbsMonitor
