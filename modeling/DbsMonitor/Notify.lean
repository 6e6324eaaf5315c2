import Mathlib.Tactic.Positivity
import DbsMonitor.AlertStore

/-!
# Notifications

A delivery stays `PENDING` until it was sent or has failed as often as it may, and between two
attempts it waits for its next attempt and for the lease of the last one.
-/

namespace DbsMonitor

abbrev DeliveryId := ℕ
abbrev PolicyId := String
abbrev ContactId := String
abbrev ContactGroupId := String
abbrev WebhookId := String

inductive EventType
  | firing
  | recovery
  | repeating
  | test
  | platformUnavailable
  deriving DecidableEq, Repr

def EventType.text : EventType → String
  | .firing => "FIRING"
  | .recovery => "RECOVERY"
  | .repeating => "REPEAT"
  | .test => "TEST"
  | .platformUnavailable => "PLATFORM_UNAVAILABLE"

/-- The event tells of a problem that lasts: `event_type IN ('FIRING', 'REPEAT')`. -/
def EventType.isProblem (event : EventType) : Bool := event = .firing || event = .repeating

def maxAttempts : ℕ := 3

structure Message where
  eventType : EventType
  recipient : String := ""
  subject : String
  body : String
  deriving DecidableEq, Repr

structure AlertPayload where
  alertInstanceId : String := ""
  ruleName : String := ""
  instanceName : String := ""
  metricId : String := ""
  severity : String := ""
  currentValue : String := ""
  deriving DecidableEq, Repr

structure SuppressionFacts where
  maintenance : Bool := false
  acknowledged : Bool := false
  paused : Bool := false
  deriving DecidableEq, Repr

def shouldDeliver (event : EventType) (facts : SuppressionFacts) : Bool :=
  if facts.maintenance || facts.paused then false
  else event ≠ .repeating || !facts.acknowledged

theorem shouldDeliver_iff (event : EventType) (facts : SuppressionFacts) :
    shouldDeliver event facts = true
      ↔ ¬ (facts.maintenance = true ∨ facts.paused = true
        ∨ event = .repeating ∧ facts.acknowledged = true) := by
  unfold shouldDeliver
  simp only [Bool.or_eq_true]
  split_ifs with hsuppressed
  · rw [← or_assoc]
    simp [hsuppressed]
  · rw [← or_assoc, or_iff_right hsuppressed]
    simp [imp_iff_not_or]

@[simp] theorem shouldDeliver_maintenance (event : EventType) (maintenance : Bool) :
    shouldDeliver event { maintenance := maintenance } = !maintenance := by
  cases maintenance <;> simp [shouldDeliver]

def formatAlertMessage (event : EventType) (payload : AlertPayload) : Option Message := do
  let label ← match event with
    | .firing => some "告警触发"
    | .recovery => some "告警恢复"
    | .repeating => some "告警仍在持续"
    | .test | .platformUnavailable => none
  return {
    eventType := event
    subject := "[DBS Monitor] " ++ label ++ "：" ++ payload.ruleName
    body := label ++ "\n\n规则：" ++ payload.ruleName ++ "\n实例：" ++ payload.instanceName
      ++ "\n指标：" ++ payload.metricId ++ "\n级别：" ++ payload.severity
      ++ "\n当前值：" ++ payload.currentValue ++ "\n告警实例：" ++ payload.alertInstanceId ++ "\n" }

def formatTestMessage : Message :=
  { eventType := .test, subject := "[DBS Monitor] 渠道测试通知"
    body := "这是一条 DBS Monitor 渠道测试通知。\n" }

/-- `notification_retry_backoff_cap`, which the server takes only when it is positive. -/
structure RetryBackoffCap where
  duration : ℤ
  duration_pos : 0 < duration

def retryDelay (failureCount : ℕ) (retryBackoffCap : RetryBackoffCap) : ℤ :=
  if failureCount = 0 then 0
  else
    let delay := second * 2 ^ (failureCount - 1)
    if retryBackoffCap.duration < delay then retryBackoffCap.duration else delay

theorem retryDelay_nonneg (failureCount : ℕ) (retryBackoffCap : RetryBackoffCap) :
    0 ≤ retryDelay failureCount retryBackoffCap := by
  unfold retryDelay
  have hcap := retryBackoffCap.duration_pos
  have hdelay : 0 < second * 2 ^ (failureCount - 1) := by
    have hsecond : 0 < second := by decide
    positivity
  dsimp only
  split_ifs <;> omega

def notificationDue (event : EventType) (lastNotification : Option ℤ) (repeatInterval : ℤ)
    (disposition : Disposition) (now : ℤ) : Bool :=
  match event with
  | .firing | .recovery => true
  | .repeating =>
    if disposition = .acked then false
    else lastNotification.any fun last => last + repeatInterval ≤ now
  | .test | .platformUnavailable => false

structure MaintenanceWindow where
  id : String
  instanceIds : List InstanceId
  startsAt : ℤ
  endsAt : ℤ
  deleted : Bool := false

def MaintenanceWindow.covers (window : MaintenanceWindow) (instanceId : InstanceId) (instant : ℤ) :
    Bool :=
  !(window.deleted || instant < window.startsAt || window.endsAt ≤ instant
    || !window.instanceIds.contains instanceId)

/-- The loop of `ActiveMaintenanceWindow`: of the windows that cover the instant the first to
end. -/
def activeMaintenanceWindow (instanceId : InstanceId) (instant : ℤ)
    (windows : List MaintenanceWindow) : Option MaintenanceWindow :=
  windows.foldl (fun active window =>
    if !window.covers instanceId instant then active
    else match active with
      | none => some window
      | some found =>
        if window.endsAt < found.endsAt ∨ window.endsAt = found.endsAt ∧ window.id < found.id then
          some window
        else active) none

/-- The windows of the instance are read with the instance as their only scope. -/
def findActiveMaintenanceWindow (windows : List MaintenanceWindow) (instanceId : InstanceId)
    (instant : ℤ) : Option String :=
  (activeMaintenanceWindow instanceId instant
    ((windows.filter fun window => window.instanceIds.contains instanceId && !window.deleted).map
      fun window => { window with instanceIds := [instanceId] })).map MaintenanceWindow.id

inductive PolicyChannel
  | smtp
  | webhook (targetId : WebhookId)
  deriving DecidableEq, Repr

structure NotificationPolicy where
  severityFilter : List Severity
  notifyOnFire : Bool := true
  notifyOnRecovery : Bool := true
  repeatInterval : ℤ := 3600
  channels : List PolicyChannel
  contacts : List ContactId := []
  contactGroups : List ContactGroupId := []
  severityFilter_ne : severityFilter ≠ []
  repeatInterval_pos : 0 < repeatInterval

/-- `decrypts`: the keyring of the server decrypts the secrets of the row. -/
structure SMTPChannel where
  enabled : Bool
  recipient : String
  decrypts : Bool := true
  deriving DecidableEq, Repr

structure WebhookTarget where
  enabled : Bool
  url : String
  decrypts : Bool := true
  deriving DecidableEq, Repr

structure NotifySettings where
  rulePolicy : String → Option PolicyId := fun _ => none
  defaultPolicy : Option PolicyId := none
  policies : PolicyId → Option NotificationPolicy := fun _ => none
  contacts : ContactId → Option String := fun _ => none
  groupMembers : ContactGroupId → List ContactId := fun _ => []
  smtp : Option SMTPChannel := none
  webhooks : WebhookId → Option WebhookTarget := fun _ => none
  windows : List MaintenanceWindow := []

/-- Where a delivery goes: `channel` and `channel_target_id` with `target`. A deleted target is
null. -/
inductive Destination
  | smtp (recipient : String)
  | webhook (targetId : Option WebhookId) (url : String)
  deriving DecidableEq, Repr

def Destination.clearTarget (webhooks : WebhookId → Option WebhookTarget) :
    Destination → Destination
  | .webhook (some targetId) url =>
    if (webhooks targetId).isNone then .webhook none url else .webhook targetId url
  | destination => destination

def NotificationPolicy.notifies (policy : NotificationPolicy) (severity : Severity)
    (event : EventType) : Bool :=
  policy.severityFilter.contains severity
    && match event with
      | .firing => policy.notifyOnFire
      | .recovery => policy.notifyOnRecovery
      | .repeating => true
      | .test | .platformUnavailable => false

namespace NotifySettings

variable (settings : NotifySettings)

def effectivePolicy (ruleId : String) : Option NotificationPolicy :=
  ((settings.rulePolicy ruleId).or settings.defaultPolicy).bind settings.policies

def selectedPolicy (ruleId : String) (severity : Severity) (event : EventType) :
    Option NotificationPolicy :=
  (settings.effectivePolicy ruleId).filter fun policy => policy.notifies severity event

/-- `smtp_recipients`: the contacts of the policy and those of its groups, each once. -/
def smtpRecipients (policy : NotificationPolicy) : List String :=
  if policy.channels.contains .smtp then
    ((policy.contacts ++ policy.contactGroups.flatMap settings.groupMembers).filterMap
      settings.contacts).dedup
  else []

def smtpDestinations (policy : NotificationPolicy) : List Destination :=
  match settings.smtp with
  | none => []
  | some smtp =>
    if smtp.enabled then
      let recipients := settings.smtpRecipients policy
      let recipients := if recipients = [] ∧ policy.channels.contains .smtp then [smtp.recipient]
        else recipients
      recipients.map .smtp
    else []

def webhookDestination : PolicyChannel → Option Destination
  | .smtp => none
  | .webhook targetId => do
    let target ← settings.webhooks targetId
    if target.enabled then return .webhook targetId target.url else none

def destinations (policy : NotificationPolicy) : List Destination :=
  settings.smtpDestinations policy ++ policy.channels.filterMap settings.webhookDestination

/-- The destinations of `EnqueueAlertNotifications`, for the columns of the alert it joins. -/
def eventDestinations (ruleId : String) (severity : Severity) (event : EventType) :
    List Destination :=
  match settings.selectedPolicy ruleId severity event with
  | none => []
  | some policy => settings.destinations policy

end NotifySettings

inductive DeliveryStatus
  | pending
  | sent
  | failed
  deriving DecidableEq, Repr

structure Delivery where
  id : DeliveryId
  alertInstanceId : Option AlertId := none
  eventType : EventType
  destination : Destination
  templateId : String
  payload : AlertPayload := {}
  status : DeliveryStatus := .pending
  attemptCount : ℕ := 0
  nextAttemptAt : ℤ
  createdAt : ℤ
  lockedUntil : Option ℤ := none
  completedAt : Option ℤ := none
  deriving DecidableEq, Repr

structure DeliveryAttempt where
  notificationId : DeliveryId
  attemptedAt : ℤ
  failureReason : Option String
  retryCount : ℕ
  deriving DecidableEq, Repr

def storableReason (reason : String) : Bool :=
  reason.toList.any (· ≠ ' ') && !reason.toList.contains '\x00'

structure NotifyStore where
  deliveries : List Delivery := []
  nextDelivery : DeliveryId := 0
  attempts : List DeliveryAttempt := []

namespace NotifyStore

variable (s : NotifyStore)

def delivery? (id : DeliveryId) : Option Delivery := s.deliveries.find? (·.id = id)

def updateDelivery (id : DeliveryId) (f : Delivery → Delivery) : NotifyStore :=
  { s with deliveries := s.deliveries.map fun row => if row.id = id then f row else row }

def newDeliveries (destinations : List Destination) (row : DeliveryId → Destination → Delivery) :
    List Delivery :=
  (destinations.zipIdx s.nextDelivery).map fun (destination, id) => row id destination

def insertDeliveries (destinations : List Destination)
    (row : DeliveryId → Destination → Delivery) : NotifyStore :=
  { s with
    deliveries := s.deliveries ++ s.newDeliveries destinations row
    nextDelivery := s.nextDelivery + destinations.length }

def deletePendingNotification (id : DeliveryId) : NotifyStore :=
  { s with
    deliveries := s.deliveries.filter fun row => !(row.id = id && row.status = .pending)
    attempts := s.attempts.filter fun attempt =>
      !(attempt.notificationId = id
        && s.deliveries.any fun row => row.id = id && row.status = .pending) }

def clearTargets (webhooks : WebhookId → Option WebhookTarget) : NotifyStore :=
  { s with
    deliveries := s.deliveries.map fun row =>
      { row with destination := row.destination.clearTarget webhooks } }

end NotifyStore

def Delivery.claimable (row : Delivery) (claimedAt : ℤ) : Bool :=
  row.status = .pending && row.nextAttemptAt ≤ claimedAt && row.lockedUntil.all (· ≤ claimedAt)

/-- The order in which rows are claimed; `false` both ways leaves it to the random identifier. -/
def Delivery.before (row row' : Delivery) : Bool :=
  row.nextAttemptAt < row'.nextAttemptAt
    || row.nextAttemptAt = row'.nextAttemptAt && row.createdAt < row'.createdAt

namespace NotifyStore

variable (s : NotifyStore)

def claimLease : ℤ := 30 * second

def claimDueNotification (id : DeliveryId) (claimedAt : ℤ) : Option (NotifyStore × Delivery) := do
  let row ← s.delivery? id
  guard (row.claimable claimedAt)
  guard (s.deliveries.all fun other => !(other.claimable claimedAt && other.before row))
  let lockedUntil := some (claimedAt + claimLease)
  return (s.updateDelivery id fun row => { row with lockedUntil := lockedUntil },
    { row with lockedUntil := lockedUntil })

def admitsAttempt (attempt : DeliveryAttempt) : Bool :=
  (s.delivery? attempt.notificationId).isSome && attempt.retryCount < maxAttempts
    && attempt.failureReason.all storableReason
    && s.attempts.all fun other =>
      !(other.notificationId = attempt.notificationId && other.retryCount = attempt.retryCount)

/-- The insert of an attempt with the update of its delivery, if that is still pending. -/
def recordAttempt (attempt : DeliveryAttempt) (f : Delivery → Delivery) : Option NotifyStore :=
  if s.admitsAttempt attempt then
    some (({ s with attempts := s.attempts ++ [attempt] } : NotifyStore).updateDelivery
      attempt.notificationId fun row => if row.status = .pending then f row else row)
  else none

def recordNotificationSent (id : DeliveryId) (attemptedAt : ℤ) (retryCount : ℕ) :
    Option NotifyStore :=
  s.recordAttempt
    { notificationId := id, attemptedAt := timestamptz attemptedAt, failureReason := none
      retryCount := retryCount }
    fun row => { row with
      status := .sent
      attemptCount := retryCount + 1
      lockedUntil := none
      completedAt := some (timestamptz attemptedAt) }

def recordNotificationFailure (id : DeliveryId) (attemptedAt : ℤ) (failureReason : String)
    (retryCount : ℕ) (terminal : Bool) (nextAttemptAt : ℤ) : Option NotifyStore :=
  s.recordAttempt
    { notificationId := id, attemptedAt := timestamptz attemptedAt
      failureReason := some failureReason, retryCount := retryCount }
    fun row => { row with
      status := if terminal then .failed else .pending
      attemptCount := retryCount + 1
      nextAttemptAt := timestamptz nextAttemptAt
      lockedUntil := none
      completedAt := if terminal then some (timestamptz attemptedAt) else none }

end NotifyStore

inductive ChannelKey
  | smtp
  | webhook (targetId : Option WebhookId)
  deriving DecidableEq, Repr

def Destination.channelKey : Destination → ChannelKey
  | .smtp _ => .smtp
  | .webhook targetId _ => .webhook targetId

structure ChannelRows where
  smtp : Option SMTPChannel
  webhooks : WebhookId → Option WebhookTarget

def ChannelRows.hasChannel (rows : ChannelRows) : ChannelKey → Bool
  | .smtp => rows.smtp.any fun smtp => smtp.enabled && smtp.decrypts
  | .webhook none => false
  | .webhook (some targetId) => (rows.webhooks targetId).any WebhookTarget.decrypts

def messageForDelivery (delivery : Delivery) : Except String Message :=
  let recipient := match delivery.destination with
    | .smtp recipient => recipient
    | .webhook _ url => url
  if delivery.eventType = .test then .ok { formatTestMessage with recipient := recipient }
  else match formatAlertMessage delivery.eventType delivery.payload with
    | some message => .ok { message with recipient := recipient }
    | none => .error ("unsupported notification event \"" ++ delivery.eventType.text ++ "\"")

/-- The failure of a delivery before a channel is used, or the message for its channel. -/
def prepareDelivery (rows : ChannelRows) (delivery : Delivery) : Except String Message := do
  let message ← messageForDelivery delivery
  if rows.hasChannel delivery.destination.channelKey then return message
  else
    let channel := match delivery.destination with
      | .smtp _ => "SMTP"
      | .webhook _ _ => "WEBHOOK"
    throw ("notification channel " ++ channel ++ " is unavailable")

theorem messageForDelivery_isOk {delivery : Delivery}
    (h : delivery.eventType ≠ .platformUnavailable) :
    ∃ message, messageForDelivery delivery = .ok message := by
  unfold messageForDelivery formatAlertMessage
  rcases htype : delivery.eventType with _ | _ | _ | _ | _
  · exact ⟨_, rfl⟩
  · exact ⟨_, rfl⟩
  · exact ⟨_, rfl⟩
  · exact ⟨_, rfl⟩
  · exact absurd htype h

theorem prepareDelivery_isSome {rows : ChannelRows} {delivery : Delivery}
    (h : delivery.eventType ≠ .platformUnavailable) :
    (prepareDelivery rows delivery).toOption.isSome
      ↔ rows.hasChannel delivery.destination.channelKey = true := by
  obtain ⟨message, hmessage⟩ := messageForDelivery_isOk h
  unfold prepareDelivery
  rw [hmessage]
  by_cases hchannel : rows.hasChannel delivery.destination.channelKey = true
  · simp [hchannel, bind, Except.bind, pure, Except.pure, Except.toOption]
  · simp [hchannel, bind, Except.bind, throw, throwThe, MonadExceptOf.throw, Except.toOption]

structure RepeatCandidate where
  alertInstanceId : AlertId
  instanceId : InstanceId
  disposition : Disposition
  repeatInterval : ℤ
  lastNotificationAt : ℤ
  payload : AlertPayload

structure NotifyView where
  alerts : AlertStore := {}
  notify : NotifyStore := {}
  settings : NotifySettings := {}

namespace NotifyView

variable (view : NotifyView)

def problemDeliveries (id : AlertId) : List Delivery :=
  view.notify.deliveries.filter fun row =>
    row.alertInstanceId = some id && row.eventType.isProblem

def suppressions (id : AlertId) : List AlertEvent :=
  view.alerts.events.filter fun event =>
    event.alertInstanceId = id && event.kind = .maintenanceSuppressed

def hasPending (id : AlertId) : Bool :=
  view.notify.deliveries.any fun row => row.alertInstanceId = some id && row.status = .pending

def lastNotificationAt (id : AlertId) (firstTriggeredAt : ℤ) : ℤ :=
  ((view.problemDeliveries id).map Delivery.createdAt
    ++ (view.suppressions id).map AlertEvent.evaluatedAt).foldl max firstTriggeredAt

def repeatCandidate (payload : AlertPayload) (id : AlertId) (row : AlertRow) :
    Option RepeatCandidate := do
  let policy ← view.settings.effectivePolicy row.key.ruleId
  let firstTriggeredAt ← row.firstTriggeredAt
  guard (row.status = .firing)
  guard (policy.severityFilter.contains row.severity)
  guard (view.problemDeliveries id ≠ [] ∨ view.suppressions id ≠ [])
  guard (!view.hasPending id)
  return { alertInstanceId := id, instanceId := row.key.instanceId
           disposition := row.dispositions.disposition, repeatInterval := policy.repeatInterval
           lastNotificationAt := view.lastNotificationAt id firstTriggeredAt, payload := payload }

def listRepeatCandidates (payloads : AlertId → AlertPayload) : List RepeatCandidate :=
  view.alerts.alerts.entries.filterMap fun entry =>
    view.repeatCandidate (payloads entry.1) entry.1 entry.2

def alertDestinations (id : AlertId) (event : EventType) : List Destination :=
  match view.alerts.alerts.lookup id with
  | none => []
  | some row => view.settings.eventDestinations row.key.ruleId row.severity event

end NotifyView

end DbsMonitor
