import DbsMonitor.Notifier
import DbsMonitor.Proofs.AlertMoves

/-!
# What a step of the notification loop does

The steps are sorted by what they do to the deliveries (`Notifier.Moves`): most leave them alone, or
only take the pass further (`Notifier.Goes`), some insert new ones, and one each claims, suppresses,
tries and records a delivery. Every run keeps the tables in order (`NotifyInv`).
-/

namespace DbsMonitor

namespace NotifyStore

variable {s t u : NotifyStore} {row : Delivery} {id : DeliveryId}

theorem mem_updateDelivery {f : Delivery → Delivery} :
    row ∈ (s.updateDelivery id f).deliveries
      ↔ ∃ old ∈ s.deliveries, (if old.id = id then f old else old) = row :=
  List.mem_map

theorem delivery?_some (h : s.delivery? id = some row) : row ∈ s.deliveries ∧ row.id = id :=
  ⟨List.mem_of_find?_eq_some h, by simpa using List.find?_some h⟩

theorem delivery?_isSome (h : row ∈ s.deliveries) : (s.delivery? row.id).isSome :=
  List.find?_isSome.mpr ⟨row, h, decide_eq_true rfl⟩

theorem mem_deletePendingNotification :
    row ∈ (s.deletePendingNotification id).deliveries
      ↔ row ∈ s.deliveries ∧ ¬ (row.id = id ∧ row.status = .pending) := by
  rw [deletePendingNotification, List.mem_filter]
  simp [imp_iff_not_or]

theorem eq_of_id (hunique : (s.deliveries.map Delivery.id).Nodup) {row' : Delivery}
    (h : row ∈ s.deliveries) (h' : row' ∈ s.deliveries) (hid : row.id = row'.id) : row = row' :=
  List.inj_on_of_nodup_map hunique h h' hid

theorem recordAttempt_some {attempt : DeliveryAttempt} {f : Delivery → Delivery}
    (h : s.recordAttempt attempt f = some t) :
    s.admitsAttempt attempt = true
      ∧ t = { s with
        attempts := s.attempts ++ [attempt]
        deliveries := s.deliveries.map fun row =>
          if row.id = attempt.notificationId ∧ row.status = .pending then f row else row } := by
  unfold recordAttempt at h
  split_ifs at h with hadmits
  refine ⟨hadmits, (Option.some.inj h).symm.trans ?_⟩
  unfold updateDelivery
  simp only [ite_and]

structure Inserts (s t : NotifyStore) (rows : List Delivery) : Prop where
  deliveries : t.deliveries = s.deliveries ++ rows
  attempts : t.attempts = s.attempts
  next : s.nextDelivery ≤ t.nextDelivery
  ids : ∀ row ∈ rows, s.nextDelivery ≤ row.id ∧ row.id < t.nextDelivery
  unique : (rows.map Delivery.id).Nodup
  new : ∀ row ∈ rows, row.status = .pending ∧ row.attemptCount = 0
    ∧ row.createdAt ≤ row.nextAttemptAt ∧ timestamptz row.createdAt = row.createdAt

theorem Inserts.refl : Inserts s s [] :=
  ⟨(List.append_nil _).symm, rfl, le_rfl, (fun _ h => nomatch h), List.nodup_nil,
    fun _ h => nomatch h⟩

theorem Inserts.trans {rows rows' : List Delivery} (h : Inserts s t rows)
    (h' : Inserts t u rows') : Inserts s u (rows ++ rows') := by
  refine ⟨by rw [h'.deliveries, h.deliveries, List.append_assoc], h'.attempts.trans h.attempts,
    h.next.trans h'.next, fun row hrow => ?_, ?_, fun row hrow => ?_⟩
  · rcases List.mem_append.mp hrow with hrow | hrow
    · exact ⟨(h.ids row hrow).1, (h.ids row hrow).2.trans_le h'.next⟩
    · exact ⟨h.next.trans (h'.ids row hrow).1, (h'.ids row hrow).2⟩
  · rw [List.map_append]
    refine h.unique.append h'.unique fun id hid hid' => ?_
    obtain ⟨row, hrow, rfl⟩ := List.mem_map.mp hid
    obtain ⟨row', hrow', heq⟩ := List.mem_map.mp hid'
    have hge := (h'.ids row' hrow').1
    rw [heq] at hge
    exact Nat.not_lt.mpr hge (h.ids row hrow).2
  · exact (List.mem_append.mp hrow).elim (h.new row) (h'.new row)

theorem newDeliveries_ids {destinations : List Destination}
    {mk : DeliveryId → Destination → Delivery}
    (hid : ∀ id destination, (mk id destination).id = id) :
    (s.newDeliveries destinations mk).map Delivery.id
      = List.range' s.nextDelivery destinations.length := by
  rw [newDeliveries, List.map_map, ← List.zipIdx_map_snd]
  exact List.map_congr_left fun entry _ => hid _ _

theorem mem_newDeliveries {destinations : List Destination}
    {mk : DeliveryId → Destination → Delivery} (h : row ∈ s.newDeliveries destinations mk) :
    ∃ id, ∃ destination ∈ destinations, row = mk id destination := by
  obtain ⟨⟨destination, id⟩, hmem, rfl⟩ := List.mem_map.mp h
  obtain ⟨-, -, hget⟩ := List.mem_zipIdx hmem
  exact ⟨id, destination, hget ▸ List.getElem_mem _, rfl⟩

theorem inserts_insertDeliveries {destinations : List Destination}
    {mk : DeliveryId → Destination → Delivery} (hid : ∀ id destination, (mk id destination).id = id)
    (hnew : ∀ id destination, (mk id destination).status = .pending
      ∧ (mk id destination).attemptCount = 0
      ∧ (mk id destination).createdAt ≤ (mk id destination).nextAttemptAt
      ∧ timestamptz (mk id destination).createdAt = (mk id destination).createdAt) :
    Inserts s (s.insertDeliveries destinations mk) (s.newDeliveries destinations mk) := by
  refine ⟨rfl, rfl, Nat.le_add_right _ _, fun row hrow => ?_, ?_, fun row hrow => ?_⟩
  · have hmem := List.mem_map_of_mem (f := Delivery.id) hrow
    rw [newDeliveries_ids hid] at hmem
    exact List.mem_range'_1.mp hmem
  · rw [newDeliveries_ids hid]
    exact List.nodup_range'
  · obtain ⟨id, destination, -, rfl⟩ := mem_newDeliveries hrow
    exact hnew id destination

end NotifyStore

open NotifyStore AlertStore

structure Lists (view : NotifyView) (candidate : RepeatCandidate) (row : AlertRow)
    (firstTriggeredAt : ℤ) (policy : NotificationPolicy) : Prop where
  alert : view.alerts.alerts.lookup candidate.alertInstanceId = some row
  status : row.status = .firing
  triggered : row.firstTriggeredAt = some firstTriggeredAt
  disposition : candidate.disposition = row.dispositions.disposition
  effective : view.settings.effectivePolicy row.key.ruleId = some policy
  interval : candidate.repeatInterval = policy.repeatInterval
  last : candidate.lastNotificationAt
    = view.lastNotificationAt candidate.alertInstanceId firstTriggeredAt
  idle : view.hasPending candidate.alertInstanceId = false

theorem lists_of_repeatCandidate {view : NotifyView} {payload : AlertPayload} {id : AlertId}
    {row : AlertRow} {candidate : RepeatCandidate}
    (h : view.repeatCandidate payload id row = some candidate)
    (hrow : view.alerts.alerts.lookup id = some row) :
    candidate.alertInstanceId = id
      ∧ ∃ firstTriggeredAt policy, Lists view candidate row firstTriggeredAt policy := by
  unfold NotifyView.repeatCandidate at h
  obtain ⟨policy, hpolicy, h⟩ := Option.bind_eq_some_iff.mp h
  obtain ⟨firstTriggeredAt, htriggered, h⟩ := Option.bind_eq_some_iff.mp h
  obtain ⟨_, hstatus, h⟩ := Option.bind_eq_some_iff.mp h
  obtain ⟨_, -, h⟩ := Option.bind_eq_some_iff.mp h
  obtain ⟨_, -, h⟩ := Option.bind_eq_some_iff.mp h
  obtain ⟨_, hidle, h⟩ := Option.bind_eq_some_iff.mp h
  cases h
  exact ⟨rfl, firstTriggeredAt, policy, hrow, Machine.of_guard hstatus, htriggered, rfl, hpolicy,
    rfl, rfl, by simpa using Machine.of_guard hidle⟩

theorem lists_of_mem {view : NotifyView} {payloads : AlertId → AlertPayload}
    {candidate : RepeatCandidate} (h : candidate ∈ view.listRepeatCandidates payloads) :
    ∃ row firstTriggeredAt policy, Lists view candidate row firstTriggeredAt policy := by
  obtain ⟨⟨id, row⟩, hentry, h⟩ := List.mem_filterMap.mp h
  exact ⟨row, (lists_of_repeatCandidate h
    (List.mem_dlookup view.alerts.alerts.nodupKeys hentry)).2⟩

theorem listRepeatCandidates_nodup (view : NotifyView) (payloads : AlertId → AlertPayload) :
    ((view.listRepeatCandidates payloads).map RepeatCandidate.alertInstanceId).Nodup := by
  have hkeys := List.nodupKeys_iff_pairwise.mp view.alerts.alerts.nodupKeys
  rw [List.Nodup, List.pairwise_map]
  refine List.Pairwise.filterMap _ ?_ (List.Pairwise.and_mem.mp hkeys)
  rintro ⟨id, row⟩ ⟨id', row'⟩ ⟨hentry, hentry', hne⟩ candidate hcandidate candidate' hcandidate'
  have hlookup : ∀ {id row}, ⟨id, row⟩ ∈ view.alerts.alerts.entries →
      view.alerts.alerts.lookup id = some row := List.mem_dlookup view.alerts.alerts.nodupKeys
  rw [(lists_of_repeatCandidate hcandidate (hlookup hentry)).1,
    (lists_of_repeatCandidate hcandidate' (hlookup hentry')).1]
  exact hne

namespace Notifier

variable {s t u : Notifier}

structure Enqueues (s t : Notifier) (rows : List Delivery) : Prop where
  frame : t = { s with notify := t.notify, created := s.created ++ rows }
  inserts : Inserts s.notify t.notify rows

theorem Enqueues.refl : Enqueues s s [] := ⟨by rw [List.append_nil], .refl⟩

theorem Enqueues.trans {rows rows' : List Delivery} (h : Enqueues s t rows)
    (h' : Enqueues t u rows') : Enqueues s u (rows ++ rows') := by
  refine ⟨?_, h.inserts.trans h'.inserts⟩
  rw [h'.frame, h.frame, List.append_assoc]

theorem enqueues_enqueueAlertNotifications (s : Notifier) (alertId : AlertId) (event : EventType)
    (templateId : String) (payload : AlertPayload) (now : ℤ) :
    Enqueues s (s.enqueueAlertNotifications alertId event templateId payload now)
      (s.notify.newDeliveries (s.view.alertDestinations alertId event)
        (alertDelivery alertId event templateId payload now)) :=
  ⟨rfl, inserts_insertDeliveries (fun _ _ => rfl) fun _ _ =>
    ⟨rfl, rfl, le_rfl, timestamptz_timestamptz now⟩⟩

theorem newDeliveries_ne_nil {n : NotifyStore} {destinations : List Destination}
    {mk : DeliveryId → Destination → Delivery} :
    n.newDeliveries destinations mk ≠ [] ↔ destinations ≠ [] := by
  rw [newDeliveries, Ne, List.map_eq_nil_iff, List.zipIdx_eq_nil_iff]

theorem enqueues_enqueueEvent (payload : AlertPayload) (now : ℤ) (s : Notifier)
    (event : AlertEvent) : ∃ rows, Enqueues s (s.enqueueEvent payload now event) rows
      ∧ ∀ alert type, (∃ row ∈ rows, row.alertInstanceId = alert ∧ row.eventType = type)
        ↔ alert = some event.alertInstanceId ∧ event.inMaintenance = false
          ∧ (notificationOf event.kind).map Prod.fst = some type
          ∧ s.view.alertDestinations event.alertInstanceId type ≠ [] := by
  unfold enqueueEvent
  rcases hnotification : notificationOf event.kind with _ | ⟨type', templateId⟩
  · exact ⟨[], .refl, by simp⟩
  · dsimp only
    by_cases hmaintenance : event.inMaintenance = true
    · rw [if_pos hmaintenance]
      exact ⟨[], .refl, by simp [hmaintenance]⟩
    · rw [if_neg hmaintenance]
      refine ⟨_, enqueues_enqueueAlertNotifications _ _ _ _ _ _, fun alert type => ⟨?_, ?_⟩⟩
      · rintro ⟨row, hrow, rfl, rfl⟩
        obtain ⟨_, destination, hdestination, rfl⟩ := mem_newDeliveries hrow
        exact ⟨rfl, by simpa using hmaintenance, rfl, List.ne_nil_of_mem hdestination⟩
      · rintro ⟨rfl, -, htype, hdestinations⟩
        obtain rfl := Option.some.inj htype
        obtain ⟨row, hrow⟩ := List.exists_mem_of_ne_nil _ (newDeliveries_ne_nil.mpr hdestinations)
        refine ⟨row, hrow, ?_⟩
        obtain ⟨_, destination, -, rfl⟩ := mem_newDeliveries hrow
        exact ⟨rfl, rfl⟩

theorem enqueues_foldl_enqueueEvent (payload : AlertPayload) (now : ℤ) :
    ∀ (events : List AlertEvent) (s : Notifier), ∃ rows,
      Enqueues s (events.foldl (enqueueEvent payload now) s) rows
        ∧ ∀ alert type, (∃ row ∈ rows, row.alertInstanceId = alert ∧ row.eventType = type)
          ↔ ∃ event ∈ events, alert = some event.alertInstanceId ∧ event.inMaintenance = false
            ∧ (notificationOf event.kind).map Prod.fst = some type
            ∧ s.view.alertDestinations event.alertInstanceId type ≠ []
  | [], s => ⟨[], .refl, by simp⟩
  | event :: events, s => by
    obtain ⟨first, hfirst, hrows⟩ := enqueues_enqueueEvent payload now s event
    obtain ⟨rest, hrest, hrows'⟩ := enqueues_foldl_enqueueEvent payload now events
      (s.enqueueEvent payload now event)
    refine ⟨first ++ rest, hfirst.trans hrest, fun alert type => ?_⟩
    -- neither the alerts nor the settings change on the way
    have hview : (s.enqueueEvent payload now event).view.alertDestinations
        = s.view.alertDestinations := by
      rw [hfirst.frame]
      rfl
    rw [hview] at hrows'
    simp only [List.mem_append, List.mem_cons, or_and_right, exists_or, hrows alert type,
      hrows' alert type, exists_eq_left]

end Notifier

def Pass.call : Pass → Option DispatchCall
  | .claimed call | .suppressing call _ _ | .passed call _ | .attempted call _ => some call
  | _ => none

def Pass.resting : Pass → Bool
  | .idle | .opened _ _ | .scheduling _ _ | .dispatching _ _ => true
  | _ => false

def Pass.candidates : Pass → List RepeatCandidate
  | .repeating _ _ _ candidates | .discarding _ _ _ _ _ _ candidates => candidates
  | .matched _ _ _ candidate _ candidates => candidate :: candidates
  | _ => []

def Pass.isDiscarding : Pass → Bool
  | .discarding _ _ _ _ _ _ _ => true
  | _ => false

namespace Notifier

variable {s t : Notifier}

/-- Where a step that changes nothing else takes the pass. Discarding ends only by a failure. -/
inductive Goes (s : Notifier) (a : Action) (p : Pass) : Prop
  | rest (hrest : p.resting = true) (hpass : ∀ call error, s.pass ≠ .attempted call error)
    (hdiscards : s.pass.isDiscarding = true → a = .fail)
  | list {channels : ChannelRows} {now : ℤ} (payloads : AlertId → AlertPayload)
    (hpass : s.pass = .scheduling channels now)
    (hp : p = .repeating channels now s.view (s.view.listRepeatCandidates payloads))
  | skip {channels : ChannelRows} {now : ℤ} {listed : NotifyView} {candidate : RepeatCandidate}
    {candidates : List RepeatCandidate}
    (hpass : s.pass = .repeating channels now listed (candidate :: candidates))
    (hp : p = .repeating channels now listed candidates)
  | pick {channels : ChannelRows} {now : ℤ} {listed : NotifyView} {candidate : RepeatCandidate}
    {candidates : List RepeatCandidate} {window : Option String}
    (hpass : s.pass = .repeating channels now listed (candidate :: candidates))
    (hdue : notificationDue .repeating (some candidate.lastNotificationAt)
      (candidate.repeatInterval * second) candidate.disposition now = true)
    (hp : p = .matched channels now listed candidate window candidates)
  | check {call : DispatchCall} (ha : a = .check) (hpass : s.pass = .claimed call)
    (hp : p = (s.check call).pass)

theorem check_eq (s : Notifier) (call : DispatchCall) :
    s.check call = { s with pass := (s.check call).pass } := by
  unfold check
  split_ifs
  · rfl
  · rcases s.deliveryAlert call.delivery with _ | ⟨id, row⟩
    · rfl
    · dsimp only
      split_ifs <;> rfl

theorem check_pass (s : Notifier) (call : DispatchCall) :
    ((s.check call).pass = .idle ∨ (s.check call).pass.call = some call)
      ∧ ∀ call' error, (s.check call).pass ≠ .attempted call' error := by
  unfold check
  split_ifs
  · exact ⟨.inl rfl, fun _ _ h => nomatch h⟩
  · rcases s.deliveryAlert call.delivery with _ | ⟨id, row⟩
    · exact ⟨.inr rfl, fun _ _ h => nomatch h⟩
    · dsimp only
      split_ifs
      · exact ⟨.inr rfl, fun _ _ h => nomatch h⟩
      · exact ⟨.inr rfl, fun _ _ h => nomatch h⟩

theorem Goes.call_mem {a : Action} {p : Pass} (h : Goes s a p) {call : DispatchCall}
    (hcall : call ∈ p.call) : call ∈ s.pass.call := by
  cases h with
  | rest hrest _ _ => cases p <;> simp_all [Pass.resting, Pass.call]
  | @check call' ha hpass hp =>
    rw [hpass]
    subst hp
    rcases (check_pass s call').1 with hidle | hsame
    · rw [hidle] at hcall
      exact nomatch hcall
    · exact hsame.symm.trans hcall
  | _ =>
    subst p
    exact nomatch hcall

theorem Goes.not_attempted {a : Action} {p : Pass} (h : Goes s a p) :
    (∀ call error, s.pass ≠ .attempted call error) ∧ ∀ call error, p ≠ .attempted call error := by
  cases h with
  | rest hrest hpass _ =>
    refine ⟨hpass, ?_⟩
    rintro call error rfl
    exact nomatch hrest
  | @check call' ha hpass hp =>
    subst hp
    exact ⟨by simp [hpass], (check_pass s call').2⟩
  | _ => simp_all

inductive Source (s t : Notifier) (row : Delivery) : Prop
  | event {event : AlertEvent}
    (hevent : event ∈ t.alerts.store.events.drop s.alerts.store.events.length)
    (halert : row.alertInstanceId = some event.alertInstanceId)
    (htype : row.eventType = .firing ∧ event.kind = .fired
      ∨ row.eventType = .recovery ∧ event.kind = .recovered)
  | test (halert : row.alertInstanceId = none) (htype : row.eventType = .test)

theorem Source.eventType {row : Delivery} (h : Source s t row) :
    row.eventType ≠ .platformUnavailable ∧ row.eventType ≠ .repeating := by
  rcases h with ⟨-, -, ⟨htype, -⟩ | ⟨htype, -⟩⟩ | ⟨-, htype⟩
  all_goals simp [htype]

inductive Moves (retryBackoffCap : RetryBackoffCap) (s : Notifier) (a : Action) (t : Notifier) :
    Prop
  | quiet (halerts : s.alerts.Moves t.alerts False fun _ _ => False) (hnotify : t.notify = s.notify)
    (hcreated : t.created = s.created) (htries : t.tries = s.tries) (hpass : t.pass = s.pass)
  | go {p : Pass} (hgoes : Goes s a p) (ht : t = { s with pass := p })
  | clear {settings : NotifySettings}
    (ht : t = { s with settings := settings
                       notify := s.notify.clearTargets settings.webhooks })
  | insert {rows : List Delivery}
    (halerts : s.alerts.Moves t.alerts
      (∃ metric capture payload now, a = .evaluate metric capture payload now) fun _ _ => False)
    (hinserts : Inserts s.notify t.notify rows) (hcreated : t.created = s.created ++ rows)
    (htries : t.tries = s.tries) (hpass : t.pass = s.pass)
    (hknown : ∀ row ∈ rows, ∀ id ∈ row.alertInstanceId, t.alerts.store.life id ≠ none)
    (hsource : ∀ row ∈ rows, Source s t row)
  | repeats {rows : List Delivery} {channels : ChannelRows} {now : ℤ} {listed : NotifyView}
    {candidate : RepeatCandidate} {window : Option String} {candidates : List RepeatCandidate}
    {notify : NotifyStore} {p : Pass} (ha : a = .enqueueRepeat)
    (hpass : s.pass = .matched channels now listed candidate window candidates)
    (hinserts : Inserts s.notify notify rows)
    (hrows : ∀ row ∈ rows, row.alertInstanceId = some candidate.alertInstanceId
      ∧ row.eventType = .repeating ∧ row.createdAt = timestamptz now)
    (hknown : rows ≠ [] → s.alerts.store.life candidate.alertInstanceId ≠ none)
    (hp : p = .repeating channels now listed candidates ∨ rows ≠ []
      ∧ p = .discarding channels now listed candidate window (rows.map Delivery.id) candidates)
    (ht : t = { s with notify := notify, created := s.created ++ rows, pass := p })
  | discard {channels : ChannelRows} {now : ℤ} {listed : NotifyView} {candidate : RepeatCandidate}
    {window : Option String} {id : DeliveryId} {ids : List DeliveryId}
    {candidates : List RepeatCandidate}
    (hpass : s.pass = .discarding channels now listed candidate window (id :: ids) candidates)
    (ht : t = { s with
      notify := s.notify.deletePendingNotification id
      pass := .discarding channels now listed candidate window ids candidates })
  | discarded {channels : ChannelRows} {now : ℤ} {listed : NotifyView}
    {candidate : RepeatCandidate} {window : Option String} {candidates : List RepeatCandidate}
    (hpass : s.pass = .discarding channels now listed candidate window [] candidates)
    (ht : t = { s.recordSuppressed candidate.alertInstanceId window now with
      pass := .repeating channels now listed candidates })
  | claim {channels : ChannelRows} {now deadline : ℤ} {row : Delivery} {lockedUntil : Option ℤ}
    (hpass : s.pass = .dispatching channels now) (hrow : row ∈ s.notify.deliveries)
    (hclaimable : row.claimable (timestamptz now) = true)
    (ht : t = { s with
      notify := s.notify.updateDelivery row.id fun row => { row with lockedUntil := lockedUntil }
      pass := .claimed { channels := channels, now := now, deadline := deadline
                         delivery := { row with lockedUntil := lockedUntil } } })
  | suppress {call : DispatchCall} {id : AlertId} {window : Option String}
    (hpass : s.pass = .suppressing call id window)
    (ht : t = { s.suppressNotificationForMaintenance call.delivery id window call.now with
      pass := .dispatching call.channels s.clock })
  | attempt {call : DispatchCall} {facts : SuppressionFacts} {outcome : Option String}
    (ha : a = .attempt outcome) (hpass : s.pass = .passed call facts)
    (ht : t = s.attempt call outcome)
  | record {call : DispatchCall} {error : Option String} {notify : NotifyStore} (ha : a = .record)
    (hpass : s.pass = .attempted call error) (hdeadline : s.clock < call.deadline)
    (hrecorded : s.recorded retryBackoffCap call error = some notify)
    (ht : t = { s with
      notify := notify
      alerts := { s.alerts with store := s.logAttempt call error }
      pass := .dispatching call.channels s.clock })
  | lost {call : DispatchCall} {error : Option String} (ha : a = .record)
    (hpass : s.pass = .attempted call error)
    (hlost : call.deadline ≤ s.clock ∨ s.recorded retryBackoffCap call error = none)
    (ht : t = { s with pass := .idle })

theorem life_of_alertDestinations {view : NotifyView} {id : AlertId} {type : EventType}
    (h : view.alertDestinations id type ≠ []) : view.alerts.life id ≠ none := by
  unfold NotifyView.alertDestinations at h
  rcases hrow : view.alerts.alerts.lookup id with _ | row
  · rw [hrow] at h
    exact absurd rfl h
  · rw [AlertStore.life, column, hrow]
    exact Option.some_ne_none _

theorem notificationOf_some {kind : EventKind} {type : EventType}
    (h : (notificationOf kind).map Prod.fst = some type) :
    type = .firing ∧ kind = .fired ∨ type = .recovery ∧ kind = .recovered := by
  revert h
  cases kind <;> cases type <;> decide

theorem moves_evaluate {retryBackoffCap : RetryBackoffCap} (hinv : s.alerts.LifeInv)
    {metric : MetricEvaluation} {capture : TriggerSnapshotCapture} {payload : AlertPayload}
    {now : ℤ} (h : s.evaluate metric capture payload now = some t) :
    Moves retryBackoffCap s (.evaluate metric capture payload now) t := by
  unfold evaluate at h
  obtain ⟨target, -, h⟩ := Option.bind_eq_some_iff.mp h
  obtain ⟨alerts, halerts, h⟩ := Option.bind_eq_some_iff.mp h
  cases h
  obtain ⟨rows, henqueues, hrows⟩ := enqueues_foldl_enqueueEvent payload now
    (alerts.store.events.drop s.alerts.store.events.length) { s with alerts := alerts }
  have hinserts := henqueues.inserts
  rw [henqueues.frame]
  refine .insert (Alerts.moves_evaluate hinv ⟨_, _, _, _, rfl⟩ halerts) hinserts rfl rfl rfl ?_ ?_
  all_goals
    intro row hrow
    obtain ⟨event, hevent, halert, -, htype, hdestinations⟩ :=
      (hrows row.alertInstanceId row.eventType).mp ⟨row, hrow, rfl, rfl⟩
  · rintro id hid
    obtain rfl : event.alertInstanceId = id := Option.some.inj (halert.symm.trans hid)
    exact life_of_alertDestinations hdestinations
  · exact .event hevent halert (notificationOf_some htype)

theorem moves_insertTest {a : Action} {retryBackoffCap : RetryBackoffCap}
    (hinv : s.alerts.LifeInv) (destination : Destination) (templateId : String) (now : ℤ) :
    Moves retryBackoffCap s a (s.insertTest destination templateId now) := by
  refine .insert (.refl hinv) (inserts_insertDeliveries (fun _ _ => rfl) fun _ _ =>
    ⟨rfl, rfl, le_rfl, timestamptz_timestamptz now⟩) rfl rfl rfl ?_ ?_
  all_goals
    intro row hrow
    obtain ⟨id, destination', -, rfl⟩ := mem_newDeliveries hrow
  · exact fun _ h => nomatch h
  · exact .test rfl rfl

theorem moves_enqueueRepeat {retryBackoffCap : RetryBackoffCap} {channels : ChannelRows} {now : ℤ}
    {listed : NotifyView} {candidate : RepeatCandidate} {window : Option String}
    {candidates : List RepeatCandidate}
    (hpass : s.pass = .matched channels now listed candidate window candidates) :
    Moves retryBackoffCap s .enqueueRepeat
      (s.enqueueRepeat channels now listed candidate window candidates) := by
  have henqueues := enqueues_enqueueAlertNotifications s candidate.alertInstanceId .repeating
    "builtin.notification.repeat.v1" candidate.payload now
  refine .repeats rfl hpass henqueues.inserts ?_ ?_ ?_ rfl
  · intro row hrow
    obtain ⟨id, destination, -, rfl⟩ := mem_newDeliveries hrow
    exact ⟨rfl, rfl, rfl⟩
  · exact fun hne => life_of_alertDestinations (newDeliveries_ne_nil.mp hne)
  · rw [newDeliveries_ids fun _ _ => rfl]
    split_ifs with hdiscards
    · rw [Bool.and_eq_true, decide_eq_true_eq] at hdiscards
      exact .inr ⟨newDeliveries_ne_nil.mpr hdiscards.2, rfl⟩
    · exact .inl rfl

theorem moves_matchRepeat {a : Action} {retryBackoffCap : RetryBackoffCap} {channels : ChannelRows}
    {now : ℤ} {listed : NotifyView} {candidates : List RepeatCandidate}
    (hpass : s.pass = .repeating channels now listed candidates) :
    Moves retryBackoffCap s a (s.matchRepeat channels now listed candidates) := by
  rcases candidates with _ | ⟨candidate, candidates⟩
  · exact .go (.rest rfl (by simp [hpass]) (by simp [hpass, Pass.isDiscarding])) rfl
  · unfold matchRepeat
    dsimp only
    split_ifs with hdue
    · exact .go (.pick hpass hdue rfl) rfl
    · exact .go (.skip hpass rfl) rfl

theorem moves_record {retryBackoffCap : RetryBackoffCap} {call : DispatchCall}
    {error : Option String} (hpass : s.pass = .attempted call error) :
    Moves retryBackoffCap s .record (s.record retryBackoffCap call error) := by
  unfold record
  split_ifs with hdeadline
  · exact .lost rfl hpass (.inl hdeadline) rfl
  · rcases hrecorded : s.recorded retryBackoffCap call error with _ | notify
    · exact .lost rfl hpass (.inr hrecorded) rfl
    · exact .record rfl hpass (not_le.mp hdeadline) hrecorded rfl

theorem moves_of_step {a : Action} {retryBackoffCap : RetryBackoffCap} (hinv : s.alerts.LifeInv)
    (h : step retryBackoffCap s a = some t) : Moves retryBackoffCap s a t := by
  have hrests : ∀ {p : Pass}, p.resting = true → (∀ call error, s.pass ≠ .attempted call error) →
      (s.pass.isDiscarding = true → a = .fail) → Moves retryBackoffCap s a { s with pass := p } :=
    fun hp hs hdiscards => .go (.rest hp hs hdiscards) rfl
  cases a with
  | advance clock =>
    simp only [step] at h
    split_ifs at h
    cases h
    exact .quiet (.refl hinv) rfl rfl rfl rfl
  | configure settings =>
    cases h
    exact .clear rfl
  | pause instanceId paused actorId updatedAt =>
    simp only [step] at h
    split_ifs at h
    all_goals cases h
    all_goals
      refine .quiet (Alerts.moves_createCollectionPauseEvents hinv _ _ _ ?_) rfl rfl rfl rfl
    · exact .inl rfl
    · exact .inr rfl
  | remove instanceId actorId removedAt =>
    obtain ⟨alerts, halerts, h⟩ := Option.bind_eq_some_iff.mp h
    cases h
    exact .quiet (Alerts.moves_remove hinv halerts) rfl rfl rfl rfl
  | dispose id columns actorId actedAt =>
    obtain ⟨alerts, halerts, h⟩ := Option.bind_eq_some_iff.mp h
    cases h
    exact .quiet (Alerts.moves_dispose hinv halerts) rfl rfl rfl rfl
  | read key rule =>
    obtain ⟨_, -, h⟩ := Option.bind_eq_some_iff.mp h
    obtain ⟨alerts, halerts, h⟩ := Option.bind_eq_some_iff.mp h
    cases h
    exact .quiet (Alerts.moves_read hinv halerts) rfl rfl rfl rfl
  | evaluate metric capture payload now =>
    simp only [step] at h
    split_ifs at h
    exact moves_evaluate hinv h
  | abandon =>
    cases h
    exact .quiet (Alerts.moves_abandon hinv rfl) rfl rfl rfl rfl
  | testSMTP target now =>
    simp only [step] at h
    split_ifs at h
    cases h
    exact moves_insertTest hinv _ _ _
  | testWebhook targetId now =>
    obtain ⟨target, -, h⟩ := Option.bind_eq_some_iff.mp h
    obtain ⟨_, -, h⟩ := Option.bind_eq_some_iff.mp h
    cases h
    exact moves_insertTest hinv _ _ _
  | tick now =>
    simp only [step] at h
    split at h
    · split_ifs at h
      cases h
      exact hrests rfl (by simp_all) (by simp_all [Pass.isDiscarding])
    · cases h
  | readWebhooks =>
    simp only [step] at h
    split at h
    · cases h
      exact hrests rfl (by simp_all) (by simp_all [Pass.isDiscarding])
    · cases h
  | listRepeats payloads =>
    simp only [step] at h
    split at h
    · next hpass =>
      cases h
      exact .go (.list payloads hpass rfl) rfl
    · cases h
  | matchRepeat =>
    simp only [step] at h
    split at h
    · next hpass =>
      cases h
      exact moves_matchRepeat hpass
    · cases h
  | enqueueRepeat =>
    simp only [step] at h
    split at h
    · next hpass =>
      cases h
      exact moves_enqueueRepeat hpass
    · cases h
  | discardRepeat =>
    simp only [step] at h
    split at h
    · next channels now listed candidate window ids candidates hpass =>
      cases h
      rcases ids with _ | ⟨id, ids⟩
      · exact .discarded hpass rfl
      · exact .discard hpass rfl
    · cases h
  | claim id =>
    simp only [step] at h
    split at h
    · next channels now hpass =>
      obtain ⟨⟨notify, delivery⟩, hclaim, h⟩ := Option.bind_eq_some_iff.mp h
      cases h
      unfold claimDueNotification at hclaim
      obtain ⟨row, hrow, hclaim⟩ := Option.bind_eq_some_iff.mp hclaim
      obtain ⟨_, hguard, hclaim⟩ := Option.bind_eq_some_iff.mp hclaim
      obtain ⟨_, -, hclaim⟩ := Option.bind_eq_some_iff.mp hclaim
      cases hclaim
      obtain ⟨hmem, rfl⟩ := delivery?_some hrow
      exact .claim hpass hmem (Machine.of_guard hguard) rfl
    · cases h
  | drained =>
    simp only [step] at h
    split at h
    · split_ifs at h
      cases h
      exact hrests rfl (by simp_all) (by simp_all [Pass.isDiscarding])
    · cases h
  | check =>
    simp only [step] at h
    split at h
    · next hpass =>
      cases h
      exact .go (.check rfl hpass rfl) (check_eq s _)
    · cases h
  | suppress =>
    simp only [step] at h
    split at h
    · next hpass =>
      cases h
      unfold suppress
      split_ifs
      · exact hrests rfl (by simp [hpass]) (by simp [hpass, Pass.isDiscarding])
      · exact .suppress hpass rfl
    · cases h
  | attempt outcome =>
    simp only [step] at h
    split at h
    · next hpass =>
      cases h
      exact .attempt rfl hpass rfl
    · cases h
  | record =>
    simp only [step] at h
    split at h
    · next hpass =>
      cases h
      exact moves_record hpass
    · cases h
  | fail =>
    simp only [step] at h
    split at h
    · cases h
    · cases h
    · next hidle hattempted =>
      cases h
      exact hrests rfl hattempted fun _ => rfl

theorem attempt_spec (s : Notifier) (call : DispatchCall) (outcome : Option String) :
    ∃ entry error, s.attempt call outcome
        = { s with tries := s.tries ++ [entry], pass := .attempted call error }
      ∧ entry.delivery = call.delivery ∧ entry.channels = call.channels
      ∧ entry.message = (prepareDelivery call.channels call.delivery).toOption
      ∧ (entry.message.isSome → entry.error = outcome) := by
  unfold attempt
  rcases prepareDelivery call.channels call.delivery with reason | message
  · exact ⟨_, _, rfl, rfl, rfl, rfl, fun h => nomatch h⟩
  · exact ⟨_, _, rfl, rfl, rfl, rfl, fun _ => rfl⟩

theorem Moves.tries {a : Action} {retryBackoffCap : RetryBackoffCap}
    (h : Moves retryBackoffCap s a t) : t.tries = s.tries
      ∨ ∃ call facts outcome, a = .attempt outcome ∧ s.pass = .passed call facts
        ∧ t = s.attempt call outcome := by
  cases h with
  | quiet _ _ _ htries _ => exact .inl htries
  | insert _ _ _ htries _ _ _ => exact .inl htries
  | suppress hpass ht =>
    left
    rw [ht]
    unfold suppressNotificationForMaintenance
    split_ifs <;> rfl
  | attempt ha hpass ht => exact .inr ⟨_, _, _, ha, hpass, ht⟩
  | _ =>
    left
    subst t
    rfl

structure Completes (call : DispatchCall) (f : Delivery → Delivery) : Prop where
  same : ∀ row, f row = { row with
    status := (f row).status, attemptCount := (f row).attemptCount
    nextAttemptAt := (f row).nextAttemptAt, lockedUntil := (f row).lockedUntil
    completedAt := (f row).completedAt }
  count : ∀ row, (f row).attemptCount = call.delivery.attemptCount + 1
  pending : ∀ row, (f row).status = .pending → call.delivery.attemptCount + 1 < maxAttempts
  due : ∀ row, row.nextAttemptAt ≤ timestamptz call.now → row.nextAttemptAt ≤ (f row).nextAttemptAt

theorem recorded_spec {retryBackoffCap : RetryBackoffCap} {call : DispatchCall}
    {error : Option String} {notify : NotifyStore}
    (h : s.recorded retryBackoffCap call error = some notify) :
    ∃ attempt f, s.notify.admitsAttempt attempt = true
      ∧ attempt.notificationId = call.delivery.id
      ∧ attempt.retryCount = call.delivery.attemptCount ∧ attempt.failureReason = error
      ∧ Completes call f
      ∧ notify = { s.notify with
        attempts := s.notify.attempts ++ [attempt]
        deliveries := s.notify.deliveries.map fun row =>
          if row.id = call.delivery.id ∧ row.status = .pending then f row else row } := by
  unfold recorded at h
  rcases error with _ | reason
  · obtain ⟨hadmits, hnotify⟩ := recordAttempt_some h
    refine ⟨_, _, hadmits, rfl, rfl, rfl, ?_, hnotify⟩
    exact ⟨fun _ => rfl, fun _ => rfl, (fun _ h => nomatch h), fun _ _ => le_rfl⟩
  · obtain ⟨hadmits, hnotify⟩ := recordAttempt_some h
    refine ⟨_, _, hadmits, rfl, rfl, rfl, ?_, hnotify⟩
    refine ⟨fun _ => rfl, fun _ => rfl, fun row hpending => ?_, fun row hdue => ?_⟩
    · by_contra hterminal
      simp [not_lt.mp hterminal] at hpending
    · have hdelay := retryDelay_nonneg (call.delivery.attemptCount + 1) retryBackoffCap
      refine hdue.trans (timestamptz_mono ?_)
      split_ifs <;> omega

theorem moves_logAttempt (hinv : s.alerts.LifeInv) (call : DispatchCall) (error : Option String) :
    s.alerts.Moves { s.alerts with store := s.logAttempt call error } False fun _ _ => False := by
  unfold logAttempt
  split
  · next kind id row hkind halert =>
    refine Alerts.moves_createAlertEvent hinv _ ?_
    unfold attemptEvent at hkind
    rcases error with _ | reason
    · exact .inl (Option.some.inj hkind).symm
    · dsimp only at hkind
      split_ifs at hkind
      exact .inr (Option.some.inj hkind).symm
  · exact .refl hinv

structure Holds (call : DispatchCall) (row : Delivery) : Prop where
  id : row.id = call.delivery.id
  status : row.status = .pending
  alert : row.alertInstanceId = call.delivery.alertInstanceId
  type : row.eventType = call.delivery.eventType
  count : row.attemptCount = call.delivery.attemptCount
  due : row.nextAttemptAt ≤ timestamptz call.now

structure NotifyInv (s : Notifier) : Prop where
  life : s.alerts.LifeInv
  fresh : ∀ row ∈ s.notify.deliveries, row.id < s.notify.nextDelivery
  unique : (s.notify.deliveries.map Delivery.id).Nodup
  known : ∀ row ∈ s.notify.deliveries, ∀ id ∈ row.alertInstanceId, s.alerts.store.life id ≠ none
  times : ∀ row ∈ s.notify.deliveries, row.createdAt ≤ row.nextAttemptAt
  types : ∀ row ∈ s.notify.deliveries, row.eventType ≠ .platformUnavailable
  call : ∀ call ∈ s.pass.call, ∃ row ∈ s.notify.deliveries, Holds call row

theorem notifyInv_init : NotifyInv {} where
  life := Alerts.lifeInv_init
  fresh := fun _ h => nomatch h
  unique := List.nodup_nil
  known := fun _ h => nomatch h
  times := fun _ h => nomatch h
  types := fun _ h => nomatch h
  call := fun _ h => nomatch h

theorem NotifyInv.suppressNotificationForMaintenance_eq (hinv : NotifyInv s) {call : DispatchCall}
    {id : AlertId} {window : Option String} (hpass : s.pass = .suppressing call id window) :
    s.suppressNotificationForMaintenance call.delivery id window call.now
      = { s with notify := s.notify.deletePendingNotification call.delivery.id }.recordSuppressed
        id window call.now := by
  obtain ⟨row, hrow, hholds⟩ := hinv.call call (by rw [hpass]; rfl)
  unfold suppressNotificationForMaintenance
  rw [if_pos]
  obtain ⟨row', hrow'⟩ := Option.isSome_iff_exists.mp (delivery?_isSome hrow)
  obtain ⟨hmem, hid⟩ := delivery?_some hrow'
  rw [hholds.id] at hrow'
  rw [hrow', eq_of_id hinv.unique hmem hrow hid]
  simpa using hholds.status

theorem NotifyInv.delete (hinv : NotifyInv s) {suppressed : AlertId → ℤ → Prop}
    (halerts : s.alerts.Moves t.alerts False suppressed) {id : DeliveryId}
    (hnotify : t.notify = s.notify.deletePendingNotification id) (hcall : t.pass.call = none) :
    NotifyInv t := by
  have hkept : ∀ row ∈ t.notify.deliveries, row ∈ s.notify.deliveries := by
    rw [hnotify]
    exact fun row hrow => (mem_deletePendingNotification.mp hrow).1
  refine ⟨halerts.inv, fun row hrow => ?_, ?_,
    fun row hrow id' hid' => halerts.known id' (hinv.known row (hkept row hrow) id' hid'),
    fun row hrow => hinv.times row (hkept row hrow),
    fun row hrow => hinv.types row (hkept row hrow), fun call h => ?_⟩
  · rw [hnotify]
    exact hinv.fresh row (hkept row hrow)
  · rw [hnotify]
    exact hinv.unique.sublist (List.filter_sublist.map _)
  · rw [hcall] at h
    exact nomatch h

theorem NotifyInv.insert (hinv : NotifyInv s) {evaluated : Prop} {suppressed : AlertId → ℤ → Prop}
    (halerts : s.alerts.Moves t.alerts evaluated suppressed) {rows : List Delivery}
    (hinserts : Inserts s.notify t.notify rows)
    (hknown : ∀ row ∈ rows, ∀ id ∈ row.alertInstanceId, t.alerts.store.life id ≠ none)
    (htypes : ∀ row ∈ rows, row.eventType ≠ .platformUnavailable)
    (hcall : ∀ call ∈ t.pass.call, call ∈ s.pass.call) : NotifyInv t := by
  refine ⟨halerts.inv, ?_, ?_, ?_, ?_, ?_, ?_⟩
  all_goals rw [hinserts.deliveries]
  · intro row hrow
    rcases List.mem_append.mp hrow with hrow | hrow
    · exact (hinv.fresh row hrow).trans_le hinserts.next
    · exact (hinserts.ids row hrow).2
  · rw [List.map_append]
    refine hinv.unique.append hinserts.unique fun id hid hid' => ?_
    obtain ⟨row, hrow, rfl⟩ := List.mem_map.mp hid
    obtain ⟨row', hrow', heq⟩ := List.mem_map.mp hid'
    have hge := (hinserts.ids row' hrow').1
    rw [heq] at hge
    exact Nat.not_lt.mpr hge (hinv.fresh row hrow)
  · intro row hrow id hid
    rcases List.mem_append.mp hrow with hrow | hrow
    · exact halerts.known id (hinv.known row hrow id hid)
    · exact hknown row hrow id hid
  · intro row hrow
    rcases List.mem_append.mp hrow with hrow | hrow
    · exact hinv.times row hrow
    · exact (hinserts.new row hrow).2.2.1
  · intro row hrow
    rcases List.mem_append.mp hrow with hrow | hrow
    · exact hinv.types row hrow
    · exact htypes row hrow
  · intro call hcall'
    obtain ⟨row, hrow, hholds⟩ := hinv.call call (hcall call hcall')
    exact ⟨row, List.mem_append_left _ hrow, hholds⟩

theorem NotifyInv.map (hinv : NotifyInv s)
    (halerts : s.alerts.Moves t.alerts False fun _ _ => False) {g : Delivery → Delivery}
    (hdeliveries : t.notify.deliveries = s.notify.deliveries.map g)
    (hnext : t.notify.nextDelivery = s.notify.nextDelivery)
    (hsame : ∀ row, (g row).id = row.id ∧ (g row).alertInstanceId = row.alertInstanceId
      ∧ (g row).eventType = row.eventType)
    (htimes : ∀ row ∈ s.notify.deliveries, (g row).createdAt ≤ (g row).nextAttemptAt)
    (hcall : ∀ call ∈ t.pass.call, ∃ row ∈ t.notify.deliveries, Holds call row) : NotifyInv t := by
  have hmem : ∀ {row}, row ∈ t.notify.deliveries → ∃ old ∈ s.notify.deliveries, g old = row := by
    rw [hdeliveries]
    exact List.mem_map.mp
  refine ⟨halerts.inv, ?_, ?_, ?_, ?_, ?_, hcall⟩
  · intro row hrow
    obtain ⟨old, hold, rfl⟩ := hmem hrow
    rw [(hsame old).1, hnext]
    exact hinv.fresh old hold
  · have hids : s.notify.deliveries.map (Delivery.id ∘ g) = s.notify.deliveries.map Delivery.id :=
      List.map_congr_left fun row _ => (hsame row).1
    rw [hdeliveries, List.map_map, hids]
    exact hinv.unique
  · intro row hrow id hid
    obtain ⟨old, hold, rfl⟩ := hmem hrow
    rw [(hsame old).2.1] at hid
    exact halerts.known id (hinv.known old hold id hid)
  · intro row hrow
    obtain ⟨old, hold, rfl⟩ := hmem hrow
    exact htimes old hold
  · intro row hrow
    obtain ⟨old, hold, rfl⟩ := hmem hrow
    rw [(hsame old).2.2]
    exact hinv.types old hold

theorem notifyInv_step {a : Action} {retryBackoffCap : RetryBackoffCap} (hinv : NotifyInv s)
    (h : step retryBackoffCap s a = some t) : NotifyInv t := by
  cases moves_of_step hinv.life h with
  | go hgoes ht =>
    subst ht
    exact { hinv with call := fun call hcall => hinv.call call (hgoes.call_mem hcall) }
  | quiet halerts hnotify hcreated htries hpass =>
    refine ⟨halerts.inv, ?_, ?_, ?_, ?_, ?_, ?_⟩
    all_goals rw [hnotify]
    · exact hinv.fresh
    · exact hinv.unique
    · exact fun row hrow id hid => halerts.known id (hinv.known row hrow id hid)
    · exact hinv.times
    · exact hinv.types
    · rw [hpass]
      exact hinv.call
  | clear ht =>
    subst ht
    refine hinv.map (.refl hinv.life) rfl rfl (fun _ => ⟨rfl, rfl, rfl⟩) hinv.times
      fun call hcall => ?_
    obtain ⟨row, hrow, hholds⟩ := hinv.call call hcall
    exact ⟨_, List.mem_map_of_mem hrow, hholds.id, hholds.status, hholds.alert, hholds.type,
      hholds.count, hholds.due⟩
  | insert halerts hinserts hcreated htries hpass hknown hsource =>
    refine hinv.insert halerts hinserts hknown (fun row hrow => (hsource row hrow).eventType.1) ?_
    rw [hpass]
    exact fun call hcall => hcall
  | repeats ha hpass hinserts hrows hknown hp ht =>
    subst ht
    have halerts : s.alerts.Moves s.alerts False fun _ _ => False := .refl hinv.life
    refine hinv.insert halerts hinserts (fun row hrow id hid => ?_) (fun row hrow => ?_) ?_
    · obtain rfl := Option.some.inj ((hrows row hrow).1.symm.trans hid)
      exact hknown (List.ne_nil_of_mem hrow)
    · simp [(hrows row hrow).2.1]
    · rcases hp with rfl | ⟨-, rfl⟩ <;> exact fun _ h => nomatch h
  | discard hpass ht =>
    subst ht
    have halerts : s.alerts.Moves s.alerts False fun _ _ => False := .refl hinv.life
    exact hinv.delete halerts rfl rfl
  | discarded hpass ht =>
    subst ht
    have halerts := Alerts.moves_recordMaintenanceSuppressed hinv.life
    exact { hinv with
      life := (halerts _ _ _).inv
      known := fun row hrow id hid => (halerts _ _ _).known id (hinv.known row hrow id hid)
      call := fun _ h => nomatch h }
  | @claim channels now deadline row lockedUntil hpass hrow hclaimable ht =>
    subst ht
    refine hinv.map (.refl hinv.life) rfl rfl (fun row => ?_) (fun row hrow => ?_) ?_
    · split_ifs <;> exact ⟨rfl, rfl, rfl⟩
    · split_ifs <;> exact hinv.times row hrow
    · rintro _ ⟨⟩
      unfold Delivery.claimable at hclaimable
      rw [Bool.and_eq_true, Bool.and_eq_true] at hclaimable
      exact ⟨_, mem_updateDelivery.mpr ⟨row, hrow, if_pos rfl⟩, rfl,
        of_decide_eq_true hclaimable.1.1, rfl, rfl, rfl, of_decide_eq_true hclaimable.1.2⟩
  | suppress hpass ht =>
    subst ht
    rw [hinv.suppressNotificationForMaintenance_eq hpass]
    exact hinv.delete (Alerts.moves_recordMaintenanceSuppressed hinv.life _ _ _) rfl rfl
  | attempt ha hpass ht =>
    subst ht
    unfold attempt
    split
    all_goals
      exact { hinv with call := fun call hcall => hinv.call call (by rw [hpass]; exact hcall) }
  | @record call error notify ha hpass hdeadline hrecorded ht =>
    subst ht
    obtain ⟨attempt, f, -, -, -, -, hcompletes, rfl⟩ := recorded_spec hrecorded
    obtain ⟨held, hheld, hholds⟩ := hinv.call call (by rw [hpass]; rfl)
    refine hinv.map (moves_logAttempt hinv.life call error) rfl rfl (fun row => ?_)
      (fun row hrow => ?_) fun _ h => nomatch h
    · split_ifs
      · rw [hcompletes.same]
        exact ⟨rfl, rfl, rfl⟩
      · exact ⟨rfl, rfl, rfl⟩
    · split_ifs with hself
      · obtain rfl := eq_of_id hinv.unique hrow hheld (hself.1.trans hholds.id.symm)
        have hcreated : (f row).createdAt = row.createdAt := by rw [hcompletes.same]
        rw [hcreated]
        exact (hinv.times row hrow).trans (hcompletes.due row hholds.due)
      · exact hinv.times row hrow
  | lost ha hpass hlost ht =>
    subst ht
    exact { hinv with call := fun _ h => nomatch h }

theorem NotifyInv.alerts_moves {a : Action} {retryBackoffCap : RetryBackoffCap}
    (hinv : NotifyInv s) (h : step retryBackoffCap s a = some t) :
    ∃ suppressed, s.alerts.Moves t.alerts
      (∃ metric capture payload now, a = .evaluate metric capture payload now) suppressed := by
  have hsame : t.alerts = s.alerts → ∃ suppressed, s.alerts.Moves t.alerts
      (∃ metric capture payload now, a = .evaluate metric capture payload now) suppressed := by
    intro heq
    rw [heq]
    exact ⟨fun _ _ => False, .refl hinv.life⟩
  cases moves_of_step hinv.life h with
  | quiet halerts _ _ _ _ => exact ⟨_, halerts.of_false⟩
  | insert halerts _ _ _ _ _ _ => exact ⟨_, halerts⟩
  | discarded hpass ht =>
    subst ht
    exact ⟨_, (Alerts.moves_recordMaintenanceSuppressed hinv.life _ _ _).of_false⟩
  | suppress hpass ht =>
    subst ht
    rw [hinv.suppressNotificationForMaintenance_eq hpass]
    exact ⟨_, (Alerts.moves_recordMaintenanceSuppressed hinv.life _ _ _).of_false⟩
  | @attempt call facts outcome ha hpass ht =>
    obtain ⟨entry, error, heq, -⟩ := attempt_spec s call outcome
    exact hsame (by rw [ht, heq])
  | record ha hpass hdeadline hrecorded ht =>
    subst ht
    exact ⟨_, (moves_logAttempt hinv.life _ _).of_false⟩
  | _ => exact hsame (by subst t; rfl)

section Example

theorem fiveSeconds_pos : 0 < 5 * second := by decide

def defaultRetryBackoffCap : RetryBackoffCap := ⟨5 * second, fiveSeconds_pos⟩

def mailPolicy : NotificationPolicy :=
  { severityFilter := [.critical], repeatInterval := 60, channels := [.smtp]
    severityFilter_ne := List.cons_ne_nil _ _, repeatInterval_pos := by decide }

def mailSettings : NotifySettings :=
  { defaultPolicy := some "default"
    policies := fun id => if id = "default" then some mailPolicy else none
    smtp := some { enabled := true, recipient := "ops@db" } }

def evaluated (outcome : Evaluation) (now : ℤ) : List Action :=
  [.read Alerts.activeSessionsKey Alerts.activeSessions,
    .evaluate { outcome := outcome, currentValue := some 1, unavailability := none }
      { succeeded := true, failureReason := none, originalMatchCount := 0, truncated := false }
      {} now]

def evaluates (outcome : Evaluation) (now : ℤ) : List Action :=
  .advance now :: evaluated outcome now

def opens (now : ℤ) : List Action :=
  [.advance now, .tick now, .readWebhooks, .listRepeats fun _ => {}]

def hands (id : DeliveryId) (outcome : Option String) : List Action :=
  [.claim id, .check, .attempt outcome, .record]

end Example

end Notifier

end DbsMonitor
