import DbsMonitor.Proofs.NotifierMoves

/-!
# The spacing of repeats

Deliveries may be deleted, but only together with a suppression that is not before their creation,
so what was created is never forgotten (`Covers`).

The candidates are listed once for a pass: when the alert recovers in a maintenance window that the
pass does not know of, a repeat is enqueued nevertheless. And the repeats that a window discards are
deleted before the suppression is recorded: a failure in between forgets them.
-/

namespace DbsMonitor

open NotifyStore AlertStore

theorem timestamptz_add_seconds (t n : ℤ) :
    timestamptz (t + n * second) = timestamptz t + n * second := by
  unfold timestamptz second
  omega

theorem le_foldl_max : ∀ (instants : List ℤ) (first : ℤ),
    first ≤ instants.foldl max first ∧ ∀ instant ∈ instants, instant ≤ instants.foldl max first
  | [], first => ⟨le_rfl, fun _ h => nomatch h⟩
  | instant :: instants, first => by
    obtain ⟨hfirst, hrest⟩ := le_foldl_max instants (max first instant)
    refine ⟨(le_max_left _ _).trans hfirst, fun instant' hmem => ?_⟩
    rcases List.mem_cons.mp hmem with rfl | hmem
    · exact (le_max_right _ _).trans hfirst
    · exact hrest instant' hmem

def Pass.listed : Pass → Option NotifyView
  | .repeating _ _ listed _ | .matched _ _ listed _ _ _ | .discarding _ _ listed _ _ _ _ =>
    some listed
  | _ => none

def AlertEvent.suppresses (event : AlertEvent) (id : AlertId) : Bool :=
  event.alertInstanceId = id && event.kind = .maintenanceSuppressed

def Delivery.tellsOf (row : Delivery) (id : AlertId) : Bool :=
  row.alertInstanceId = some id && row.eventType.isProblem

theorem Delivery.tellsOf_iff {row : Delivery} {id : AlertId} :
    row.tellsOf id = true ↔ row.alertInstanceId = some id ∧ row.eventType.isProblem = true := by
  simp [Delivery.tellsOf]

namespace Notifier

variable {s t : Notifier} {a : Action} {retryBackoffCap : RetryBackoffCap}

/-- The repeat was enqueued in a state in which everything it is to keep its distance from is at
least an interval ago. -/
structure Spaced (s : Notifier) (row : Delivery) (id : AlertId) (view : NotifyView)
    (alert : AlertRow) (policy : NotificationPolicy) : Prop where
  listed : s.pass.listed = some view
  lookup : view.alerts.alerts.lookup id = some alert
  firing : alert.status = .firing
  unacknowledged : alert.dispositions.disposition ≠ .acked
  idle : view.hasPending id = false
  effective : view.settings.effectivePolicy alert.key.ruleId = some policy
  deliveries : ∀ earlier ∈ s.created, earlier.tellsOf id = true →
    earlier.createdAt + policy.repeatInterval * second ≤ row.createdAt
  suppressions : ∀ event ∈ s.alerts.store.events, event.suppresses id = true →
    event.evaluatedAt + policy.repeatInterval * second ≤ row.createdAt
  triggered : ∀ first ∈ s.alerts.store.firstTriggeredAt id,
    first + policy.repeatInterval * second ≤ row.createdAt

def RepeatsSpaced (s : Notifier) (_ : Action) (t : Notifier) : Prop :=
  ∀ row ∈ t.created.drop s.created.length, row.eventType = .repeating →
    ∃ id view alert policy, row.alertInstanceId = some id ∧ Spaced s row id view alert policy

/-- No suppression of the alert has been recorded since it was listed, when its repeats are
enqueued; and no statement fails while repeats are discarded. -/
def undisturbed (s : Notifier) (a : Action) : Bool :=
  match a, s.pass with
  | .enqueueRepeat, .matched _ _ listed candidate _ _ =>
    (s.alerts.store.events.drop listed.alerts.events.length).all fun event =>
      !event.suppresses candidate.alertInstanceId
  | .fail, .discarding _ _ _ _ _ _ _ => false
  | _, _ => true

def Undisturbed (s : Notifier) (a : Action) (_ : Notifier) : Prop := s.undisturbed a = true

instance (s : Notifier) (a : Action) (t : Notifier) : Decidable (Undisturbed s a t) :=
  inferInstanceAs (Decidable (_ = true))

structure Stored (s : Notifier) : Prop where
  created : ∀ row ∈ s.created, timestamptz row.createdAt = row.createdAt
  suppressions : ∀ event ∈ s.alerts.store.events, event.kind = .maintenanceSuppressed →
    timestamptz event.evaluatedAt = event.evaluatedAt
  triggered : ∀ id, ∀ first ∈ s.alerts.store.firstTriggeredAt id, timestamptz first = first

/-- A notification of the alert that is not before the instant is in the tables, or is about to
be. -/
def Covers (s : Notifier) (id : AlertId) (instant : ℤ) : Prop :=
  (∃ row ∈ s.notify.deliveries, row.tellsOf id = true ∧ instant ≤ row.createdAt)
    ∨ (∃ event ∈ s.alerts.store.events, event.suppresses id = true ∧ instant ≤ event.evaluatedAt)
    ∨ ∃ channels now listed candidate window ids candidates,
      s.pass = .discarding channels now listed candidate window ids candidates
        ∧ candidate.alertInstanceId = id ∧ instant ≤ timestamptz now

structure Fresh (s : Notifier) (listed : NotifyView) (candidate : RepeatCandidate) : Prop where
  lists : ∃ row first policy, Lists listed candidate row first policy
    ∧ s.alerts.store.firstTriggeredAt candidate.alertInstanceId = some first
  created : ∀ row ∈ s.created, row.tellsOf candidate.alertInstanceId = true →
    row.createdAt ≤ candidate.lastNotificationAt
  events : listed.alerts.events <+: s.alerts.store.events

structure Turns (s : Notifier) (listed : NotifyView) (candidates : List RepeatCandidate) :
    Prop where
  fresh : ∀ candidate ∈ candidates, Fresh s listed candidate
  distinct : (candidates.map RepeatCandidate.alertInstanceId).Nodup

structure Discards (s : Notifier) (now : ℤ) (candidate : RepeatCandidate) (ids : List DeliveryId) :
    Prop where
  known : s.alerts.store.life candidate.alertInstanceId ≠ none
  past : ∀ id ∈ ids, id < s.notify.nextDelivery
  rows : ∀ row ∈ s.notify.deliveries, row.id ∈ ids →
    row.alertInstanceId = some candidate.alertInstanceId ∧ row.createdAt = timestamptz now

def PassInv (s : Notifier) : Pass → Prop
  | .repeating _ _ listed candidates => Turns s listed candidates
  | .matched _ now listed candidate _ candidates => Turns s listed (candidate :: candidates)
    ∧ notificationDue .repeating (some candidate.lastNotificationAt)
      (candidate.repeatInterval * second) candidate.disposition now = true
  | .discarding _ now listed candidate _ ids candidates => Turns s listed candidates
    ∧ Discards s now candidate ids
  | .suppressing call id _ => call.delivery.alertInstanceId = some id
  | _ => True

structure SpacingInv (s : Notifier) : Prop where
  notify : NotifyInv s
  stored : Stored s
  covered : ∀ row ∈ s.created, ∀ id, row.tellsOf id = true → Covers s id row.createdAt
  pass : PassInv s s.pass

theorem spacingInv_init : SpacingInv {} where
  notify := notifyInv_init
  stored := ⟨(fun _ h => nomatch h), (fun _ h => nomatch h), fun _ _ h => nomatch h⟩
  covered := fun _ h => nomatch h
  pass := trivial

section Frame

variable {evaluated : Prop} {suppressed : AlertId → ℤ → Prop}

theorem Stored.frame (h : Stored s) (halerts : s.alerts.Moves t.alerts evaluated suppressed)
    (hcreated : ∀ row ∈ t.created, row ∈ s.created ∨ timestamptz row.createdAt = row.createdAt) :
    Stored t := by
  refine ⟨fun row hrow => ?_, fun event hevent hkind => ?_, fun id first hfirst => ?_⟩
  · exact (hcreated row hrow).elim (h.created row) fun hstored => hstored
  · obtain ⟨events, hevents, htells⟩ := halerts.events
    rw [hevents] at hevent
    rcases List.mem_append.mp hevent with hevent | hevent
    · exact h.suppressions event hevent hkind
    · exact (htells event hevent).stored hkind
  · exact (halerts.stored id first hfirst).elim (h.triggered id first) fun hstored => hstored

theorem Fresh.frame {listed : NotifyView} {candidate : RepeatCandidate}
    (h : Fresh s listed candidate) (halerts : s.alerts.Moves t.alerts evaluated suppressed)
    (hcreated : ∀ row ∈ t.created, row.tellsOf candidate.alertInstanceId = true →
      row ∈ s.created) : Fresh t listed candidate := by
  obtain ⟨row, first, policy, hlists, hfirst⟩ := h.lists
  obtain ⟨events, hevents, -⟩ := halerts.events
  refine ⟨⟨row, first, policy, hlists, halerts.triggered _ first hfirst⟩, ?_, ?_⟩
  · exact fun row hrow htells => h.created row (hcreated row hrow htells) htells
  · rw [hevents]
    exact h.events.trans (List.prefix_append _ _)

theorem Discards.frame {now : ℤ} {candidate : RepeatCandidate} {ids : List DeliveryId}
    (h : Discards s now candidate ids) (halerts : s.alerts.Moves t.alerts evaluated suppressed)
    (hnext : s.notify.nextDelivery ≤ t.notify.nextDelivery)
    (hrows : ∀ row ∈ t.notify.deliveries, s.notify.nextDelivery ≤ row.id
      ∨ ∃ old ∈ s.notify.deliveries, row.id = old.id ∧ row.alertInstanceId = old.alertInstanceId
        ∧ row.createdAt = old.createdAt) : Discards t now candidate ids := by
  refine ⟨halerts.known _ h.known, fun id hid => (h.past id hid).trans_le hnext, ?_⟩
  intro row hrow hid
  rcases hrows row hrow with hnew | ⟨old, hold, hsame, halert, hcreated⟩
  · exact absurd (h.past _ hid) (Nat.not_lt.mpr hnew)
  · rw [halert, hcreated]
    exact h.rows old hold (hsame ▸ hid)

theorem Turns.frame {listed : NotifyView} {candidates candidates' : List RepeatCandidate}
    (h : Turns s listed candidates) (hsublist : candidates'.Sublist candidates)
    (hfresh : ∀ candidate ∈ candidates', Fresh s listed candidate → Fresh t listed candidate) :
    Turns t listed candidates' :=
  ⟨fun candidate hmem => hfresh candidate hmem (h.fresh candidate (hsublist.subset hmem)),
    h.distinct.sublist (hsublist.map _)⟩

theorem PassInv.frame {p : Pass} (h : PassInv s p)
    (hfresh : ∀ listed candidate, Fresh s listed candidate → Fresh t listed candidate)
    (hdiscards : ∀ now candidate ids, Discards s now candidate ids → Discards t now candidate ids) :
    PassInv t p := by
  unfold PassInv at *
  split
  · exact h.frame (.refl _) fun candidate _ => hfresh _ candidate
  · exact ⟨h.1.frame (.refl _) fun candidate _ => hfresh _ candidate, h.2⟩
  · exact ⟨h.1.frame (.refl _) fun candidate _ => hfresh _ candidate, hdiscards _ _ _ h.2⟩
  · exact h
  · trivial

theorem Covers.of_event {id : AlertId} {instant : ℤ} {event : AlertEvent}
    (halerts : s.alerts.Moves t.alerts evaluated suppressed)
    (hevent : event ∈ s.alerts.store.events) (hkind : event.suppresses id = true)
    (hle : instant ≤ event.evaluatedAt) : Covers t id instant := by
  obtain ⟨events, hevents, -⟩ := halerts.events
  refine .inr (.inl ⟨event, ?_, hkind, hle⟩)
  rw [hevents]
  exact List.mem_append_left _ hevent

theorem Covers.mono {id : AlertId} {instant : ℤ} (h : Covers s id instant)
    (halerts : s.alerts.Moves t.alerts evaluated suppressed)
    (hrows : ∀ row ∈ s.notify.deliveries, ∃ row' ∈ t.notify.deliveries,
      row'.alertInstanceId = row.alertInstanceId ∧ row'.eventType = row.eventType
        ∧ row'.createdAt = row.createdAt)
    (hpass : s.pass.isDiscarding = true → t.pass = s.pass) : Covers t id instant := by
  rcases h with ⟨row, hrow, htells, hle⟩ | ⟨event, hevent, hkind, hle⟩ | ⟨channels, now, listed,
    candidate, window, ids, candidates, hdiscarding, hid, hle⟩
  · obtain ⟨row', hrow', halert, htype, hcreated⟩ := hrows row hrow
    refine .inl ⟨row', hrow', ?_, hcreated ▸ hle⟩
    unfold Delivery.tellsOf
    rwa [halert, htype]
  · exact .of_event halerts hevent hkind hle
  · refine .inr (.inr ⟨channels, now, listed, candidate, window, ids, candidates, ?_, hid, hle⟩)
    rw [hpass (by rw [hdiscarding]; rfl), hdiscarding]

end Frame

theorem le_lastNotificationAt_of_delivery {view : NotifyView} {id : AlertId} {row : Delivery}
    (hrow : row ∈ view.notify.deliveries) (htells : row.tellsOf id = true) (first : ℤ) :
    row.createdAt ≤ view.lastNotificationAt id first :=
  (le_foldl_max _ first).2 _ (List.mem_append_left _
    (List.mem_map_of_mem (List.mem_filter.mpr ⟨hrow, htells⟩)))

theorem le_lastNotificationAt_of_suppression {view : NotifyView} {id : AlertId}
    {event : AlertEvent} (hevent : event ∈ view.alerts.events)
    (hsuppresses : event.suppresses id = true) (first : ℤ) :
    event.evaluatedAt ≤ view.lastNotificationAt id first :=
  (le_foldl_max _ first).2 _ (List.mem_append_right _
    (List.mem_map_of_mem (List.mem_filter.mpr ⟨hevent, hsuppresses⟩)))

theorem le_lastNotificationAt_first (view : NotifyView) (id : AlertId) (first : ℤ) :
    first ≤ view.lastNotificationAt id first :=
  (le_foldl_max _ first).1

theorem SpacingInv.turns_of_list (hinv : SpacingInv s) {channels : ChannelRows} {now : ℤ}
    (hpass : s.pass = .scheduling channels now) (payloads : AlertId → AlertPayload) :
    Turns s s.view (s.view.listRepeatCandidates payloads) := by
  refine ⟨fun candidate hmem => ?_, ?_⟩
  · obtain ⟨row, first, policy, hlists⟩ := lists_of_mem hmem
    have hlookup : s.alerts.store.alerts.lookup candidate.alertInstanceId = some row := hlists.alert
    refine ⟨⟨row, first, policy, hlists, ?_⟩, fun row hrow htells => ?_, List.prefix_rfl⟩
    · rw [AlertStore.firstTriggeredAt, hlookup]
      exact hlists.triggered
    · rw [hlists.last]
      rcases hinv.covered row hrow _ htells with ⟨row', hrow', htells', hle⟩ | ⟨event, hevent,
        hsuppresses, hle⟩ | ⟨_, _, _, _, _, _, _, hdiscarding, -⟩
      · exact hle.trans (le_lastNotificationAt_of_delivery hrow' htells' first)
      · exact hle.trans (le_lastNotificationAt_of_suppression hevent hsuppresses first)
      · rw [hpass] at hdiscarding
        cases hdiscarding
  · exact listRepeatCandidates_nodup _ _

theorem SpacingInv.spaced (hinv : SpacingInv s) {channels : ChannelRows} {now : ℤ}
    {listed : NotifyView} {candidate : RepeatCandidate} {window : Option String}
    {candidates : List RepeatCandidate}
    (hpass : s.pass = .matched channels now listed candidate window candidates)
    (hundisturbed : Undisturbed s .enqueueRepeat t) {row : Delivery}
    (hcreated : row.createdAt = timestamptz now) :
    ∃ alert policy, Spaced s row candidate.alertInstanceId listed alert policy := by
  have hturn := hinv.pass
  rw [hpass] at hturn
  obtain ⟨hturns, hdue⟩ := hturn
  have hfresh := hturns.fresh candidate List.mem_cons_self
  obtain ⟨alert, first, policy, hlists, hfirst⟩ := hfresh.lists
  unfold notificationDue at hdue
  dsimp only at hdue
  split_ifs at hdue with hacked
  have hdue := of_decide_eq_true hdue
  -- what is not after the last notification is an interval before the repeat
  have hbefore : ∀ instant, timestamptz instant = instant → instant ≤ candidate.lastNotificationAt →
      instant + policy.repeatInterval * second ≤ row.createdAt := by
    intro instant hstored hle
    rw [hcreated, ← hlists.interval, ← hstored, ← timestamptz_add_seconds]
    exact timestamptz_mono (by omega)
  refine ⟨alert, policy, ?_, hlists.alert, hlists.status, ?_, hlists.idle, hlists.effective,
    fun earlier hearlier htells => ?_, fun event hevent hsuppresses => ?_, fun first' hfirst' => ?_⟩
  · rw [hpass]
    rfl
  · rw [← hlists.disposition]
    exact hacked
  · exact hbefore _ (hinv.stored.created earlier hearlier) (hfresh.created earlier hearlier htells)
  · have hkind : event.kind = .maintenanceSuppressed :=
      of_decide_eq_true (Bool.and_eq_true_iff.mp hsuppresses).2
    refine hbefore _ (hinv.stored.suppressions event hevent hkind) ?_
    obtain ⟨events, hevents⟩ := hfresh.events
    unfold Undisturbed undisturbed at hundisturbed
    rw [hpass] at hundisturbed
    dsimp only at hundisturbed
    rw [← hevents, List.drop_left, List.all_eq_true] at hundisturbed
    rw [← hevents] at hevent
    rcases List.mem_append.mp hevent with hevent | hevent
    · rw [hlists.last]
      exact le_lastNotificationAt_of_suppression hevent hsuppresses first
    · have hnot := hundisturbed event hevent
      rw [hsuppresses] at hnot
      exact nomatch hnot
  · refine hbefore _ (hinv.stored.triggered _ first' hfirst') ?_
    obtain rfl : first = first' := Option.some.inj (hfirst.symm.trans hfirst')
    rw [hlists.last]
    exact le_lastNotificationAt_first _ _ _

theorem Goes.not_discarding {p : Pass} (h : Goes s a p) (hundisturbed : Undisturbed s a t) :
    s.pass.isDiscarding = false := by
  cases h with
  | rest _ _ hdiscards =>
    by_contra hnot
    rw [Bool.not_eq_false] at hnot
    obtain rfl := hdiscards hnot
    unfold Undisturbed undisturbed at hundisturbed
    cases hpass : s.pass <;> simp_all [Pass.isDiscarding]
  | _ => simp_all [Pass.isDiscarding]

theorem SpacingInv.frame (hinv : SpacingInv s) (hnotify : NotifyInv t) {evaluated : Prop}
    {suppressed : AlertId → ℤ → Prop} (halerts : s.alerts.Moves t.alerts evaluated suppressed)
    (hcreated : t.created = s.created)
    (hcovers : ∀ id instant, Covers s id instant → Covers t id instant)
    (hpass : (∀ listed candidate, Fresh s listed candidate → Fresh t listed candidate) →
      PassInv t t.pass) : SpacingInv t := by
  refine ⟨hnotify, hinv.stored.frame halerts ?_, ?_, hpass fun listed candidate hfresh => ?_⟩
  · rw [hcreated]
    exact fun row hrow => .inl hrow
  · rw [hcreated]
    exact fun row hrow id htells => hcovers id _ (hinv.covered row hrow id htells)
  · refine hfresh.frame halerts ?_
    rw [hcreated]
    exact fun row hrow _ => hrow

theorem SpacingInv.map (hinv : SpacingInv s) (hnotify : NotifyInv t) {evaluated : Prop}
    {suppressed : AlertId → ℤ → Prop} (halerts : s.alerts.Moves t.alerts evaluated suppressed)
    (hcreated : t.created = s.created) {g : Delivery → Delivery}
    (hdeliveries : t.notify.deliveries = s.notify.deliveries.map g)
    (hsame : ∀ row, (g row).alertInstanceId = row.alertInstanceId
      ∧ (g row).eventType = row.eventType ∧ (g row).createdAt = row.createdAt)
    (hdiscarding : s.pass.isDiscarding = true → t.pass = s.pass)
    (hpass : (∀ listed candidate, Fresh s listed candidate → Fresh t listed candidate) →
      PassInv t t.pass) : SpacingInv t := by
  refine hinv.frame hnotify halerts hcreated (fun id instant hcovers => ?_) hpass
  refine hcovers.mono halerts (fun row hrow => ⟨g row, ?_, hsame row⟩) hdiscarding
  rw [hdeliveries]
  exact List.mem_map_of_mem hrow

theorem passInv_of_goes (hinv : SpacingInv s) {p : Pass} (hgoes : Goes s a p)
    (hfresh : ∀ listed candidate, Fresh s listed candidate → Fresh t listed candidate) :
    PassInv t p := by
  have hpass' := hinv.pass
  cases hgoes with
  | rest hrest _ _ => cases p <;> trivial
  | list payloads hpass hp =>
    subst hp
    exact (hinv.turns_of_list hpass payloads).frame (.refl _) fun candidate _ => hfresh _ candidate
  | skip hpass hp =>
    rw [hpass] at hpass'
    subst hp
    exact Turns.frame hpass' (List.sublist_cons_self _ _) fun candidate _ => hfresh _ candidate
  | pick hpass hdue hp =>
    rw [hpass] at hpass'
    subst hp
    exact ⟨Turns.frame hpass' (.refl _) fun candidate _ => hfresh _ candidate, hdue⟩
  | @check call _ _ hp =>
    subst hp
    unfold check
    split_ifs
    · trivial
    · rcases halert : s.deliveryAlert call.delivery with _ | ⟨id, row⟩
      · trivial
      · dsimp only
        split_ifs
        · trivial
        · obtain ⟨id', hid', halert⟩ := Option.bind_eq_some_iff.mp halert
          obtain ⟨row', -, halert⟩ := Option.bind_eq_some_iff.mp halert
          cases halert
          exact hid'

theorem SpacingInv.insert (hinv : SpacingInv s) (hnotify : NotifyInv t) {evaluated : Prop}
    {suppressed : AlertId → ℤ → Prop} (halerts : s.alerts.Moves t.alerts evaluated suppressed)
    {rows : List Delivery} (hinserts : Inserts s.notify t.notify rows)
    (hcreated : t.created = s.created ++ rows)
    (hdiscarding : s.pass.isDiscarding = true → t.pass = s.pass) (hpass : PassInv t t.pass) :
    SpacingInv t := by
  refine ⟨hnotify, hinv.stored.frame halerts ?_, ?_, hpass⟩
  all_goals rw [hcreated]
  · intro row hrow
    exact (List.mem_append.mp hrow).imp_right fun hrow => (hinserts.new row hrow).2.2.2
  · intro row hrow id htells
    rcases List.mem_append.mp hrow with hrow | hrow
    · refine (hinv.covered row hrow id htells).mono halerts (fun old hold => ?_) hdiscarding
      exact ⟨old, hinserts.deliveries ▸ List.mem_append_left _ hold, rfl, rfl, rfl⟩
    · exact .inl ⟨row, hinserts.deliveries ▸ List.mem_append_right _ hrow, htells, le_rfl⟩

theorem Fresh.insert {listed : NotifyView} {candidate : RepeatCandidate}
    (h : Fresh s listed candidate) {evaluated : Prop} {suppressed : AlertId → ℤ → Prop}
    (halerts : s.alerts.Moves t.alerts evaluated suppressed) {rows : List Delivery}
    (hcreated : t.created = s.created ++ rows) (hsource : ∀ row ∈ rows, Source s t row) :
    Fresh t listed candidate := by
  refine h.frame halerts fun row hrow htells => ?_
  rw [hcreated] at hrow
  rcases List.mem_append.mp hrow with hrow | hrow
  · exact hrow
  · obtain ⟨halert, hproblem⟩ := Delivery.tellsOf_iff.mp htells
    obtain ⟨events, hevents, htells⟩ := halerts.events
    rcases hsource row hrow with ⟨hevent, halert', ⟨-, hkind⟩ | ⟨htype, -⟩⟩ | ⟨-, htype⟩
    · rw [hevents, List.drop_left] at hevent
      obtain ⟨_, first, _, -, hfirst⟩ := h.lists
      rw [Option.some.inj (halert.symm.trans halert')] at hfirst
      exact nomatch hfirst.symm.trans ((htells _ hevent).fired hkind).1
    · rw [htype] at hproblem
      exact nomatch hproblem
    · rw [htype] at hproblem
      exact nomatch hproblem

theorem SpacingInv.repeats (hinv : SpacingInv s) (hnotify : NotifyInv t) {rows : List Delivery}
    {channels : ChannelRows} {now : ℤ} {listed : NotifyView} {candidate : RepeatCandidate}
    {window : Option String} {candidates : List RepeatCandidate}
    (hpass : s.pass = .matched channels now listed candidate window candidates)
    (hinserts : Inserts s.notify t.notify rows)
    (hrows : ∀ row ∈ rows, row.alertInstanceId = some candidate.alertInstanceId
      ∧ row.eventType = .repeating ∧ row.createdAt = timestamptz now)
    (hknown : rows ≠ [] → s.alerts.store.life candidate.alertInstanceId ≠ none)
    (hp : t.pass = .repeating channels now listed candidates ∨ rows ≠ [] ∧ t.pass
      = .discarding channels now listed candidate window (rows.map Delivery.id) candidates)
    (halerts : t.alerts = s.alerts) (hcreated : t.created = s.created ++ rows) : SpacingInv t := by
  have hmoves : s.alerts.Moves t.alerts False fun _ _ => False := by
    rw [halerts]
    exact .refl hinv.notify.life
  have hturn := hinv.pass
  rw [hpass] at hturn
  have hdistinct := hturn.1.distinct
  rw [List.map_cons, List.nodup_cons] at hdistinct
  have hturns : Turns t listed candidates := by
    refine hturn.1.frame (List.sublist_cons_self _ _) fun candidate' hmem hfresh => ?_
    refine hfresh.frame hmoves fun row hrow htells => ?_
    rw [hcreated] at hrow
    rcases List.mem_append.mp hrow with hrow | hrow
    · exact hrow
    · have hsame := (Delivery.tellsOf_iff.mp htells).1
      rw [(hrows row hrow).1] at hsame
      exact absurd (Option.some.inj hsame ▸ List.mem_map_of_mem hmem) hdistinct.1
  refine hinv.insert hnotify hmoves hinserts hcreated (by simp [hpass, Pass.isDiscarding]) ?_
  rcases hp with hp | ⟨hne, hp⟩
  · rw [hp]
    exact hturns
  · rw [hp]
    refine ⟨hturns, halerts ▸ hknown hne, fun id hid => ?_, fun row hrow hid => ?_⟩
    · obtain ⟨row, hrow, rfl⟩ := List.mem_map.mp hid
      exact (hinserts.ids row hrow).2
    · rw [hinserts.deliveries] at hrow
      rcases List.mem_append.mp hrow with hrow | hrow
      · obtain ⟨row', hrow', heq⟩ := List.mem_map.mp hid
        have hge := (hinserts.ids row' hrow').1
        rw [heq] at hge
        exact absurd (hinv.notify.fresh row hrow) (Nat.not_lt.mpr hge)
      · exact ⟨(hrows row hrow).1, (hrows row hrow).2.2⟩

theorem Covers.discard {channels : ChannelRows} {now : ℤ} {listed : NotifyView}
    {candidate : RepeatCandidate} {window : Option String} {id : DeliveryId}
    {ids : List DeliveryId} {candidates : List RepeatCandidate} {alertId : AlertId} {instant : ℤ}
    (h : Covers s alertId instant)
    (hpass : s.pass = .discarding channels now listed candidate window (id :: ids) candidates)
    (hdiscards : Discards s now candidate (id :: ids)) :
    Covers { s with
      notify := s.notify.deletePendingNotification id
      pass := .discarding channels now listed candidate window ids candidates } alertId
      instant := by
  rcases h with ⟨row, hrow, htells, hle⟩ | hevent | ⟨_, _, _, _, _, _, _, hdiscarding, hid, hle⟩
  · by_cases hdeleted : row.id = id ∧ row.status = .pending
    · obtain ⟨halert, hcreated⟩ := hdiscards.rows row hrow (hdeleted.1 ▸ List.mem_cons_self)
      refine .inr (.inr ⟨_, _, _, _, _, _, _, rfl, ?_, hcreated ▸ hle⟩)
      exact Option.some.inj (halert.symm.trans (Delivery.tellsOf_iff.mp htells).1)
    · exact .inl ⟨row, mem_deletePendingNotification.mpr ⟨hrow, hdeleted⟩, htells, hle⟩
  · exact .inr (.inl hevent)
  · rw [hpass] at hdiscarding
    cases hdiscarding
    exact .inr (.inr ⟨_, _, _, _, _, _, _, rfl, hid, hle⟩)

theorem covers_recordSuppressed {id : AlertId} {window : Option String} {now instant : ℤ}
    (hknown : s.alerts.store.life id ≠ none) (hle : instant ≤ timestamptz now)
    (ht : t.alerts.store = s.alerts.store.recordMaintenanceSuppressed id window now) :
    Covers t id instant := by
  rcases recordMaintenanceSuppressed_events s.alerts.store id window now with
    ⟨hnone, -⟩ | ⟨event, hevents, hkind, hid, hat⟩
  · rw [AlertStore.life, column, hnone] at hknown
    exact absurd rfl hknown
  · refine .inr (.inl ⟨event, ?_, ?_, hat ▸ hle⟩)
    · rw [ht, hevents]
      exact List.mem_append_right _ (List.mem_singleton_self _)
    · simp [AlertEvent.suppresses, hid, hkind]

theorem spacingInv_step (hinv : SpacingInv s) (h : step retryBackoffCap s a = some t)
    (hundisturbed : Undisturbed s a t) : SpacingInv t := by
  have hnotify := notifyInv_step hinv.notify h
  obtain ⟨_, halerts⟩ := hinv.notify.alerts_moves h
  have hpass' := hinv.pass
  cases moves_of_step hinv.notify.life h with
  | quiet _ hstore hcreated _ hpass =>
    refine hinv.map (g := id) hnotify halerts hcreated (by rw [hstore, List.map_id])
      (fun _ => ⟨rfl, rfl, rfl⟩) (fun _ => hpass) fun hfresh => ?_
    rw [hpass]
    refine hpass'.frame hfresh fun _ _ _ hdiscards => hdiscards.frame halerts ?_ ?_
    · rw [hstore]
    · rw [hstore]
      exact fun row hrow => .inr ⟨row, hrow, rfl, rfl, rfl⟩
  | go hgoes ht =>
    subst ht
    refine hinv.map (g := id) hnotify halerts rfl (List.map_id _).symm (fun _ => ⟨rfl, rfl, rfl⟩)
      ?_ fun hfresh => passInv_of_goes hinv hgoes hfresh
    rw [hgoes.not_discarding hundisturbed]
    rintro ⟨⟩
  | clear ht =>
    subst ht
    refine hinv.map hnotify halerts rfl rfl (fun _ => ⟨rfl, rfl, rfl⟩) (fun _ => rfl)
      fun hfresh => ?_
    refine hpass'.frame hfresh fun _ _ _ hdiscards => hdiscards.frame halerts le_rfl ?_
    intro row hrow
    obtain ⟨old, hold, rfl⟩ := List.mem_map.mp hrow
    exact .inr ⟨old, hold, rfl, rfl, rfl⟩
  | insert _ hinserts hcreated _ hpass _ hsource =>
    refine hinv.insert hnotify halerts hinserts hcreated (fun _ => hpass) ?_
    rw [hpass]
    refine hpass'.frame (fun _ _ hfresh => hfresh.insert halerts hcreated hsource)
      fun _ _ _ hdiscards => hdiscards.frame halerts hinserts.next fun row hrow => ?_
    rw [hinserts.deliveries] at hrow
    rcases List.mem_append.mp hrow with hrow | hrow
    · exact .inr ⟨row, hrow, rfl, rfl, rfl⟩
    · exact .inl (hinserts.ids row hrow).1
  | repeats _ hpass hinserts hrows hknown hp ht =>
    subst ht
    exact hinv.repeats hnotify hpass hinserts hrows hknown hp rfl rfl
  | discard hpass ht =>
    subst ht
    rw [hpass] at hpass'
    refine hinv.frame hnotify halerts rfl (fun _ _ h => h.discard hpass hpass'.2) fun hfresh => ?_
    refine ⟨hpass'.1.frame (.refl _) fun candidate _ => hfresh _ candidate, hpass'.2.known,
      fun id hid => hpass'.2.past id (List.mem_cons_of_mem _ hid), fun row hrow hid => ?_⟩
    exact hpass'.2.rows row (mem_deletePendingNotification.mp hrow).1 (List.mem_cons_of_mem _ hid)
  | discarded hpass ht =>
    subst ht
    rw [hpass] at hpass'
    refine hinv.frame hnotify halerts rfl (fun id instant hcovers => ?_) fun hfresh =>
      hpass'.1.frame (.refl _) fun candidate _ => hfresh _ candidate
    rcases hcovers with hrow | ⟨event, hevent, hkind, hle⟩ | ⟨_, _, _, _, _, _, _, hdiscarding, hid,
      hle⟩
    · exact .inl hrow
    · exact .of_event halerts hevent hkind hle
    · rw [hpass] at hdiscarding
      cases hdiscarding
      exact covers_recordSuppressed (hid ▸ hpass'.2.known) hle (by rw [← hid]; rfl)
  | claim hpass hrow hclaimable ht =>
    subst ht
    refine hinv.map hnotify halerts rfl rfl (fun row => ?_) (by simp [hpass, Pass.isDiscarding])
      fun _ => trivial
    split_ifs <;> exact ⟨rfl, rfl, rfl⟩
  | @suppress call id _ hpass ht =>
    rw [hinv.notify.suppressNotificationForMaintenance_eq hpass] at ht
    subst ht
    rw [hpass] at hpass'
    obtain ⟨held, hheld, hholds⟩ := hinv.notify.call _ (by rw [hpass]; rfl)
    refine hinv.frame hnotify halerts rfl (fun id' instant hcovers => ?_) fun _ => trivial
    rcases hcovers with ⟨row, hrow, htells, hle⟩ | ⟨event, hevent, hkind, hle⟩ | ⟨_, _, _, _, _, _,
      _, hdiscarding, -⟩
    · by_cases hdeleted : row.id = call.delivery.id ∧ row.status = .pending
      · obtain rfl := eq_of_id hinv.notify.unique hrow hheld (hdeleted.1.trans hholds.id.symm)
        have halert := (Delivery.tellsOf_iff.mp htells).1
        have hid := Option.some.inj (halert.symm.trans (hholds.alert.trans hpass'))
        subst hid
        refine covers_recordSuppressed (hinv.notify.known row hrow _ halert) ?_ rfl
        exact hle.trans ((hinv.notify.times row hrow).trans hholds.due)
      · exact .inl ⟨row, mem_deletePendingNotification.mpr ⟨hrow, hdeleted⟩, htells, hle⟩
    · exact .of_event halerts hevent hkind hle
    · rw [hpass] at hdiscarding
      cases hdiscarding
  | @attempt call facts outcome ha hpass ht =>
    obtain ⟨entry, error, heq, -⟩ := attempt_spec s call outcome
    rw [heq] at ht
    subst ht
    exact hinv.map (g := id) hnotify halerts rfl (List.map_id _).symm (fun _ => ⟨rfl, rfl, rfl⟩)
      (by simp [hpass, Pass.isDiscarding]) fun _ => trivial
  | record _ hpass _ hrecorded ht =>
    subst ht
    obtain ⟨attempt, f, -, -, -, -, hcompletes, rfl⟩ := recorded_spec hrecorded
    refine hinv.map hnotify halerts rfl rfl (fun row => ?_) (by simp [hpass, Pass.isDiscarding])
      fun _ => trivial
    split_ifs
    · rw [hcompletes.same]
      exact ⟨rfl, rfl, rfl⟩
    · exact ⟨rfl, rfl, rfl⟩
  | lost _ hpass _ ht =>
    subst ht
    exact hinv.map (g := id) hnotify halerts rfl (List.map_id _).symm (fun _ => ⟨rfl, rfl, rfl⟩)
      (by simp [hpass, Pass.isDiscarding]) fun _ => trivial

theorem repeatsSpaced_step (hinv : SpacingInv s) (h : step retryBackoffCap s a = some t)
    (hundisturbed : Undisturbed s a t) : RepeatsSpaced s a t := by
  have hnone : t.created = s.created → RepeatsSpaced s a t := by
    intro hcreated row hrow
    rw [hcreated, List.drop_length] at hrow
    exact nomatch hrow
  cases moves_of_step hinv.notify.life h with
  | quiet _ _ hcreated _ _ => exact hnone hcreated
  | insert _ _ hcreated _ _ _ hsource =>
    intro row hrow htype
    rw [hcreated, List.drop_left] at hrow
    exact absurd htype (hsource row hrow).eventType.2
  | repeats ha hpass _ hrows _ _ ht =>
    subst ht ha
    intro row hrow _
    rw [show (s.created ++ _).drop s.created.length = _ from List.drop_left] at hrow
    obtain ⟨alert, policy, hspaced⟩ := hinv.spaced hpass hundisturbed (hrows row hrow).2.2
    exact ⟨_, _, alert, policy, (hrows row hrow).1, hspaced⟩
  | suppress hpass ht =>
    rw [hinv.notify.suppressNotificationForMaintenance_eq hpass] at ht
    exact hnone (by rw [ht]; rfl)
  | @attempt call _ outcome _ _ ht =>
    obtain ⟨entry, error, heq, -⟩ := attempt_spec s call outcome
    exact hnone (by rw [ht, heq])
  | _ => exact hnone (by subst t; rfl)

/-- In every run in which no suppression is recorded between the listing of a candidate and its
turn, and discarding does not fail. -/
theorem repeats_spaced (retryBackoffCap : RetryBackoffCap) (actions : List Action)
    (h : Machine.Along (step retryBackoffCap) Undisturbed {} actions) :
    Machine.Along (step retryBackoffCap) RepeatsSpaced {} actions := by
  refine Machine.Along.of_guarded (I := SpacingInv) (fun s a t hinv hstep hundisturbed => ?_)
    spacingInv_init h
  exact ⟨repeatsSpaced_step hinv hstep hundisturbed, spacingInv_step hinv hstep hundisturbed⟩

section Example

/-- The alert fires and is mailed; when its first repeat is due, the pass lists it. -/
def listsRepeat (settings : NotifySettings) : List Action :=
  .configure settings :: evaluates .breaching second ++ opens (2 * second)
    ++ .matchRepeat :: hands 0 none ++ .drained :: opens (62 * second)

def turnsRepeat : List Action := [.matchRepeat, .enqueueRepeat, .matchRepeat]

theorem repeats_spaced_mailed :
    (Machine.run (step defaultRetryBackoffCap) {} (listsRepeat mailSettings ++ turnsRepeat)).map
        (fun s => s.created.map fun row => (row.eventType, row.createdAt))
      = some [(.firing, second), (.repeating, 62 * second)]
      ∧ Machine.Along (step defaultRetryBackoffCap) RepeatsSpaced {}
        (listsRepeat mailSettings ++ turnsRepeat) := by
  have hrun : (Machine.run (step defaultRetryBackoffCap) {}
      (listsRepeat mailSettings ++ turnsRepeat)).map
        (fun s => s.created.map fun row => (row.eventType, row.createdAt))
      = some [(.firing, second), (.repeating, 62 * second)] := by
    decide +kernel
  have hundisturbed : Machine.Along (step defaultRetryBackoffCap) Undisturbed {}
      (listsRepeat mailSettings ++ turnsRepeat) := by
    decide +kernel
  exact ⟨hrun, repeats_spaced _ _ hundisturbed⟩

def maintenanceSettings : NotifySettings :=
  { mailSettings with
    windows := [{ id := "upgrade", instanceIds := ["db"], startsAt := 30 * second
                  endsAt := 61950 * millisecond }] }

/-- A repeat is enqueued a tenth of a second after the suppression; the interval is a minute. -/
theorem repeat_beside_suppression :
    (Machine.run (step defaultRetryBackoffCap) {}
        (listsRepeat maintenanceSettings ++ evaluated .recovering (61900 * millisecond)
          ++ turnsRepeat)).map
        (fun s => (s.created.map fun row => (row.eventType, row.createdAt),
          (s.alerts.store.events.filter (·.suppresses 0)).map AlertEvent.evaluatedAt))
      = some ([(.firing, second), (.repeating, 62 * second)], [61900 * millisecond]) := by
  decide +kernel

end Example

end Notifier

end DbsMonitor
