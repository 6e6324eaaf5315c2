import DbsMonitor.Proofs.NotifierMoves

/-!
# How often a delivery is tried

When the channel answers after the deadline, the recording of the attempt fails, the row stays as it
was, and the lease makes it due again. Between an attempt and its recording the counts are one
behind (`inFlight`).
-/

namespace DbsMonitor

open NotifyStore

namespace Notifier

variable {s t : Notifier} {a : Action} {retryBackoffCap : RetryBackoffCap}

def sends (s : Notifier) (id : DeliveryId) : ℕ := s.tries.countP (·.delivery.id = id)

def attemptRows (s : Notifier) (id : DeliveryId) : ℕ :=
  s.notify.attempts.countP (·.notificationId = id)

def inFlight (s : Notifier) (id : DeliveryId) : ℕ :=
  match s.pass with
  | .attempted call _ => if call.delivery.id = id then 1 else 0
  | _ => 0

def SameState (row row' : Delivery) : Prop :=
  row'.id = row.id ∧ row'.status = row.status ∧ row'.attemptCount = row.attemptCount
    ∧ row'.completedAt = row.completedAt

def KeepsEnded (s t : Notifier) : Prop :=
  ∀ row ∈ s.notify.deliveries, row.status ≠ .pending →
    t.sends row.id = s.sends row.id ∧ ∃ row' ∈ t.notify.deliveries, SameState row row'

structure AttemptsKept (s : Notifier) (_ : Action) (t : Notifier) : Prop where
  bounded : ∀ id, t.sends id ≤ maxAttempts
  counted : ∀ row ∈ t.notify.deliveries, row.attemptCount + t.inFlight row.id = t.sends row.id
  recorded : ∀ row ∈ t.notify.deliveries, t.attemptRows row.id + t.inFlight row.id = t.sends row.id
  ended : KeepsEnded s t

/-- The outcome of an attempt is recorded before its deadline, with a text that the database
takes. -/
def RecordsInTime (s : Notifier) (a : Action) (_ : Notifier) : Prop :=
  ∀ call error, a = .record → s.pass = .attempted call error →
    s.clock < call.deadline ∧ error.all storableReason = true

structure AttemptInv (s : Notifier) : Prop where
  notify : NotifyInv s
  bounded : ∀ id, s.sends id ≤ maxAttempts
  counted : ∀ row ∈ s.notify.deliveries, row.attemptCount + s.inFlight row.id = s.sends row.id
  recorded : ∀ row ∈ s.notify.deliveries, s.attemptRows row.id + s.inFlight row.id = s.sends row.id
  limit : ∀ row ∈ s.notify.deliveries, row.status = .pending → row.attemptCount < maxAttempts
  retries : ∀ attempt ∈ s.notify.attempts, ∀ row ∈ s.notify.deliveries,
    row.id = attempt.notificationId → attempt.retryCount < row.attemptCount
  past : ∀ id, s.notify.nextDelivery ≤ id → s.sends id = 0 ∧ s.attemptRows id = 0

theorem attemptInv_init : AttemptInv {} where
  notify := notifyInv_init
  bounded := fun _ => Nat.zero_le _
  counted := fun _ h => nomatch h
  recorded := fun _ h => nomatch h
  limit := fun _ h => nomatch h
  retries := fun _ h => nomatch h
  past := fun _ _ => ⟨rfl, rfl⟩

theorem inFlight_eq_zero (h : ∀ call error, s.pass ≠ .attempted call error) (id : DeliveryId) :
    s.inFlight id = 0 := by
  unfold inFlight
  split
  · next call error hpass => exact absurd hpass (h call error)
  · rfl

theorem inFlight_of_not_attempted (hs : ∀ call error, s.pass ≠ .attempted call error)
    (ht : ∀ call error, t.pass ≠ .attempted call error) : t.inFlight = s.inFlight := by
  funext id
  rw [inFlight_eq_zero hs, inFlight_eq_zero ht]

theorem inFlight_of_pass (h : t.pass = s.pass) : t.inFlight = s.inFlight := by
  unfold inFlight
  rw [h]

theorem AttemptInv.frame (hinv : AttemptInv s) (hnotify : NotifyInv t) (htries : t.tries = s.tries)
    (hattempts : t.notify.attempts ⊆ s.notify.attempts)
    (hattemptRows : ∀ row ∈ t.notify.deliveries, t.attemptRows row.id = s.attemptRows row.id)
    (hflight : t.inFlight = s.inFlight) (hnext : s.notify.nextDelivery ≤ t.notify.nextDelivery)
    (hrows : ∀ row' ∈ t.notify.deliveries, (∃ row ∈ s.notify.deliveries, SameState row row')
      ∨ s.notify.nextDelivery ≤ row'.id ∧ row'.attemptCount = 0)
    (hended : ∀ row ∈ s.notify.deliveries, row.status ≠ .pending →
      ∃ row' ∈ t.notify.deliveries, SameState row row') :
    AttemptInv t ∧ KeepsEnded s t := by
  have hsends : t.sends = s.sends := by
    unfold sends
    rw [htries]
  -- a new delivery has not been tried
  have hnew : ∀ id, s.notify.nextDelivery ≤ id → s.inFlight id = 0 := by
    intro id hid
    unfold inFlight
    split
    · next call error hpass =>
      obtain ⟨row, hrow, hholds⟩ := hinv.notify.call call (by rw [hpass]; rfl)
      have hlt := hinv.notify.fresh row hrow
      rw [hholds.id] at hlt
      exact if_neg (Nat.ne_of_lt (hlt.trans_le hid))
    · rfl
  refine ⟨⟨hnotify, ?_, ?_, ?_, ?_, ?_, ?_⟩, fun row hrow hstatus => ?_⟩
  · rw [hsends]
    exact hinv.bounded
  · intro row' hrow'
    rw [hsends, hflight]
    rcases hrows row' hrow' with ⟨row, hrow, hid, -, hcount, -⟩ | ⟨hid, hcount⟩
    · rw [hid, hcount]
      exact hinv.counted row hrow
    · rw [hcount, hnew _ hid, (hinv.past _ hid).1]
  · intro row' hrow'
    rw [hsends, hattemptRows row' hrow', hflight]
    rcases hrows row' hrow' with ⟨row, hrow, hid, -⟩ | ⟨hid, -⟩
    · rw [hid]
      exact hinv.recorded row hrow
    · rw [hnew _ hid, (hinv.past _ hid).1, (hinv.past _ hid).2]
  · intro row' hrow' hpending
    rcases hrows row' hrow' with ⟨row, hrow, -, hstatus, hcount, -⟩ | ⟨-, hcount⟩
    · rw [hcount]
      exact hinv.limit row hrow (hstatus.symm.trans hpending)
    · rw [hcount]
      decide
  · intro attempt hattempt row' hrow' hid'
    rcases hrows row' hrow' with ⟨row, hrow, hid, -, hcount, -⟩ | ⟨hid, -⟩
    · rw [hcount]
      exact hinv.retries attempt (hattempts hattempt) row hrow (hid.symm.trans hid')
    · have hzero := (hinv.past _ hid).2
      rw [attemptRows, List.countP_eq_zero] at hzero
      exact absurd (decide_eq_true hid'.symm) (hzero attempt (hattempts hattempt))
  · intro id hid
    obtain ⟨hsent, hzero⟩ := hinv.past id (hnext.trans hid)
    rw [attemptRows, List.countP_eq_zero] at hzero
    rw [hsends, attemptRows, List.countP_eq_zero]
    exact ⟨hsent, fun attempt hattempt => hzero attempt (hattempts hattempt)⟩
  · rw [hsends]
    exact ⟨rfl, hended row hrow hstatus⟩

theorem AttemptInv.frame_map (hinv : AttemptInv s) (hnotify : NotifyInv t)
    (htries : t.tries = s.tries) (hattempts : t.notify.attempts = s.notify.attempts)
    (hflight : t.inFlight = s.inFlight)
    (hnext : s.notify.nextDelivery ≤ t.notify.nextDelivery) {g : Delivery → Delivery}
    (hdeliveries : t.notify.deliveries = s.notify.deliveries.map g)
    (hsame : ∀ row, SameState row (g row)) : AttemptInv t ∧ KeepsEnded s t := by
  refine hinv.frame hnotify htries (by rw [hattempts]; exact List.Subset.refl _)
    (fun _ _ => by rw [attemptRows, hattempts, attemptRows]) hflight hnext ?_ ?_
  all_goals rw [hdeliveries]
  · intro row' hrow'
    obtain ⟨row, hrow, rfl⟩ := List.mem_map.mp hrow'
    exact .inl ⟨row, hrow, hsame row⟩
  · exact fun row hrow _ => ⟨g row, List.mem_map_of_mem hrow, hsame row⟩

theorem AttemptInv.frame_insert (hinv : AttemptInv s) (hnotify : NotifyInv t)
    (htries : t.tries = s.tries) {rows : List Delivery} (hinserts : Inserts s.notify t.notify rows)
    (hflight : t.inFlight = s.inFlight) : AttemptInv t ∧ KeepsEnded s t := by
  refine hinv.frame hnotify htries (by rw [hinserts.attempts]; exact List.Subset.refl _)
    (fun _ _ => by rw [attemptRows, hinserts.attempts, attemptRows]) hflight hinserts.next ?_ ?_
  all_goals rw [hinserts.deliveries]
  · intro row' hrow'
    rcases List.mem_append.mp hrow' with hrow' | hrow'
    · exact .inl ⟨row', hrow', rfl, rfl, rfl, rfl⟩
    · exact .inr ⟨(hinserts.ids row' hrow').1, (hinserts.new row' hrow').2.1⟩
  · exact fun row hrow _ => ⟨row, List.mem_append_left _ hrow, rfl, rfl, rfl, rfl⟩

theorem AttemptInv.frame_delete (hinv : AttemptInv s) (hnotify : NotifyInv t)
    (htries : t.tries = s.tries) {id : DeliveryId}
    (hstore : t.notify = s.notify.deletePendingNotification id)
    (hflight : t.inFlight = s.inFlight) :
    AttemptInv t ∧ KeepsEnded s t := by
  refine hinv.frame hnotify htries ?_ ?_ hflight ?_ ?_ ?_
  all_goals rw [hstore]
  · exact List.filter_subset_self _
  · intro row hrow
    obtain ⟨hmem, hkept⟩ := mem_deletePendingNotification.mp hrow
    unfold attemptRows
    rw [hstore, deletePendingNotification, List.countP_filter]
    refine List.countP_congr fun attempt _ => ?_
    -- no row with the identifier of one that stays is deleted
    have hstays : row.id = id → ∀ other ∈ s.notify.deliveries, other.id = id →
        other.status ≠ .pending := by
      rintro hid other hother hid' hpending
      obtain rfl := eq_of_id hinv.notify.unique hother hmem (hid'.trans hid.symm)
      exact hkept ⟨hid, hpending⟩
    simp only [Bool.and_eq_true, decide_eq_true_eq, Bool.not_eq_true', Bool.and_eq_false_imp,
      List.any_eq_false, not_and]
    refine and_iff_left_of_imp fun hrow hid => ?_
    exact hstays (hrow.symm.trans hid)
  · exact le_rfl
  · exact fun row hrow => .inl ⟨row, (mem_deletePendingNotification.mp hrow).1, rfl, rfl, rfl, rfl⟩
  · exact fun row hrow hstatus =>
      ⟨row, mem_deletePendingNotification.mpr ⟨hrow, fun h => hstatus h.2⟩, rfl, rfl, rfl, rfl⟩

theorem AttemptInv.attempt (hinv : AttemptInv s) {call : DispatchCall} {facts : SuppressionFacts}
    (hpass : s.pass = .passed call facts) {entry : Try} (hentry : entry.delivery = call.delivery)
    {error : Option String}
    (ht : t = { s with tries := s.tries ++ [entry], pass := .attempted call error })
    (hnotify : NotifyInv t) : AttemptInv t ∧ KeepsEnded s t := by
  obtain ⟨held, hheld, hholds⟩ := hinv.notify.call call (by rw [hpass]; rfl)
  have hidle : ∀ id, s.inFlight id = 0 := inFlight_eq_zero (by simp [hpass])
  have hsends : ∀ id, t.sends id = s.sends id + if call.delivery.id = id then 1 else 0 := by
    intro id
    rw [ht]
    unfold sends
    rw [List.countP_append, List.countP_singleton, hentry]
    simp
  have hflight : ∀ id, t.inFlight id = if call.delivery.id = id then 1 else 0 := by
    intro id
    rw [ht]
    rfl
  have hstore : t.notify = s.notify := by rw [ht]
  have hcounted : ∀ row ∈ s.notify.deliveries, row.attemptCount = s.sends row.id
      ∧ s.attemptRows row.id = s.sends row.id := by
    intro row hrow
    have hcount := hinv.counted row hrow
    have hrecorded := hinv.recorded row hrow
    rw [hidle] at hcount hrecorded
    exact ⟨hcount, hrecorded⟩
  refine ⟨⟨hnotify, fun id => ?_, ?_, ?_, ?_, ?_, ?_⟩, fun row hrow hstatus => ?_⟩
  · rw [hsends]
    split_ifs with hid
    · have hlimit := hinv.limit held hheld hholds.status
      rw [(hcounted held hheld).1, hholds.id, hid] at hlimit
      omega
    · exact hinv.bounded id
  · rw [hstore]
    intro row hrow
    rw [hsends, hflight, (hcounted row hrow).1]
  · rw [hstore]
    intro row hrow
    rw [hsends, hflight, ← (hcounted row hrow).2]
    unfold attemptRows
    rw [hstore]
  · rw [hstore]
    exact hinv.limit
  · rw [hstore]
    exact hinv.retries
  · unfold attemptRows
    rw [hstore]
    intro id hid
    have hlt := hinv.notify.fresh held hheld
    rw [hholds.id] at hlt
    rw [hsends, if_neg (Nat.ne_of_lt (hlt.trans_le hid))]
    exact hinv.past id hid
  · rw [hstore, hsends, if_neg]
    · exact ⟨rfl, row, hrow, rfl, rfl, rfl, rfl⟩
    · intro hid
      obtain rfl := eq_of_id hinv.notify.unique hrow hheld (hid.symm.trans hholds.id.symm)
      exact hstatus hholds.status

theorem AttemptInv.record (hinv : AttemptInv s) {call : DispatchCall} {error : Option String}
    (hpass : s.pass = .attempted call error) {notify : NotifyStore}
    (hrecorded : s.recorded retryBackoffCap call error = some notify)
    (ht : t = { s with
      notify := notify
      alerts := { s.alerts with store := s.logAttempt call error }
      pass := .dispatching call.channels s.clock })
    (hnotify : NotifyInv t) : AttemptInv t ∧ KeepsEnded s t := by
  obtain ⟨held, hheld, hholds⟩ := hinv.notify.call call (by rw [hpass]; rfl)
  obtain ⟨attempt, f, -, hid, hretry, -, hcompletes, hstore⟩ := recorded_spec hrecorded
  have hsends : t.sends = s.sends := by rw [ht]; rfl
  have hidle : ∀ id, t.inFlight id = 0 := by
    intro id
    rw [ht]
    rfl
  have hflight : ∀ id, s.inFlight id = if call.delivery.id = id then 1 else 0 := by
    intro id
    unfold inFlight
    rw [hpass]
  have hattemptRows : ∀ id, t.attemptRows id
      = s.attemptRows id + if call.delivery.id = id then 1 else 0 := by
    intro id
    rw [ht, hstore]
    unfold attemptRows
    rw [List.countP_append, List.countP_singleton, hid]
    simp
  -- the recorded row, and the others
  have hrows : ∀ row' ∈ t.notify.deliveries,
      (row'.id = call.delivery.id ∧ row' = f held) ∨ (row'.id ≠ call.delivery.id
        ∧ row' ∈ s.notify.deliveries) := by
    intro row' hrow'
    rw [ht, hstore] at hrow'
    obtain ⟨row, hrow, rfl⟩ := List.mem_map.mp hrow'
    by_cases hself : row.id = call.delivery.id
    · obtain rfl := eq_of_id hinv.notify.unique hrow hheld (hself.trans hholds.id.symm)
      rw [if_pos ⟨hself, hholds.status⟩]
      refine .inl ⟨?_, rfl⟩
      rw [hcompletes.same]
      exact hself
    · rw [if_neg fun h => hself h.1]
      exact .inr ⟨hself, hrow⟩
  refine ⟨⟨hnotify, ?_, fun row' hrow' => ?_, fun row' hrow' => ?_, fun row' hrow' => ?_,
    fun other hother row' hrow' hid' => ?_, fun id hid' => ?_⟩, fun row hrow hstatus => ?_⟩
  · rw [hsends]
    exact hinv.bounded
  · rw [hsends, hidle]
    rcases hrows row' hrow' with ⟨hself, rfl⟩ | ⟨hself, hrow⟩
    · have hcount := hinv.counted held hheld
      rw [hflight, if_pos hholds.id.symm, hholds.count] at hcount
      rw [hcompletes.count, hself, ← hholds.id, ← hcount]
    · have hcount := hinv.counted row' hrow
      rwa [hflight, if_neg (Ne.symm hself)] at hcount
  · rw [hsends, hidle, hattemptRows, ← hflight, Nat.add_zero]
    rcases hrows row' hrow' with ⟨hself, rfl⟩ | ⟨-, hrow⟩
    · rw [hself, ← hholds.id]
      exact hinv.recorded held hheld
    · exact hinv.recorded row' hrow
  · rcases hrows row' hrow' with ⟨-, rfl⟩ | ⟨-, hrow⟩
    · intro hpending
      rw [hcompletes.count]
      exact hcompletes.pending held hpending
    · exact hinv.limit row' hrow
  · rw [ht, hstore] at hother
    rcases hrows row' hrow' with ⟨hself, rfl⟩ | ⟨hself, hrow⟩
    · rw [hcompletes.count]
      rcases List.mem_append.mp hother with hother | hother
      · have hlt := hinv.retries other hother held hheld
          (hholds.id.trans (hself.symm.trans hid'))
        rw [hholds.count] at hlt
        omega
      · rw [List.mem_singleton.mp hother, hretry]
        omega
    · rcases List.mem_append.mp hother with hother | hother
      · exact hinv.retries other hother row' hrow hid'
      · rw [List.mem_singleton.mp hother, hid] at hid'
        exact absurd hid' hself
  · have hlt := hinv.notify.fresh held hheld
    have hnext : t.notify.nextDelivery = s.notify.nextDelivery := by rw [ht, hstore]
    rw [hnext] at hid'
    rw [hholds.id] at hlt
    rw [hsends, hattemptRows, if_neg (Nat.ne_of_lt (hlt.trans_le hid'))]
    exact hinv.past id hid'
  · rw [hsends]
    refine ⟨rfl, row, ?_, rfl, rfl, rfl, rfl⟩
    rw [ht, hstore]
    refine List.mem_map.mpr ⟨row, hrow, if_neg fun h => hstatus h.2⟩

theorem AttemptInv.recorded_isSome (hinv : AttemptInv s) {call : DispatchCall}
    {error : Option String} (hpass : s.pass = .attempted call error)
    (hstorable : error.all storableReason = true) :
    s.recorded retryBackoffCap call error ≠ none := by
  obtain ⟨held, hheld, hholds⟩ := hinv.notify.call call (by rw [hpass]; rfl)
  have hadmits : ∀ attempt : DeliveryAttempt, attempt.notificationId = call.delivery.id →
      attempt.retryCount = call.delivery.attemptCount → attempt.failureReason = error →
      s.notify.admitsAttempt attempt = true := by
    intro attempt hid hcount hreason
    have hlimit := hinv.limit held hheld hholds.status
    unfold admitsAttempt
    rw [hid, hcount, hreason, hstorable, ← hholds.id, ← hholds.count, delivery?_isSome hheld,
      decide_eq_true hlimit, Bool.and_true, Bool.and_true, Bool.true_and, List.all_eq_true]
    intro other hother
    rw [Bool.not_eq_true', Bool.and_eq_false_imp]
    intro hsame
    have hlt := hinv.retries other hother held hheld (of_decide_eq_true hsame).symm
    exact decide_eq_false (Nat.ne_of_lt hlt)
  unfold Notifier.recorded
  rcases error with _ | reason
  · dsimp only
    unfold recordNotificationSent recordAttempt
    rw [if_pos (hadmits _ rfl rfl rfl)]
    exact Option.some_ne_none _
  · dsimp only
    unfold recordNotificationFailure recordAttempt
    rw [if_pos (hadmits _ rfl rfl rfl)]
    exact Option.some_ne_none _

theorem attemptInv_step (hinv : AttemptInv s) (h : step retryBackoffCap s a = some t)
    (htimely : RecordsInTime s a t) : AttemptInv t ∧ KeepsEnded s t := by
  have hnotify := notifyInv_step hinv.notify h
  cases moves_of_step hinv.notify.life h with
  | quiet halerts hstore hcreated htries hpass =>
    refine hinv.frame_map (g := id) hnotify htries (by rw [hstore]) (inFlight_of_pass hpass)
      (by rw [hstore]) (by rw [hstore, List.map_id]) fun _ => ⟨rfl, rfl, rfl, rfl⟩
  | clear ht =>
    subst ht
    exact hinv.frame_map hnotify rfl rfl rfl le_rfl rfl fun _ => ⟨rfl, rfl, rfl, rfl⟩
  | go hgoes ht =>
    subst ht
    obtain ⟨hs, hp⟩ := hgoes.not_attempted
    exact hinv.frame_map (g := id) hnotify rfl rfl (inFlight_of_not_attempted hs hp) le_rfl
      (List.map_id _).symm fun _ => ⟨rfl, rfl, rfl, rfl⟩
  | insert halerts hinserts hcreated htries hpass hknown hsource =>
    exact hinv.frame_insert hnotify htries hinserts (inFlight_of_pass hpass)
  | repeats ha hpass hinserts hrows hknown hp ht =>
    subst ht
    refine hinv.frame_insert hnotify rfl hinserts
      (inFlight_of_not_attempted (by simp [hpass]) fun _ _ h => ?_)
    rcases hp with rfl | ⟨-, rfl⟩ <;> exact nomatch h
  | discard hpass ht =>
    subst ht
    exact hinv.frame_delete hnotify rfl rfl
      (inFlight_of_not_attempted (by simp [hpass]) fun _ _ h => nomatch h)
  | discarded hpass ht =>
    subst ht
    exact hinv.frame_map (g := id) hnotify rfl rfl
      (inFlight_of_not_attempted (by simp [hpass]) fun _ _ h => nomatch h) le_rfl
      (List.map_id _).symm fun _ => ⟨rfl, rfl, rfl, rfl⟩
  | claim hpass hrow hclaimable ht =>
    subst ht
    refine hinv.frame_map hnotify rfl rfl
      (inFlight_of_not_attempted (by simp [hpass]) fun _ _ h => nomatch h) le_rfl rfl fun row => ?_
    split_ifs <;> exact ⟨rfl, rfl, rfl, rfl⟩
  | suppress hpass ht =>
    subst ht
    rw [hinv.notify.suppressNotificationForMaintenance_eq hpass] at hnotify ⊢
    exact hinv.frame_delete hnotify rfl rfl
      (inFlight_of_not_attempted (by simp [hpass]) fun _ _ h => nomatch h)
  | @attempt call facts outcome ha hpass ht =>
    obtain ⟨entry, error, heq, hentry, -⟩ := attempt_spec s call outcome
    exact hinv.attempt hpass hentry (ht.trans heq) hnotify
  | record ha hpass hdeadline hrecorded ht => exact hinv.record hpass hrecorded ht hnotify
  | lost ha hpass hlost ht =>
    obtain ⟨hdeadline, hstorable⟩ := htimely _ _ ha hpass
    rcases hlost with hlate | hnone
    · exact absurd hdeadline (not_lt.mpr hlate)
    · exact absurd hnone (hinv.recorded_isSome hpass hstorable)

theorem recordsInTime_of_kept (hinv : AttemptInv s) (h : step retryBackoffCap s a = some t)
    (hkept : AttemptsKept s a t) : RecordsInTime s a t := by
  rintro call error rfl hpass
  obtain ⟨held, hheld, hholds⟩ := hinv.notify.call call (by rw [hpass]; rfl)
  have hcount := hinv.counted held hheld
  have hlost : t ≠ { s with pass := .idle } := by
    rintro rfl
    have hcount' := hkept.counted held hheld
    unfold inFlight sends at hcount hcount'
    rw [hpass] at hcount
    dsimp only at hcount hcount'
    rw [if_pos hholds.id.symm] at hcount
    omega
  have ht : s.record retryBackoffCap call error = t := by simpa [step, hpass] using h
  unfold record at ht
  split_ifs at ht with hdeadline
  · exact absurd ht.symm hlost
  · rcases hrecorded : s.recorded retryBackoffCap call error with _ | notify
    · rw [hrecorded] at ht
      exact absurd ht.symm hlost
    · obtain ⟨attempt, f, hadmits, -, -, rfl, -, -⟩ := recorded_spec hrecorded
      unfold admitsAttempt at hadmits
      rw [Bool.and_eq_true, Bool.and_eq_true] at hadmits
      exact ⟨not_le.mp hdeadline, hadmits.1.2⟩

section Example

/-- A pass whose mail server does not answer until the deadline has passed. -/
def lateSend (start : ℤ) : List Action :=
  opens start ++ [.matchRepeat, .claim 0, .check, .attempt (some "start SMTP client: i/o timeout"),
    .advance (start + 30 * second + 100 * millisecond), .record]

def lateSends : List Action :=
  [.configure mailSettings, .testSMTP "ops@db" 0] ++ lateSend second ++ lateSend (32 * second)
    ++ lateSend (63 * second) ++ lateSend (94 * second)

end Example

end Notifier

end DbsMonitor
