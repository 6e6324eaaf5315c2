import DbsMonitor.Proofs.NotifierMoves

/-!
# No problem after its recovery

When the mail of a recovery is handed over while a mail of the problem still waits for a retry, or
was enqueued from candidates that are older than the recovery, the problem is told after its end. In
all other runs it is not: a resolved alert does not fire again and is not listed again.
-/

namespace DbsMonitor

open NotifyStore AlertStore

/-- Where a message goes. That of a webhook goes to the URL its target has by then. -/
def Destination.outlet : Destination → ChannelKey × Option String
  | .smtp recipient => (.smtp, some recipient)
  | .webhook targetId _ => (.webhook targetId, none)

def Delivery.Alike (row row' : Delivery) : Prop :=
  row.alertInstanceId = row'.alertInstanceId ∧ row.destination.outlet = row'.destination.outlet

instance (row row' : Delivery) : Decidable (row.Alike row') := inferInstanceAs (Decidable (_ ∧ _))

namespace Try

def Recovers (entry : Try) : Prop :=
  entry.delivery.eventType = .recovery ∧ entry.message.isSome = true ∧ entry.error = none

def InOrder (earlier later : Try) : Prop :=
  earlier.Recovers → later.message.isSome = true → later.delivery.eventType.isProblem = true →
    ¬ earlier.delivery.Alike later.delivery

instance (entry : Try) : Decidable entry.Recovers := inferInstanceAs (Decidable (_ ∧ _))

instance (earlier later : Try) : Decidable (earlier.InOrder later) :=
  inferInstanceAs (Decidable (_ → _))

end Try

namespace Notifier

variable {s t : Notifier} {a : Action} {retryBackoffCap : RetryBackoffCap}

def RecoversLast (_ : Notifier) (_ : Action) (t : Notifier) : Prop := t.tries.Pairwise Try.InOrder

def recovery (s : Notifier) : Action → Option DispatchCall
  | .attempt none =>
    match s.pass with
    | .passed call _ => if call.delivery.eventType = .recovery then some call else none
    | _ => none
  | _ => none

/-- When a recovery is handed over, no delivery of the problem to the same outlet is pending. -/
def RecoversAlone (s : Notifier) (a : Action) (_ : Notifier) : Prop :=
  ∀ call ∈ s.recovery a, ∀ row ∈ s.notify.deliveries, row.status = .pending →
    row.eventType.isProblem = true → ¬ call.delivery.Alike row

instance (s : Notifier) (a : Action) (t : Notifier) : Decidable (RecoversAlone s a t) :=
  inferInstanceAs (Decidable (∀ call ∈ s.recovery a, ∀ row ∈ s.notify.deliveries,
    row.status = .pending → row.eventType.isProblem = true → ¬ call.delivery.Alike row))

structure Settled (s : Notifier) (entry : Try) : Prop where
  alert : ∃ id, entry.delivery.alertInstanceId = some id ∧ s.alerts.store.Resolved id
  channel : entry.delivery.destination.channelKey ≠ .webhook none
  rows : ∀ row ∈ s.notify.deliveries, row.status = .pending → row.eventType.isProblem = true →
    ¬ entry.delivery.Alike row
  call : ∀ call ∈ s.pass.call, call.delivery.eventType.isProblem = true →
    ¬ entry.delivery.Alike call.delivery
  candidates : ∀ candidate ∈ s.pass.candidates,
    entry.delivery.alertInstanceId ≠ some candidate.alertInstanceId

structure RecoveryInv (s : Notifier) : Prop where
  notify : NotifyInv s
  resolved : ∀ row ∈ s.notify.deliveries, row.eventType = .recovery →
    ∃ id, row.alertInstanceId = some id ∧ s.alerts.store.Resolved id
  settled : ∀ entry ∈ s.tries, entry.Recovers → Settled s entry
  order : s.tries.Pairwise Try.InOrder

theorem recoveryInv_init : RecoveryInv {} where
  notify := notifyInv_init
  resolved := fun _ h => nomatch h
  settled := fun _ h => nomatch h
  order := List.Pairwise.nil

structure Stems (old row : Delivery) : Prop where
  alert : row.alertInstanceId = old.alertInstanceId
  type : row.eventType = old.eventType
  status : row.status = .pending → old.status = .pending
  outlet : row.destination.outlet = old.destination.outlet
    ∨ row.destination.outlet = (.webhook none, none)

theorem Stems.refl (row : Delivery) : Stems row row := ⟨rfl, rfl, fun h => h, .inl rfl⟩

theorem outlet_channelKey (destination : Destination) :
    destination.outlet.1 = destination.channelKey := by
  cases destination <;> rfl

theorem outlet_clearTarget (webhooks : WebhookId → Option WebhookTarget)
    (destination : Destination) : (destination.clearTarget webhooks).outlet = destination.outlet
      ∨ (destination.clearTarget webhooks).outlet = (.webhook none, none) := by
  unfold Destination.clearTarget
  split
  · split_ifs
    · exact .inr rfl
    · exact .inl rfl
  · exact .inl rfl

theorem RecoveryInv.frame (hinv : RecoveryInv s) (hnotify : NotifyInv t)
    (hresolved : ∀ id, s.alerts.store.Resolved id → t.alerts.store.Resolved id)
    (htries : t.tries = s.tries)
    (hrows : ∀ row ∈ t.notify.deliveries, (∃ old ∈ s.notify.deliveries, Stems old row)
      ∨ (row.eventType = .recovery →
          ∃ id, row.alertInstanceId = some id ∧ t.alerts.store.Resolved id)
        ∧ (row.eventType.isProblem = true → ∀ entry ∈ s.tries, entry.Recovers →
          entry.delivery.alertInstanceId ≠ row.alertInstanceId))
    (hcall : ∀ call ∈ t.pass.call, call ∈ s.pass.call
      ∨ ∃ old ∈ s.notify.deliveries, old.status = .pending ∧ Stems old call.delivery)
    (hcandidates : ∀ candidate ∈ t.pass.candidates, candidate ∈ s.pass.candidates
      ∨ ¬ s.alerts.store.Resolved candidate.alertInstanceId) : RecoveryInv t := by
  refine ⟨hnotify, fun row hrow hrecovery => ?_, fun entry hentry hrecovers => ?_, ?_⟩
  · rcases hrows row hrow with ⟨old, hold, hstems⟩ | ⟨hnew, -⟩
    · obtain ⟨id, hid, hres⟩ := hinv.resolved old hold (hstems.type.symm.trans hrecovery)
      exact ⟨id, hstems.alert.trans hid, hresolved id hres⟩
    · exact hnew hrecovery
  · rw [htries] at hentry
    have hsettled := hinv.settled entry hentry hrecovers
    obtain ⟨id, hid, hres⟩ := hsettled.alert
    -- an outlet without a channel is not that of a delivery that was handed over
    have hstems : ∀ {old row : Delivery}, Stems old row → ¬ entry.delivery.Alike old →
        ¬ entry.delivery.Alike row := by
      rintro old row hstems hnot ⟨halert, houtlet⟩
      rcases hstems.outlet with hsame | hnone
      · exact hnot ⟨halert.trans hstems.alert, houtlet.trans hsame⟩
      · refine hsettled.channel ?_
        rw [← outlet_channelKey, houtlet, hnone]
    refine ⟨⟨id, hid, hresolved id hres⟩, hsettled.channel, ?_, ?_, ?_⟩
    · intro row hrow hpending hproblem
      rcases hrows row hrow with ⟨old, hold, hstem⟩ | ⟨-, hnew⟩
      · exact hstems hstem (hsettled.rows old hold (hstem.status hpending) (hstem.type ▸ hproblem))
      · exact fun halike => hnew hproblem entry hentry hrecovers halike.1
    · intro call hmem hproblem
      rcases hcall call hmem with hmem | ⟨old, hold, hpending, hstem⟩
      · exact hsettled.call call hmem hproblem
      · exact hstems hstem (hsettled.rows old hold hpending (hstem.type ▸ hproblem))
    · intro candidate hmem hsame
      rcases hcandidates candidate hmem with hmem | hfiring
      · exact hsettled.candidates candidate hmem hsame
      · obtain rfl := Option.some.inj (hid.symm.trans hsame)
        exact hfiring hres
  · rw [htries]
    exact hinv.order

theorem Goes.candidates {p : Pass} (h : Goes s a p) {candidate : RepeatCandidate}
    (hmem : candidate ∈ p.candidates) : candidate ∈ s.pass.candidates
      ∨ ¬ s.alerts.store.Resolved candidate.alertInstanceId := by
  cases h with
  | rest hrest _ _ => cases p <;> simp_all [Pass.resting, Pass.candidates]
  | list payloads _ hp =>
    subst hp
    obtain ⟨row, _, _, hlists⟩ := lists_of_mem hmem
    right
    rintro ⟨life, hlife, hstatus⟩
    rw [AlertStore.life, column, show s.alerts.store.alerts.lookup _ = some row from hlists.alert]
      at hlife
    obtain rfl := Option.some.inj hlife
    exact AlertState.noConfusion (hlists.status.symm.trans hstatus)
  | skip hpass hp =>
    rw [hpass]
    subst hp
    exact .inl (List.mem_cons_of_mem _ hmem)
  | pick hpass _ hp =>
    rw [hpass]
    subst hp
    exact .inl hmem
  | @check call _ _ hp =>
    have hcheck := (check_pass s call).1
    rw [← hp] at hcheck
    cases p <;> simp_all [Pass.call, Pass.candidates]

theorem RecoveryInv.new_of_source (hinv : RecoveryInv s) {evaluated : Prop}
    {suppressed : AlertId → ℤ → Prop} (halerts : s.alerts.Moves t.alerts evaluated suppressed)
    {row : Delivery} (hsource : Source s t row) :
    (row.eventType = .recovery →
        ∃ id, row.alertInstanceId = some id ∧ t.alerts.store.Resolved id)
      ∧ (row.eventType.isProblem = true → ∀ entry ∈ s.tries, entry.Recovers →
        entry.delivery.alertInstanceId ≠ row.alertInstanceId) := by
  obtain ⟨events, hevents, htells⟩ := halerts.events
  rcases hsource with ⟨hevent, halert, htype⟩ | ⟨-, htype⟩
  · rw [hevents, List.drop_left] at hevent
    rcases htype with ⟨htype, hkind⟩ | ⟨htype, hkind⟩
    · refine ⟨fun hrecovery => (nomatch htype.symm.trans hrecovery), ?_⟩
      intro _ entry hentry hrecovers hsame
      obtain ⟨id, hid, hresolved⟩ := (hinv.settled entry hentry hrecovers).alert
      obtain rfl := Option.some.inj (hid.symm.trans (hsame.trans halert))
      exact ((htells _ hevent).fired hkind).2 hresolved
    · refine ⟨fun _ => ⟨_, halert, (htells _ hevent).recovered hkind⟩, fun hproblem => ?_⟩
      rw [htype] at hproblem
      exact nomatch hproblem
  · refine ⟨fun hrecovery => (nomatch htype.symm.trans hrecovery), fun hproblem => ?_⟩
    rw [htype] at hproblem
    exact nomatch hproblem

theorem RecoveryInv.attempt (hinv : RecoveryInv s) {call : DispatchCall} {facts : SuppressionFacts}
    {outcome : Option String} (hpass : s.pass = .passed call facts)
    (ht : t = s.attempt call outcome) (hnotify : NotifyInv t)
    (halone : RecoversAlone s (.attempt outcome) t) : RecoveryInv t := by
  obtain ⟨held, hheld, hholds⟩ := hinv.notify.call call (by rw [hpass]; rfl)
  obtain ⟨entry, error, heq, hdelivery, -, hmessage, herror⟩ := attempt_spec s call outcome
  rw [heq] at ht
  have htype := hinv.notify.types held hheld
  rw [hholds.type] at htype
  subst ht
  refine ⟨hnotify, hinv.resolved, fun earlier hearlier hrecovers => ?_, ?_⟩
  · rcases List.mem_append.mp hearlier with hearlier | hearlier
    · have hsettled := hinv.settled earlier hearlier hrecovers
      have hcall := hsettled.call
      rw [hpass] at hcall
      exact { hsettled with call := hcall, candidates := fun _ h => nomatch h }
    · obtain rfl := List.mem_singleton.mp hearlier
      obtain ⟨hrecovery, hhanded, hsucceeded⟩ := hrecovers
      obtain rfl : outcome = none := (herror hhanded).symm.trans hsucceeded
      rw [hdelivery] at hrecovery
      refine ⟨?_, ?_, ?_, ?_, fun _ h => nomatch h⟩
      all_goals rw [hdelivery]
      · rw [← hholds.alert]
        exact hinv.resolved held hheld (hholds.type.trans hrecovery)
      · rw [hmessage, prepareDelivery_isSome htype] at hhanded
        intro hnone
        rw [hnone] at hhanded
        exact nomatch hhanded
      · refine halone call ?_
        unfold recovery
        dsimp only
        rw [hpass]
        exact if_pos hrecovery
      · rintro _ ⟨⟩ hproblem
        rw [hrecovery] at hproblem
        exact nomatch hproblem
  · refine List.pairwise_append.mpr ⟨hinv.order, List.pairwise_singleton _ _, ?_⟩
    rintro earlier hearlier later hlater hrecovers - hproblem
    obtain rfl := List.mem_singleton.mp hlater
    rw [hdelivery] at hproblem ⊢
    exact (hinv.settled earlier hearlier hrecovers).call call (by rw [hpass]; rfl) hproblem

theorem recoveryInv_step (hinv : RecoveryInv s) (h : step retryBackoffCap s a = some t)
    (halone : RecoversAlone s a t) : RecoveryInv t := by
  have hnotify := notifyInv_step hinv.notify h
  obtain ⟨_, halerts⟩ := hinv.notify.alerts_moves h
  have hframe := hinv.frame hnotify halerts.resolved
  cases moves_of_step hinv.notify.life h with
  | quiet _ hstore _ htries hpass =>
    refine hframe htries (fun row hrow => ?_) (fun call hcall => ?_) fun candidate hmem => ?_
    · rw [hstore] at hrow
      exact .inl ⟨row, hrow, .refl row⟩
    · rw [hpass] at hcall
      exact .inl hcall
    · rw [hpass] at hmem
      exact .inl hmem
  | go hgoes ht =>
    subst ht
    exact hframe rfl (fun row hrow => .inl ⟨row, hrow, .refl row⟩)
      (fun call hcall => .inl (hgoes.call_mem hcall)) fun candidate hmem => hgoes.candidates hmem
  | clear ht =>
    subst ht
    refine hframe rfl (fun row hrow => ?_) (fun call hcall => .inl hcall) fun _ hmem => .inl hmem
    obtain ⟨old, hold, rfl⟩ := List.mem_map.mp hrow
    exact .inl ⟨old, hold, rfl, rfl, fun h => h, outlet_clearTarget _ _⟩
  | insert _ hinserts _ htries hpass _ hsource =>
    refine hframe htries (fun row hrow => ?_) (fun call hcall => ?_) fun candidate hmem => ?_
    · rw [hinserts.deliveries] at hrow
      rcases List.mem_append.mp hrow with hrow | hrow
      · exact .inl ⟨row, hrow, .refl row⟩
      · exact .inr (hinv.new_of_source halerts (hsource row hrow))
    · rw [hpass] at hcall
      exact .inl hcall
    · rw [hpass] at hmem
      exact .inl hmem
  | @repeats _ _ _ _ candidate _ candidates _ _ _ hpass hinserts hrows _ hp ht =>
    subst ht
    have hkept : candidate :: candidates = s.pass.candidates := by rw [hpass]; rfl
    refine hframe rfl (fun row hrow => ?_) (fun call hcall => ?_) fun candidate' hmem => ?_
    · rw [hinserts.deliveries] at hrow
      rcases List.mem_append.mp hrow with hrow | hrow
      · exact .inl ⟨row, hrow, .refl row⟩
      · obtain ⟨halert, htype, -⟩ := hrows row hrow
        refine .inr ⟨fun hrecovery => (nomatch htype.symm.trans hrecovery), ?_⟩
        intro _ entry hentry hrecovers
        rw [halert]
        refine (hinv.settled entry hentry hrecovers).candidates candidate ?_
        exact hkept ▸ List.mem_cons_self
    · rcases hp with rfl | ⟨-, rfl⟩ <;> exact nomatch hcall
    · have hrest : candidate' ∈ candidates := by rcases hp with rfl | ⟨-, rfl⟩ <;> exact hmem
      exact .inl (hkept ▸ List.mem_cons_of_mem _ hrest)
  | discard hpass ht =>
    subst ht
    refine hframe rfl (fun row hrow => ?_) (fun _ h => nomatch h) fun candidate hmem => ?_
    · exact .inl ⟨row, (mem_deletePendingNotification.mp hrow).1, .refl row⟩
    · rw [hpass]
      exact .inl hmem
  | discarded hpass ht =>
    subst ht
    refine hframe rfl (fun row hrow => .inl ⟨row, hrow, .refl row⟩) (fun _ h => nomatch h) ?_
    rw [hpass]
    exact fun candidate hmem => .inl hmem
  | @claim _ _ _ row _ hpass hrow hclaimable ht =>
    subst ht
    have hpending : row.status = .pending := by
      unfold Delivery.claimable at hclaimable
      rw [Bool.and_eq_true, Bool.and_eq_true] at hclaimable
      exact of_decide_eq_true hclaimable.1.1
    refine hframe rfl (fun row' hrow' => ?_) (fun call hcall => ?_) fun _ h => nomatch h
    · obtain ⟨old, hold, rfl⟩ := mem_updateDelivery.mp hrow'
      refine .inl ⟨old, hold, ?_⟩
      split_ifs <;> exact ⟨rfl, rfl, fun h => h, .inl rfl⟩
    · obtain rfl := Option.some.inj hcall
      exact .inr ⟨row, hrow, hpending, rfl, rfl, fun h => h, .inl rfl⟩
  | suppress hpass ht =>
    rw [hinv.notify.suppressNotificationForMaintenance_eq hpass] at ht
    subst ht
    refine hframe rfl (fun row hrow => ?_) (fun _ h => nomatch h) fun _ h => nomatch h
    exact .inl ⟨row, (mem_deletePendingNotification.mp hrow).1, .refl row⟩
  | attempt ha hpass ht =>
    subst ha
    exact hinv.attempt hpass ht hnotify halone
  | record ha hpass hdeadline hrecorded ht =>
    subst ht
    obtain ⟨attempt, f, -, -, -, -, hcompletes, rfl⟩ := recorded_spec hrecorded
    refine hframe rfl (fun row hrow => ?_) (fun _ h => nomatch h) fun _ h => nomatch h
    obtain ⟨old, hold, rfl⟩ := List.mem_map.mp hrow
    refine .inl ⟨old, hold, ?_⟩
    split_ifs with hself
    · rw [hcompletes.same]
      exact ⟨rfl, rfl, fun _ => hself.2, .inl rfl⟩
    · exact .refl old
  | lost _ _ _ ht =>
    subst ht
    exact hframe rfl (fun row hrow => .inl ⟨row, hrow, .refl row⟩) (fun _ h => nomatch h)
      fun _ h => nomatch h

/-- In every run that hands over a recovery only while no delivery of its problem is pending. -/
theorem recovers_last (retryBackoffCap : RetryBackoffCap) (actions : List Action)
    (h : Machine.Along (step retryBackoffCap) RecoversAlone {} actions) :
    Machine.Along (step retryBackoffCap) RecoversLast {} actions := by
  refine Machine.Along.of_guarded (I := RecoveryInv) (fun s a t hinv hstep halone => ?_)
    recoveryInv_init h
  have hinv' := recoveryInv_step hinv hstep halone
  exact ⟨hinv'.order, hinv'⟩

section Example

/-- The mail of the problem is sent, or fails, before the alert recovers; then the mail of the
recovery is sent, and what is left. -/
def mailRecovery (outcome : Option String) (rest : List Action) : List Action :=
  .configure mailSettings :: evaluates .breaching second ++ opens (2 * second)
    ++ .matchRepeat :: hands 0 outcome ++ .drained :: evaluates .recovering (2500 * millisecond)
    ++ opens (2600 * millisecond) ++ .matchRepeat :: hands 1 none ++ .drained :: rest

theorem recovers_last_sent :
    (Machine.run (step defaultRetryBackoffCap) {} (mailRecovery none [])).map
        (fun s => s.tries.map (·.delivery.eventType)) = some [.firing, .recovery]
      ∧ Machine.Along (step defaultRetryBackoffCap) RecoversAlone {} (mailRecovery none [])
      ∧ Machine.Along (step defaultRetryBackoffCap) RecoversLast {} (mailRecovery none []) := by
  have hrun : (Machine.run (step defaultRetryBackoffCap) {} (mailRecovery none [])).map
      (fun s => s.tries.map (·.delivery.eventType)) = some [.firing, .recovery] := by
    decide +kernel
  have halone : Machine.Along (step defaultRetryBackoffCap) RecoversAlone {}
      (mailRecovery none []) := by
    decide +kernel
  exact ⟨hrun, halone, recovers_last _ _ halone⟩

/-- The mail of the problem fails, and is tried again after the recovery was sent. -/
theorem problem_after_recovery :
    (Machine.run (step defaultRetryBackoffCap) {}
        (mailRecovery (some "connection refused")
          (opens (3 * second) ++ .matchRepeat :: hands 0 none))).map
        (fun s => (s.tries.map fun entry => (entry.delivery.eventType, entry.error),
          decide (s.tries.Pairwise Try.InOrder)))
      = some ([(.firing, some "connection refused"), (.recovery, none), (.firing, none)],
          false) := by
  decide +kernel

end Example

end Notifier

end DbsMonitor
