import DbsMonitor.Builtins
import DbsMonitor.ControlPlane
import DbsMonitor.Reporting
import DbsMonitor.Proofs.CollectorMoves

/-!
# A silent Agent

A report that is refused leaves an error behind, and an error outranks the age of the last report:
the Agent of a host that goes down after a refused report stays in the state `error`, on which the
rule for Agents that are offline neither breaches nor recovers.
-/

namespace DbsMonitor

open Machine

def Tx.blocksRole : Tx → Bool
  | .capabilityBlocked _ .notApplicableRole _ => true
  | _ => false

namespace CollectStore

variable {s : CollectStore} {tx : Tx}

theorem advance_source_role (h : s.source.lastErrorCode ≠ some .notApplicableRole)
    (finished : ℤ) : (s.advanceCollectionWatermarkIfComplete finished).source.lastErrorCode
      ≠ some .notApplicableRole := by
  unfold advanceCollectionWatermarkIfComplete
  split_ifs
  · exact h
  · exact h
  · simp

theorem whenActive_source_role {write : CollectStore → CollectStore}
    (h : s.source.lastErrorCode ≠ some .notApplicableRole)
    (hwrite : (write s).source.lastErrorCode ≠ some .notApplicableRole) :
    (s.whenActive write).source.lastErrorCode ≠ some .notApplicableRole := by
  unfold whenActive
  split_ifs
  · exact h
  · exact hwrite

theorem commit_source_role (h : s.source.lastErrorCode ≠ some .notApplicableRole)
    (htx : tx.blocksRole = false) :
    (s.commit tx).source.lastErrorCode ≠ some .notApplicableRole := by
  cases tx
  case ensureTaskStates ids => simpa [commit, ensureTaskStates_source] using h
  case setPaused => exact h
  all_goals refine whenActive_source_role h ?_
  case started run => exact h
  case unmet => simp
  case capabilityBlocked run reason finished =>
    cases reason
    case notApplicableRole => cases htx
    all_goals simp [CapabilityBlockReason.code]
  case capabilityNotApplicable run reason finished =>
    exact advance_source_role (s := s.upsertTask run.task.id _) h finished
  case failure run result code connectionFailure finished =>
    simp only []
    split_ifs <;> simp
  case success run batch finished =>
    obtain ⟨-, hsource, -⟩ := foldl_insertSample finished batch.samples s
    refine advance_source_role ?_ finished
    split_ifs <;> simp [hsource, h]
  case capacityEmergency run finished => simp

end CollectStore

namespace Collector

variable {s s' : Collector} {a : Action}

structure RoleFree (s : Collector) : Prop where
  stores : ∀ id, (s.stores id).source.lastErrorCode ≠ some .notApplicableRole
  running : ∀ running ∈ s.running, ∀ tx, running.phase = .recording tx → tx.blocksRole = false

theorem RoleFree.commit (h : RoleFree s) (id : InstanceId) {tx : Tx} (htx : tx.blocksRole = false) :
    RoleFree (s.commit id tx) := by
  refine ⟨fun other => ?_, h.running⟩
  by_cases hid : other = id
  · subst hid
    simpa [Collector.commit] using CollectStore.commit_source_role (h.stores other) htx
  · simpa [Collector.commit, Function.update_of_ne hid] using h.stores other

theorem RoleFree.setRunning (h : RoleFree s) (i : ℕ) {running : Running}
    (hphase : ∀ tx, running.phase = .recording tx → tx.blocksRole = false) :
    RoleFree (s.setRunning i running) := by
  refine ⟨h.stores, fun other hother => ?_⟩
  rcases List.mem_or_eq_of_mem_set hother with hmem | rfl
  · exact h.running other hmem
  · exact hphase

theorem roleFree_move (h : RoleFree s) (hm : Move s a s') : RoleFree s' := by
  cases hm
  case setPaused id paused => exact h.commit id rfl
  case ensureTaskStates id ids => exact h.commit id rfl
  case refresh now targets completed _ _ _ =>
    exact refresh_induction ⟨h.stores, h.running⟩ (fun t id ids ht => ht.commit id rfl)
      (fun t _ ht _ => ⟨ht.stores, ht.running⟩) (fun t _ ht _ => ⟨ht.stores, ht.running⟩)
      fun t _ ht => ⟨ht.stores, ht.running⟩
  case recordSkip replaced readAt _ _ =>
    have hblocks : (Tx.unmet replaced .skippedBackpressure readAt none).blocksRole = false := rfl
    have ht := h.commit replaced.target.id hblocks
    exact ⟨ht.stores, ht.running⟩
  case recordBackoff run eligible readAt runs _ =>
    have hblocks : (Tx.unmet run .backoff readAt (some eligible)).blocksRole = false := rfl
    have ht := h.commit run.target.id hblocks
    exact ⟨ht.stores, ht.running⟩
  case launch =>
    refine ⟨h.stores, fun running hrunning => ?_⟩
    rcases List.mem_append.mp hrunning with hmem | hmem
    · exact h.running running hmem
    · obtain rfl := List.mem_singleton.mp hmem
      simp
  case advance i running running' _ hadvance =>
    refine h.setRunning i fun tx htx => ?_
    cases hadvance <;> simp at htx
  case prepare i running tx _ _ htx _ =>
    refine h.setRunning i fun tx' htx' => ?_
    simp only [Phase.recording.injEq] at htx'
    subst htx'
    cases htx
    case capabilityBlocked reason hreason => cases reason <;> simp_all [Tx.blocksRole]
    all_goals rfl
  case start i running _ _ => exact (h.commit _ rfl).setRunning i (by simp)
  case record i running tx hi hphase =>
    have htx := h.running running (List.mem_of_getElem? hi) tx hphase
    exact (h.commit _ htx).setRunning i (by simp)
  case send i running _ _ =>
    exact ⟨h.stores, fun other hother => h.running other (List.mem_of_mem_eraseIdx hother)⟩
  all_goals exact ⟨h.stores, h.running⟩

theorem source_ne_notApplicableRole {probeLimit queryLimit : ℕ} {clock : ℤ} {actions : List Action}
    (h : run step (init probeLimit queryLimit clock) actions = some s) (id : InstanceId) :
    (s.stores id).source.lastErrorCode ≠ some .notApplicableRole := by
  have hinit : RoleFree (init probeLimit queryLimit clock) := ⟨by simp [init], by simp [init]⟩
  exact (run_invariant step (fun _ _ _ h ht => roleFree_move h (move_of_step ht)) actions hinit
    h).stores id

end Collector

theorem Contact.refusal_code {contact : Contact} {rejection : AgentRejection}
    (h : contact.refusal = some rejection) : rejection.code ≠ "" := by
  unfold Contact.refusal agentReportRejection at h
  split_ifs at h <;> cases h <;> decide

namespace AgentState

theorem ofContacts_concat (history : List Contact) (contact : Contact) :
    ofContacts (history ++ [contact]) = (ofContacts history).contact contact :=
  List.foldl_concat ..

theorem agent_step {agentVersion serverVersion : String} {s t : Reporting}
    {a : Reporting.Action} (h : Reporting.step agentVersion serverVersion s a = some t) :
    t.agent = s.agent ∨ ∃ id contact, t.agent = s.agent.contact contact
      ∧ a = .receive id contact.receivedAt contact.rejectSampleWrites := by
  cases a
  case receive id now rejectSampleWrites =>
    obtain ⟨report, -, rfl⟩ := Option.map_eq_some_iff.mp h
    refine .inr ⟨id, ⟨report, serverVersion, now, rejectSampleWrites⟩, ?_, rfl⟩
    unfold Reporting.receive contact Contact.refusal
    dsimp only
    cases agentReportRejection report serverVersion now rejectSampleWrites with
    | none => rfl
    | some rejection => rfl
  -- the other steps leave the row alone
  all_goals
    simp only [Reporting.step, Option.bind_eq_some_iff, Option.map_eq_some_iff] at h
    grind [Reporting.respond, Reporting.collect]

theorem lastReportAt_mem : ∀ {history : List Contact} {reported : ℤ},
    (ofContacts history).lastReportAt = some reported →
      ∃ contact ∈ history, reported = timestamptz contact.receivedAt := by
  intro history
  induction history using List.reverseRecOn with
  | nil => simp [ofContacts]
  | append_singleton history contact ih =>
    intro reported h
    rw [ofContacts_concat] at h
    unfold AgentState.contact at h
    split at h
    · obtain ⟨contact', hmem, heq⟩ := ih h
      exact ⟨contact', List.mem_append_left _ hmem, heq⟩
    · exact ⟨contact, by simp, (Option.some.inj h).symm⟩

theorem lastErrorCode_iff (history : List Contact) :
    ((ofContacts history).facts true).lastErrorCode = none
      ↔ ∀ contact ∈ history.getLast?, contact.refusal = none := by
  induction history using List.reverseRecOn with
  | nil => simp [ofContacts, facts]
  | append_singleton history contact _ =>
    rw [ofContacts_concat]
    unfold AgentState.contact
    rcases hrefusal : contact.refusal with _ | rejection
    · simp [facts, reported, hrefusal]
    · simp [facts, rejected, hrefusal, Contact.refusal_code hrefusal]

end AgentState

/-- Every request of the Agent came more than a minute before the instant. -/
def Silent (history : List Contact) (now : ℤ) : Prop :=
  ∀ contact ∈ history, contact.receivedAt + agentOfflineAfter < now

instance (history : List Contact) (now : ℤ) : Decidable (Silent history now) :=
  inferInstanceAs (Decidable (∀ contact ∈ history, contact.receivedAt + agentOfflineAfter < now))

theorem exists_silent (history : List Contact) : ∃ now, Silent history now := by
  induction history with
  | nil => exact ⟨0, by simp [Silent]⟩
  | cons contact history ih =>
    obtain ⟨now, hnow⟩ := ih
    refine ⟨max now (contact.receivedAt + agentOfflineAfter + 1), fun other hother => ?_⟩
    rcases List.mem_cons.mp hother with rfl | hmem
    · omega
    · have := hnow other hmem
      omega

/-- The enrolled Agent is offline at the instant, and an evaluation of the built-in rule
breaches. -/
structure DetectedOffline (agent : AgentState) (store : CollectStore) (now : ℤ) : Prop where
  status : agentStatusAt (agent.facts true) now = agentStatusOffline
  applies : ∀ rule : EvaluationRule, rule.metricId = BuiltinRule.agentOffline.metricId →
    rule.lastErrorCode = store.source.lastErrorCode → rule.agentMetricsEnabled = true →
    rule.agentExpected = true → structurallyNotApplicable rule = false
  breaches : ∀ dimensionKey, (evaluateMetric
    (BuiltinRule.agentOffline.target store.source.lastErrorCode) store.source (agent.facts true)
    store.samples dimensionKey now).outcome = .breaching

section Silence

variable {history : List Contact} {now : ℤ}

theorem agentStatusAt_of_error {facts : AgentFacts} (hexpected : facts.expected = true)
    (h : facts.lastErrorCode ≠ none) : agentStatusAt facts now ≠ agentStatusOffline := by
  obtain ⟨code, hcode⟩ := Option.ne_none_iff_exists'.mp h
  unfold agentStatusAt agentStatusOffline
  rw [hexpected, hcode]
  split_ifs <;> simp_all

theorem agentStatusAt_of_silent (hsilent : Silent history now)
    (h : ((AgentState.ofContacts history).facts true).lastErrorCode = none) :
    agentStatusAt ((AgentState.ofContacts history).facts true) now = agentStatusOffline := by
  have hold : ((AgentState.ofContacts history).facts true).lastReportAt.any
      (fun reported => now - reported ≤ agentOfflineAfter) = false := by
    rcases hreported : ((AgentState.ofContacts history).facts true).lastReportAt with _ | reported
    · rfl
    obtain ⟨hlast, -⟩ := Option.filter_eq_some_iff.mp hreported
    obtain ⟨contact, hmem, rfl⟩ := AgentState.lastReportAt_mem hlast
    have hsince := hsilent contact hmem
    have htruncated := timestamptz_le contact.receivedAt
    simp only [Option.any_some, decide_eq_false_iff_not]
    omega
  unfold agentStatusAt agentStatusOffline
  rw [h, hold]
  simp [AgentState.facts]

/-- Whatever was lost or refused: a minute after the last request that the server took in. -/
theorem reporting_offline_iff {agentVersion serverVersion : String} {s : Reporting}
    {actions : List Reporting.Action}
    (hsilent : ∀ a ∈ actions, ∀ id received rejects, a = .receive id received rejects →
      received + agentOfflineAfter < now)
    (h : run (Reporting.step agentVersion serverVersion) {} actions = some s) :
    agentStatusAt (s.agent.facts true) now = agentStatusOffline
      ↔ (s.agent.facts true).lastErrorCode = none := by
  obtain ⟨history, hagent, hold⟩ : ∃ history, s.agent = .ofContacts history
      ∧ Silent history now := by
    refine Along.run_invariant (I := fun s : Reporting => ∃ history,
      s.agent = .ofContacts history ∧ Silent history now) ?_ ⟨[], rfl, by simp [Silent]⟩
      (along_of_forall_mem hsilent) h
    rintro s a t ⟨history, hagent, hold⟩ ht ha
    rcases AgentState.agent_step ht with heq | ⟨id, contact, heq, rfl⟩
    · exact ⟨history, heq.trans hagent, hold⟩
    · refine ⟨history ++ [contact], by rw [heq, hagent, AgentState.ofContacts_concat], ?_⟩
      simpa [Silent, or_imp, forall_and] using ⟨hold, ha id _ _ rfl⟩
  rw [hagent]
  exact ⟨fun hoffline => by_contra fun herror => agentStatusAt_of_error rfl herror hoffline,
    agentStatusAt_of_silent hold⟩

def reportsOnce : List Reporting.Action :=
  [.collect ⟨40, 0, 0, 0, 0, 0, 0⟩ second, .receive 0 second false]

theorem reporting_offline_iff_once : ∃ s,
    run (Reporting.step "1.0.0" "1.0.0") {} reportsOnce = some s
      ∧ agentStatusAt (s.agent.facts true) (62 * second) = agentStatusOffline := by
  refine ⟨_, rfl, (@reporting_offline_iff _ "1.0.0" "1.0.0" _ reportsOnce ?_ rfl).mpr ?_⟩
  · simp [reportsOnce, agentOfflineAfter, second]
  · decide +kernel

theorem breaches_of_offline {agent : AgentState} {store : CollectStore}
    (h : agentStatusAt (agent.facts true) now = agentStatusOffline) (dimensionKey : String) :
    (evaluateMetric (BuiltinRule.agentOffline.target store.source.lastErrorCode) store.source
      (agent.facts true) store.samples dimensionKey now).outcome = .breaching := by
  have hproducer : producerFor BuiltinRule.agentOffline.metricId = some .controlPlane := by decide
  have hvalue : controlPlaneValue BuiltinRule.agentOffline.metricId store.source
      (agent.facts true) now = some agentStatusOffline := by
    rw [← h]
    rfl
  unfold evaluateMetric
  simp only [BuiltinRule.target, hproducer, hvalue]
  rfl

end Silence

/-- A silent Agent is found offline exactly when its last request was not refused. -/
theorem detectedOffline_iff {probeLimit queryLimit : ℕ} {clock : ℤ}
    {actions : List Collector.Action} {collector : Collector}
    (h : run Collector.step (.init probeLimit queryLimit clock) actions = some collector)
    (id : InstanceId) (history : List Contact) :
    (∀ now, Silent history now →
        DetectedOffline (.ofContacts history) (collector.stores id) now)
      ↔ ∀ contact ∈ history.getLast?, contact.refusal = none := by
  rw [← AgentState.lastErrorCode_iff]
  constructor
  · intro hdetected
    obtain ⟨now, hnow⟩ := exists_silent history
    by_contra herror
    exact agentStatusAt_of_error rfl herror (hdetected now hnow).status
  · intro hnone now hsilent
    have hstatus := agentStatusAt_of_silent hsilent hnone
    refine ⟨hstatus, fun rule hmetric hcode henabled hexpected => ?_, breaches_of_offline hstatus⟩
    have hrole := Collector.source_ne_notApplicableRole h id
    unfold structurallyNotApplicable
    rw [hcode, if_neg hrole, henabled, hexpected]
    rfl

/-- A report that the server takes in at the instant, with the Agent's clock at another. -/
def cpuContact (receivedAt agentTime : ℤ) : Contact :=
  { report := { agentVersion := "1.0.0", timestamp := agentTime
                metrics := [{ metric := "host.cpu.usage_percent", value := 40 }]
                backfill := none }
    serverVersion := "1.0.0", receivedAt := receivedAt, rejectSampleWrites := false }

theorem detectedOffline_once :
    run Collector.step (.init 1 1 0) [] = some (.init 1 1 0)
      ∧ DetectedOffline (.ofContacts [cpuContact (10 * second) (10 * second)])
        ((Collector.init 1 1 0).stores orders.id) (71 * second) :=
  ⟨rfl, (@detectedOffline_iff 1 1 0 [] _ rfl orders.id
    [cpuContact (10 * second) (10 * second)]).mpr (by decide +kernel) (71 * second) (by decide)⟩

/-- The Agent's clock jumps ahead by 45 s after its first report; its host goes down after the
second. -/
def skewedContacts : List Contact :=
  [cpuContact (10 * second) (10 * second), cpuContact (15 * second) (60 * second)]

theorem silent_after_refusal :
    Silent skewedContacts (86400 * second)
      ∧ agentStatusAt ((AgentState.ofContacts skewedContacts).facts true) (86400 * second)
        ≠ agentStatusOffline
      ∧ (evaluateMetric (BuiltinRule.agentOffline.target none) {}
        ((AgentState.ofContacts skewedContacts).facts true) [] "\x7b\x7d"
        (86400 * second)).outcome = .stable := by
  decide +kernel

end DbsMonitor
