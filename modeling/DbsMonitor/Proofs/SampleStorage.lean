import DbsMonitor.Evaluator
import DbsMonitor.Reporting

/-!
# A sample of the Agent is stored once

The rows of a sample have no key: that nothing is stored twice hangs on the Agent. When the answer
to a report that was stored is lost, or comes with a clock that the Agent does not trust, or the
report is stored after the Agent has given up on it, its samples are stored again.
-/

namespace DbsMonitor

def Sample.key (row : Sample) : MetricId × ℤ := (row.metricId, row.ts)

namespace AgentSample

def instant (sample : AgentSample) : ℤ := timestamptz sample.timestamp

theorem mem_rows {sample : AgentSample} {row : Sample} (h : row ∈ sample.rows) :
    row.ts = sample.instant
      ∧ ∃ reported ∈ sample.metrics, row.metricId = reported.metric
        ∧ row.value = reported.value := by
  obtain ⟨reported, hreported, rfl⟩ := List.mem_map.mp h
  exact ⟨rfl, reported, hreported, rfl, rfl⟩

theorem map_key_rows (sample : AgentSample) :
    sample.rows.map Sample.key
      = (sample.metrics.map AgentMetric.metric).map fun metric => (metric, sample.instant) := by
  simp [rows, Sample.key, instant]

theorem nodup_key_rows {sample : AgentSample}
    (h : (sample.metrics.map AgentMetric.metric).Nodup) :
    (sample.rows.map Sample.key).Nodup := by
  rw [sample.map_key_rows]
  exact h.map fun _ _ heq => (Prod.mk.inj heq).1

theorem nodup_key_flatMap_rows {samples : List AgentSample}
    (hinstants : (samples.map instant).Nodup)
    (hmetrics : ∀ sample ∈ samples, (sample.metrics.map AgentMetric.metric).Nodup) :
    ((samples.flatMap rows).map Sample.key).Nodup := by
  rw [List.map_flatMap, List.nodup_flatMap]
  refine ⟨fun sample hsample => nodup_key_rows (hmetrics sample hsample), ?_⟩
  refine (List.pairwise_map.mp hinstants).imp fun {sample sample'} hne key hkey hkey' => hne ?_
  obtain ⟨row, hrow, rfl⟩ := List.mem_map.mp hkey
  obtain ⟨row', hrow', heq⟩ := List.mem_map.mp hkey'
  calc sample.instant = row.ts := (mem_rows hrow).1.symm
    _ = row'.ts := (congrArg Prod.snd heq).symm
    _ = sample'.instant := (mem_rows hrow').1

end AgentSample

theorem nodup_collectSample_metrics (previous : Option CounterSnapshot) (reading : HostReading)
    (sampledAt : ℤ) :
    ((collectSample previous reading sampledAt).metrics.map AgentMetric.metric).Nodup := by
  unfold collectSample rateMetrics
  rcases previous with _ | previous
  · simp
  · dsimp only
    split_ifs <;> simp

theorem pendingSamples_append (buffer : List AgentSample) {collected : AgentSample} {now : ℤ}
    (h : collected.timestamp = now) :
    pendingSamples (buffer ++ [collected]) now = pendingSamples buffer now ++ [collected] := by
  unfold pendingSamples
  rw [List.filter_append, List.filter_singleton]
  have hkept : ¬ collected.timestamp < now - maxBackfillAge := by
    unfold maxBackfillAge minute
    omega
  simp [hkept]

theorem agentReport_samples_perm (version : String) (buffer : List AgentSample)
    (collected : AgentSample) :
    (agentReport version collected (buffer ++ [collected])).samples.Perm
      (buffer ++ [collected]) := by
  have hsamples : (agentReport version collected (buffer ++ [collected])).samples
      = collected :: buffer := by
    unfold agentReport AgentReport.samples
    rw [List.dropLast_concat]
    split_ifs with hlength
    · rfl
    · rw [List.length_append, List.length_singleton] at hlength
      rw [List.eq_nil_of_length_eq_zero (show buffer.length = 0 by omega)]
      rfl
  rw [hsamples]
  exact (List.perm_append_singleton collected buffer).symm

namespace Reporting

variable {s t : Reporting} {a : Action} {agentVersion serverVersion : String}

def stored (s : Reporting) (sample : AgentSample) (metric : MetricId) : ℕ :=
  (s.samples.map Sample.key).count (metric, sample.instant)

structure StoredOnce (_ : Reporting) (_ : Action) (t : Reporting) : Prop where
  atMostOnce : ∀ sample ∈ t.collected, ∀ reported ∈ sample.metrics,
    t.stored sample reported.metric ≤ 1
  exactlyOnce : ∀ drop ∈ t.drops, drop.withheld = false ∨ drop.paused = false →
    drop.serverTime - 5 * minute ≤ drop.sample.timestamp →
    ∀ reported ∈ drop.sample.metrics, t.stored drop.sample reported.metric = 1
  measured : ∀ sample ∈ t.collected, ∀ reported ∈ sample.metrics, ∀ windowStart windowEnd,
    ∀ point ∈ samplesInRuleWindow t.samples reported.metric "\x7b\x7d" windowStart windowEnd,
    point.timestamp = sample.instant → point.value = reported.value

def storedAnswer (s : Reporting) : Bool :=
  s.round.any fun round => round.answer.any Answer.stored

def stores (serverVersion : String) (s : Reporting) (id : RequestId) (now : ℤ)
    (rejectSampleWrites : Bool) : Bool :=
  !s.paused && (s.requests.lookup id).any fun report =>
    (agentReportRejection report serverVersion now rejectSampleWrites).isNone

def distrusts (s : Reporting) : Bool :=
  s.round.any fun round => round.answer.any fun answer => !acceptsResponse round.now answer.response

/-- No two samples are of one microsecond; a report is stored only while the Agent waits for it; the
Agent learns of every stored report; and collection is not resumed while it waits for the answer to
a withheld report. -/
def settles (serverVersion : String) (s : Reporting) : Action → Bool
  | .collect _ now => s.collected.all fun sample => sample.instant ≠ timestamptz now
  | .receive id now rejectSampleWrites =>
    !s.stores serverVersion id now rejectSampleWrites || s.round.any (·.request = id)
  | .respond => !(s.storedAnswer && s.distrusts)
  | .fail => !s.storedAnswer
  | .pause paused => paused || s.round.all fun round => round.answer.all (!·.withheld)
  | .restart => true

def Settles (serverVersion : String) (s : Reporting) (a : Action) (_ : Reporting) : Prop :=
  s.settles serverVersion a = true

instance (s : Reporting) (a : Action) (t : Reporting) : Decidable (Settles serverVersion s a t) :=
  inferInstanceAs (Decidable (_ = true))

/-- Each round's request has the samples of the buffer, which are not in the tables until a report
is stored that the Agent waits for. -/
structure StorageInv (s : Reporting) : Prop where
  instants : (s.collected.map AgentSample.instant).Nodup
  metrics : ∀ sample ∈ s.collected, (sample.metrics.map AgentMetric.metric).Nodup
  buffer : s.buffer.Sublist s.collected
  rows : ∀ row ∈ s.samples, ∃ sample ∈ s.collected, row ∈ sample.rows
  keys : (s.samples.map Sample.key).Nodup
  request : ∀ round ∈ s.round, ∀ report ∈ s.requests.lookup round.request,
    round.answer = none ∧ report.samples.Perm s.buffer
  unstored : s.storedAnswer = false → ∀ sample ∈ s.buffer, ∀ row ∈ s.samples,
    row.ts ≠ sample.instant
  answered : ∀ round ∈ s.round, ∀ answer ∈ round.answer, answer.withheld = false →
    ∀ serverTime version, answer.response = .ok serverTime version → ∀ sample ∈ s.buffer,
    serverTime - agentBackfillWindow ≤ sample.timestamp → sample.rows ⊆ s.samples
  resumed : ∀ round ∈ s.round, ∀ answer ∈ round.answer, s.paused = false → answer.withheld = false
  drops : ∀ drop ∈ s.drops, drop.sample ∈ s.collected
    ∧ (drop.withheld = false ∨ drop.paused = false →
      drop.serverTime - agentBackfillWindow ≤ drop.sample.timestamp →
      drop.sample.rows ⊆ s.samples)

theorem storageInv_init : StorageInv {} where
  instants := List.nodup_nil
  metrics := fun _ h => nomatch h
  buffer := .refl _
  rows := fun _ h => nomatch h
  keys := List.nodup_nil
  request := fun _ h => nomatch h
  unstored := fun _ _ h => nomatch h
  answered := fun _ h => nomatch h
  resumed := fun _ h => nomatch h
  drops := fun _ h => nomatch h

namespace StorageInv

variable (hinv : StorageInv s)
include hinv

theorem mem_rows_of_ts {sample : AgentSample} (hsample : sample ∈ s.collected) {row : Sample}
    (hrow : row ∈ s.samples) (hts : row.ts = sample.instant) : row ∈ sample.rows := by
  obtain ⟨sample', hsample', hrow'⟩ := hinv.rows row hrow
  have hsame : sample'.instant = sample.instant := (AgentSample.mem_rows hrow').1.symm.trans hts
  rwa [List.inj_on_of_nodup_map hinv.instants hsample' hsample hsame] at hrow'

theorem value_eq {sample : AgentSample} (hsample : sample ∈ s.collected) {reported : AgentMetric}
    (hreported : reported ∈ sample.metrics) {row : Sample} (hrow : row ∈ s.samples)
    (hkey : row.key = (reported.metric, sample.instant)) : row.value = reported.value := by
  obtain ⟨hmetric, hts⟩ := Prod.mk.inj hkey
  obtain ⟨-, reported', hreported', hmetric', hvalue⟩ :=
    AgentSample.mem_rows (hinv.mem_rows_of_ts hsample hrow hts)
  rw [hvalue, List.inj_on_of_nodup_map (hinv.metrics sample hsample) hreported' hreported
    (hmetric'.symm.trans hmetric)]

theorem stored_le_one (sample : AgentSample) (metric : MetricId) : s.stored sample metric ≤ 1 :=
  List.nodup_iff_count_le_one.mp hinv.keys _

theorem stored_eq_one {sample : AgentSample} (hrows : sample.rows ⊆ s.samples)
    {reported : AgentMetric} (hreported : reported ∈ sample.metrics) :
    s.stored sample reported.metric = 1 := by
  refine List.count_eq_one_of_mem hinv.keys ?_
  have hrow := hrows (List.mem_map_of_mem hreported)
  exact List.mem_map_of_mem hrow

theorem eq_singleton {rows : List Sample} (hsub : rows.Sublist s.samples) {row : Sample}
    (hrow : row ∈ rows) (hkeys : ∀ row' ∈ rows, row'.key = row.key) : rows = [row] := by
  refine List.perm_singleton.mp ?_
  refine (List.perm_ext_iff_of_nodup (hinv.keys.of_map.sublist hsub)
    (List.nodup_singleton row)).mpr fun row' => ?_
  rw [List.mem_singleton]
  constructor
  · intro hrow'
    exact List.inj_on_of_nodup_map hinv.keys (hsub.subset hrow') (hsub.subset hrow)
      (hkeys row' hrow')
  · rintro rfl
    exact hrow

end StorageInv

theorem mem_samplesInRuleWindow {samples : List Sample} {metricId : MetricId}
    {dimensionKey : String} {windowStart windowEnd : ℤ} {point : Point}
    (h : point ∈ samplesInRuleWindow samples metricId dimensionKey windowStart windowEnd) :
    ∃ row ∈ samplesOf samples metricId dimensionKey windowStart windowEnd,
      row.ts = point.timestamp ∧ point.value
        = (((samplesOf samples metricId dimensionKey windowStart windowEnd).filter
          fun row => row.ts = point.timestamp).map Sample.value).sum := by
  obtain ⟨ts, hts, rfl⟩ := List.mem_map.mp h
  obtain ⟨row, hrow, rfl⟩ := mem_groupInstants.mp hts
  exact ⟨row, hrow, rfl, rfl⟩

theorem StorageInv.measured (hinv : StorageInv s) {sample : AgentSample}
    (hsample : sample ∈ s.collected) {reported : AgentMetric}
    (hreported : reported ∈ sample.metrics) {dimensionKey : String} {windowStart windowEnd : ℤ}
    {point : Point}
    (hpoint : point ∈ samplesInRuleWindow s.samples reported.metric dimensionKey windowStart
      windowEnd)
    (hts : point.timestamp = sample.instant) : point.value = reported.value := by
  obtain ⟨row, hrow, hrowTs, hvalue⟩ := mem_samplesInRuleWindow hpoint
  have hmetric : ∀ row' ∈ samplesOf s.samples reported.metric dimensionKey windowStart windowEnd,
      row'.metricId = reported.metric := by
    intro row' hrow'
    have hwindow := (List.mem_filter.mp hrow').2
    simp only [Bool.and_eq_true, decide_eq_true_eq] at hwindow
    exact hwindow.1.1.1
  have hkey : row.key = (reported.metric, sample.instant) :=
    Prod.ext (hmetric row hrow) (hrowTs.trans hts)
  have hone : (samplesOf s.samples reported.metric dimensionKey windowStart windowEnd).filter
      (fun row' => row'.ts = point.timestamp) = [row] := by
    refine hinv.eq_singleton (List.filter_sublist.trans List.filter_sublist) ?_ fun row' hrow' => ?_
    · exact List.mem_filter.mpr ⟨hrow, decide_eq_true hrowTs⟩
    · obtain ⟨hrow', hts'⟩ := List.mem_filter.mp hrow'
      rw [hkey, ← hts]
      exact Prod.ext (hmetric row' hrow') (of_decide_eq_true hts')
  rw [hvalue, hone, List.map_singleton, List.sum_singleton]
  exact hinv.value_eq hsample hreported (List.mem_filter.mp hrow).1 hkey

theorem StorageInv.storedOnce (hinv : StorageInv t) : StoredOnce s a t where
  atMostOnce := fun sample _ reported _ => hinv.stored_le_one sample reported.metric
  exactlyOnce := fun drop hdrop hpaused hage _ hreported =>
    hinv.stored_eq_one ((hinv.drops drop hdrop).2 hpaused hage) hreported
  measured := fun _ hsample _ hreported _ _ _ hpoint hts =>
    hinv.measured hsample hreported hpoint hts

theorem StorageInv.idle (hinv : StorageInv s) (h : s.storedAnswer = false) :
    StorageInv { s with round := none } :=
  { hinv with
    request := fun _ h => nomatch h
    unstored := fun _ => hinv.unstored h
    answered := fun _ h => nomatch h
    resumed := fun _ h => nomatch h }

theorem StorageInv.restart (hinv : StorageInv s) :
    StorageInv { s with previous := none, buffer := [], round := none } :=
  { hinv with
    buffer := List.nil_sublist _
    request := fun _ h => nomatch h
    unstored := fun _ _ h => nomatch h
    answered := fun _ h => nomatch h
    resumed := fun _ h => nomatch h }

theorem StorageInv.pause (hinv : StorageInv s) {paused : Bool}
    (h : s.settles serverVersion (.pause paused) = true) :
    StorageInv { s with paused := paused } := by
  refine { hinv with resumed := fun round hround answer hanswer hpaused => ?_ }
  dsimp only at hround hpaused
  simp only [settles, hpaused, Bool.false_or, Option.all_eq_true] at h
  simpa using h round hround answer hanswer

theorem StorageInv.collect (hinv : StorageInv s) {reading : HostReading} {now : ℤ}
    (hround : s.round = none) (h : s.settles serverVersion (.collect reading now) = true) :
    StorageInv (s.collect agentVersion reading now) := by
  have hnew : ∀ sample ∈ s.collected, sample.instant ≠ timestamptz now := by
    simpa [settles] using h
  have hpending : pendingSamples (s.buffer ++ [collectSample s.previous reading now]) now
      = pendingSamples s.buffer now ++ [collectSample s.previous reading now] :=
    pendingSamples_append s.buffer rfl
  have hunstored := hinv.unstored (by simp [storedAnswer, hround])
  refine ⟨?_, ?_, ?_, ?_, hinv.keys, ?_, ?_, ?_, ?_, ?_⟩
  · show ((s.collected ++ [collectSample s.previous reading now]).map AgentSample.instant).Nodup
    rw [List.map_append, List.map_singleton]
    refine List.nodup_append.mpr ⟨hinv.instants, List.nodup_singleton _, ?_⟩
    intro instant hinstant instant' hinstant'
    obtain ⟨sample, hsample, rfl⟩ := List.mem_map.mp hinstant
    rw [List.mem_singleton.mp hinstant']
    exact hnew sample hsample
  · intro sample hsample
    rcases List.mem_append.mp hsample with hsample | hsample
    · exact hinv.metrics sample hsample
    · rw [List.mem_singleton.mp hsample]
      exact nodup_collectSample_metrics _ _ _
  · exact List.filter_sublist.trans (hinv.buffer.append_right _)
  · intro row hrow
    obtain ⟨sample, hsample, hrows⟩ := hinv.rows row hrow
    exact ⟨sample, List.mem_append_left _ hsample, hrows⟩
  · intro round hround report hreport
    cases hround
    have hlookup : (s.collect agentVersion reading now).requests.lookup s.nextRequest
        = some (agentReport agentVersion (collectSample s.previous reading now)
          (pendingSamples (s.buffer ++ [collectSample s.previous reading now]) now)) :=
      AList.lookup_insert _
    rw [hlookup] at hreport
    cases hreport
    refine ⟨rfl, ?_⟩
    show List.Perm _ (pendingSamples (s.buffer ++ [collectSample s.previous reading now]) now)
    rw [hpending]
    exact agentReport_samples_perm _ _ _
  · intro _ sample hsample row hrow
    have hsample := List.mem_of_mem_filter hsample
    rcases List.mem_append.mp hsample with hsample | hsample
    · exact hunstored sample hsample row hrow
    · obtain ⟨sample', hsample', hrows⟩ := hinv.rows row hrow
      rw [List.mem_singleton.mp hsample, (AgentSample.mem_rows hrows).1]
      exact hnew sample' hsample'
  · intro round hround answer hanswer
    cases hround
    exact nomatch hanswer
  · intro round hround answer hanswer
    cases hround
    exact nomatch hanswer
  · intro drop hdrop
    obtain ⟨hsample, hrows⟩ := hinv.drops drop hdrop
    exact ⟨List.mem_append_left _ hsample, hrows⟩

theorem mem_reply {id : RequestId} {answer : Answer} {round' : Round}
    (h : round' ∈ s.reply id answer) :
    ∃ round ∈ s.round, round.request = id ∧ round' = { round with answer := some answer }
      ∨ round.request ≠ id ∧ round' = round := by
  obtain ⟨round, hround, rfl⟩ := Option.map_eq_some_iff.mp h
  refine ⟨round, hround, ?_⟩
  split_ifs with hid
  · exact .inl ⟨hid, rfl⟩
  · exact .inr ⟨hid, rfl⟩

theorem StorageInv.request_reply (hinv : StorageInv s) {id : RequestId} {answer : Answer} :
    ∀ round' ∈ s.reply id answer, ∀ report ∈ (s.requests.erase id).lookup round'.request,
      round'.answer = none ∧ report.samples.Perm s.buffer := by
  intro round' hround' report hreport
  obtain ⟨round, hround, ⟨rfl, rfl⟩ | ⟨hid, rfl⟩⟩ := mem_reply hround'
  · rw [AList.lookup_erase] at hreport
    exact nomatch hreport
  · rw [AList.lookup_erase_ne hid] at hreport
    exact hinv.request _ hround report hreport

theorem StorageInv.refused (hinv : StorageInv s) {id : RequestId} {report : AgentReport}
    (hreport : s.requests.lookup id = some report) (agent : AgentState) (answer : Answer)
    (hstored : answer.stored = false) (hresumed : s.paused = false → answer.withheld = false) :
    StorageInv { s with
      requests := s.requests.erase id, agent := agent, round := s.reply id answer } := by
  refine { hinv with
    request := hinv.request_reply
    unstored := fun hnone => hinv.unstored ?_
    answered := fun round' hround' answer' hanswer' hwithheld serverTime version hok => ?_
    resumed := fun round' hround' answer' hanswer' hpaused => ?_ }
  · by_contra hsome
    rw [Bool.not_eq_false, storedAnswer, Option.any_eq_true] at hsome
    obtain ⟨round, hround, hsome⟩ := hsome
    have hid : round.request ≠ id := by
      rintro rfl
      rw [(hinv.request round hround report hreport).1] at hsome
      exact nomatch hsome
    have hround' : s.reply id answer = some round := by
      rw [reply, hround, Option.map_some, if_neg hid]
    rw [storedAnswer, hround', Option.any_some, hsome] at hnone
    exact nomatch hnone
  · obtain ⟨round, hround, ⟨-, rfl⟩ | ⟨-, rfl⟩⟩ := mem_reply hround'
    · cases hanswer'
      simp [Answer.stored, Answer.accepted, hok, hwithheld] at hstored
    · exact hinv.answered _ hround answer' hanswer' hwithheld serverTime version hok
  · obtain ⟨round, hround, ⟨-, rfl⟩ | ⟨-, rfl⟩⟩ := mem_reply hround'
    · cases hanswer'
      exact hresumed hpaused
    · exact hinv.resumed _ hround answer' hanswer' hpaused

theorem mem_report_rows {report : AgentReport} {receivedAt : ℤ} {row : Sample} :
    row ∈ report.rows receivedAt ↔ ∃ sample ∈ report.samples,
      receivedAt - agentBackfillWindow ≤ sample.timestamp ∧ row ∈ sample.rows := by
  simp [AgentReport.rows, and_assoc]

theorem StorageInv.nodup_key_report (hinv : StorageInv s) {report : AgentReport}
    (hperm : report.samples.Perm s.buffer) (now : ℤ) :
    ((report.rows now).map Sample.key).Nodup := by
  refine AgentSample.nodup_key_flatMap_rows ?_ fun sample hsample => ?_
  · have hbuffer : (s.buffer.map AgentSample.instant).Nodup :=
      hinv.instants.sublist (hinv.buffer.map _)
    have hsamples := (hperm.map AgentSample.instant).nodup_iff.mpr hbuffer
    exact hsamples.sublist (List.filter_sublist.map _)
  · have hmem := hperm.mem_iff.mp (List.mem_of_mem_filter hsample)
    exact hinv.metrics sample (hinv.buffer.subset hmem)

theorem StorageInv.accepted (hinv : StorageInv s) {round : Round} {report : AgentReport}
    (hround : s.round = some round) (hreport : s.requests.lookup round.request = some report)
    (agent : AgentState) (now : ℤ) (serverVersion : String) :
    StorageInv { s with
      requests := s.requests.erase round.request
      agent := agent
      samples := s.samples ++ report.rows now
      round := s.reply round.request { response := .ok now serverVersion } } := by
  obtain ⟨hanswer, hperm⟩ := hinv.request round hround report hreport
  have hunstored := hinv.unstored (by simp [storedAnswer, hround, hanswer])
  have hbuffer : ∀ sample ∈ report.samples, sample ∈ s.buffer := fun _ h => hperm.mem_iff.mp h
  have hreply : s.reply round.request { response := .ok now serverVersion }
      = some { round with answer := some { response := .ok now serverVersion } } := by
    rw [reply, hround, Option.map_some, if_pos rfl]
  refine { hinv with
    rows := fun row hrow => ?_
    keys := ?_
    request := hinv.request_reply
    unstored := fun hnone => ?_
    answered := fun round' hround' answer' hanswer' _ serverTime version hok sample hsample
      hage => ?_
    resumed := fun round' hround' answer' hanswer' _ => ?_
    drops := fun drop hdrop => ?_ }
  · rcases List.mem_append.mp hrow with hrow | hrow
    · exact hinv.rows row hrow
    · obtain ⟨sample, hsample, -, hrow⟩ := mem_report_rows.mp hrow
      exact ⟨sample, hinv.buffer.subset (hbuffer sample hsample), hrow⟩
  · rw [List.map_append]
    refine List.nodup_append.mpr ⟨hinv.keys, hinv.nodup_key_report hperm now, ?_⟩
    intro key hkey key' hkey' heq
    obtain ⟨old, hold, rfl⟩ := List.mem_map.mp hkey
    obtain ⟨new, hnew, rfl⟩ := List.mem_map.mp hkey'
    obtain ⟨sample, hsample, -, hrow⟩ := mem_report_rows.mp hnew
    refine hunstored sample (hbuffer sample hsample) old hold ?_
    exact (congrArg Prod.snd heq).trans (AgentSample.mem_rows hrow).1
  · rw [storedAnswer, hreply] at hnone
    exact nomatch hnone
  · rw [hreply] at hround'
    cases hround'
    cases hanswer'
    cases hok
    intro row hrow
    refine List.mem_append_right _ (mem_report_rows.mpr ⟨sample, ?_, hage, hrow⟩)
    exact hperm.mem_iff.mpr hsample
  · rw [hreply] at hround'
    cases hround'
    cases hanswer'
    rfl
  · obtain ⟨hsample, hrows⟩ := hinv.drops drop hdrop
    exact ⟨hsample, fun hpaused hage row hrow =>
      List.mem_append_left _ (hrows hpaused hage hrow)⟩

theorem StorageInv.receive (hinv : StorageInv s) {id : RequestId} {report : AgentReport}
    (hreport : s.requests.lookup id = some report) {now : ℤ} {rejectSampleWrites : Bool}
    (h : s.settles serverVersion (.receive id now rejectSampleWrites) = true) :
    StorageInv (s.receive serverVersion id report now rejectSampleWrites) := by
  unfold Reporting.receive
  rcases hrejection : agentReportRejection report serverVersion now rejectSampleWrites with
    _ | rejection
  · dsimp only [storeAgentReport]
    rcases hpaused : s.paused with _ | _
    · -- the samples are stored, so the Agent waits for the answer
      have hwaits : s.round.any (·.request = id) = true := by
        simpa [settles, stores, hpaused, hreport, hrejection] using h
      obtain ⟨round, hround, hid⟩ := Option.any_eq_true _ _ |>.mp hwaits
      obtain rfl := of_decide_eq_true hid
      have hinv' := hinv.accepted hround hreport (s.agent.reported report.agentVersion now) now
        serverVersion
      simpa [hpaused, reply] using hinv'
    · have hinv' := hinv.refused hreport (s.agent.reported report.agentVersion now)
        { response := .ok now serverVersion, withheld := true } rfl
        fun hnot => nomatch hpaused.symm.trans hnot
      simpa [hpaused, reply] using hinv'
  · exact hinv.refused hreport _ _ rfl fun _ => rfl

theorem StorageInv.acknowledged (hinv : StorageInv s) {round : Round} {answer : Answer}
    (hround : s.round = some round) (hanswer : round.answer = some answer) {serverTime : ℤ}
    {version : String} (hok : answer.response = .ok serverTime version) :
    StorageInv { s with
      buffer := []
      round := none
      drops := s.drops ++ s.buffer.map fun sample =>
        { sample := sample, serverTime := serverTime, withheld := answer.withheld
          paused := s.paused } } := by
  refine { hinv with
    buffer := List.nil_sublist _
    request := fun _ h => nomatch h
    unstored := fun _ _ h => nomatch h
    answered := fun _ h => nomatch h
    resumed := fun _ h => nomatch h
    drops := fun drop hdrop => ?_ }
  rcases List.mem_append.mp hdrop with hdrop | hdrop
  · exact hinv.drops drop hdrop
  · obtain ⟨sample, hsample, rfl⟩ := List.mem_map.mp hdrop
    refine ⟨hinv.buffer.subset hsample, fun hpaused hage => ?_⟩
    have hstored : answer.withheld = false :=
      hpaused.elim (fun h => h) (hinv.resumed round hround answer hanswer)
    exact hinv.answered round hround answer hanswer hstored serverTime version hok sample hsample
      hage

theorem StorageInv.respond (hinv : StorageInv s) {round : Round} {answer : Answer}
    (hround : s.round = some round) (hanswer : round.answer = some answer)
    (h : s.settles serverVersion .respond = true) : StorageInv (s.respond round answer) := by
  unfold Reporting.respond
  rcases hresponse : answer.response with ⟨serverTime, version⟩ | message
  · dsimp only
    split_ifs with haccepts
    · exact hinv.acknowledged hround hanswer hresponse
    · refine hinv.idle ?_
      simpa [settles, distrusts, hround, hanswer, hresponse, haccepts] using h
  · refine hinv.idle ?_
    simp [storedAnswer, hround, hanswer, Answer.stored, Answer.accepted, hresponse]

theorem storageInv_step (hinv : StorageInv s) (h : step agentVersion serverVersion s a = some t)
    (hsettles : Settles serverVersion s a t) : StorageInv t := by
  cases a with
  | collect reading now =>
    rcases hround : s.round with _ | round
    · rw [step, hround] at h
      cases h
      exact hinv.collect hround hsettles
    · rw [step, hround] at h
      exact nomatch h
  | receive id now rejectSampleWrites =>
    obtain ⟨report, hreport, rfl⟩ := Option.map_eq_some_iff.mp h
    exact hinv.receive hreport hsettles
  | respond =>
    obtain ⟨round, hround, h⟩ := Option.bind_eq_some_iff.mp h
    obtain ⟨answer, hanswer, rfl⟩ := Option.map_eq_some_iff.mp h
    exact hinv.respond hround hanswer hsettles
  | fail =>
    obtain ⟨round, -, rfl⟩ := Option.map_eq_some_iff.mp h
    exact hinv.idle (by simpa [Settles, settles] using hsettles)
  | pause paused =>
    cases h
    exact hinv.pause hsettles
  | restart =>
    cases h
    exact hinv.restart

/-- In every run in which the Agent waits for each report that is stored, and learns of it. -/
theorem samples_stored_once (agentVersion serverVersion : String) (actions : List Action)
    (h : Machine.Along (step agentVersion serverVersion) (Settles serverVersion) {} actions) :
    Machine.Along (step agentVersion serverVersion) StoredOnce {} actions := by
  refine Machine.Along.of_guarded (I := StorageInv) (fun s a t hinv hstep hsettles => ?_)
    storageInv_init h
  have hinv' := storageInv_step hinv hstep hsettles
  exact ⟨hinv'.storedOnce, hinv'⟩

section Example

def reading (cpuPercent : ℚ) : HostReading :=
  { cpuPercent := cpuPercent, memoryUsedPercent := 50, diskUsedPercent := 70, diskFree := 1000
    diskOps := 10, diskBytes := 10, networkBytes := 10 }

/-- A round whose report is taken in by a server with its clock that far ahead. -/
def report (id : RequestId) (cpuPercent : ℚ) (now ahead : ℤ) : List Action :=
  [.collect (reading cpuPercent) now, .receive id (now + ahead) false]

def cpuPoints (s : Reporting) : List (ℤ × ℚ) :=
  (samplesInRuleWindow s.samples "host.cpu.usage_percent" "{}" 0 (60 * second)).map
    fun point => (point.timestamp, point.value)

/-- The first report is lost, and its sample goes along with the second. -/
def lostRequest : List Action :=
  [.collect (reading 40) (10 * second), .fail] ++ report 1 45 (15 * second) 0 ++ [.respond]

theorem samples_stored_once_backfill :
    (Machine.run (step "1.0.0" "1.0.0") {} lostRequest).map
        (fun s => (s.cpuPoints, s.buffer.length))
        = some ([(15 * second, 45), (10 * second, 40)], 0)
      ∧ Machine.Along (step "1.0.0" "1.0.0") StoredOnce {} lostRequest := by
  have hrun : (Machine.run (step "1.0.0" "1.0.0") {} lostRequest).map
      (fun s => (s.cpuPoints, s.buffer.length))
        = some ([(15 * second, 45), (10 * second, 40)], 0) := by
    decide +kernel
  have hsettles : Machine.Along (step "1.0.0" "1.0.0") (Settles "1.0.0") {} lostRequest := by
    decide +kernel
  exact ⟨hrun, samples_stored_once _ _ _ hsettles⟩

def lostAnswer : List Action :=
  report 0 40 (10 * second) 0 ++ [.fail] ++ report 1 45 (15 * second) 0 ++ [.respond]

/-- The clock of the server is six seconds ahead, which it accepts and the Agent does not. -/
def distrustedClock : List Action :=
  report 0 40 (10 * second) (6 * second) ++ [.respond] ++ report 1 45 (15 * second) (6 * second)

/-- The sample is there twice, and the rule reads a usage of eighty percent where forty was
measured. -/
theorem sample_stored_twice :
    (Machine.run (step "1.0.0" "1.0.0") {} lostAnswer).map Reporting.cpuPoints
      = some [(15 * second, 45), (10 * second, 80)]
    ∧ (Machine.run (step "1.0.0" "1.0.0") {} distrustedClock).map Reporting.cpuPoints
      = some [(15 * second, 45), (10 * second, 80)] := by
  refine ⟨?_, ?_⟩
  · decide +kernel
  · decide +kernel

end Example

end Reporting

end DbsMonitor
