import DbsMonitor.Pool
import DbsMonitor.Proofs.SampleStorage

/-!
# Clocks that jump

A sample that was taken while the clock was ahead does not get old when the clock is set back: it
goes along with every report, and the server refuses them all, until its own clock has caught up.
-/

namespace DbsMonitor

open Machine Pool

/-- A run, with the readings of the clock since the buffer was last empty, newest first, and those
that each report was made with. -/
structure Clocked where
  reporting : Reporting := {}
  readings : List ℤ := []
  made : RequestId → List ℤ := fun _ => []

namespace Clocked

open Reporting (Action)

def acknowledges (s : Reporting) : Bool :=
  s.round.any fun round => round.answer.any fun answer => acceptsResponse round.now answer.response

def step (agentVersion serverVersion : String) (s : Clocked) (a : Action) : Option Clocked :=
  (Reporting.step agentVersion serverVersion s.reporting a).map fun reporting =>
    match a with
    | .collect _ now =>
      { reporting := reporting, readings := now :: s.readings
        made := Function.update s.made s.reporting.nextRequest (now :: s.readings) }
    | .respond =>
      { s with
        reporting := reporting
        readings := if acknowledges s.reporting then [] else s.readings }
    | .restart => { s with reporting := reporting, readings := [] }
    | _ => { s with reporting := reporting }

/-- An earlier reading past `limit` that the clock has not left five minutes behind since. -/
def Ahead (limit : ℤ) (readings : List ℤ) : Prop :=
  ∃ later ahead earlier, readings = later ++ ahead :: earlier ∧ limit < ahead
    ∧ ∀ reading ∈ later, reading - maxBackfillAge ≤ ahead

def kept : List ℤ → List ℤ
  | [] => []
  | now :: readings => now :: (kept readings).filter fun reading => now - maxBackfillAge ≤ reading

theorem mem_kept {readings : List ℤ} {reading : ℤ} :
    reading ∈ kept readings ↔ ∃ later earlier, readings = later ++ reading :: earlier
      ∧ ∀ other ∈ later, other - maxBackfillAge ≤ reading := by
  induction readings with
  | nil => simp [kept]
  | cons now readings ih =>
    rw [kept, List.mem_cons, List.mem_filter, ih, decide_eq_true_iff]
    constructor
    · rintro (rfl | ⟨⟨later, earlier, rfl, hlater⟩, hnow⟩)
      · exact ⟨[], readings, rfl, fun _ h => nomatch h⟩
      · refine ⟨now :: later, earlier, rfl, fun other hother => ?_⟩
        rcases List.mem_cons.mp hother with rfl | hother
        · exact hnow
        · exact hlater other hother
    · rintro ⟨later, earlier, hsplit, hlater⟩
      rcases later with _ | ⟨first, later⟩
      · exact .inl (List.cons.inj hsplit).1.symm
      · obtain ⟨rfl, rfl⟩ := List.cons.inj hsplit
        exact .inr ⟨⟨later, earlier, rfl, fun other hother => hlater other (.tail _ hother)⟩,
          hlater now List.mem_cons_self⟩

theorem ahead_iff {limit : ℤ} {readings : List ℤ} :
    Ahead limit readings ↔ ∃ reading ∈ kept readings, limit < reading := by
  constructor
  · rintro ⟨later, ahead, earlier, hsplit, hlimit, hlater⟩
    exact ⟨ahead, mem_kept.mpr ⟨later, earlier, hsplit, hlater⟩, hlimit⟩
  · rintro ⟨ahead, hkept, hlimit⟩
    obtain ⟨later, earlier, hsplit, hlater⟩ := mem_kept.mp hkept
    exact ⟨later, ahead, earlier, hsplit, hlimit, hlater⟩

instance Ahead.decidable (limit : ℤ) (readings : List ℤ) : Decidable (Ahead limit readings) :=
  decidable_of_iff _ ahead_iff.symm

def times (report : AgentReport) : List ℤ := report.samples.map AgentSample.timestamp

theorem clockSkew_iff {report : AgentReport} {now : ℤ}
    (hnear : now - agentClockSkew ≤ report.timestamp ∧ report.timestamp ≤ now + agentClockSkew) :
    agentReportHasClockSkew report now = true
      ↔ ∃ time ∈ times report, now + agentClockSkew < time := by
  simp only [agentReportHasClockSkew, times, AgentReport.samples, List.map_cons, List.mem_cons,
    List.mem_map, Bool.or_eq_true, decide_eq_true_eq, List.any_eq_true]
  constructor
  · rintro ((hpast | hfuture) | ⟨sample, hsample, hlate⟩)
    · omega
    · omega
    · exact ⟨sample.timestamp, .inr ⟨sample, hsample, rfl⟩, hlate⟩
  · rintro ⟨time, rfl | ⟨sample, hsample, rfl⟩, hlate⟩
    · omega
    · exact .inr ⟨sample, hsample, hlate⟩

structure ClockInv (s : Clocked) : Prop where
  buffer : s.reporting.buffer.map AgentSample.timestamp = (kept s.readings).reverse
  requests : Each (fun id report => id < s.reporting.nextRequest
    ∧ (times report).Perm (kept (s.made id))) s.reporting.requests

theorem map_pendingSamples (buffer : List AgentSample) (now : ℤ) :
    (pendingSamples buffer now).map AgentSample.timestamp
      = (buffer.map AgentSample.timestamp).filter fun time => now - maxBackfillAge ≤ time := by
  rw [pendingSamples, List.filter_map]
  refine congrArg _ (List.filter_congr fun sample _ => ?_)
  rw [Function.comp_apply, ← decide_not, decide_eq_decide, not_lt]

variable {s t : Clocked} {a : Action} {agentVersion serverVersion : String}

theorem clockInv_collect (h : ClockInv s) (reading : HostReading) (now : ℤ) :
    ClockInv
      { reporting := s.reporting.collect agentVersion reading now, readings := now :: s.readings
        made := Function.update s.made s.reporting.nextRequest (now :: s.readings) } := by
  let collected := collectSample s.reporting.previous reading now
  have hpending : pendingSamples (s.reporting.buffer ++ [collected]) now
      = pendingSamples s.reporting.buffer now ++ [collected] := pendingSamples_append _ rfl
  have htimes : (pendingSamples (s.reporting.buffer ++ [collected]) now).map AgentSample.timestamp
      = (kept (now :: s.readings)).reverse := by
    rw [hpending, List.map_append, map_pendingSamples, h.buffer, List.filter_reverse, kept,
      List.reverse_cons]
    rfl
  refine ⟨htimes, ?_⟩
  have hothers : Each (fun id report => id < s.reporting.nextRequest + 1 ∧ (times report).Perm
      (kept (Function.update s.made s.reporting.nextRequest (now :: s.readings) id)))
      s.reporting.requests := by
    refine h.requests.mono fun id report ⟨hid, hperm⟩ => ⟨Nat.lt_succ_of_lt hid, ?_⟩
    rwa [Function.update_of_ne hid.ne]
  refine hothers.insert ⟨Nat.lt_succ_self _, ?_⟩
  rw [Function.update_self]
  have hsamples := agentReport_samples_perm agentVersion
    (pendingSamples s.reporting.buffer now) collected
  rw [← hpending] at hsamples
  have hperm := hsamples.map AgentSample.timestamp
  rw [htimes] at hperm
  exact hperm.trans (List.reverse_perm _)

theorem clockInv_receive (h : ClockInv s) {id : RequestId} {report : AgentReport} {now : ℤ}
    {rejectSampleWrites : Bool} :
    ClockInv { s with reporting :=
      s.reporting.receive serverVersion id report now rejectSampleWrites } := by
  unfold Reporting.receive
  dsimp only
  split
  · exact ⟨h.buffer, h.requests.erase⟩
  · exact ⟨h.buffer, h.requests.erase⟩

theorem clockInv_respond (h : ClockInv s) {round : Round} {answer : Answer}
    (hround : s.reporting.round = some round) (hanswer : round.answer = some answer) :
    ClockInv { s with
      reporting := s.reporting.respond round answer
      readings := if acknowledges s.reporting then [] else s.readings } := by
  have hacknowledges : acknowledges s.reporting = acceptsResponse round.now answer.response := by
    simp [acknowledges, hround, hanswer]
  rw [hacknowledges]
  unfold Reporting.respond
  split
  · rename_i message hresponse
    rw [hresponse]
    exact ⟨h.buffer, h.requests⟩
  · rename_i serverTime version hresponse
    by_cases haccepts : acceptsResponse round.now answer.response = true
    · rw [if_pos haccepts, if_pos haccepts]
      exact ⟨rfl, h.requests⟩
    · rw [if_neg haccepts, if_neg haccepts]
      exact ⟨h.buffer, h.requests⟩

theorem clockInv_step (h : ClockInv s) (hstep : step agentVersion serverVersion s a = some t) :
    ClockInv t := by
  obtain ⟨reporting, hreporting, rfl⟩ := Option.map_eq_some_iff.mp hstep
  cases a with
  | collect reading now =>
    simp only [Reporting.step] at hreporting
    split at hreporting
    · cases hreporting
      exact clockInv_collect h reading now
    · cases hreporting
  | receive id now rejectSampleWrites =>
    obtain ⟨report, -, rfl⟩ := Option.map_eq_some_iff.mp hreporting
    exact clockInv_receive h
  | respond =>
    obtain ⟨round, hround, hreporting⟩ := Option.bind_eq_some_iff.mp hreporting
    obtain ⟨answer, hanswer, rfl⟩ := Option.map_eq_some_iff.mp hreporting
    exact clockInv_respond h hround hanswer
  | fail =>
    obtain ⟨round, -, rfl⟩ := Option.map_eq_some_iff.mp hreporting
    exact ⟨h.buffer, h.requests⟩
  | pause paused =>
    cases hreporting
    exact ⟨h.buffer, h.requests⟩
  | restart =>
    cases hreporting
    exact ⟨rfl, h.requests⟩

def clockSkew : AgentRejection := { code := "CLOCK_SKEW", message := "时钟偏移" }

/-- A report made with a clock near that of the server, by an Agent that is not too old, is refused
for its clock exactly if an earlier reading behind it is ahead of the server. -/
def RefusedIffAhead (serverVersion : String) (s : Clocked) (a : Action) (_ : Clocked) : Prop :=
  match a with
  | .receive id now false => ∀ report ∈ s.reporting.requests.lookup id,
      agentVersionSupported report.agentVersion serverVersion = true →
      now - agentClockSkew ≤ report.timestamp → report.timestamp ≤ now + agentClockSkew →
      (agentReportRejection report serverVersion now false = some clockSkew
        ↔ Ahead (now + agentClockSkew) (s.made id))
  | _ => True

theorem refusedIffAhead_step (h : ClockInv s) : RefusedIffAhead serverVersion s a t := by
  cases a with
  | receive id now rejectSampleWrites =>
    cases rejectSampleWrites with
    | true => trivial
    | false =>
      intro report hreport hversion hlow hhigh
      obtain ⟨-, hperm⟩ := h.requests id report hreport
      have hskew : agentReportHasClockSkew report now = true
          ↔ Ahead (now + agentClockSkew) (s.made id) := by
        rw [clockSkew_iff ⟨hlow, hhigh⟩, ahead_iff]
        exact exists_congr fun time => and_congr_left fun _ => hperm.mem_iff
      rw [← hskew]
      simp only [agentReportRejection, hversion, Bool.not_true, Bool.false_eq_true, if_false]
      split_ifs with hrefused
      · simp [hrefused, clockSkew]
      · simp [hrefused]
  | collect _ _ | respond | fail | pause _ | restart => trivial

theorem map_run (s : Clocked) (actions : List Action) :
    (run (step agentVersion serverVersion) s actions).map reporting
      = run (Reporting.step agentVersion serverVersion) s.reporting actions := by
  induction actions generalizing s with
  | nil => rfl
  | cons a actions ih =>
    rcases hstep : Reporting.step agentVersion serverVersion s.reporting a with _ | reporting
    · simp [run, step, hstep]
    · simp only [run, step, hstep, Option.map_some, Option.bind_some, ih]
      cases a <;> rfl

/-- In every run of the Agent and the server, with any clocks. -/
theorem refused_iff_ahead (agentVersion serverVersion : String) (actions : List Action) :
    (run (step agentVersion serverVersion) {} actions).map reporting
        = run (Reporting.step agentVersion serverVersion) {} actions
      ∧ Along (step agentVersion serverVersion) (RefusedIffAhead serverVersion) {} actions := by
  refine ⟨map_run {} actions, Along.of_invariant (I := ClockInv) ?_ ⟨rfl, each_empty⟩⟩
  exact fun s a t h hstep => ⟨refusedIffAhead_step h, clockInv_step h hstep⟩

def exchange (id : RequestId) (agentTime serverTime : ℤ) : List Action :=
  [.collect (Reporting.reading 40) agentTime, .receive id serverTime false, .respond]

/-- The clock is right when the Agent starts, an hour ahead in the second round, and right from then
on. -/
def hourAhead : List Action :=
  exchange 0 0 0 ++ exchange 1 (3600 * second) (5 * second)
    ++ exchange 2 (10 * second) (10 * second)

theorem right_clock_refused :
    ∃ s report, run (Reporting.step "1.0.0" "1.0.0") {}
        (hourAhead ++ [.collect (Reporting.reading 40) (15 * second)]) = some s
      ∧ s.requests.lookup 3 = some report
      ∧ agentVersionSupported report.agentVersion "1.0.0" = true
      ∧ report.timestamp = 15 * second
      ∧ agentReportRejection report "1.0.0" (15 * second) false = some clockSkew := by
  refine ⟨_, _, rfl, rfl, ?_⟩
  decide +kernel

end Clocked

end DbsMonitor
