import Mathlib.Data.List.Perm.Basic
import DbsMonitor.Proofs.Obligations

/-!
# What is in flight

The dispatcher's counters and its maps describe the work in flight (`Dispatcher.Tracks`). A run in
flight is executing or waiting in the channel, so the channel has room for every run that ends.
-/

namespace DbsMonitor

def Work.isProbe (work : Work) : Bool := work.workClass = .probe

def Work.isCollectionQuery (work : Work) : Bool := work.workClass = .collectionQuery

namespace Dispatcher

structure Tracks (d : Dispatcher) (works : List Work) : Prop where
  probes : d.activeProbes = works.countP Work.isProbe
  queries : d.activeQueries = works.countP fun work => !work.isProbe
  collectionQueries : d.activeCollectionQueries = works.countP Work.isCollectionQuery
  probes_le : d.activeProbes ≤ d.probeLimit
  queries_le : d.activeQueries ≤ d.queryLimit
  instanceProbe : ∀ id, works.countP (fun work => work.isProbe && work.instanceId = id)
    = (d.instanceProbe id).toNat
  instanceQuery : ∀ id, works.countP (fun work => !work.isProbe && work.instanceId = id)
    = (d.instanceQuery id).toNat

variable {d d' : Dispatcher} {works works' : List Work} {item : Work}

theorem Tracks.perm (h : Tracks d works) (hperm : works.Perm works') : Tracks d works' where
  probes := by rw [← hperm.countP_eq]; exact h.probes
  queries := by rw [← hperm.countP_eq]; exact h.queries
  collectionQueries := by rw [← hperm.countP_eq]; exact h.collectionQueries
  probes_le := h.probes_le
  queries_le := h.queries_le
  instanceProbe := fun id => by rw [← hperm.countP_eq]; exact h.instanceProbe id
  instanceQuery := fun id => by rw [← hperm.countP_eq]; exact h.instanceQuery id

theorem Tracks.admitWork (h : Tracks d works) (hadmitted : d.admitWork item = some d') :
    Tracks d' (item :: works) := by
  obtain ⟨id, workClass⟩ := item
  obtain ⟨hp, hq, hc, hple, hqle, hip, hiq⟩ := h
  cases workClass <;> simp only [Dispatcher.admitWork] at hadmitted
  case probe =>
    split_ifs at hadmitted with hfull
    cases hadmitted
    simp only [not_or, not_le, Bool.not_eq_true] at hfull
    refine ⟨?_, ?_, ?_, ?_, ?_, fun i => ?_, fun i => ?_⟩ <;>
      simp only [Work.isProbe, Work.isCollectionQuery, List.countP_cons] at *
    · simp [hp]
    · simp [hq]
    · simp [hc]
    · omega
    · exact hqle
    · by_cases hi : i = id
      · subst hi
        simp [hip, hfull.2]
      · simp [hip, hi, Ne.symm hi]
    · simp [hiq]
  all_goals
    split_ifs at hadmitted with hfull
    cases hadmitted
    simp only [not_or, not_le, Bool.not_eq_true] at hfull
    refine ⟨?_, ?_, ?_, ?_, ?_, fun i => ?_, fun i => ?_⟩ <;>
      simp only [Work.isProbe, Work.isCollectionQuery, List.countP_cons] at *
    · simp [hp]
    · simp [hq]
    · simp [hc]
    · exact hple
    · omega
    · simp [hip]
    · by_cases hi : i = id
      · subst hi
        simp [hiq, hfull.2]
      · simp [hiq, hi, Ne.symm hi]

theorem Tracks.finish (h : Tracks d (item :: works)) : Tracks (d.finish item) works := by
  obtain ⟨id, workClass⟩ := item
  obtain ⟨hp, hq, hc, hple, hqle, hip, hiq⟩ := h
  have hid := hip id
  have hid' := hiq id
  cases workClass <;> simp only [Dispatcher.finish]
  case probe =>
    have hinstance : d.instanceProbe id = true := by
      by_contra hno
      rw [Bool.not_eq_true] at hno
      simp [Work.isProbe, hno] at hid
    rw [if_pos hinstance]
    refine ⟨?_, ?_, ?_, ?_, ?_, fun i => ?_, fun i => ?_⟩ <;>
      simp only [Work.isProbe, Work.isCollectionQuery, List.countP_cons] at *
    · simp at hp
      omega
    · simpa using hq
    · simpa using hc
    · omega
    · exact hqle
    · have := hip i
      by_cases hi : i = id
      · subst hi
        simpa [hinstance] using this
      · simpa [hi, Ne.symm hi] using this
    · simpa using hiq i
  all_goals
    have hinstance : d.instanceQuery id = true := by
      by_contra hno
      rw [Bool.not_eq_true] at hno
      simp [Work.isProbe, hno] at hid'
    rw [if_pos hinstance]
    refine ⟨?_, ?_, ?_, ?_, ?_, fun i => ?_, fun i => ?_⟩ <;>
      simp only [Work.isProbe, Work.isCollectionQuery, List.countP_cons] at *
    · simpa using hp
    · simp at hq
      omega
    · simp at hc ⊢
      omega
    · exact hple
    · omega
    · simpa using hip i
    · have := hiq i
      by_cases hi : i = id
      · subst hi
        simpa [hinstance] using this
      · simpa [hi, Ne.symm hi] using this

theorem admitWork_limits (h : d.admitWork item = some d') :
    d'.probeLimit = d.probeLimit ∧ d'.queryLimit = d.queryLimit := by
  unfold Dispatcher.admitWork at h
  split at h <;> split_ifs at h <;> cases h <;> exact ⟨rfl, rfl⟩

theorem finish_limits (d : Dispatcher) (item : Work) :
    (d.finish item).probeLimit = d.probeLimit ∧ (d.finish item).queryLimit = d.queryLimit := by
  unfold Dispatcher.finish
  split <;> split_ifs <;> exact ⟨rfl, rfl⟩

theorem admitWork_reserved (h : d.admitWork item = some d') (hitem : item.isCollectionQuery = true)
    (hwaiting : d.capabilitySnapshotWaiting = true) :
    d'.activeCollectionQueries
      ≤ d.queryLimit - (min capabilitySnapshotReservedSlots d.queryLimit : ℕ) := by
  have hclass : item.workClass = .collectionQuery := by
    simpa [Work.isCollectionQuery] using hitem
  simp only [Dispatcher.admitWork, hclass, hwaiting, true_and] at h
  split_ifs at h with _ hfull
  cases h
  exact Int.add_one_le_of_lt (not_le.mp hfull)

theorem admitWork_instanceQuery (h : d.admitWork item = some d')
    (hitem : item.isCollectionQuery = true) : d.instanceQuery item.instanceId = false := by
  have hclass : item.workClass = .collectionQuery := by simpa [Work.isCollectionQuery] using hitem
  simp only [Dispatcher.admitWork, hclass] at h
  split_ifs at h with hfull
  rw [not_or, Bool.not_eq_true] at hfull
  exact hfull.2

end Dispatcher

namespace PendingRuns

variable {pending : PendingRuns}

theorem hasCapabilitySnapshot_iff : pending.hasCapabilitySnapshot = true ↔
    ∃ key run, pending.items.lookup key = some run
      ∧ isCapabilitySnapshotTask run.task = true := by
  simp only [hasCapabilitySnapshot, List.any_eq_true]
  constructor
  · rintro ⟨⟨key, run⟩, hmem, hrun⟩
    exact ⟨key, run, AList.mem_lookup_iff.mpr hmem, hrun⟩
  · rintro ⟨key, run, hlookup, hrun⟩
    exact ⟨⟨key, run⟩, AList.mem_lookup_iff.mp hlookup, hrun⟩

theorem hasCapabilitySnapshot_take {key : TaskKey} {run : ScheduledRun}
    (hrun : pending.items.lookup key = some run)
    (hcapability : isCapabilitySnapshotTask run.task = false) :
    (pending.take key).hasCapabilitySnapshot = pending.hasCapabilitySnapshot := by
  rw [Bool.eq_iff_iff, hasCapabilitySnapshot_iff, hasCapabilitySnapshot_iff]
  constructor
  · rintro ⟨k, r, hlookup, hr⟩
    by_cases hk : k = key
    · subst hk
      simp [take] at hlookup
    · exact ⟨k, r, by simpa [take, AList.lookup_erase_ne hk] using hlookup, hr⟩
  · rintro ⟨k, r, hlookup, hr⟩
    have hk : k ≠ key := by
      rintro rfl
      rw [hrun, Option.some.injEq] at hlookup
      simp [← hlookup, hcapability] at hr
    exact ⟨k, r, by simpa [take, AList.lookup_erase_ne hk] using hlookup, hr⟩

end PendingRuns

def Running.executes (running : Running) : Bool :=
  match running.phase with
  | .deciding | .starting | .collecting | .recording _ => true
  | .launched | .snapshotting | .finished => false

def Loop.dispatches : Loop → Bool
  | .dispatching _ | .checking _ _ _ | .backingOff _ _ _ _ => true
  | _ => false

namespace Collector

open Machine

def inFlight (s : Collector) : List Work :=
  s.running.map (fun running => running.run.work) ++ s.completed.map ScheduledRun.work

structure FlightInv (probeLimit queryLimit : ℕ) (s : Collector) : Prop where
  probeLimit_eq : s.dispatcher.probeLimit = probeLimit
  queryLimit_eq : s.dispatcher.queryLimit = queryLimit
  tracks : s.dispatcher.Tracks s.inFlight
  waiting : s.loop.dispatches = true →
    s.dispatcher.capabilitySnapshotWaiting = s.pending.hasCapabilitySnapshot
  held_back : ∀ run eligible runs, s.loop = .checking run (some eligible) runs →
    isCapabilitySnapshotTask run.task = false

variable {probeLimit queryLimit : ℕ} {s s' : Collector} {a : Action}

theorem flightInv_init (clock : ℤ) :
    FlightInv probeLimit queryLimit (init probeLimit queryLimit clock) := by
  refine ⟨rfl, rfl, ⟨?_, ?_, ?_, ?_, ?_, ?_, ?_⟩, ?_, ?_⟩ <;>
    simp [init, inFlight, Loop.dispatches]

theorem FlightInv.frame (h : FlightInv probeLimit queryLimit s)
    (hdispatcher : s'.dispatcher = s.dispatcher) (hflight : s'.inFlight.Perm s.inFlight)
    (hwaiting : s'.loop.dispatches = true → s'.pending = s.pending ∧ s.loop.dispatches = true)
    (hchecking : ∀ run eligible runs, s'.loop = .checking run (some eligible) runs →
      isCapabilitySnapshotTask run.task = false) : FlightInv probeLimit queryLimit s' where
  probeLimit_eq := hdispatcher ▸ h.probeLimit_eq
  queryLimit_eq := hdispatcher ▸ h.queryLimit_eq
  tracks := hdispatcher ▸ h.tracks.perm hflight.symm
  waiting := fun hloop => by
    obtain ⟨hpending, hbefore⟩ := hwaiting hloop
    rw [hdispatcher, hpending]
    exact h.waiting hbefore
  held_back := hchecking

theorem inFlight_setRunning {i : ℕ} {running running' : Running}
    (hi : s.running[i]? = some running) (hwork : running'.run.work = running.run.work) :
    (s.setRunning i running').inFlight = s.inFlight := by
  unfold inFlight setRunning
  rw [map_set_of_eq hi hwork]

theorem nextEligible_not_capability {store : CollectStore} {run : ScheduledRun} {eligible : ℤ}
    (h : store.nextEligible run = some eligible) : isCapabilitySnapshotTask run.task = false := by
  by_contra hno
  rw [Bool.not_eq_false] at hno
  simp [CollectStore.nextEligible, hno] at h

theorem refresh_frame (s : Collector) (now : ℤ) (targets : List Target) (completed : Bool) :
    (s.refresh now targets completed).dispatcher = s.dispatcher
      ∧ (s.refresh now targets completed).running = s.running
      ∧ (s.refresh now targets completed).completed = s.completed
      ∧ (s.refresh now targets completed).loop = s.loop
      ∧ (s.refresh now targets completed).clock = s.clock := by
  refine refresh_induction (motive := fun t => t.dispatcher = s.dispatcher
    ∧ t.running = s.running ∧ t.completed = s.completed ∧ t.loop = s.loop ∧ t.clock = s.clock)
    ⟨rfl, rfl, rfl, rfl, rfl⟩ ?_ ?_ ?_ ?_
  · exact fun _ _ _ ht => ht
  · exact fun _ _ ht _ => ht
  · exact fun _ _ ht _ => ht
  · exact fun _ _ ht => ht

theorem flightInv_move (h : FlightInv probeLimit queryLimit s) (ho : ObligationInv s)
    (hm : Move s a s') : FlightInv probeLimit queryLimit s' := by
  cases hm
  case refresh now targets completed hloop _ _ =>
    obtain ⟨hdispatcher, hrunning, hcompleted, hloop', -⟩ := refresh_frame s now targets completed
    refine h.frame hdispatcher (by simp [inFlight, hrunning, hcompleted]) ?_ ?_
    · simp [hloop', hloop, Loop.dispatches]
    · simp [hloop', hloop]
  case dispatch hloop =>
    refine { h with tracks := ⟨h.tracks.1, h.tracks.2, h.tracks.3, h.tracks.4, h.tracks.5,
      h.tracks.6, h.tracks.7⟩, waiting := fun _ => rfl, held_back := by simp }
  case check run runs hloop =>
    refine h.frame rfl (List.Perm.refl _) (fun _ => ⟨rfl, by simp [hloop, Loop.dispatches]⟩) ?_
    intro r eligible rest heq
    simp only [setLoop, Loop.checking.injEq] at heq
    obtain ⟨rfl, hread, -⟩ := heq
    exact nextEligible_not_capability hread
  case backOff run eligible runs hloop _ =>
    have hrun := ho.runs_pending run (by simp [hloop, Loop.runs])
    have hcapability := h.held_back run eligible runs hloop
    refine { h with waiting := fun _ => ?_, held_back := by simp }
    rw [PendingRuns.hasCapabilitySnapshot_take hrun hcapability]
    exact h.waiting (by simp [hloop, Loop.dispatches])
  case launch run eligible runs dispatcher hloop _ hadmitted =>
    have hlimits := Dispatcher.admitWork_limits hadmitted
    have htracks := h.tracks.admitWork hadmitted
    refine ⟨hlimits.1.trans h.probeLimit_eq, hlimits.2.trans h.queryLimit_eq, ?_,
      fun _ => rfl, by simp⟩
    have htracks' : Dispatcher.Tracks
        { dispatcher with
          capabilitySnapshotWaiting := (s.pending.take run.key).hasCapabilitySnapshot }
        (run.work :: s.inFlight) :=
      ⟨htracks.1, htracks.2, htracks.3, htracks.4, htracks.5, htracks.6, htracks.7⟩
    refine htracks'.perm ?_
    simp only [inFlight, List.map_append, List.map_cons, List.map_nil, List.append_assoc,
      List.singleton_append]
    exact List.perm_middle.symm
  case complete run rest hloop hcompleted =>
    obtain ⟨hprobe, hquery⟩ := s.dispatcher.finish_limits run.work
    refine ⟨hprobe.trans h.probeLimit_eq, hquery.trans h.queryLimit_eq, ?_,
      by simp [hloop, Loop.dispatches], by simp [hloop]⟩
    refine (h.tracks.perm ?_).finish
    simp only [inFlight, hcompleted, List.map_cons]
    exact List.perm_middle
  case advance i running running' hi hadvance =>
    obtain ⟨-, -, htask, htarget⟩ := hadvance.same
    have hwork : running'.run.work = running.run.work := by
      simp [ScheduledRun.work, htask, htarget]
    refine h.frame rfl (by rw [inFlight_setRunning hi hwork]) (fun hl => ⟨rfl, hl⟩) h.held_back
  case prepare i running tx hi hphase htx ha =>
    exact h.frame rfl (List.Perm.of_eq (inFlight_setRunning hi rfl)) (fun hl => ⟨rfl, hl⟩)
      h.held_back
  case start i running hi hphase =>
    have hflight : (s.setRunning i { running with phase := .collecting }).inFlight = s.inFlight :=
      inFlight_setRunning hi rfl
    exact h.frame rfl (List.Perm.of_eq hflight) (fun hl => ⟨rfl, hl⟩) h.held_back
  case record i running tx hi hphase =>
    have hflight : (s.setRunning i { running with phase := .finished }).inFlight = s.inFlight :=
      inFlight_setRunning hi rfl
    exact h.frame rfl (List.Perm.of_eq hflight) (fun hl => ⟨rfl, hl⟩) h.held_back
  case send i running hi hphase =>
    refine h.frame rfl ?_ (fun hl => ⟨rfl, hl⟩) h.held_back
    obtain ⟨hlt, rfl⟩ := List.getElem?_eq_some_iff.mp hi
    have hperm := (List.getElem_cons_eraseIdx_perm hlt).map fun running => running.run.work
    simp only [inFlight, List.map_append, List.map_cons, List.map_nil]
    refine List.Perm.trans ?_ (hperm.append_right _)
    rw [← List.append_assoc]
    exact List.perm_append_singleton _ _
  case tick | setPaused | ensureTaskStates =>
    exact h.frame rfl (List.Perm.refl _) (fun hl => ⟨rfl, hl⟩) h.held_back
  all_goals
    refine h.frame rfl (List.Perm.refl _) ?_ ?_ <;>
      simp [setLoop, commit, Loop.dispatches, *]

section Tasks

def collectorTasks : List Task := capabilitySnapshotTask :: scheduledTasks

theorem collectorTasks_ext : ∀ task ∈ collectorTasks, ∀ task' ∈ collectorTasks,
    task.id = task'.id → task = task' := by
  decide

/-- Every run is of a known task, and no two in flight are of the same task of the same instance. -/
structure RunsInv (s : Collector) : Prop where
  entry : ∀ {key entry}, s.schedule.lookup key = some entry →
    entry.template.task ∈ collectorTasks
  pending : ∀ {key run}, s.pending.items.lookup key = some run → run.task ∈ collectorTasks
  running : ∀ running ∈ s.running, running.run.task ∈ collectorTasks
  distinct : (s.running.map fun running => running.run.key).Nodup

theorem runsInv_init (clock : ℤ) : RunsInv (init probeLimit queryLimit clock) := by
  constructor <;> simp [init]

theorem RunsInv.enter (h : RunsInv s) {key : TaskKey} {entry : ScheduleEntry}
    (hentry : entry.template.task ∈ collectorTasks) :
    RunsInv { s with schedule := s.schedule.insert key entry } := by
  refine { h with entry := fun {key' entry'} hlookup => ?_ }
  by_cases hkey : key' = key
  · subst hkey
    rw [AList.lookup_insert, Option.some.injEq] at hlookup
    exact hlookup ▸ hentry
  · rw [AList.lookup_insert_ne hkey] at hlookup
    exact h.entry hlookup

theorem RunsInv.accrue (h : RunsInv s) {key : TaskKey} {entry : ScheduleEntry} {nextDue : ℤ}
    (hentry : s.schedule.lookup key = some entry)
    (hschedule : s'.schedule = s.schedule.insert key { entry with nextDue := nextDue })
    (hpending : s'.pending = { items := s.pending.items.insert entry.dueRun.key entry.dueRun })
    (hrunning : s'.running = s.running) : RunsInv s' := by
  have htask := h.entry hentry
  have henter : RunsInv { s with
      schedule := s.schedule.insert key { entry with nextDue := nextDue } } := h.enter htask
  constructor
  · rw [hschedule]
    exact henter.entry
  · intro key' run hlookup
    rw [hpending] at hlookup
    by_cases hkey : key' = entry.dueRun.key
    · subst hkey
      rw [AList.lookup_insert, Option.some.injEq] at hlookup
      exact hlookup ▸ htask
    · rw [AList.lookup_insert_ne hkey] at hlookup
      exact h.pending hlookup
  · rw [hrunning]
    exact h.running
  · rw [hrunning]
    exact h.distinct

theorem RunsInv.take (h : RunsInv s) (key : TaskKey) :
    RunsInv { s with pending := s.pending.take key } := by
  refine { h with pending := fun {key' run} hlookup => ?_ }
  have hkey : key' ≠ key := by
    rintro rfl
    simp [PendingRuns.take] at hlookup
  rw [PendingRuns.take, AList.lookup_erase_ne hkey] at hlookup
  exact h.pending hlookup

theorem RunsInv.leave (h : RunsInv s) (key : TaskKey) : RunsInv (s.leave key) := by
  refine { h.take key with entry := fun {key' entry} hlookup => ?_ }
  have hkey : key' ≠ key := by
    rintro rfl
    simp [Collector.leave] at hlookup
  rw [Collector.leave, AList.lookup_erase_ne hkey] at hlookup
  exact h.entry hlookup

theorem runsInv_refresh (h : RunsInv s) (now : ℤ) (targets : List Target) (completed : Bool) :
    RunsInv (s.refresh now targets completed) := by
  refine refresh_induction (motive := RunsInv) { h with } ?_ ?_ ?_ ?_
  · exact fun t id ids ht => { ht with }
  · intro t template ht htask
    refine ht.enter ?_
    have htemplate : ∀ entry, (refreshTask now template entry).template = template := by
      intro entry
      unfold refreshTask
      split <;> rfl
    rw [htemplate]
    exact List.mem_cons_of_mem _ htask
  · intro t template ht htask
    refine ht.enter ?_
    have htemplate : ∀ entry, (refreshCapabilitySnapshot now template entry).template
        = template := by
      intro entry
      unfold refreshCapabilitySnapshot
      split <;> rfl
    rw [htemplate, htask]
    exact List.mem_cons_self
  · exact fun t key ht => ht.leave key

theorem RunsInv.setRunning (h : RunsInv s) {i : ℕ} {running running' : Running}
    (hi : s.running[i]? = some running) (htask : running'.run.task = running.run.task)
    (hkey : running'.run.key = running.run.key) : RunsInv (s.setRunning i running') := by
  refine { h with running := fun r hr => ?_, distinct := ?_ }
  · rcases List.mem_or_eq_of_mem_set hr with hr | rfl
    · exact h.running r hr
    · rw [htask]
      exact h.running running (List.mem_of_getElem? hi)
  · have hmap : (s.setRunning i running').running.map (fun r => r.run.key)
        = s.running.map fun r => r.run.key := map_set_of_eq hi hkey
    rw [hmap]
    exact h.distinct

theorem RunsInv.launch (h : RunsInv s) {run : ScheduledRun}
    (hrun : run.task ∈ collectorTasks)
    (hflight : FlightInv probeLimit queryLimit s')
    (hrunning : s'.running = s.running ++ [{ run := run, phase := .launched }]) :
    ∀ running ∈ s.running, running.run.key ≠ run.key := by
  intro running hmem hkey
  simp only [ScheduledRun.key, TaskKey.mk.injEq] at hkey
  obtain ⟨hid, htaskId⟩ := hkey
  have htask : running.run.task = run.task :=
    collectorTasks_ext _ (h.running running hmem) _ hrun htaskId
  have hwork : running.run.work = run.work := by simp [ScheduledRun.work, hid, htask]
  -- both would count for the instance
  have htwo : 2 ≤ s'.inFlight.countP (· = run.work) := by
    have hpos : 0 < (s.running.map fun r => r.run.work).countP (· = run.work) :=
      List.countP_pos_iff.mpr ⟨run.work, hwork ▸ List.mem_map_of_mem hmem, by simp⟩
    simp only [inFlight, hrunning, List.map_append, List.countP_append, List.map_cons,
      List.map_nil, List.countP_singleton, decide_true, if_true]
    omega
  rcases hprobe : run.work.isProbe with _ | _
  · have hle : s'.inFlight.countP (· = run.work)
        ≤ s'.inFlight.countP fun work => !work.isProbe && work.instanceId = run.target.id := by
      refine List.countP_mono_left fun work _ heq => ?_
      rw [decide_eq_true_eq] at heq
      subst heq
      rw [hprobe]
      simp [ScheduledRun.work]
    rw [hflight.tracks.instanceQuery] at hle
    have := Bool.toNat_le (s'.dispatcher.instanceQuery run.target.id)
    omega
  · have hle : s'.inFlight.countP (· = run.work)
        ≤ s'.inFlight.countP fun work => work.isProbe && work.instanceId = run.target.id := by
      refine List.countP_mono_left fun work _ heq => ?_
      rw [decide_eq_true_eq] at heq
      subst heq
      rw [hprobe]
      simp [ScheduledRun.work]
    rw [hflight.tracks.instanceProbe] at hle
    have := Bool.toNat_le (s'.dispatcher.instanceProbe run.target.id)
    omega

theorem instanceQuery_of_running (hf : FlightInv probeLimit queryLimit s) {running : Running}
    (hmem : running ∈ s.running) (hclass : running.run.work.isProbe = false) :
    s.dispatcher.instanceQuery running.run.target.id = true := by
  have hwork : running.run.work ∈ s.inFlight :=
    List.mem_append_left _ (List.mem_map_of_mem hmem)
  have hpos : 0 < s.inFlight.countP
      fun work => !work.isProbe && work.instanceId = running.run.target.id := by
    refine List.countP_pos_iff.mpr ⟨running.run.work, hwork, ?_⟩
    rw [hclass]
    simp [ScheduledRun.work]
  rw [hf.tracks.instanceQuery] at hpos
  by_contra hno
  rw [Bool.not_eq_true] at hno
  simp [hno] at hpos

theorem runsInv_move (h : RunsInv s) (ho : ObligationInv s)
    (hflight : FlightInv probeLimit queryLimit s') (hm : Move s a s') : RunsInv s' := by
  cases hm
  case refresh => exact runsInv_refresh h _ _ _
  case generate hentry _ _ | replace hentry _ _ =>
    exact h.accrue hentry rfl rfl rfl
  case backOff => exact { h.take _ with }
  case launch run eligible runs dispatcher hloop _ _ =>
    have hrun := ho.runs_pending run (by simp [hloop, Loop.runs])
    have htask := h.pending hrun
    have hne := h.launch htask hflight rfl
    refine { h.take run.key with running := fun r hr => ?_, distinct := ?_ }
    · rcases List.mem_append.mp hr with hr | hr
      · exact h.running r hr
      · rw [List.mem_singleton.mp hr]
        exact htask
    · rw [List.map_append, List.nodup_append]
      refine ⟨h.distinct, by simp, ?_⟩
      intro key hkey key' hkey'
      obtain ⟨r, hr, rfl⟩ := List.mem_map.mp hkey
      rw [List.map_singleton, List.mem_singleton] at hkey'
      exact hkey' ▸ hne r hr
  case advance hi hadvance =>
    obtain ⟨hkey, -, htask, -⟩ := hadvance.same
    exact h.setRunning hi htask hkey
  case prepare hi _ _ _ => exact h.setRunning hi rfl rfl
  case start running hi _ =>
    have hcommit : RunsInv (s.commit running.run.target.id (.started running.run)) := { h with }
    exact hcommit.setRunning hi rfl rfl
  case record running tx hi _ =>
    have hcommit : RunsInv (s.commit running.run.target.id tx) := { h with }
    exact hcommit.setRunning hi rfl rfl
  case send =>
    refine { h with running := fun r hr => ?_, distinct := ?_ }
    · exact h.running r (List.mem_of_mem_eraseIdx hr)
    · exact h.distinct.sublist ((List.eraseIdx_sublist _ _).map _)
  all_goals exact { h with }

end Tasks

section Phases

structure PhaseInv (s : Collector) : Prop where
  executing : ∀ running ∈ s.running, running.executes = true →
    running.run.key.taskId ≠ capabilitySnapshotTaskId
  held_back : ∀ run eligible readAt runs, s.loop = .backingOff run eligible readAt runs →
    run.key.taskId ≠ capabilitySnapshotTaskId
  recording : ∀ running ∈ s.running, ∀ tx, running.phase = .recording tx →
    ∃ finish, finish ≤ s.clock ∧ Outcome running.run finish tx

theorem phaseInv_init (clock : ℤ) : PhaseInv (init probeLimit queryLimit clock) := by
  constructor <;> simp [init]

theorem taskId_ne_of_not_capability {run : ScheduledRun}
    (h : isCapabilitySnapshotTask run.task = false) :
    run.key.taskId ≠ capabilitySnapshotTaskId := by
  simpa [isCapabilitySnapshotTask, ScheduledRun.key] using h

theorem PhaseInv.frame (h : PhaseInv s) (hclock : s.clock ≤ s'.clock)
    (hrunning : ∀ running ∈ s'.running, running ∈ s.running
      ∨ running.executes = false)
    (hloop : ∀ run eligible readAt runs, s'.loop = .backingOff run eligible readAt runs →
      s'.loop = s.loop) : PhaseInv s' := by
  refine ⟨fun running hmem hexec => ?_, fun run eligible readAt runs heq => ?_,
    fun running hmem tx hphase => ?_⟩
  · rcases hrunning running hmem with hmem | hno
    · exact h.executing running hmem hexec
    · rw [hno] at hexec
      cases hexec
  · rw [hloop run eligible readAt runs heq] at heq
    exact h.held_back run eligible readAt runs heq
  · rcases hrunning running hmem with hmem | hno
    · obtain ⟨finish, hle, htx⟩ := h.recording running hmem tx hphase
      exact ⟨finish, Int.le_trans hle hclock, htx⟩
    · simp [Running.executes, hphase] at hno

theorem PhaseInv.setRunning (h : PhaseInv s) {i : ℕ} {running' : Running}
    (hkey : running'.executes = true → running'.run.key.taskId ≠ capabilitySnapshotTaskId)
    (hrecording : ∀ tx, running'.phase = .recording tx →
      ∃ finish, finish ≤ s.clock ∧ Outcome running'.run finish tx) :
    PhaseInv (s.setRunning i running') := by
  refine { h with executing := fun r hr hexec => ?_, recording := fun r hr tx hphase => ?_ }
  · rcases List.mem_or_eq_of_mem_set hr with hr | rfl
    · exact h.executing r hr hexec
    · exact hkey hexec
  · rcases List.mem_or_eq_of_mem_set hr with hr | rfl
    · exact h.recording r hr tx hphase
    · exact hrecording tx hphase

theorem Advance.executes {clock : ℤ} {running running' : Running}
    (h : Advance clock running running')
    (hkey : running.executes = true → running.run.key.taskId ≠ capabilitySnapshotTaskId) :
    (running'.executes = true → running'.run.key.taskId ≠ capabilitySnapshotTaskId)
      ∧ ∀ tx, running'.phase ≠ .recording tx := by
  cases h
  case abandon | snapshot => simp [Running.executes]
  case begin _ hcapability =>
    have hne : running.run.key.taskId ≠ capabilitySnapshotTaskId :=
      taskId_ne_of_not_capability hcapability
    exact ⟨fun _ => hne, by simp⟩
  case proceed hphase => exact ⟨fun _ => hkey (by simp [Running.executes, hphase]), by simp⟩

theorem phaseInv_move (h : PhaseInv s) (hflight : FlightInv probeLimit queryLimit s)
    (hm : Move s a s') : PhaseInv s' := by
  cases hm
  case tick hclock => exact h.frame hclock (fun _ hr => .inl hr) fun _ _ _ _ _ => rfl
  case setPaused | ensureTaskStates =>
    exact h.frame (Int.le_refl _) (fun _ hr => .inl hr) fun _ _ _ _ _ => rfl
  case refresh now targets completed hloop _ _ =>
    obtain ⟨-, hrunning, -, hloop', hclock⟩ := refresh_frame s now targets completed
    refine h.frame (Int.le_of_eq hclock.symm) (fun r hr => .inl ?_) fun _ _ _ _ _ => hloop'
    rwa [hrunning] at hr
  case backOff run eligible runs hloop _ =>
    refine { h with held_back := fun run' eligible' readAt runs' heq => ?_ }
    cases heq
    exact taskId_ne_of_not_capability (hflight.held_back run eligible runs hloop)
  case launch =>
    refine h.frame (Int.le_refl _) (fun r hr => ?_) (by simp)
    rcases List.mem_append.mp hr with hr | hr
    · exact .inl hr
    · rw [List.mem_singleton.mp hr]
      exact .inr rfl
  case advance i running running' hi hadvance =>
    obtain ⟨hkey, hno⟩ := hadvance.executes (h.executing running (List.mem_of_getElem? hi))
    exact h.setRunning hkey fun tx hphase => absurd hphase (hno tx)
  case prepare i running tx hi hphase htx _ =>
    have hexec : running.executes = true := by
      rcases hphase with hphase | hphase <;> simp [Running.executes, hphase]
    refine h.setRunning (fun _ => h.executing running (List.mem_of_getElem? hi) hexec) ?_
    intro tx' heq
    cases heq
    exact ⟨s.clock, Int.le_refl _, htx⟩
  case start i running hi hphase =>
    have hcommit : PhaseInv (s.commit running.run.target.id (.started running.run)) := { h with }
    refine hcommit.setRunning (fun _ => ?_) (by simp)
    exact h.executing running (List.mem_of_getElem? hi) (by simp [Running.executes, hphase])
  case record i running tx hi hphase =>
    have hcommit : PhaseInv (s.commit running.run.target.id tx) := { h with }
    exact hcommit.setRunning (by simp [Running.executes]) (by simp)
  case send =>
    exact h.frame (Int.le_refl _) (fun r hr => .inl (List.mem_of_mem_eraseIdx hr))
      fun _ _ _ _ _ => rfl
  case complete => exact { h with }
  all_goals
    refine h.frame (Int.le_refl _) (fun _ hr => .inl hr) ?_
    simp [setLoop]

end Phases

structure CollectorInv (probeLimit queryLimit : ℕ) (s : Collector) : Prop where
  obligations : ObligationInv s
  flight : FlightInv probeLimit queryLimit s
  runs : RunsInv s
  phases : PhaseInv s

theorem collectorInv_init (clock : ℤ) :
    CollectorInv probeLimit queryLimit (init probeLimit queryLimit clock) :=
  ⟨obligationInv_init _ _ _, flightInv_init clock, runsInv_init clock, phaseInv_init clock⟩

theorem collectorInv_step (h : CollectorInv probeLimit queryLimit s)
    (hstep : step s a = some s') : CollectorInv probeLimit queryLimit s' := by
  have hm := move_of_step hstep
  have hflight := flightInv_move h.flight h.obligations hm
  exact ⟨obligationInv_step h.obligations hstep, hflight,
    runsInv_move h.runs h.obligations hflight hm, phaseInv_move h.phases h.flight hm⟩

/-- What holds after every step: the counters are the numbers of runs in flight and within their
limits, an instance has at most one probe and one query in flight, a collection query dispatched
while a capability snapshot is pending leaves the reserved slots, and an ended run can send its
outcome. -/
structure AdmissionKept (probeLimit queryLimit : ℕ) (s : Collector) (a : Action)
    (t : Collector) : Prop where
  probes : t.dispatcher.activeProbes = t.inFlight.countP Work.isProbe
  queries : t.dispatcher.activeQueries = t.inFlight.countP fun work => !work.isProbe
  collectionQueries :
    t.dispatcher.activeCollectionQueries = t.inFlight.countP Work.isCollectionQuery
  nonneg : 0 ≤ t.dispatcher.activeProbes ∧ 0 ≤ t.dispatcher.activeQueries
    ∧ 0 ≤ t.dispatcher.activeCollectionQueries
  limits : t.dispatcher.activeProbes ≤ probeLimit ∧ t.dispatcher.activeQueries ≤ queryLimit
    ∧ t.dispatcher.activeCollectionQueries ≤ queryLimit
  one_probe : ∀ id, t.inFlight.countP (fun work => work.isProbe && work.instanceId = id) ≤ 1
  one_query : ∀ id, t.inFlight.countP (fun work => !work.isProbe && work.instanceId = id) ≤ 1
  reserved : ∀ run, a = .dispatchRun → t.journal = .dispatched run :: s.journal →
    run.work.isCollectionQuery = true → s.pending.hasCapabilitySnapshot = true →
      t.dispatcher.activeCollectionQueries ≤ queryLimit - (min 4 queryLimit : ℕ)
  capacity : t.running.length + t.completed.length ≤ probeLimit + queryLimit
  sends : ∀ i running, t.running[i]? = some running → running.phase = .finished →
    (step t (.sendOutcome i)).isSome = true

theorem launch_of_journal (hm : Move s a s') (ha : a = .dispatchRun) {run : ScheduledRun}
    (hjournal : s'.journal = .dispatched run :: s.journal) :
    ∃ eligible runs dispatcher, s.loop = .checking run eligible runs
      ∧ (∀ e ∈ eligible, e ≤ run.dueAt) ∧ s.dispatcher.admitWork run.work = some dispatcher
      ∧ s'.dispatcher.activeCollectionQueries = dispatcher.activeCollectionQueries := by
  subst ha
  have hne : s.journal ≠ .dispatched run :: s.journal := fun heq => by
    simpa using congrArg List.length heq
  cases hm
  case backOff => simp at hjournal
  case wait => exact absurd hjournal hne
  case advance => exact absurd hjournal hne
  case prepare => exact absurd hjournal hne
  case launch run' eligible runs dispatcher hloop heligible hadmitted =>
    simp only [List.cons.injEq, Event.dispatched.injEq, and_true] at hjournal
    subst hjournal
    exact ⟨eligible, runs, dispatcher, hloop, heligible, hadmitted, rfl⟩

theorem reserved_of_launch (h : FlightInv probeLimit queryLimit s) (hm : Move s a s')
    (ha : a = .dispatchRun) {run : ScheduledRun}
    (hjournal : s'.journal = .dispatched run :: s.journal)
    (hclass : run.work.isCollectionQuery = true)
    (hpending : s.pending.hasCapabilitySnapshot = true) :
    s'.dispatcher.activeCollectionQueries ≤ queryLimit - (min 4 queryLimit : ℕ) := by
  obtain ⟨eligible, runs, dispatcher, hloop, -, hadmitted, hactive⟩ :=
    launch_of_journal hm ha hjournal
  have hwaiting := h.waiting (by simp [hloop, Loop.dispatches])
  have hreserved := Dispatcher.admitWork_reserved hadmitted hclass (hwaiting.trans hpending)
  rw [hactive, ← h.queryLimit_eq]
  exact hreserved

theorem length_inFlight (h : FlightInv probeLimit queryLimit s) :
    s.running.length + s.completed.length ≤ probeLimit + queryLimit := by
  have hlength : s.inFlight.length = s.running.length + s.completed.length := by simp [inFlight]
  have hsplit := List.length_eq_countP_add_countP Work.isProbe (l := s.inFlight)
  have hprobes := h.tracks.probes ▸ h.tracks.probes_le
  have hqueries := h.tracks.queries ▸ h.tracks.queries_le
  have hnot : s.inFlight.countP (fun work => decide ¬ work.isProbe = true)
      = s.inFlight.countP fun work => !work.isProbe := by
    simp
  rw [h.probeLimit_eq] at hprobes
  rw [h.queryLimit_eq] at hqueries
  omega

theorem admissionKept_of_inv (hs : FlightInv probeLimit queryLimit s)
    (h : FlightInv probeLimit queryLimit s') (hm : Move s a s') :
    AdmissionKept probeLimit queryLimit s a s' := by
  obtain ⟨hp, hq, hc, hple, hqle, hip, hiq⟩ := h.tracks
  rw [h.probeLimit_eq] at hple
  rw [h.queryLimit_eq] at hqle
  have hmono : s'.inFlight.countP Work.isCollectionQuery
      ≤ s'.inFlight.countP fun work => !work.isProbe := by
    refine List.countP_mono_left fun work _ hwork => ?_
    simp only [Work.isCollectionQuery, decide_eq_true_eq] at hwork
    simp [Work.isProbe, hwork]
  have hlength := length_inFlight h
  refine ⟨hp, hq, hc, ?_, ?_, fun id => ?_, fun id => ?_, fun run ha hj hclass hpending =>
    reserved_of_launch hs hm ha hj hclass hpending, hlength, fun i running hi hphase => ?_⟩
  · omega
  · omega
  · rw [hip]
    exact Bool.toNat_le _
  · rw [hiq]
    exact Bool.toNat_le _
  · have hlt := (List.getElem?_eq_some_iff.mp hi).1
    have hroom : s'.completed.length < s'.dispatcher.probeLimit + s'.dispatcher.queryLimit := by
      rw [h.probeLimit_eq, h.queryLimit_eq]
      omega
    simp [step, hi, sendOutcome, hphase, hroom]

/-- For all limits and every run of the collector, over any number of instances. -/
theorem admission_kept (probeLimit queryLimit : ℕ) (clock : ℤ) (actions : List Action) :
    Along step (AdmissionKept probeLimit queryLimit) (init probeLimit queryLimit clock)
      actions := by
  refine Along.of_invariant (I := CollectorInv probeLimit queryLimit) ?_ (collectorInv_init clock)
  intro s a t h hstep
  have ht := collectorInv_step h hstep
  exact ⟨admissionKept_of_inv h.flight ht.flight (move_of_step hstep), ht⟩

end Collector

end DbsMonitor
