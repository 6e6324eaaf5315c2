import DbsMonitor.Grouping
import DbsMonitor.HealthReports

/-!
# A failure is reported once for each time a subsystem enters it

A call compares two neighbours in the order of the lock, and its section adds exactly one to the
reports that are owed when it takes a subsystem from another status to `FAILED`: the reports made
and owed together are the entries of the run.
-/

namespace DbsMonitor.PlatformHealth

def Status.rank : Status → ℕ
  | ok => 0
  | degraded => 1
  | unknown => 2
  | failed => 3

def WorstOf (status : Status) (statuses : List Status) : Prop :=
  status ∈ statuses ∧ ∀ other ∈ statuses, other.rank ≤ status.rank

theorem aggregateStatusLoop_mem (result : Status) (statuses : List Status) :
    aggregateStatusLoop result statuses ∈ result :: statuses := by
  fun_induction aggregateStatusLoop result statuses with
  | case1 result => simp
  | case2 => simp
  | case3 _ statuses ih => exact List.mem_cons_of_mem _ ih
  | case4 result statuses ih =>
    split_ifs at ih ⊢ with hok
    · exact List.mem_cons_of_mem _ ih
    · simp only [List.mem_cons] at ih ⊢
      exact ih.imp_right .inr
  | case5 result statuses ih =>
    simp only [List.mem_cons] at ih ⊢
    exact ih.imp_right .inr

theorem rank_le_aggregateStatusLoop (result : Status) (statuses : List Status)
    (hresult : result ≠ .failed) :
    ∀ other ∈ result :: statuses, other.rank ≤ (aggregateStatusLoop result statuses).rank := by
  fun_induction aggregateStatusLoop result statuses with
  | case1 result => simp
  | case2 _ statuses => intro other _; cases other <;> simp [Status.rank]
  | case3 result statuses ih =>
    -- the result so far is no failure, so it is not worse than the unknown one
    have hrank : result.rank ≤ Status.rank .unknown := by
      cases result <;> simp_all [Status.rank]
    simp only [List.mem_cons, forall_eq_or_imp] at ih ⊢
    obtain ⟨hunknown, hrest⟩ := ih (by simp)
    exact ⟨hrank.trans hunknown, hunknown, hrest⟩
  | case4 result statuses ih =>
    simp only [List.mem_cons, forall_eq_or_imp] at ih ⊢
    split_ifs at ih ⊢ with hok
    · obtain ⟨hdegraded, hrest⟩ := ih (by simp)
      exact ⟨by simp [hok, Status.rank], hdegraded, hrest⟩
    · obtain ⟨hfirst, hrest⟩ := ih hresult
      have hrank : Status.rank .degraded ≤ result.rank := by
        cases result <;> simp_all [Status.rank]
      exact ⟨hfirst, hrank.trans hfirst, hrest⟩
  | case5 result statuses ih =>
    simp only [List.mem_cons, forall_eq_or_imp] at ih ⊢
    obtain ⟨hfirst, hrest⟩ := ih hresult
    exact ⟨hfirst, by simp [Status.rank], hrest⟩

theorem aggregateStatus_worstOf {statuses : List Status} (h : statuses ≠ []) :
    WorstOf (aggregateStatus statuses) statuses := by
  rw [aggregateStatus, if_neg (by simpa using h)]
  have hrank := rank_le_aggregateStatusLoop .ok statuses (by simp)
  refine ⟨?_, fun other hother => hrank other (List.mem_cons_of_mem _ hother)⟩
  rcases List.mem_cons.mp (aggregateStatusLoop_mem .ok statuses) with hok | hmem
  · -- nothing is worse than `OK`, so every status is
    obtain ⟨status, statuses, rfl⟩ := List.exists_cons_of_ne_nil h
    have hstatus := hrank status (by simp)
    rw [hok] at hstatus ⊢
    cases status <;> simp_all [Status.rank]
  · exact hmem

theorem mem_sourceOrder (source : Source) : source ∈ sourceOrder := by
  cases source <;> decide

theorem nodup_sourceOrder : sourceOrder.Nodup := by decide

theorem bySource_snapshot (facts : Facts) (now : ℤ) (source : Source) :
    (facts.snapshot now).bySource source = some (facts.fact source) := by
  have hfilter : sourceOrder.filter (fun other => (facts.fact other).source = source) = [source] :=
    Grouping.filter_eq_singleton nodup_sourceOrder (mem_sourceOrder source) fun other _ => by
      simp [facts.source_fact other]
  simp only [Snapshot.bySource, Facts.snapshot, List.filter_map, Function.comp_def, hfilter]
  rfl

def Output.reports (source : Source) : Output → Bool
  | failure fact => fact.source = source
  | _ => false

theorem countP_reports_writeChangeEvent (source : Source) (previous current : Snapshot) :
    (writeChangeEvent previous current).countP (Output.reports source) = 0 := by
  unfold writeChangeEvent
  dsimp only
  split_ifs <;> simp [Output.reports]

theorem countP_reports_observeNewFailures (source : Source) (before after : Facts)
    (earlier now : ℤ) :
    (observeNewFailures true (before.snapshot earlier) (after.snapshot now)).countP
        (Output.reports source)
      = if (before.fact source).status ≠ .failed ∧ (after.fact source).status = .failed
        then 1 else 0 := by
  have hsources : (after.snapshot now).sources = sourceOrder.map after.fact := rfl
  rw [observeNewFailures, if_pos rfl, List.countP_map, List.countP_filter, hsources,
    List.countP_map, List.countP_eq_length_filter]
  split_ifs with h
  · rw [Grouping.filter_eq_singleton nodup_sourceOrder (mem_sourceOrder source)]
    · rfl
    · intro other _
      simp only [Function.comp_apply, Output.reports, after.source_fact, bySource_snapshot,
        Option.map_some, Bool.and_eq_true, decide_eq_true_eq, ne_eq, Option.some.injEq]
      constructor
      · exact fun hother => hother.1
      · rintro rfl
        exact ⟨rfl, h.2, h.1⟩
  · rw [List.length_eq_zero_iff, List.filter_eq_nil_iff]
    intro other _
    simp only [Function.comp_apply, Output.reports, after.source_fact, bySource_snapshot,
      Option.map_some, Bool.and_eq_true, decide_eq_true_eq, ne_eq, Option.some.injEq]
    rintro ⟨rfl, hfailed, hnew⟩
    exact h ⟨hnew, hfailed⟩

theorem observeNewFailures_false (previous current : Snapshot) :
    observeNewFailures false previous current = [] := rfl

namespace HealthService

variable (service : HealthService)

def status (source : Source) : Status := (service.facts.fact source).status

def observed (source : Source) : ℕ := service.outputs.countP (Output.reports source)

def owed (source : Source) : ℕ := service.calls.flatten.countP (Output.reports source)

def Quiet : Prop := ∀ call ∈ service.calls, call = []

/-- A section of the lock takes the subsystem from another status to `FAILED`. -/
def entersFailed (source : Source) (before : HealthService) (_ : HealthCall)
    (after : HealthService) : ℕ :=
  if before.status source ≠ .failed ∧ after.status source = .failed then 1 else 0

def Published : Prop := service.snapshot = service.facts.snapshot service.snapshot.assembledAt

variable {service}

theorem owed_eq_zero (h : service.Quiet) (source : Source) : service.owed source = 0 := by
  have hflatten : service.calls.flatten = [] := List.flatten_eq_nil_iff.mpr h
  simp [owed, hflatten]

theorem published_new (startedAt : ℤ) : (new startedAt).Published := rfl

theorem published_assemble (facts : Facts) (now : ℤ) (after : Snapshot → List Output) :
    (service.assemble facts now after).Published := rfl

theorem countP_flatten_set {α : Type*} (p : α → Bool) :
    ∀ {lists : List (List α)} {i : ℕ} {a : α} {rest : List α}, lists[i]? = some (a :: rest) →
      (lists.set i rest).flatten.countP p + [a].countP p = lists.flatten.countP p
  | [], i, a, rest, h => by simp at h
  | list :: lists, 0, a, rest, h => by
    simp only [List.getElem?_cons_zero, Option.some.injEq] at h
    subst h
    simp only [List.set_cons_zero, List.flatten_cons, List.countP_append, List.countP_cons,
      List.countP_nil]
    omega
  | list :: lists, i + 1, a, rest, h => by
    rw [List.getElem?_cons_succ] at h
    have ih := countP_flatten_set p h
    simp only [List.set_cons_succ, List.flatten_cons, List.countP_append]
    omega

theorem proceed_eq {call : ℕ} {next : HealthService} (h : service.proceed call = some next) :
    ∃ output rest, service.calls[call]? = some (output :: rest)
      ∧ next = { service with
          calls := service.calls.set call rest, outputs := service.outputs ++ [output] } := by
  unfold proceed at h
  cases hcall : service.calls[call]? with
  | none => simp [hcall] at h
  | some outputs =>
    cases outputs with
    | nil => simp [hcall] at h
    | cons output rest =>
      simp only [hcall, Option.some.injEq] at h
      exact ⟨output, rest, rfl, h.symm⟩

theorem reports_assemble (hpublished : service.Published) (hobserver : service.failureObserver)
    (facts : Facts) (now : ℤ) {after : Snapshot → List Output}
    (hafter : ∀ snapshot source, (after snapshot).countP (Output.reports source) = 0)
    (source : Source) :
    (service.assemble facts now after).observed source
        + (service.assemble facts now after).owed source
      = service.observed source + service.owed source
        + (if service.status source ≠ .failed
              ∧ (service.assemble facts now after).status source = .failed then 1 else 0) := by
  have hnew := countP_reports_observeNewFailures source service.facts (facts.refreshed now)
    service.snapshot.assembledAt now
  rw [← hpublished] at hnew
  have howed : (service.assemble facts now after).owed source
      = service.owed source
        + (observeNewFailures true service.snapshot ((facts.refreshed now).snapshot now)).countP
            (Output.reports source) := by
    simp only [assemble, owed, hobserver, List.flatten_append, List.countP_append,
      List.flatten_cons, List.flatten_nil, List.countP_nil, countP_reports_writeChangeEvent,
      hafter]
    omega
  rw [howed, hnew]
  exact (Nat.add_assoc _ _ _).symm

theorem entersFailed_eq_zero {source : Source} {call : HealthCall} {next : HealthService}
    (h : next.facts = service.facts) : entersFailed source service call next = 0 := by
  have hstatus : next.status source = service.status source := by rw [status, status, h]
  rw [entersFailed, hstatus, if_neg (fun hboth => hboth.1 hboth.2)]

theorem Published.step {call : HealthCall} {next : HealthService} (hpublished : service.Published)
    (h : service.step call = some next) : next.Published := by
  cases call with
  | update now fact =>
    cases h
    exact published_assemble _ _ _
  | publishSummary now =>
    cases h
    exact published_assemble _ _ _
  | setFailureObserver present =>
    cases h
    exact hpublished
  | proceed call =>
    obtain ⟨output, rest, -, rfl⟩ := proceed_eq h
    exact hpublished

theorem reports_step {call : HealthCall} {next : HealthService} (hpublished : service.Published)
    (hobserver : service.failureObserver) (h : service.step call = some next) (source : Source) :
    next.observed source + next.owed source
      = service.observed source + service.owed source
        + entersFailed source service call next := by
  cases call with
  | update now fact =>
    cases h
    exact reports_assemble hpublished hobserver _ now (fun _ _ => rfl) source
  | publishSummary now =>
    cases h
    exact reports_assemble hpublished hobserver _ now (fun _ _ => by simp [Output.reports]) source
  | setFailureObserver present =>
    cases h
    rw [entersFailed_eq_zero]
    · rfl
    · rfl
  | proceed call =>
    obtain ⟨output, rest, hcall, rfl⟩ := proceed_eq h
    rw [entersFailed_eq_zero]
    · have hset := countP_flatten_set (Output.reports source) hcall
      simp only [observed, owed, List.countP_append] at hset ⊢
      omega
    · rfl

/-! ## The watermarks

The store of the watermarks is this one without the snapshot. An assembly computes the certificate
again and no other fact, so the levels are those of the store. -/

def toStore (service : HealthService) : Store where
  sources source := (service.facts.fact source).toSourceSnapshot

theorem toStore_new (startedAt : ℤ) : (new startedAt).toStore = newStore := by
  unfold toStore newStore new
  congr
  funext source
  cases source <;> rfl

theorem refreshed_fact (facts : Facts) (now : ℤ) {source : Source} (h : source ≠ .tlsCertificate) :
    (facts.refreshed now).fact source = facts.fact source := by
  unfold Facts.refreshed
  split_ifs with hexpires
  · obtain ⟨expires, hexpires⟩ := Option.isSome_iff_exists.mp hexpires
    have hcertificate : source ≠ (certificateSource now (some expires)).source := h
    simp [Facts.set, hexpires, Function.update_of_ne hcertificate]
  · rfl

theorem toStore_update (now : ℤ) (fact : Fact) {source : Source} (h : source ≠ .tlsCertificate) :
    (service.update now fact).toStore.sources source
      = (service.toStore.update fact.toSourceSnapshot).sources source := by
  simp only [toStore, HealthService.update, assemble, refreshed_fact _ now h, Facts.set,
    Store.update, Function.update_apply]
  split_ifs <;> rfl

def storeAfter : Store → List HealthCall → Store
  | store, [] => store
  | store, .update _ fact :: calls => storeAfter (store.update fact.toSourceSnapshot) calls
  | store, _ :: calls => storeAfter store calls

theorem toStore_run {next : HealthService} {calls : List HealthCall} :
    ∀ {service : HealthService} {store : Store},
      Machine.run HealthService.step service calls = some next →
      (∀ source ≠ .tlsCertificate, service.toStore.sources source = store.sources source) →
      ∀ source ≠ .tlsCertificate,
        next.toStore.sources source = (storeAfter store calls).sources source := by
  induction calls with
  | nil =>
    rintro service store ⟨⟩ h
    exact h
  | cons call calls ih =>
    intro service store hrun h
    obtain ⟨middle, hstep, hrun⟩ := (Machine.run_cons _).mp hrun
    cases call with
    | update now fact =>
      cases hstep
      refine ih hrun fun source hsource => ?_
      rw [toStore_update now fact hsource]
      simp only [Store.update, Function.update_apply, h source hsource]
    | publishSummary now =>
      cases hstep
      exact ih hrun fun source hsource => (congrArg Fact.toSourceSnapshot
        (refreshed_fact service.facts now hsource)).trans (h source hsource)
    | setFailureObserver present =>
      cases hstep
      exact ih hrun h
    | proceed call =>
      obtain ⟨output, rest, -, rfl⟩ := proceed_eq hstep
      exact ih hrun h

/-- However the calls interleave, the levels depend on the updates in their order alone. -/
theorem levels_as_store {startedAt : ℤ} {calls : List HealthCall} {service : HealthService}
    (hrun : Machine.run HealthService.step (new startedAt) calls = some service) :
    service.toStore.diskLevel = (storeAfter newStore calls).diskLevel
      ∧ service.toStore.platformDatabaseCapacityLevel
        = (storeAfter newStore calls).platformDatabaseCapacityLevel := by
  have hsources := toStore_run hrun fun _ _ => by rw [toStore_new]
  unfold Store.diskLevel Store.platformDatabaseCapacityLevel
  rw [hsources .disk (by decide), hsources .platformDatabaseCapacity (by decide)]
  exact ⟨rfl, rfl⟩

def fillsUp : List HealthCall :=
  [ .update 1 { source := .disk, status := .failed, code := "", diskLevel := some .emergency },
    .publishSummary 2, .proceed 0 ]

theorem levels_as_store_fillsUp : ∃ service,
    Machine.run HealthService.step (new 0) fillsUp = some service
      ∧ service.toStore.diskLevel = .emergency :=
  ⟨_, rfl, (@levels_as_store 0 fillsUp _ rfl).1.trans (by decide)⟩

structure Silent (service : HealthService) : Prop where
  published : service.Published
  no_observer : service.failureObserver = false
  observed (source : Source) : service.observed source = 0
  owed (source : Source) : service.owed source = 0

theorem silent_new (startedAt : ℤ) : (new startedAt).Silent :=
  ⟨published_new startedAt, rfl, fun _ => rfl, fun _ => rfl⟩

theorem Silent.assemble (h : service.Silent) (facts : Facts) (now : ℤ)
    {after : Snapshot → List Output}
    (hafter : ∀ snapshot source, (after snapshot).countP (Output.reports source) = 0) :
    (service.assemble facts now after).Silent where
  published := published_assemble _ _ _
  no_observer := h.no_observer
  observed := h.observed
  owed source := by
    have howed := h.owed source
    unfold HealthService.owed at howed
    simp only [HealthService.assemble, HealthService.owed, h.no_observer,
      observeNewFailures_false, List.flatten_append, List.countP_append, List.flatten_cons,
      List.flatten_nil, List.countP_nil, countP_reports_writeChangeEvent, hafter]
    omega

theorem Silent.step {call : HealthCall} {next : HealthService} (h : service.Silent)
    (hstep : service.step call = some next) (hset : ∀ present, call ≠ .setFailureObserver present) :
    next.Silent := by
  cases call with
  | update now fact =>
    cases hstep
    exact h.assemble _ now fun _ _ => rfl
  | publishSummary now =>
    cases hstep
    exact h.assemble _ now fun _ _ => by simp [Output.reports]
  | setFailureObserver present => exact absurd rfl (hset present)
  | proceed call =>
    obtain ⟨output, rest, hcall, rfl⟩ := proceed_eq hstep
    have hmoved (source : Source) : _ = service.owed source :=
      countP_flatten_set (Output.reports source) hcall
    refine ⟨h.published, h.no_observer, fun source => ?_, fun source => ?_⟩
    · have hsource := hmoved source
      have hobserved := h.observed source
      rw [h.owed source] at hsource
      simp only [HealthService.observed, List.countP_append] at hobserved ⊢
      omega
    · have hsource := hmoved source
      rw [h.owed source] at hsource
      simp only [HealthService.owed]
      omega

theorem observer_step {call : HealthCall} {next : HealthService}
    (hobserver : service.failureObserver)
    (h : service.step call = some next) (hset : call ≠ .setFailureObserver false) :
    next.failureObserver := by
  cases call with
  | update now fact =>
    cases h
    exact hobserver
  | publishSummary now =>
    cases h
    exact hobserver
  | setFailureObserver present =>
    cases h
    cases present with
    | false => exact absurd rfl hset
    | true => rfl
  | proceed call =>
    obtain ⟨output, rest, -, rfl⟩ := proceed_eq h
    exact hobserver

theorem exists_quiet (service : HealthService) : ∃ rest next,
    (∀ call ∈ rest, ∃ n, call = .proceed n)
      ∧ Machine.run HealthService.step service rest = some next ∧ next.Quiet := by
  induction hlength : service.calls.flatten.length using Nat.strong_induction_on
    generalizing service with
  | _ n ih =>
    by_cases hquiet : service.Quiet
    · exact ⟨[], service, by simp, rfl, hquiet⟩
    · unfold Quiet at hquiet
      push Not at hquiet
      obtain ⟨outputs, hmem, hne⟩ := hquiet
      obtain ⟨call, hcall⟩ := List.mem_iff_getElem?.mp hmem
      obtain ⟨output, rest, rfl⟩ := List.exists_cons_of_ne_nil hne
      -- the call makes one of its outputs, the rest is shorter
      let moved : HealthService := { service with
        calls := service.calls.set call rest, outputs := service.outputs ++ [output] }
      have hstep : service.step (.proceed call) = some moved := by
        simp [HealthService.step, proceed, hcall, moved]
      have hshorter : moved.calls.flatten.length + 1 = service.calls.flatten.length := by
        simpa [moved] using countP_flatten_set (fun _ => true) hcall
      obtain ⟨calls, next, hcalls, hrun, hnext⟩ := ih _ (by omega) moved rfl
      refine ⟨.proceed call :: calls, next, ?_, ?_, hnext⟩
      · simpa using hcalls
      · exact (Machine.run_cons _).mpr ⟨_, hstep, hrun⟩

theorem reports_run {silent next : HealthService} {after : List HealthCall}
    (hsilent : silent.Silent) (hafter : .setFailureObserver false ∉ after)
    (hrun : Machine.run HealthService.step silent (.setFailureObserver true :: after) = some next)
    (source : Source) :
    next.observed source + next.owed source
      = Machine.tally HealthService.step (entersFailed source) silent
        (.setFailureObserver true :: after) := by
  let installed : HealthService := { silent with failureObserver := true }
  have hstep : silent.step (.setFailureObserver true) = some installed := rfl
  have hrun' : Machine.run HealthService.step installed after = some next := by
    simpa [Machine.run, hstep] using hrun
  have hpublished : installed.Published := hsilent.published
  have halong : Machine.Along HealthService.step
      (fun _ call _ => call ≠ .setFailureObserver false) installed after :=
    Machine.along_of_forall_mem fun call hcall heq => hafter (heq ▸ hcall)
  have htally : next.observed source + next.owed source
      = installed.observed source + installed.owed source
        + Machine.tally HealthService.step (entersFailed source) installed after :=
    Machine.run_tally (m := fun service => service.observed source + service.owed source)
      (I := fun service => service.Published ∧ service.failureObserver)
      (fun service call next hinv hstep hset =>
        ⟨reports_step hinv.1 hinv.2 hstep source, hinv.1.step hstep,
          observer_step hinv.2 hstep hset⟩)
      ⟨hpublished, rfl⟩ halong hrun'
  have hobserved : installed.observed source = 0 := hsilent.observed source
  have howed : installed.owed source = 0 := hsilent.owed source
  have hzero : entersFailed source silent (.setFailureObserver true) installed = 0 :=
    entersFailed_eq_zero rfl
  simp only [Machine.tally, hstep, hzero]
  omega

end HealthService

end DbsMonitor.PlatformHealth
