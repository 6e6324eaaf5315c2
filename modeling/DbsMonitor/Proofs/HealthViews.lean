import DbsMonitor.InstanceViews

/-!
# The list shows what the view of one instance shows

Both views join the same columns, group the same alerts and project them with the same function. The
roll-up takes the maintenance of the instance over as a flag and decides nothing with it. The view
of one instance looks it up and the list does not: they agree about exactly the instances that are
not in maintenance.
-/

namespace DbsMonitor

theorem mapM_eq_some {α β : Type*} {f : α → Option β} : ∀ {xs : List α} {ys : List β},
    xs.mapM f = some ys →
      (∀ x ∈ xs, ∃ y ∈ ys, f x = some y) ∧ ∀ y ∈ ys, ∃ x ∈ xs, f x = some y
  | [], ys, h => by
    rw [List.mapM_nil] at h
    cases h
    simp
  | x :: xs, ys, h => by
    rw [List.mapM_cons] at h
    obtain ⟨y, hy, h⟩ := Option.bind_eq_some_iff.mp h
    obtain ⟨rest, hrest, h⟩ := Option.bind_eq_some_iff.mp h
    cases h
    obtain ⟨hxs, hys⟩ := mapM_eq_some hrest
    refine ⟨fun x' hx' => ?_, fun y' hy' => ?_⟩
    · rcases List.mem_cons.mp hx' with rfl | hx'
      · exact ⟨y, List.mem_cons_self, hy⟩
      · obtain ⟨y', hy', heq⟩ := hxs x' hx'
        exact ⟨y', List.mem_cons_of_mem _ hy', heq⟩
    · rcases List.mem_cons.mp hy' with rfl | hy'
      · exact ⟨x, List.mem_cons_self, hy⟩
      · obtain ⟨x', hx', heq⟩ := hys y' hy'
        exact ⟨x', List.mem_cons_of_mem _ hx', heq⟩

section rollup

variable (inMaintenance : Bool)

def RollupState.setMaintenance (acc : RollupState) : RollupState :=
  { acc with flags.inMaintenance := inMaintenance }

def ApiInstance.setMaintenance (item : ApiInstance) : ApiInstance :=
  { item with health.flags.inMaintenance := inMaintenance }

theorem RollupState.add_setMaintenance (now : ℤ) (acc : RollupState) (alert : HealthAlert) :
    (acc.setMaintenance inMaintenance).add now alert
      = (acc.add now alert).setMaintenance inMaintenance := by
  unfold add setMaintenance
  dsimp only
  split_ifs <;> rfl

theorem HealthRollupInput.loop_setMaintenance (input : HealthRollupInput) :
    HealthRollupInput.loop { input with inMaintenance := inMaintenance }
      = input.loop.setMaintenance inMaintenance := by
  unfold loop
  rw [← List.foldl_hom (RollupState.setMaintenance inMaintenance)
    (RollupState.add_setMaintenance inMaintenance input.now)]
  rfl

theorem rollupInstanceHealth_setMaintenance (input : HealthRollupInput) :
    rollupInstanceHealth { input with inMaintenance := inMaintenance }
      = { rollupInstanceHealth input with flags.inMaintenance := inMaintenance } := by
  unfold rollupInstanceHealth
  rw [input.loop_setMaintenance]
  rfl

theorem rollupInstanceHealth_inMaintenance (input : HealthRollupInput) :
    (rollupInstanceHealth input).flags.inMaintenance = input.inMaintenance :=
  congrArg (·.flags.inMaintenance)
    (rollupInstanceHealth_setMaintenance input.inMaintenance input)

theorem projectInstanceHealth_setMaintenance (input : InstanceHealthProjectionInput) :
    projectInstanceHealth { input with inMaintenance := inMaintenance }
      = (projectInstanceHealth input).map fun projection =>
        { projection with health.flags.inMaintenance := inMaintenance } := by
  unfold projectInstanceHealth
  rw [Option.map_map]
  refine congrArg (Option.map · _) (funext fun configurationMissing => ?_)
  dsimp only [Function.comp]
  rw [← rollupInstanceHealth_setMaintenance]

end rollup

namespace HealthTables

variable {tables : HealthTables} {now : ℤ}

theorem joined_id {id : InstanceId} {row : InstanceRow} {read : InstanceQueryRow}
    (h : tables.joined id row = some read) : read.id = id := by
  obtain ⟨config, -, rfl⟩ := Option.map_eq_some_iff.mp h
  rfl

theorem mem_listInstances {read : InstanceQueryRow} :
    read ∈ tables.listInstances ↔ tables.getInstance read.id = some read := by
  unfold listInstances getInstance
  rw [List.mem_insertionSort, List.mem_filterMap, Option.bind_eq_some_iff]
  constructor
  · rintro ⟨⟨id, row⟩, hrow, hjoined⟩
    rw [joined_id hjoined]
    exact ⟨row, AList.mem_lookup_iff.mpr hrow, hjoined⟩
  · rintro ⟨row, hrow, hjoined⟩
    exact ⟨⟨read.id, row⟩, AList.mem_lookup_iff.mp hrow, hjoined⟩

theorem getInstance_id {id : InstanceId} {read : InstanceQueryRow}
    (h : tables.getInstance id = some read) : read.id = id := by
  obtain ⟨row, -, hjoined⟩ := Option.bind_eq_some_iff.mp h
  exact joined_id hjoined

theorem listedInstance_id {read : InstanceQueryRow} {item : ApiInstance}
    (h : tables.listedInstance now read = some item) : item.id = read.id := by
  obtain ⟨projection, -, rfl⟩ := Option.map_eq_some_iff.mp h
  rfl

theorem listedInstance_inMaintenance {read : InstanceQueryRow} {item : ApiInstance}
    (h : tables.listedInstance now read = some item) :
    item.health.flags.inMaintenance = false := by
  obtain ⟨projection, hprojection, rfl⟩ := Option.map_eq_some_iff.mp h
  obtain ⟨configurationMissing, -, rfl⟩ := Option.map_eq_some_iff.mp hprojection
  exact rollupInstanceHealth_inMaintenance _

theorem getInstanceWithHealth_eq {id : InstanceId} {read : InstanceQueryRow}
    (h : tables.getInstance id = some read) :
    tables.getInstanceWithHealth now id = (tables.listedInstance now read).map
      (ApiInstance.setMaintenance (findActiveMaintenanceWindow tables.windows id now).isSome) := by
  have hid := getInstance_id h
  unfold getInstanceWithHealth listedInstance loadInstanceHealthProjection
  rw [h, Option.bind_some, Option.map_map, hid]
  refine (congrArg (Option.map _) (projectInstanceHealth_setMaintenance _
    { read.projectionInput now with alerts := tables.loadInstanceHealthAlerts now id })).trans ?_
  rw [Option.map_map]
  rfl

theorem exists_listed_iff {items : List ApiInstance}
    (h : tables.listInstancesWithHealth now = some items) (id : InstanceId) :
    (∃ item ∈ items, item.id = id)
      ↔ ∃ detail, tables.getInstanceWithHealth now id = some detail := by
  obtain ⟨hrows, hitems⟩ := mapM_eq_some h
  constructor
  · rintro ⟨item, hitem, rfl⟩
    obtain ⟨read, hread, hlisted⟩ := hitems item hitem
    rw [listedInstance_id hlisted]
    exact ⟨_, by rw [getInstanceWithHealth_eq (mem_listInstances.mp hread), hlisted]; rfl⟩
  · rintro ⟨detail, hdetail⟩
    obtain ⟨read, hread, -⟩ := Option.bind_eq_some_iff.mp hdetail
    have hid := getInstance_id hread
    obtain ⟨item, hitem, hlisted⟩ := hrows read (mem_listInstances.mpr (hid.symm ▸ hread))
    exact ⟨item, hitem, (listedInstance_id hlisted).trans hid⟩

theorem detail_eq {items : List ApiInstance}
    (h : tables.listInstancesWithHealth now = some items) {item detail : ApiInstance}
    (hitem : item ∈ items) (hdetail : tables.getInstanceWithHealth now item.id = some detail) :
    item.health.flags.inMaintenance = false
      ∧ detail = item.setMaintenance
        (findActiveMaintenanceWindow tables.windows item.id now).isSome := by
  obtain ⟨read, hread, hlisted⟩ := (mapM_eq_some h).2 item hitem
  rw [listedInstance_id hlisted, getInstanceWithHealth_eq (mem_listInstances.mp hread), hlisted]
    at hdetail
  refine ⟨listedInstance_inMaintenance hlisted, ?_⟩
  rw [listedInstance_id hlisted]
  exact (Option.some.inj hdetail).symm

end HealthTables

theorem instanceHasFlag_setMaintenance (item : ApiInstance) (inMaintenance : Bool)
    {flag : InstanceFlag} (hflag : flag ≠ .maintenance) :
    instanceHasFlag (item.setMaintenance inMaintenance) flag = instanceHasFlag item flag := by
  cases flag <;> first | exact absurd rfl hflag | rfl

theorem instanceMatches_flag (toLower : String → String) (item : ApiInstance)
    (flag : InstanceFlag) :
    instanceMatches toLower item { flags := [flag] } = instanceHasFlag item flag := by
  simp [instanceMatches]

namespace HealthTables

/-- The list and the view of one instance show it alike exactly if it is not in maintenance. -/
theorem listed_eq_detail_iff (tables : HealthTables) (now : ℤ) (toLower : String → String)
    (items : List ApiInstance) (h : tables.listInstancesWithHealth now = some items) :
    (∀ id, (∃ item ∈ items, item.id = id)
        ↔ ∃ detail, tables.getInstanceWithHealth now id = some detail)
      ∧ ∀ item ∈ items, ∀ detail, tables.getInstanceWithHealth now item.id = some detail →
        (item = detail ↔ findActiveMaintenanceWindow tables.windows item.id now = none)
        ∧ ∀ flag, instanceMatches toLower item { flags := [flag] } = instanceHasFlag detail flag
          ↔ (flag = .maintenance →
            findActiveMaintenanceWindow tables.windows item.id now = none) := by
  refine ⟨exists_listed_iff h, fun item hitem detail hdetail => ?_⟩
  obtain ⟨hnot, rfl⟩ := detail_eq h hitem hdetail
  have hsame : item.setMaintenance false = item := by
    rw [← hnot]
    rfl
  rcases hwindow : findActiveMaintenanceWindow tables.windows item.id now with _ | window
  · refine ⟨by simpa using hsame.symm, fun flag => ?_⟩
    rw [instanceMatches_flag, Option.isSome_none, hsame]
    simp
  · have hdiffer : (item.setMaintenance true).health.flags.inMaintenance = true := rfl
    refine ⟨?_, fun flag => ?_⟩
    · refine iff_of_false (fun heq => ?_) (by simp)
      rw [heq] at hnot
      exact nomatch hdiffer.symm.trans hnot
    · rw [instanceMatches_flag]
      by_cases hflag : flag = .maintenance
      · subst hflag
        simp [instanceHasFlag, hnot, ApiInstance.setMaintenance]
      · simp [instanceHasFlag_setMaintenance item _ hflag, hflag]

section Example

def orders (windows : List MaintenanceWindow) : HealthTables :=
  { instances := (∅ : AList fun _ : InstanceId => InstanceRow).insert "db"
      { name := "orders", engine := "POSTGRESQL", host := "10.0.0.1", port := 5432
        databaseName := some "postgres", username := "monitor", agentVersion := none
        agentExpected := false }
    configs := fun id =>
      if id = "db" then some { agentMetricsEnabled := false, collectionPaused := false } else none
    serverStates := fun id => if id = "db" then some { lastSuccessAt := some second } else none
    windows := windows }

theorem listed_eq_detail_orders :
    ∃ item, (orders []).listInstancesWithHealth (2 * second) = some [item]
      ∧ (orders []).getInstanceWithHealth (2 * second) item.id = some item := by
  obtain ⟨item, hlisted⟩ : ∃ item,
      (orders []).listInstancesWithHealth (2 * second) = some [item] := ⟨_, rfl⟩
  obtain ⟨hsame, hviews⟩ := listed_eq_detail_iff (orders []) (2 * second) id [item] hlisted
  have hitem : item ∈ [item] := List.mem_singleton_self item
  obtain ⟨detail, hdetail⟩ := (hsame item.id).mp ⟨item, hitem, rfl⟩
  have heq := (hviews item hitem detail hdetail).1.mpr rfl
  exact ⟨item, hlisted, heq ▸ hdetail⟩

def upgrade : MaintenanceWindow :=
  { id := "upgrade", instanceIds := ["db"], startsAt := 0, endsAt := 3600 * second }

/-- In a maintenance window the view of the instance shows it, the list and its filter do not. -/
theorem maintenance_not_listed :
    ((orders [upgrade]).listInstancesWithHealth (2 * second)).map
        (fun items => (items.map fun item => (item.id, item.health.flags.inMaintenance),
          (items.filter (instanceMatches id · { flags := [.maintenance] })).length))
      = some ([("db", false)], 0)
    ∧ ((orders [upgrade]).getInstanceWithHealth (2 * second) "db").map
        (·.health.flags.inMaintenance) = some true := by
  refine ⟨?_, ?_⟩
  · decide +kernel
  · decide +kernel

end Example

end HealthTables

end DbsMonitor
