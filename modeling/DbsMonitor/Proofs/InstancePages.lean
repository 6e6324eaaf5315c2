import Mathlib.Data.String.Basic
import DbsMonitor.InstanceList
import DbsMonitor.Listing
import DbsMonitor.Proofs.HealthViews

/-!
# The pages of the list are its rows, as long as their number fits

The rows of a request have one listing, whatever order they are read in. The start of a page is a
product of 64-bit numbers, though: when it leaves the 64 bits, what is returned is some other page,
or the slice panics.
-/

namespace DbsMonitor

open Listing

/-- What an order compares before the names and the ids: a larger rank or staleness comes first,
and one order has the names the other way round. -/
def orderKey (order : InstanceListSort) (item : ApiInstance) : ℤ ×ₗ Stringᵒᵈ :=
  match order with
  | .name => toLex (0, OrderDual.toDual "")
  | .nameDescending => toLex (0, OrderDual.toDual item.name)
  | .stalest => toLex (-instanceStaleness item, OrderDual.toDual "")
  | .health | .other _ => toLex (-healthRank item.health.status, OrderDual.toDual "")

def sortKey (order : InstanceListSort) (item : ApiInstance) :
    (ℤ ×ₗ Stringᵒᵈ) ×ₗ String ×ₗ String :=
  toLex (orderKey order item, toLex (item.name, item.id))

theorem compare_then {κ : Type*} [LinearOrder κ] {a b : κ} {next : Bool} :
    (if a ≠ b then decide (a < b) else next) = true ↔ a < b ∨ a = b ∧ next = true := by
  by_cases h : a = b
  · simp [h]
  · simp [h]

theorem compare_then_desc {κ : Type*} [LinearOrder κ] {a b : κ} {next : Bool} :
    (if a ≠ b then decide (b < a) else next) = true ↔ b < a ∨ a = b ∧ next = true := by
  by_cases h : a = b
  · simp [h]
  · simp [h]

theorem instanceStableOrder_iff {first second : ApiInstance} :
    instanceStableOrder first second = true
      ↔ first.name < second.name ∨ first.name = second.name ∧ first.id < second.id := by
  rw [instanceStableOrder, compare_then, decide_eq_true_iff]

theorem instanceLess_then (order : InstanceListSort) (first second : ApiInstance) :
    instanceLess order first second = true ↔ orderKey order first < orderKey order second
      ∨ orderKey order first = orderKey order second ∧ instanceStableOrder first second = true := by
  cases order with
  | name =>
    -- the names are compared twice
    rw [instanceLess, compare_then, instanceStableOrder_iff]
    simp only [orderKey, lt_self_iff_false, false_or, true_and]
    tauto
  | nameDescending | stalest | health | other text =>
    rw [instanceLess, compare_then_desc]
    simp [orderKey, Prod.Lex.toLex_lt_toLex]

theorem instanceLess_iff (order : InstanceListSort) (first second : ApiInstance) :
    instanceLess order first second = true ↔ sortKey order first < sortKey order second := by
  rw [instanceLess_then, instanceStableOrder_iff, sortKey, sortKey, Prod.Lex.toLex_lt_toLex,
    Prod.Lex.toLex_lt_toLex]

theorem sortKey_id {order : InstanceListSort} {first second : ApiInstance}
    (h : sortKey order first = sortKey order second) : first.id = second.id := by
  simp only [sortKey, EmbeddingLike.apply_eq_iff_eq, Prod.mk.injEq] at h
  exact h.2.2

theorem instanceLess_asymm (order : InstanceListSort) (first second : ApiInstance)
    (h : instanceLess order first second = true) : ¬ instanceLess order second first = true := by
  rw [instanceLess_iff] at h ⊢
  exact lt_asymm h

theorem listed_sortInstances {rows : List ApiInstance} (hids : (rows.map ApiInstance.id).Nodup)
    (order : InstanceListSort) :
    Listed (fun first second => instanceLess order first second = true) rows
      (sortInstances rows order) := by
  refine listed_insertionSort (sortKey order) (instanceLess_iff order)
    (fun _ _ => (Bool.not_eq_true _).symm.to_iff) ?_
  refine List.Nodup.map_on (fun first hfirst second hsecond h => ?_) hids.of_map
  exact List.inj_on_of_nodup_map hids hfirst hsecond (sortKey_id h)

section

variable (toLower : String → String)

theorem page_pos (params : ListInstancesParams) :
    0 < (newInstanceListQuery toLower params).page := by
  unfold newInstanceListQuery
  cases hpage : params.page.filter (0 < ·) with
  | none => simp [defaultInstancePage]
  | some page =>
    have := (Option.filter_eq_some_iff.mp hpage).2
    simpa [hpage] using this

theorem pageSize_pos (params : ListInstancesParams) :
    0 < (newInstanceListQuery toLower params).pageSize := by
  unfold newInstanceListQuery
  cases hsize : params.pageSize.filter (0 < ·) with
  | none => simp [defaultInstancePageSize]
  | some pageSize =>
    have := (Option.filter_eq_some_iff.mp hsize).2
    simpa [hsize, maxInstancePageSize] using this

variable {instances instances' : List ApiInstance} {query : InstancePageQuery}
  {listed : List ApiInstance}

theorem listed_matchingInstances (hids : (instances.map ApiInstance.id).Nodup)
    (query : InstancePageQuery) :
    let rows := matchingInstances toLower instances query.toInstanceListQuery
    Listed (fun first second => instanceLess query.sort first second = true) rows
      (sortInstances rows query.sort) :=
  listed_sortInstances (hids.sublist (List.filter_sublist.map _)) query.sort

variable {toLower}

theorem selectInstances_of_listed (hids : (instances.map ApiInstance.id).Nodup)
    (h : Listed (fun first second => instanceLess query.sort first second = true)
      (matchingInstances toLower instances query.toInstanceListQuery) listed) :
    selectInstances toLower instances query =
      let start := int64 ((query.page - 1) * query.pageSize)
      if listed.length ≤ start then some ⟨[], listed.length⟩
      else if start < 0 then none
      else some ⟨(listed.drop start.toNat).take query.pageSize.toNat, listed.length⟩ := by
  have hlisted := listed_matchingInstances toLower hids query
  rw [h.unique (instanceLess_asymm _) hlisted, selectInstances]
  generalize sortInstances _ query.sort = listed
  generalize int64 ((query.page - 1) * query.pageSize) = start
  dsimp only
  split_ifs with hpast hneg
  · rfl
  · rfl
  · rw [List.drop_take, List.take_eq_take_iff.mpr]
    rw [List.length_drop]
    omega

theorem selectInstances_perm (hids : (instances.map ApiInstance.id).Nodup)
    (hperm : instances'.Perm instances) (query : InstancePageQuery) :
    selectInstances toLower instances' query = selectInstances toLower instances query := by
  have hlisted := listed_matchingInstances toLower hids query
  rw [selectInstances_of_listed hids hlisted,
    selectInstances_of_listed ((hperm.map _).nodup_iff.mpr hids)
      (hlisted.of_perm (hperm.symm.filter _))]

theorem selectInstances_eq_page_iff (hids : (instances.map ApiInstance.id).Nodup)
    (hpage : 0 < query.page) (hsize : 0 < query.pageSize)
    (h : Listed (fun first second => instanceLess query.sort first second = true)
      (matchingInstances toLower instances query.toInstanceListQuery) listed) :
    selectInstances toLower instances query
        = some ⟨page listed query.pageSize.toNat (query.page - 1).toNat, listed.length⟩
      ↔ (query.page - 1) * query.pageSize < 2 ^ 63
        ∨ listed.length ≤ int64 ((query.page - 1) * query.pageSize) := by
  rw [selectInstances_of_listed hids h]
  obtain ⟨k, hk⟩ := Int.eq_ofNat_of_zero_le (Int.sub_nonneg_of_le hpage)
  obtain ⟨size, hsize'⟩ := Int.eq_ofNat_of_zero_le hsize.le
  rw [Int.zero_add] at hk
  rw [hk, hsize', Int.toNat_natCast, Int.toNat_natCast, ← Int.natCast_mul]
  dsimp only
  by_cases hfits : ((k * size : ℕ) : ℤ) < 2 ^ 63
  · rw [int64_eq (by omega) hfits, Int.toNat_natCast]
    simp only [hfits, true_or, iff_true]
    split_ifs with hpast hneg
    · rw [page_eq_nil (by omega)]
    · omega
    · rfl
  · -- the page starts after its number wraps around
    have hstart := (int64_spec (k * size : ℕ)).2.1
    rw [or_iff_right hfits]
    constructor
    · intro heq
      by_contra hpast
      rw [if_neg hpast] at heq
      split_ifs at heq with hneg
      refine drop_take_ne_page (h.nodup (instanceLess_asymm _)) (by omega) ?_ ?_
        (congrArg InstanceListPage.items (Option.some.inj heq))
      · omega
      · omega
    · intro hpast
      rw [if_pos hpast, page_eq_nil (by omega)]

/-- A request gets its page exactly when the rows before it are fewer than `2 ^ 63`, or when what is
left of their number is not before the end. -/
theorem selectInstances_exact_iff (toLower : String → String) (instances : List ApiInstance)
    (hids : (instances.map ApiInstance.id).Nodup) (params : ListInstancesParams) :
    let query := newInstanceListQuery toLower params
    let rows := matchingInstances toLower instances query.toInstanceListQuery
    let size := query.pageSize.toNat
    ∃ listed : List ApiInstance,
      (∀ listed', Listed (fun first second => instanceLess query.sort first second = true) rows
        listed' ↔ listed' = listed)
      ∧ (∀ n, rows.length ≤ n * size → (List.range n).flatMap (page listed size) = listed)
      ∧ (∀ k, rows.length ≤ k * size → page listed size k = [])
      ∧ (∀ instances', instances'.Perm instances →
        selectInstances toLower instances' query = selectInstances toLower instances query)
      ∧ (selectInstances toLower instances query
          = some ⟨page listed size (query.page - 1).toNat, rows.length⟩
        ↔ (query.page - 1) * query.pageSize < 2 ^ 63
          ∨ rows.length ≤ int64 ((query.page - 1) * query.pageSize)) := by
  intro query rows size
  have hlisted := listed_matchingInstances toLower hids query
  refine ⟨_, fun listed' => ⟨fun h => h.unique (instanceLess_asymm _) hlisted, ?_⟩, ?_, ?_, ?_, ?_⟩
  · rintro rfl
    exact hlisted
  · exact fun n hn => flatMap_page_eq (hlisted.length.trans_le hn)
  · exact fun k hk => page_eq_nil (hlisted.length.trans_le hk)
  · exact fun instances' hperm => selectInstances_perm hids hperm query
  · have := selectInstances_eq_page_iff hids (page_pos toLower params)
      (pageSize_pos toLower params) hlisted
    rwa [hlisted.length] at this

def healthyInstance (id name : String) : ApiInstance :=
  { health := { status := .healthy, attribution := none, counts := {}, flags := {} }
    alertStatus := .ok, agentStatus := 2, lastCollectedAt := some 0
    dataFreshnessSeconds := some 0, id := id, name := name, engine := "postgresql"
    host := "10.0.0.1", port := 5432, database := "", username := "monitor", agentVersion := none
    agentMetricsEnabled := false, collectionPause := { paused := false } }

theorem selectInstances_exact_second_page :
    ∃ listed : List ApiInstance, (listed.map ApiInstance.id) = ["a", "b"]
      ∧ selectInstances id [healthyInstance "b" "orders", healthyInstance "a" "orders"]
          (newInstanceListQuery id { page := some 2, pageSize := some 1 })
        = some ⟨page listed 1 1, 2⟩ := by
  obtain ⟨listed, hlisted, -, -, -, hpage⟩ := selectInstances_exact_iff id
    [healthyInstance "b" "orders", healthyInstance "a" "orders"] (by decide)
    { page := some 2, pageSize := some 1 }
  refine ⟨listed, ?_, hpage.mpr (.inl (by decide))⟩
  rw [← (hlisted [healthyInstance "a" "orders", healthyInstance "b" "orders"]).mp
    ⟨List.Perm.swap .., by decide +kernel⟩]
  rfl

/-- With the largest page number, the rows before the page are `50 * (2 ^ 63 - 2)`, which wraps
around to `-100`: the slice panics. And page `2 ^ 58 + 1` of 64 rows each starts at `2 ^ 64` and is
the first page once more. -/
theorem selectInstances_wraps :
    selectInstances id [] (newInstanceListQuery id { page := some (2 ^ 63 - 1) }) = none
    ∧ selectInstances id [healthyInstance "a" "orders"]
        (newInstanceListQuery id { page := some (2 ^ 63 - 1) }) = none
    ∧ selectInstances id [healthyInstance "a" "orders"]
        (newInstanceListQuery id { page := some (2 ^ 58 + 1), pageSize := some 64 })
      = some ⟨[healthyInstance "a" "orders"], 1⟩ := by
  refine ⟨?_, ?_, ?_⟩
  · decide +kernel
  · decide +kernel
  · decide +kernel

end

namespace HealthTables

variable {tables : HealthTables} {now : ℤ}

theorem nodup_listInstances : (tables.listInstances.map InstanceQueryRow.id).Nodup := by
  refine ((List.perm_insertionSort _ _).map _).nodup_iff.mpr (List.pairwise_map.mpr ?_)
  refine List.Pairwise.filterMap _ (fun entry entry' hne read hread read' hread' => ?_)
    (List.pairwise_map.mp tables.instances.nodupKeys)
  rw [joined_id hread, joined_id hread']
  exact hne

theorem map_id_listed : ∀ {reads : List InstanceQueryRow} {items : List ApiInstance},
    reads.mapM (tables.listedInstance now) = some items →
      items.map ApiInstance.id = reads.map InstanceQueryRow.id
  | [], items, h => by
    rw [List.mapM_nil] at h
    cases h
    rfl
  | read :: reads, items, h => by
    rw [List.mapM_cons] at h
    obtain ⟨item, hitem, h⟩ := Option.bind_eq_some_iff.mp h
    obtain ⟨rest, hrest, h⟩ := Option.bind_eq_some_iff.mp h
    cases h
    rw [List.map_cons, List.map_cons, listedInstance_id hitem, map_id_listed hrest]

theorem nodup_listInstancesWithHealth {instances : List ApiInstance}
    (h : tables.listInstancesWithHealth now = some instances) :
    (instances.map ApiInstance.id).Nodup := by
  rw [map_id_listed h]
  exact nodup_listInstances

/-- In every state of the tables: when the handler returns the page that was asked for. -/
theorem listInstancesPage_eq_iff {toLower : String → String} {params : ListInstancesParams} :
    let query := newInstanceListQuery toLower params
    let listed := fun instances =>
      sortInstances (matchingInstances toLower instances query.toInstanceListQuery) query.sort
    tables.listInstancesPage toLower now params
        = (tables.listInstancesWithHealth now).map (fun instances =>
          some ⟨page (listed instances) query.pageSize.toNat (query.page - 1).toNat,
            (listed instances).length⟩)
      ↔ ∀ instances ∈ tables.listInstancesWithHealth now,
        (query.page - 1) * query.pageSize < 2 ^ 63
          ∨ (listed instances).length ≤ int64 ((query.page - 1) * query.pageSize) := by
  intro query listed
  unfold listInstancesPage
  cases hinstances : tables.listInstancesWithHealth now with
  | none => simp
  | some instances =>
    have hids := nodup_listInstancesWithHealth hinstances
    have hpage := selectInstances_eq_page_iff hids (page_pos toLower params)
      (pageSize_pos toLower params) (listed_matchingInstances toLower hids query)
    simpa using hpage

end HealthTables

end DbsMonitor
