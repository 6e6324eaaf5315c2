import DbsMonitor.Catalog
import DbsMonitor.Grouping

/-!
# The two resolutions of a metric on an engine

The scope of a rule is checked with `resolveForEngine`, and its evaluation resolves the metric in
SQL. Both take a metric of no engine as it is, and a metric with a slot to the one its engine binds.
They differ where the engine does not bind the slot and an engine-agnostic metric fills it: Go
answers with that metric, and the query has no such fallback.
-/

namespace DbsMonitor

section Loop

variable {slot : SemanticSlot} {engine : Engine}

theorem resolveSlotLoop_bound {bound : CatalogMetric} (hslot : bound.slot = slot)
    (hengine : bound.engine = engine) :
    ∀ {items : List CatalogMetric} (agnostic : MetricId), bound ∈ items →
      (∀ item ∈ items, item.slot = slot → item.engine = engine → item = bound) →
      resolveSlotLoop slot engine items agnostic = .ok bound.id := by
  intro items
  induction items with
  | nil => simp
  | cons item items ih =>
    intro agnostic hmem hunique
    have hrest : ∀ item ∈ items, item.slot = slot → item.engine = engine → item = bound :=
      fun item hitem => hunique item (List.mem_cons_of_mem _ hitem)
    unfold resolveSlotLoop
    split_ifs with hother hself
    · refine ih agnostic ((List.mem_cons.mp hmem).resolve_left ?_) hrest
      rintro rfl
      exact hother hslot
    · rw [hunique item List.mem_cons_self (not_not.mp hother) hself]
    · refine ih _ ((List.mem_cons.mp hmem).resolve_left ?_) hrest
      rintro rfl
      exact hself hengine
    · refine ih _ ((List.mem_cons.mp hmem).resolve_left ?_) hrest
      rintro rfl
      exact hself hengine

theorem isOk_resolveSlotLoop_nil {agnostic : MetricId} :
    (resolveSlotLoop slot engine [] agnostic).isOk = true ↔ agnostic ≠ "" := by
  unfold resolveSlotLoop
  split_ifs with h <;> simp [h, Except.isOk, Except.toBool]

theorem resolveSlotLoop_unbound :
    ∀ {items : List CatalogMetric} (agnostic : MetricId),
      (∀ item ∈ items, item.slot = slot → item.engine ≠ engine) →
      resolveSlotLoop slot engine items agnostic
        = resolveSlotLoop slot engine []
            ((items.filter fun item => item.slot = slot && item.engine = engineAgnostic).foldl
              (fun _ item => item.id) agnostic) := by
  intro items
  induction items with
  | nil => exact fun _ _ => rfl
  | cons item items ih =>
    intro agnostic hunbound
    have hrest : ∀ item ∈ items, item.slot = slot → item.engine ≠ engine :=
      fun item hitem => hunbound item (List.mem_cons_of_mem _ hitem)
    rw [resolveSlotLoop.eq_def]
    by_cases hslot : item.slot = slot
    · have hengine := hunbound item List.mem_cons_self hslot
      by_cases hagnostic : item.engine = engineAgnostic
      · have hother : engineAgnostic ≠ engine := hagnostic ▸ hengine
        simp [hslot, hother, hagnostic, ih _ hrest]
      · simp [hslot, hengine, hagnostic, ih _ hrest]
    · simp [hslot, ih _ hrest]

end Loop

namespace Dictionary

variable {dictionary : Dictionary} {item : CatalogMetric} {engine : Engine}

theorem eq_of_id (hitem : item ∈ dictionary.metrics) {item' : CatalogMetric}
    (hitem' : item' ∈ dictionary.metrics) (hid : item'.id = item.id) : item' = item :=
  List.inj_on_of_nodup_map dictionary.metrics_nodup hitem' hitem hid

theorem lookup_eq (hitem : item ∈ dictionary.metrics) : dictionary.lookup item.id = some item := by
  unfold lookup
  cases hfind : dictionary.metrics.find? fun item' => item'.id = item.id with
  | none => simpa using List.find?_eq_none.mp hfind item hitem
  | some item' =>
    rw [eq_of_id hitem (List.mem_of_find?_eq_some hfind) (by simpa using List.find?_some hfind)]

theorem resolveSlot_eq (hitem : item ∈ dictionary.metrics) (hslot : item.slot ≠ "") :
    dictionary.resolveSlot item.slot engine
      = resolveSlotLoop item.slot engine dictionary.metrics "" := by
  have hdeclared : dictionary.slotDeclared item.slot = true := by
    obtain ⟨declaration, hmem, hid⟩ := List.mem_map.mp (dictionary.declared item hitem hslot)
    exact List.any_eq_true.mpr ⟨declaration, hmem, decide_eq_true hid⟩
  simp [resolveSlot, hdeclared]

theorem filter_rows (p : CatalogRow → Bool) :
    dictionary.rows.filter p = (dictionary.metrics.filter (p ∘ CatalogMetric.row)).map
      CatalogMetric.row :=
  List.filter_map

theorem metrics_nodup' : dictionary.metrics.Nodup := dictionary.metrics_nodup.of_map

theorem resolvedMetrics_eq (hitem : item ∈ dictionary.metrics) :
    resolvedMetrics dictionary.rows item.id engine
      = ((leftJoinBound dictionary.rows engine item.row).filter fun bound =>
          item.engine = engineAgnostic || item.engine = engine || bound.isSome).map fun bound =>
            (bound.map CatalogRow.metricId).getD item.id := by
  have hown : dictionary.metrics.filter
      ((fun own : CatalogRow => decide (own.metricId = item.id)) ∘ CatalogMetric.row) = [item] := by
    refine Grouping.filter_eq_singleton metrics_nodup' hitem fun item' hitem' => ?_
    refine ⟨fun h => eq_of_id hitem hitem' (of_decide_eq_true h), ?_⟩
    rintro rfl
    exact decide_eq_true rfl
  rw [resolvedMetrics, filter_rows, hown]
  exact List.append_nil _

theorem boundBy_row {bound : CatalogMetric} (hagnostic : item.engine ≠ engineAgnostic)
    (hslot : item.slot ≠ "") :
    item.row.boundBy engine bound.row = true ↔ bound.slot = item.slot ∧ bound.engine = engine := by
  by_cases hbound : bound.slot = ""
  · simp [CatalogRow.boundBy, CatalogMetric.row, hagnostic, hslot, hbound, Ne.symm hslot]
  · simp [CatalogRow.boundBy, CatalogMetric.row, hagnostic, hslot, hbound]

theorem leftJoinBound_self (h : item.engine = engineAgnostic ∨ item.slot = "") :
    leftJoinBound dictionary.rows engine item.row = [none] := by
  have hnone : dictionary.rows.filter (item.row.boundBy engine) = [] := by
    refine List.filter_eq_nil_iff.mpr fun bound _ => ?_
    rcases h with h | h <;> simp [CatalogRow.boundBy, CatalogMetric.row, h]
  rw [leftJoinBound, hnone]

/-- The engine-agnostic metric that Go falls back to, where the engine does not bind the slot. -/
def FallsBack (dictionary : Dictionary) (item : CatalogMetric) (engine : Engine) : Prop :=
  item.engine ≠ engineAgnostic ∧ item.slot ≠ ""
    ∧ (∀ bound ∈ dictionary.metrics, bound.slot = item.slot → bound.engine ≠ engine)
    ∧ ∃ agnostic ∈ dictionary.metrics, agnostic.slot = item.slot
        ∧ agnostic.engine = engineAgnostic ∧ agnostic.id ≠ ""

theorem resolve_bound (hitem : item ∈ dictionary.metrics) (hagnostic : item.engine ≠ engineAgnostic)
    (hslot : item.slot ≠ "") {bound : CatalogMetric} (hbound : bound ∈ dictionary.metrics)
    (hboundSlot : bound.slot = item.slot) (hengine : bound.engine = engine) :
    resolvedMetrics dictionary.rows item.id engine = [bound.id]
      ∧ dictionary.resolveForEngine item.id engine = .ok bound.id := by
  have hunique : ∀ item' ∈ dictionary.metrics, item'.slot = item.slot → item'.engine = engine →
      item' = bound := fun item' hitem' hslot' hengine' =>
    dictionary.bound_once item' hitem' bound hbound (hslot' ▸ hslot) (hslot'.trans hboundSlot.symm)
      (hengine'.trans hengine.symm)
  have hjoin : dictionary.metrics.filter (item.row.boundBy engine ∘ CatalogMetric.row)
      = [bound] := by
    refine Grouping.filter_eq_singleton metrics_nodup' hbound fun item' hitem' => ?_
    rw [Function.comp_apply, boundBy_row hagnostic hslot]
    exact ⟨fun h => hunique item' hitem' h.1 h.2, fun h => h ▸ ⟨hboundSlot, hengine⟩⟩
  constructor
  · rw [resolvedMetrics_eq hitem, leftJoinBound, filter_rows, hjoin]
    simp [CatalogMetric.row]
  · simp only [resolveForEngine, lookup_eq hitem, if_neg hagnostic, if_pos hslot]
    rw [resolveSlot_eq hitem hslot, resolveSlotLoop_bound hboundSlot hengine "" hbound hunique]

theorem resolve_unbound (hitem : item ∈ dictionary.metrics)
    (hagnostic : item.engine ≠ engineAgnostic) (hslot : item.slot ≠ "")
    (hunbound : ∀ bound ∈ dictionary.metrics, bound.slot = item.slot → bound.engine ≠ engine) :
    resolvedMetrics dictionary.rows item.id engine = []
      ∧ ((dictionary.resolveForEngine item.id engine).isOk = true
          ↔ dictionary.FallsBack item engine) := by
  have hjoin : dictionary.metrics.filter (item.row.boundBy engine ∘ CatalogMetric.row) = [] := by
    refine List.filter_eq_nil_iff.mpr fun item' hitem' => ?_
    rw [Function.comp_apply, boundBy_row hagnostic hslot]
    exact fun h => hunbound item' hitem' h.1 h.2
  constructor
  · rw [resolvedMetrics_eq hitem, leftJoinBound, filter_rows, hjoin]
    simp [hagnostic, hunbound item hitem rfl]
  · simp only [resolveForEngine, lookup_eq hitem, if_neg hagnostic, if_pos hslot]
    rw [resolveSlot_eq hitem hslot, resolveSlotLoop_unbound "" hunbound]
    by_cases hfallback : ∃ agnostic ∈ dictionary.metrics, agnostic.slot = item.slot
        ∧ agnostic.engine = engineAgnostic
    · obtain ⟨agnostic, hmem, hslot', hengine'⟩ := hfallback
      have hfilter : (dictionary.metrics.filter fun item' =>
          item'.slot = item.slot && item'.engine = engineAgnostic) = [agnostic] := by
        refine Grouping.filter_eq_singleton metrics_nodup' hmem fun item' hitem' => ?_
        simp only [Bool.and_eq_true, decide_eq_true_eq]
        refine ⟨fun h => ?_, fun h => h ▸ ⟨hslot', hengine'⟩⟩
        exact dictionary.bound_once item' hitem' agnostic hmem (h.1 ▸ hslot)
          (h.1.trans hslot'.symm) (h.2.trans hengine'.symm)
      rw [hfilter, List.foldl_cons, List.foldl_nil, isOk_resolveSlotLoop_nil]
      refine ⟨fun hid => ⟨hagnostic, hslot, hunbound, agnostic, hmem, hslot', hengine', hid⟩, ?_⟩
      rintro ⟨-, -, -, other, hother, hotherSlot, hotherEngine, hid⟩
      have heq := dictionary.bound_once other hother agnostic hmem (hotherSlot ▸ hslot)
        (hotherSlot.trans hslot'.symm) (hotherEngine.trans hengine'.symm)
      exact heq ▸ hid
    · have hfilter : (dictionary.metrics.filter fun item' =>
          item'.slot = item.slot && item'.engine = engineAgnostic) = [] := by
        refine List.filter_eq_nil_iff.mpr fun item' hitem' h => hfallback ⟨item', hitem', ?_⟩
        simpa using h
      rw [hfilter, List.foldl_nil, isOk_resolveSlotLoop_nil]
      refine ⟨fun h => absurd rfl h, ?_⟩
      rintro ⟨-, -, -, agnostic, hmem, hslot', hengine', -⟩
      exact absurd ⟨agnostic, hmem, hslot', hengine'⟩ hfallback

theorem resolve_self (hitem : item ∈ dictionary.metrics)
    (hself : item.engine = engineAgnostic ∨ item.slot = "") :
    resolvedMetrics dictionary.rows item.id engine
      = (dictionary.resolveForEngine item.id engine).toOption.toList := by
  rw [resolvedMetrics_eq hitem, leftJoinBound_self hself]
  simp only [resolveForEngine, lookup_eq hitem]
  by_cases hagnostic : item.engine = engineAgnostic
  · simp [hagnostic, Except.toOption]
  · have hslot := hself.resolve_left hagnostic
    by_cases hengine : item.engine = engine
    · simp [hslot, hengine, Except.toOption]
    · simp [hagnostic, hslot, hengine, Except.toOption]

/-- The query yields what `resolveForEngine` answers, and an instance can be put in the scope of a
rule exactly when the rule is evaluated on it. -/
def ResolutionAgrees (dictionary : Dictionary) (item : CatalogMetric) (engine : Engine) : Prop :=
  resolvedMetrics dictionary.rows item.id engine
      = (dictionary.resolveForEngine item.id engine).toOption.toList
    ∧ ∀ quote instanceName,
        alertRuleScopeEngineError dictionary quote item.id instanceName engine = none
          ↔ evaluatedOn dictionary.rows item.id engine = true

theorem evaluatedOn_eq (hitem : item ∈ dictionary.metrics) :
    evaluatedOn dictionary.rows item.id engine
      = !(resolvedMetrics dictionary.rows item.id engine).isEmpty := by
  have hany : (dictionary.rows.any fun own => own.metricId = item.id) = true :=
    List.any_eq_true.mpr ⟨item.row, List.mem_map_of_mem hitem, decide_eq_true rfl⟩
  simp [evaluatedOn, hany]

theorem alertRuleScopeEngineError_eq_none {quote : String → String} {instanceName : String} :
    alertRuleScopeEngineError dictionary quote item.id instanceName engine = none
      ↔ (dictionary.resolveForEngine item.id engine).isOk = true := by
  unfold alertRuleScopeEngineError appliesToEngine
  split_ifs with happlies <;> simp [happlies]

theorem agrees_of_resolved (hitem : item ∈ dictionary.metrics)
    (h : resolvedMetrics dictionary.rows item.id engine
      = (dictionary.resolveForEngine item.id engine).toOption.toList) :
    dictionary.ResolutionAgrees item engine := by
  refine ⟨h, fun quote instanceName => ?_⟩
  rw [alertRuleScopeEngineError_eq_none, evaluatedOn_eq hitem, h]
  cases dictionary.resolveForEngine item.id engine <;> simp [Except.isOk, Except.toBool,
    Except.toOption]

/-- They agree exactly when Go does not fall back to an engine-agnostic metric. -/
theorem resolution_agrees_iff (hitem : item ∈ dictionary.metrics) :
    dictionary.ResolutionAgrees item engine ↔ ¬ dictionary.FallsBack item engine := by
  by_cases hself : item.engine = engineAgnostic ∨ item.slot = ""
  · refine iff_of_true (agrees_of_resolved hitem (resolve_self hitem hself)) ?_
    rintro ⟨hagnostic, hslot, -⟩
    exact hself.elim hagnostic hslot
  · obtain ⟨hagnostic, hslot⟩ := not_or.mp hself
    by_cases hbound : ∃ bound ∈ dictionary.metrics, bound.slot = item.slot ∧ bound.engine = engine
    · obtain ⟨bound, hmem, hboundSlot, hengine⟩ := hbound
      obtain ⟨hsql, hgo⟩ := resolve_bound hitem hagnostic hslot hmem hboundSlot hengine
      refine iff_of_true (agrees_of_resolved hitem (by rw [hsql, hgo]; rfl)) ?_
      rintro ⟨-, -, hunbound, -⟩
      exact hunbound bound hmem hboundSlot hengine
    · have hunbound : ∀ bound ∈ dictionary.metrics, bound.slot = item.slot →
          bound.engine ≠ engine :=
        fun bound hmem hboundSlot hengine => hbound ⟨bound, hmem, hboundSlot, hengine⟩
      obtain ⟨hsql, hgo⟩ := resolve_unbound hitem hagnostic hslot hunbound
      rw [← hgo]
      constructor
      · rintro ⟨hresolved, -⟩ hok
        rw [hsql] at hresolved
        cases hresolve : dictionary.resolveForEngine item.id engine with
        | error _ => simp [hresolve, Except.isOk, Except.toBool] at hok
        | ok metric => simp [hresolve, Except.toOption] at hresolved
      · intro hfails
        refine agrees_of_resolved hitem ?_
        rw [hsql]
        cases hresolve : dictionary.resolveForEngine item.id engine with
        | error _ => rfl
        | ok metric => simp [hresolve, Except.isOk, Except.toBool] at hfails

end Dictionary

theorem storageAggregation_iff :
    MetricAggregation.none = .none ↔ MetricLevel.instanceLevel = .instanceLevel := by decide

theorem storageWeight_iff : MetricAggregation.none = .weightedAverage ↔ "" ≠ "" := by decide

def pgStorageUsage : CatalogMetric :=
  { id := "pg.storage.usage_percent", displayName := "storage", engine := enginePostgreSQL
    level := .instanceLevel, aggregation := .none, slot := "storage_usage", unit := "percent"
    aggregation_iff := storageAggregation_iff, weight_iff := storageWeight_iff }

def hostDiskUsage : CatalogMetric :=
  { id := "host.disk.usage_percent", displayName := "disk", engine := engineAgnostic
    level := .instanceLevel, aggregation := .none, slot := "storage_usage", unit := "percent"
    aggregation_iff := storageAggregation_iff, weight_iff := storageWeight_iff }

def storageDictionary : Dictionary where
  metrics := [pgStorageUsage, hostDiskUsage]
  slots := [{ id := "storage_usage", displayName := "storage" }]
  metrics_nodup := by decide
  slots_nodup := by decide
  bound_once := by decide
  declared := by decide

/-- The rule is evaluated on PostgreSQL and not where the slot falls back to the host. -/
theorem storage_rule_agrees_on_postgresql :
    pgStorageUsage ∈ storageDictionary.metrics
      ∧ storageDictionary.ResolutionAgrees pgStorageUsage enginePostgreSQL
      ∧ ¬ storageDictionary.ResolutionAgrees pgStorageUsage "MYSQL" := by
  have hmem : pgStorageUsage ∈ storageDictionary.metrics := by decide
  refine ⟨hmem, (Dictionary.resolution_agrees_iff hmem).mpr ?_, fun hagrees => ?_⟩
  · rintro ⟨-, -, hunbound, -⟩
    exact hunbound pgStorageUsage hmem rfl rfl
  · refine (Dictionary.resolution_agrees_iff hmem).mp hagrees ⟨by decide, by decide, by decide, ?_⟩
    exact ⟨hostDiskUsage, by decide, rfl, rfl, by decide⟩

/-- Go answers with the metric of the host, and the query finds nothing to evaluate. -/
theorem storage_rule_not_evaluated :
    ¬ ∀ (dictionary : Dictionary), ∀ item ∈ dictionary.metrics, ∀ engine,
      dictionary.ResolutionAgrees item engine := by
  intro h
  have hresolved := (h storageDictionary pgStorageUsage (by decide) "MYSQL").1
  have hsql : resolvedMetrics storageDictionary.rows pgStorageUsage.id "MYSQL" = [] := by decide
  have hgo : storageDictionary.resolveForEngine pgStorageUsage.id "MYSQL"
      = .ok hostDiskUsage.id := by rfl
  rw [hsql, hgo] at hresolved
  cases hresolved

end DbsMonitor
