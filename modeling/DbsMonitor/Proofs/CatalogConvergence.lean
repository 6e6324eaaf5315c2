import DbsMonitor.CatalogSeed

/-!
# When the catalogue reconciliation converges

An upsert of a metric passes unless another row still has its slot and engine: a row that no entry
before it has moved away, because it is pruned only afterwards, or not at all.
-/

namespace DbsMonitor

open Constrained Keyed

theorem CatalogMetric.semanticSlot_row {item : CatalogMetric} {slot : SemanticSlot} :
    item.row.semanticSlot = some slot ↔ item.slot ≠ "" ∧ item.slot = slot := by
  unfold CatalogMetric.row
  split_ifs with h <;> simp [h]

theorem CatalogMetric.checked_row {item : CatalogMetric} :
    item.row.Checked ↔ validForCatalog item.engine = true := by
  refine ⟨fun h => h.engine, fun h => ⟨h, item.weight_iff.trans ?_, item.aggregation_iff⟩⟩
  have hrow : item.row.aggregationWeight
      = if item.weight ≠ "" then some item.weight else none := rfl
  rw [hrow]
  split_ifs with hweight <;> simpa using hweight

theorem Dictionary.row_eq_of_sameBinding {dictionary : Dictionary} {item item' : CatalogMetric}
    (hitem : item ∈ dictionary.metrics) (hitem' : item' ∈ dictionary.metrics)
    (h : item.row.SameBinding item'.row) : item = item' := by
  obtain ⟨hsome, hslot, hengine⟩ := h
  obtain ⟨slot, hslot'⟩ := Option.isSome_iff_exists.mp hsome
  obtain ⟨hne, rfl⟩ := CatalogMetric.semanticSlot_row.mp hslot'
  obtain ⟨-, hsame⟩ := CatalogMetric.semanticSlot_row.mp (hslot.symm.trans hslot')
  exact dictionary.bound_once item hitem item' hitem' hne hsame.symm hengine

namespace CatalogData

variable {data : CatalogData}

theorem constraints_seedSlot (h : data.Constraints) (slot : SemanticSlotDeclaration) :
    (data.seedSlot slot).Constraints where
  slot_key := nodup_upsert h.slot_key
  metric_key := h.metric_key
  checked := h.checked
  bound_once := h.bound_once
  slot_declared := fun row hrow slot' hslot' =>
    mem_map_upsert.mpr (.inr (h.slot_declared row hrow slot' hslot'))
  series_metric := h.series_metric
  template_slot := fun slot' hslot' => mem_map_upsert.mpr (.inr (h.template_slot slot' hslot'))

theorem passes_seedSlot (h : data.Constraints) (slots : List SemanticSlotDeclaration) :
    Passes Constraints seedSlot slots data :=
  passes_of_invariant h fun slot _ _ h =>
    ⟨constraints_seedSlot h slot, constraints_seedSlot h slot⟩

theorem after_seedSlot (slots : List SemanticSlotDeclaration) (data : CatalogData) :
    after seedSlot slots data
      = { data with slots := upsertAll SemanticSlotDeclaration.id slots data.slots } := by
  induction slots generalizing data with
  | nil => rfl
  | cons slot slots ih => exact ih (data.seedSlot slot)

/-- Where an entry is upserted, the rows that have its slot and engine are its own or belong to
metrics whose entries come before it. -/
def BindingsFree (catalog : List CatalogRow) (items : List CatalogMetric) : Prop :=
  ∀ earlier item later, items = earlier ++ item :: later →
    ∀ row ∈ catalog, item.row.SameBinding row →
      row.metricId = item.id ∨ row.metricId ∈ earlier.map CatalogMetric.id

theorem constraints_seedMetric_iff (h : data.Constraints) {item : CatalogMetric}
    (hdeclared : item.slot ≠ "" → item.slot ∈ data.slots.map SemanticSlotDeclaration.id) :
    (data.seedMetric item).Constraints
      ↔ validForCatalog item.engine = true ∧
        ∀ row ∈ data.catalog, item.row.SameBinding row → row.metricId = item.id := by
  have hmem : ∀ {row}, row ∈ (data.seedMetric item).catalog
      ↔ row = item.row ∨ row ∈ data.catalog ∧ row.metricId ≠ item.id := mem_upsert h.metric_key
  constructor
  · intro h'
    refine ⟨CatalogMetric.checked_row.mp (h'.checked item.row (hmem.mpr (.inl rfl))), ?_⟩
    intro row hrow hsame
    by_contra hne
    have heq := h'.bound_once item.row (hmem.mpr (.inl rfl)) row (hmem.mpr (.inr ⟨hrow, hne⟩)) hsame
    exact hne (congrArg CatalogRow.metricId heq).symm
  · rintro ⟨hengine, hfree⟩
    refine ⟨h.slot_key, nodup_upsert h.metric_key, ?_, ?_, ?_, ?_, h.template_slot⟩
    · intro row hrow
      obtain rfl | ⟨hrow, -⟩ := hmem.mp hrow
      · exact CatalogMetric.checked_row.mpr hengine
      · exact h.checked row hrow
    · intro row hrow row' hrow' hsame
      obtain rfl | ⟨hrow, hne⟩ := hmem.mp hrow
      · obtain rfl | ⟨hrow', hne'⟩ := hmem.mp hrow'
        · rfl
        · exact absurd (hfree row' hrow' hsame) hne'
      · obtain rfl | ⟨hrow', -⟩ := hmem.mp hrow'
        · have hsame' : item.row.SameBinding row :=
            ⟨hsame.2.1 ▸ hsame.1, hsame.2.1.symm, hsame.2.2.symm⟩
          exact absurd (hfree row hrow hsame') hne
        · exact h.bound_once row hrow row' hrow' hsame
    · intro row hrow slot hslot
      obtain rfl | ⟨hrow, -⟩ := hmem.mp hrow
      · obtain ⟨hne, rfl⟩ := CatalogMetric.semanticSlot_row.mp hslot
        exact hdeclared hne
      · exact h.slot_declared row hrow slot hslot
    · exact fun id hid => mem_map_upsert.mpr (.inr (h.series_metric id hid))

theorem bindingsFree_cons {dictionary : Dictionary} {catalog : List CatalogRow}
    {item : CatalogMetric} {items : List CatalogMetric}
    (hkey : (catalog.map CatalogRow.metricId).Nodup)
    (hnodup : ((item :: items).map CatalogMetric.id).Nodup)
    (hsub : ∀ item' ∈ item :: items, item' ∈ dictionary.metrics) :
    BindingsFree catalog (item :: items)
      ↔ (∀ row ∈ catalog, item.row.SameBinding row → row.metricId = item.id) ∧
        BindingsFree (upsert CatalogRow.metricId item.row catalog) items := by
  constructor
  · intro hfree
    refine ⟨fun row hrow hsame => ?_, fun earlier item' later hitems row hrow hsame => ?_⟩
    · simpa using hfree [] item items rfl row hrow hsame
    · have hitem' : item' ∈ items := hitems ▸ by simp
      obtain rfl | ⟨hrow, hne⟩ := (mem_upsert hkey).mp hrow
      · -- no other entry has the slot and engine of the row just written
        have heq := Dictionary.row_eq_of_sameBinding (hsub item' (List.mem_cons_of_mem _ hitem'))
          (hsub item List.mem_cons_self) hsame
        exact absurd (List.mem_map_of_mem (heq ▸ hitem')) (List.nodup_cons.mp hnodup).1
      · have hrow := hfree (item :: earlier) item' later (by rw [hitems]; rfl) row hrow hsame
        rw [List.map_cons, List.mem_cons] at hrow
        exact hrow.imp_right fun h => h.resolve_left hne
  · rintro ⟨hfirst, hrest⟩ earlier item' later hitems row hrow hsame
    cases earlier with
    | nil =>
      obtain ⟨rfl, rfl⟩ := List.cons.inj hitems
      exact .inl (hfirst row hrow hsame)
    | cons first earlier =>
      obtain ⟨rfl, rfl⟩ := List.cons.inj hitems
      rw [List.map_cons, List.mem_cons]
      by_cases hid : row.metricId = item.id
      · exact .inr (.inl hid)
      · exact (hrest earlier item' later rfl row ((mem_upsert hkey).mpr (.inr ⟨hrow, hid⟩))
          hsame).imp_right .inr

theorem passes_seedMetric_iff {dictionary : Dictionary} {items : List CatalogMetric}
    (h : data.Constraints) (hnodup : (items.map CatalogMetric.id).Nodup)
    (hsub : ∀ item ∈ items, item ∈ dictionary.metrics)
    (hdeclared : ∀ item ∈ items, item.slot ≠ "" →
      item.slot ∈ data.slots.map SemanticSlotDeclaration.id) :
    Passes Constraints seedMetric items data
      ↔ (∀ item ∈ items, validForCatalog item.engine = true) ∧ BindingsFree data.catalog items := by
  induction items generalizing data with
  | nil => simp [Passes, BindingsFree]
  | cons item items ih =>
    have hfirst := constraints_seedMetric_iff h (hdeclared item List.mem_cons_self)
    have hrest : (data.seedMetric item).Constraints →
        (Passes Constraints seedMetric items (data.seedMetric item)
          ↔ (∀ item ∈ items, validForCatalog item.engine = true) ∧
            BindingsFree (data.seedMetric item).catalog items) := fun h' =>
      ih h' (List.nodup_cons.mp hnodup).2 (fun item' hitem' => hsub item' (.tail _ hitem'))
        fun item' hitem' => hdeclared item' (.tail _ hitem')
    rw [Passes, bindingsFree_cons h.metric_key hnodup hsub, List.forall_mem_cons]
    constructor
    · rintro ⟨h', hpasses⟩
      obtain ⟨hengine, hfree⟩ := hfirst.mp h'
      obtain ⟨hengines, hfrees⟩ := (hrest h').mp hpasses
      exact ⟨⟨hengine, hengines⟩, hfree, hfrees⟩
    · rintro ⟨⟨hengine, hengines⟩, hfree, hfrees⟩
      have h' := hfirst.mpr ⟨hengine, hfree⟩
      exact ⟨h', (hrest h').mpr ⟨hengines, hfrees⟩⟩

theorem after_seedMetric (items : List CatalogMetric) (data : CatalogData) :
    after seedMetric items data
      = { data with catalog :=
            upsertAll CatalogRow.metricId (items.map CatalogMetric.row) data.catalog } := by
  induction items generalizing data with
  | nil => rfl
  | cons item items ih => exact ih (data.seedMetric item)

theorem constraints_deleteMetric (h : data.Constraints) {id : MetricId} (hid : id ∉ data.series) :
    (data.deleteMetric id).Constraints where
  slot_key := h.slot_key
  metric_key := h.metric_key.sublist (List.filter_sublist.map _)
  checked := fun row hrow => h.checked row (List.mem_of_mem_filter hrow)
  bound_once := fun row hrow row' hrow' =>
    h.bound_once row (List.mem_of_mem_filter hrow) row' (List.mem_of_mem_filter hrow')
  slot_declared := fun row hrow => h.slot_declared row (List.mem_of_mem_filter hrow)
  series_metric := by
    intro id' hid'
    obtain ⟨row, hrow, rfl⟩ := List.mem_map.mp (h.series_metric id' hid')
    refine List.mem_map_of_mem (List.mem_filter.mpr ⟨hrow, ?_⟩)
    exact decide_eq_true fun heq => hid (heq ▸ hid')
  template_slot := h.template_slot

theorem passes_deleteMetric (h : data.Constraints) {ids : List MetricId}
    (hids : ∀ id ∈ ids, id ∉ data.series) : Passes Constraints deleteMetric ids data := by
  refine passes_of_invariant (I := fun data' => data'.Constraints ∧ data'.series = data.series)
    ⟨h, rfl⟩ fun id hid data' ⟨h', hseries⟩ => ?_
  have hnext := constraints_deleteMetric h' (hseries ▸ hids id hid)
  exact ⟨hnext, hnext, hseries⟩

theorem after_deleteMetric (ids : List MetricId) (data : CatalogData) :
    after deleteMetric ids data
      = { data with catalog := data.catalog.filter fun row => row.metricId ∉ ids } := by
  induction ids generalizing data with
  | nil => simp [after]
  | cons id ids ih =>
    refine (ih (data.deleteMetric id)).trans ?_
    rw [deleteMetric, filter_ne_filter_notMem]

theorem constraints_deleteSlot_iff (h : data.Constraints) {slot : SemanticSlot}
    (hslot : some slot ∉ data.catalog.map CatalogRow.semanticSlot) :
    (data.deleteSlot slot).Constraints ↔ slot ∉ data.templates := by
  have hkeep : ∀ {slot'}, slot' ∈ data.slots.map SemanticSlotDeclaration.id → slot' ≠ slot →
      slot' ∈ (data.deleteSlot slot).slots.map SemanticSlotDeclaration.id := by
    intro slot' hslot' hne
    obtain ⟨declaration, hdeclaration, rfl⟩ := List.mem_map.mp hslot'
    exact List.mem_map_of_mem (List.mem_filter.mpr ⟨hdeclaration, decide_eq_true hne⟩)
  constructor
  · intro h' htemplate
    obtain ⟨declaration, hdeclaration, heq⟩ := List.mem_map.mp (h'.template_slot slot htemplate)
    exact of_decide_eq_true (List.mem_filter.mp hdeclaration).2 heq
  · intro htemplate
    refine ⟨h.slot_key.sublist (List.filter_sublist.map _), h.metric_key, h.checked, h.bound_once,
      ?_, h.series_metric, ?_⟩
    · intro row hrow slot' hslot'
      refine hkeep (h.slot_declared row hrow slot' hslot') fun heq => hslot ?_
      exact List.mem_map.mpr ⟨row, hrow, heq ▸ hslot'⟩
    · exact fun slot' hslot' => hkeep (h.template_slot slot' hslot') fun heq =>
        htemplate (heq ▸ hslot')

theorem passes_deleteSlot_iff (h : data.Constraints) {slots : List SemanticSlot}
    (hslots : ∀ slot ∈ slots, some slot ∉ data.catalog.map CatalogRow.semanticSlot) :
    Passes Constraints deleteSlot slots data ↔ ∀ slot ∈ slots, slot ∉ data.templates := by
  induction slots generalizing data with
  | nil => simp [Passes]
  | cons slot slots ih =>
    have hfirst := constraints_deleteSlot_iff h (hslots slot List.mem_cons_self)
    have hrest := fun h' : (data.deleteSlot slot).Constraints =>
      ih h' fun slot' hslot' => hslots slot' (.tail _ hslot')
    rw [Passes, List.forall_mem_cons]
    constructor
    · rintro ⟨h', hpasses⟩
      exact ⟨hfirst.mp h', (hrest h').mp hpasses⟩
    · rintro ⟨htemplate, htemplates⟩
      have h' := hfirst.mpr htemplate
      exact ⟨h', (hrest h').mpr htemplates⟩

theorem after_deleteSlot (slots : List SemanticSlot) (data : CatalogData) :
    after deleteSlot slots data
      = { data with slots := data.slots.filter fun declaration => declaration.id ∉ slots } := by
  induction slots generalizing data with
  | nil => simp [after]
  | cons slot slots ih =>
    refine (ih (data.deleteSlot slot)).trans ?_
    rw [deleteSlot, filter_ne_filter_notMem]

section Reconciled

variable (dictionary : Dictionary) (data)

def seeded : CatalogData :=
  { data with
    slots := upsertAll SemanticSlotDeclaration.id dictionary.slots data.slots
    catalog := upsertAll CatalogRow.metricId dictionary.rows data.catalog }

/-- The metrics that are pruned are those that nothing declares and no series refers to. -/
def keepMetrics (declared : List MetricId) : CatalogData :=
  { data with catalog := data.catalog.filter fun row =>
      row.metricId ∈ declared ∨ row.metricId ∈ data.series }

local instance lawfulSlots : LawfulBEq (Option SemanticSlot) := inferInstance

def keepSlots (declared : List SemanticSlot) : CatalogData :=
  { data with slots := data.slots.filter fun declaration =>
      declaration.id ∈ declared ∨ some declaration.id ∈ data.catalog.map CatalogRow.semanticSlot }

def reconciled : CatalogData :=
  ((data.seeded dictionary).keepMetrics (dictionary.metrics.map CatalogMetric.id)).keepSlots
    (dictionary.slots.map SemanticSlotDeclaration.id)

theorem after_seed :
    after seedMetric dictionary.metrics (after seedSlot dictionary.slots data)
      = data.seeded dictionary := by
  rw [after_seedSlot, after_seedMetric]
  rfl

theorem after_pruneMetrics (declared : List MetricId) :
    after deleteMetric (data.unusedMetrics.filter fun id => id ∉ declared) data
      = data.keepMetrics declared := by
  rw [after_deleteMetric, keepMetrics]
  congr 1
  refine List.filter_congr fun row hrow => ?_
  have hid : row.metricId ∈ data.catalog.map CatalogRow.metricId := List.mem_map_of_mem hrow
  simp only [unusedMetrics, List.mem_filter, hid, true_and, decide_eq_true_eq, decide_eq_decide]
  tauto

theorem after_pruneSlots (declared : List SemanticSlot) :
    after deleteSlot (data.unusedSlots.filter fun slot => slot ∉ declared) data
      = data.keepSlots declared := by
  rw [after_deleteSlot, keepSlots]
  congr 1
  refine List.filter_congr fun declaration hdeclaration => ?_
  have hid : declaration.id ∈ data.slots.map SemanticSlotDeclaration.id :=
    List.mem_map_of_mem hdeclaration
  simp only [unusedSlots, List.mem_filter, hid, true_and, decide_eq_true_eq, decide_eq_decide]
  tauto

end Reconciled

structure Reconcilable (dictionary : Dictionary) (data : CatalogData) : Prop where
  engines : ∀ item ∈ dictionary.metrics, validForCatalog item.engine = true
  bindings : BindingsFree data.catalog dictionary.metrics
  /-- A slot that a template refers to is declared, or kept by a metric that has series. -/
  templates : ∀ slot ∈ data.templates, slot ∈ dictionary.slots.map SemanticSlotDeclaration.id ∨
    ∃ row ∈ data.catalog, row.semanticSlot = some slot ∧ row.metricId ∈ data.series ∧
      row.metricId ∉ dictionary.metrics.map CatalogMetric.id

variable {dictionary : Dictionary}

theorem map_metricId_rows :
    dictionary.rows.map CatalogRow.metricId = dictionary.metrics.map CatalogMetric.id := by
  rw [Dictionary.rows, List.map_map]
  rfl

theorem mem_catalog_reconciled (h : data.Constraints) {row : CatalogRow} :
    row ∈ (data.reconciled dictionary).catalog
      ↔ row ∈ dictionary.rows ∨ row ∈ data.catalog ∧ row.metricId ∈ data.series ∧
          row.metricId ∉ dictionary.metrics.map CatalogMetric.id := by
  have hnodup : (dictionary.rows.map CatalogRow.metricId).Nodup :=
    map_metricId_rows ▸ dictionary.metrics_nodup
  simp only [reconciled, keepSlots, keepMetrics, seeded, List.mem_filter,
    mem_upsertAll h.metric_key hnodup, map_metricId_rows]
  constructor
  · rintro ⟨hrow | ⟨hrow, hundeclared⟩, hkept⟩
    · exact .inl hrow
    · exact .inr ⟨hrow, (of_decide_eq_true hkept).resolve_left hundeclared, hundeclared⟩
  · rintro (hrow | ⟨hrow, hseries, hundeclared⟩)
    · refine ⟨.inl hrow, decide_eq_true (.inl ?_)⟩
      exact map_metricId_rows ▸ List.mem_map_of_mem hrow
    · exact ⟨.inr ⟨hrow, hundeclared⟩, decide_eq_true (.inr hseries)⟩

theorem semanticSlot_mem_rows {slot : SemanticSlot} {row : CatalogRow}
    (hrow : row ∈ dictionary.rows) (hslot : row.semanticSlot = some slot) :
    slot ∈ dictionary.slots.map SemanticSlotDeclaration.id := by
  obtain ⟨item, hitem, rfl⟩ := List.mem_map.mp hrow
  obtain ⟨hne, rfl⟩ := CatalogMetric.semanticSlot_row.mp hslot
  exact dictionary.declared item hitem hne

theorem mem_slots_seeded (h : data.Constraints) {declaration : SemanticSlotDeclaration} :
    declaration ∈ (data.seeded dictionary).slots
      ↔ declaration ∈ dictionary.slots ∨ declaration ∈ data.slots ∧
          declaration.id ∉ dictionary.slots.map SemanticSlotDeclaration.id :=
  mem_upsertAll h.slot_key dictionary.slots_nodup

theorem mem_slots_seeded_of_template (h : data.Constraints) {slot : SemanticSlot}
    (hslot : slot ∈ data.templates) :
    slot ∈ (data.seeded dictionary).slots.map SemanticSlotDeclaration.id := by
  by_cases hdeclared : slot ∈ dictionary.slots.map SemanticSlotDeclaration.id
  · obtain ⟨declaration, hdeclaration, rfl⟩ := List.mem_map.mp hdeclared
    exact List.mem_map_of_mem ((mem_slots_seeded h).mpr (.inl hdeclaration))
  · obtain ⟨declaration, hdeclaration, rfl⟩ := List.mem_map.mp (h.template_slot slot hslot)
    exact List.mem_map_of_mem ((mem_slots_seeded h).mpr (.inr ⟨hdeclaration, hdeclared⟩))

theorem templates_iff (h : data.Constraints) :
    (∀ slot ∈ ((data.seeded dictionary).keepMetrics
        (dictionary.metrics.map CatalogMetric.id)).unusedSlots.filter fun slot =>
          slot ∉ dictionary.slots.map SemanticSlotDeclaration.id, slot ∉ data.templates)
      ↔ ∀ slot ∈ data.templates, slot ∈ dictionary.slots.map SemanticSlotDeclaration.id ∨
          ∃ row ∈ data.catalog, row.semanticSlot = some slot ∧ row.metricId ∈ data.series ∧
            row.metricId ∉ dictionary.metrics.map CatalogMetric.id := by
  have hused : ∀ {slot}, slot ∉ dictionary.slots.map SemanticSlotDeclaration.id →
      (some slot ∈ ((data.seeded dictionary).keepMetrics
          (dictionary.metrics.map CatalogMetric.id)).catalog.map CatalogRow.semanticSlot
        ↔ ∃ row ∈ data.catalog, row.semanticSlot = some slot ∧ row.metricId ∈ data.series ∧
            row.metricId ∉ dictionary.metrics.map CatalogMetric.id) := by
    intro slot hundeclared
    rw [List.mem_map]
    constructor
    · rintro ⟨row, hrow, hslot⟩
      obtain hrow | ⟨hrow, hseries, hid⟩ := (mem_catalog_reconciled h).mp hrow
      · exact absurd (semanticSlot_mem_rows hrow hslot) hundeclared
      · exact ⟨row, hrow, hslot, hseries, hid⟩
    · rintro ⟨row, hrow, hslot, hseries, hid⟩
      exact ⟨row, (mem_catalog_reconciled h).mpr (.inr ⟨hrow, hseries, hid⟩), hslot⟩
  constructor
  · intro hstale slot htemplate
    by_contra hneither
    obtain ⟨hundeclared, hunused⟩ := not_or.mp hneither
    refine hstale slot (List.mem_filter.mpr ⟨List.mem_filter.mpr ⟨?_, ?_⟩, ?_⟩) htemplate
    · exact mem_slots_seeded_of_template h htemplate
    · exact decide_eq_true fun h' => hunused ((hused hundeclared).mp h')
    · exact decide_eq_true hundeclared
  · intro hkept slot hstale htemplate
    obtain ⟨hunused, hundeclared⟩ := List.mem_filter.mp hstale
    have hundeclared := of_decide_eq_true hundeclared
    exact of_decide_eq_true (List.mem_filter.mp hunused).2
      ((hused hundeclared).mpr ((hkept slot htemplate).resolve_left hundeclared))

theorem passes_pruneMetrics (h : data.Constraints) (declared : List MetricId) :
    Passes Constraints deleteMetric (data.unusedMetrics.filter fun id => id ∉ declared) data :=
  passes_deleteMetric h fun _ hid =>
    of_decide_eq_true (List.mem_filter.mp (List.mem_of_mem_filter hid)).2

theorem constraints_keepMetrics (h : data.Constraints) (declared : List MetricId) :
    (data.keepMetrics declared).Constraints := by
  rw [← after_pruneMetrics]
  exact (passes_pruneMetrics h declared).after h

theorem passes_pruneSlots_iff (h : data.Constraints) (declared : List SemanticSlot) :
    Passes Constraints deleteSlot (data.unusedSlots.filter fun slot => slot ∉ declared) data
      ↔ ∀ slot ∈ data.unusedSlots.filter fun slot => slot ∉ declared, slot ∉ data.templates :=
  passes_deleteSlot_iff h fun _ hslot =>
    of_decide_eq_true (List.mem_filter.mp (List.mem_of_mem_filter hslot)).2

end CatalogData

open CatalogData

section Reconcile

variable {dictionary : Dictionary} {tables tables' : CatalogTables}

theorem passes_seedMetrics_iff :
    Passes Constraints seedMetric dictionary.metrics
        (after seedSlot dictionary.slots tables.val)
      ↔ (∀ item ∈ dictionary.metrics, validForCatalog item.engine = true) ∧
        BindingsFree tables.val.catalog dictionary.metrics := by
  have h := (passes_seedSlot tables.2 dictionary.slots).after tables.2
  rw [passes_seedMetric_iff h dictionary.metrics_nodup fun _ h => h]
  · rw [after_seedSlot]
  · intro item hitem hne
    obtain ⟨declaration, hdeclaration, hid⟩ := List.mem_map.mp (dictionary.declared item hitem hne)
    rw [after_seedSlot, ← hid]
    exact List.mem_map_of_mem ((mem_slots_seeded tables.2).mpr (.inl hdeclaration))

theorem constraints_seeded (h : Passes Constraints seedMetric dictionary.metrics
    (after seedSlot dictionary.slots tables.val)) : (tables.val.seeded dictionary).Constraints := by
  rw [← after_seed]
  exact h.after ((passes_seedSlot tables.2 dictionary.slots).after tables.2)

theorem passes_pruneSlots (h : Reconcilable dictionary tables.val) :
    Passes Constraints deleteSlot (((tables.val.seeded dictionary).keepMetrics
        (dictionary.metrics.map CatalogMetric.id)).unusedSlots.filter fun slot =>
          slot ∉ dictionary.slots.map SemanticSlotDeclaration.id)
      ((tables.val.seeded dictionary).keepMetrics (dictionary.metrics.map CatalogMetric.id)) := by
  have hmetrics := passes_seedMetrics_iff.mpr ⟨h.engines, h.bindings⟩
  exact (passes_pruneSlots_iff (constraints_keepMetrics (constraints_seeded hmetrics) _) _).mpr
    ((templates_iff tables.2).mpr h.templates)

theorem constraints_reconciled (h : Reconcilable dictionary tables.val) :
    (tables.val.reconciled dictionary).Constraints := by
  have hmetrics := passes_seedMetrics_iff.mpr ⟨h.engines, h.bindings⟩
  rw [reconciled, ← after_pruneSlots]
  exact (passes_pruneSlots h).after (constraints_keepMetrics (constraints_seeded hmetrics) _)

theorem reconcileMetricCatalog_eq_ok :
    reconcileMetricCatalog dictionary tables = .ok tables'
      ↔ Reconcilable dictionary tables.val ∧ tables'.val = tables.val.reconciled dictionary := by
  unfold reconcileMetricCatalog pruneStaleRows
  simp only [bind_execEach_eq_ok, execEach_eq_ok, after_seed, after_pruneMetrics, after_pruneSlots]
  constructor
  · rintro ⟨-, hmetrics, -, hprune, heq⟩
    obtain ⟨hengines, hbindings⟩ := passes_seedMetrics_iff.mp hmetrics
    have hkept := constraints_keepMetrics (constraints_seeded hmetrics)
      (dictionary.metrics.map CatalogMetric.id)
    have htemplates := (passes_pruneSlots_iff hkept _).mp hprune
    exact ⟨⟨hengines, hbindings, (templates_iff tables.2).mp htemplates⟩, heq⟩
  · rintro ⟨h, heq⟩
    have hmetrics := passes_seedMetrics_iff.mpr ⟨h.engines, h.bindings⟩
    exact ⟨passes_seedSlot tables.2 dictionary.slots, hmetrics,
      passes_pruneMetrics (constraints_seeded hmetrics) _, passes_pruneSlots h, heq⟩

/-- The reconciliation leaves the declared rows, the undeclared metrics that a series refers to, and
nothing for a second one to change. -/
structure Converges (dictionary : Dictionary) (tables tables' : CatalogTables) : Prop where
  succeeds : reconcileMetricCatalog dictionary tables = .ok tables'
  metrics : ∀ item ∈ dictionary.metrics, item.row ∈ tables'.val.catalog
  slots : ∀ slot ∈ dictionary.slots, slot ∈ tables'.val.slots
  undeclared : ∀ row, row.metricId ∉ dictionary.metrics.map CatalogMetric.id →
    (row ∈ tables'.val.catalog ↔ row ∈ tables.val.catalog ∧ row.metricId ∈ tables.val.series)
  again : reconcileMetricCatalog dictionary tables' = .ok tables'

section Again

variable (heq : tables'.val = tables.val.reconciled dictionary)

include heq

theorem row_mem_reconciled {item : CatalogMetric} (hitem : item ∈ dictionary.metrics) :
    item.row ∈ tables'.val.catalog := by
  rw [heq, mem_catalog_reconciled tables.2]
  exact .inl (List.mem_map_of_mem hitem)

theorem mem_slots_reconciled {declaration : SemanticSlotDeclaration}
    (hdeclaration : declaration ∈ dictionary.slots) : declaration ∈ tables'.val.slots := by
  rw [heq]
  refine List.mem_filter.mpr ⟨(mem_slots_seeded tables.2).mpr (.inl hdeclaration), ?_⟩
  exact decide_eq_true (.inl (List.mem_map_of_mem hdeclaration))

theorem declared_or_series {row : CatalogRow} (hrow : row ∈ tables'.val.catalog) :
    row.metricId ∈ dictionary.metrics.map CatalogMetric.id ∨ row.metricId ∈ tables'.val.series := by
  rw [heq, mem_catalog_reconciled tables.2] at hrow
  obtain hrow | ⟨-, hseries, -⟩ := hrow
  · exact .inl (map_metricId_rows ▸ List.mem_map_of_mem hrow)
  · exact .inr (heq ▸ hseries)

theorem declared_or_used {declaration : SemanticSlotDeclaration}
    (hdeclaration : declaration ∈ tables'.val.slots) :
    declaration.id ∈ dictionary.slots.map SemanticSlotDeclaration.id ∨
      some declaration.id ∈ tables'.val.catalog.map CatalogRow.semanticSlot := by
  rw [heq] at hdeclaration
  rw [heq]
  exact of_decide_eq_true (List.mem_filter.mp hdeclaration).2

theorem reconcilable_again (h : Reconcilable dictionary tables.val) :
    Reconcilable dictionary tables'.val where
  engines := h.engines
  bindings := by
    intro earlier item later hmetrics row hrow hsame
    have hitem : item ∈ dictionary.metrics := hmetrics ▸ by simp
    have hrow' := tables'.2.bound_once item.row (row_mem_reconciled heq hitem) row hrow hsame
    exact .inl (congrArg CatalogRow.metricId hrow').symm
  templates := by
    intro slot htemplate
    obtain ⟨declaration, hdeclaration, rfl⟩ :=
      List.mem_map.mp (tables'.2.template_slot slot htemplate)
    refine or_iff_not_imp_left.mpr fun hundeclared => ?_
    obtain ⟨row, hrow, hslot⟩ :=
      List.mem_map.mp ((declared_or_used heq hdeclaration).resolve_left hundeclared)
    have hmetric : row.metricId ∉ dictionary.metrics.map CatalogMetric.id := by
      intro hmetric
      obtain ⟨item, hitem, hid⟩ := List.mem_map.mp hmetric
      have hrow' : item.row = row := List.inj_on_of_nodup_map tables'.2.metric_key
        (row_mem_reconciled heq hitem) hrow hid
      exact hundeclared (semanticSlot_mem_rows (List.mem_map.mpr ⟨item, hitem, hrow'⟩) hslot)
    exact ⟨row, hrow, hslot, (declared_or_series heq hrow).resolve_left hmetric, hmetric⟩

theorem reconciled_again : tables'.val.reconciled dictionary = tables'.val := by
  have hseeded : tables'.val.seeded dictionary = tables'.val := by
    unfold seeded
    rw [upsertAll_eq_self tables'.2.slot_key fun _ h => mem_slots_reconciled heq h,
      upsertAll_eq_self tables'.2.metric_key fun row hrow => ?_]
    obtain ⟨item, hitem, rfl⟩ := List.mem_map.mp hrow
    exact row_mem_reconciled heq hitem
  have hkept : tables'.val.keepMetrics (dictionary.metrics.map CatalogMetric.id)
      = tables'.val := by
    unfold keepMetrics
    rw [List.filter_eq_self.mpr fun row hrow => decide_eq_true (declared_or_series heq hrow)]
  unfold reconciled
  rw [hseeded, hkept, keepSlots,
    List.filter_eq_self.mpr fun declaration h => decide_eq_true (declared_or_used heq h)]

end Again

/-- The reconciliation converges exactly where no row is in the way of an entry, no template of a
slot. -/
theorem converges_iff_reconcilable (dictionary : Dictionary) (tables : CatalogTables) :
    (∃ tables', Converges dictionary tables tables') ↔ Reconcilable dictionary tables.val := by
  constructor
  · rintro ⟨tables', h⟩
    exact (reconcileMetricCatalog_eq_ok.mp h.succeeds).1
  · intro h
    let tables' : CatalogTables := ⟨tables.val.reconciled dictionary, constraints_reconciled h⟩
    have heq : tables'.val = tables.val.reconciled dictionary := rfl
    refine ⟨tables', reconcileMetricCatalog_eq_ok.mpr ⟨h, heq⟩, fun _ => row_mem_reconciled heq,
      fun _ => mem_slots_reconciled heq, ?_, ?_⟩
    · intro row hundeclared
      rw [heq, mem_catalog_reconciled tables.2]
      constructor
      · rintro (hrow | ⟨hrow, hseries, -⟩)
        · exact absurd (map_metricId_rows ▸ List.mem_map_of_mem hrow) hundeclared
        · exact ⟨hrow, hseries⟩
      · exact fun ⟨hrow, hseries⟩ => .inr ⟨hrow, hseries, hundeclared⟩
    · exact reconcileMetricCatalog_eq_ok.mpr
        ⟨reconcilable_again heq h, (reconciled_again heq).symm⟩

end Reconcile

def emptyCatalogTables : CatalogTables :=
  ⟨{ slots := [], catalog := [], series := [], templates := [] }, by decide⟩

def connectionsDictionary (id : MetricId) : Dictionary where
  metrics := [{ id := id, displayName := "总连接数", engine := enginePostgreSQL
                level := .instanceLevel, aggregation := .none, slot := "connections"
                unit := "count", aggregation_iff := by decide, weight_iff := by decide }]
  slots := [{ id := "connections", displayName := "连接数" }]
  metrics_nodup := by simp
  slots_nodup := by simp
  bound_once := by simp
  declared := by simp

/-- The row of the old name has the slot until the pruning, which the upsert of the new one
precedes. -/
theorem renamed_metric_blocks_reconciliation :
    ∃ tables, reconcileMetricCatalog (connectionsDictionary "pg.connection.total")
        emptyCatalogTables = .ok tables ∧
      reconcileMetricCatalog (connectionsDictionary "pg.connection.count") tables
        = .error (.seedMetric "pg.connection.count") ∧
      ¬∃ tables', Converges (connectionsDictionary "pg.connection.count") tables tables' := by
  have herror : reconcileMetricCatalog (connectionsDictionary "pg.connection.count")
      ⟨emptyCatalogTables.val.reconciled (connectionsDictionary "pg.connection.total"),
        by decide +kernel⟩ = .error (.seedMetric "pg.connection.count") := by
    decide +kernel
  refine ⟨_, by decide +kernel, herror, ?_⟩
  rintro ⟨tables', h⟩
  cases herror.symm.trans h.succeeds

end DbsMonitor
