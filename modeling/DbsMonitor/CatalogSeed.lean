import DbsMonitor.Catalog
import DbsMonitor.Constrained
import DbsMonitor.Keyed

/-!
# The reconciliation of the metric catalogue

`reconcileMetricCatalog` upserts the slots and the metrics of the release one by one, in one
transaction, and prunes what is no longer declared. The constraints of the tables are not
deferrable, so each statement has to meet them.
-/

namespace DbsMonitor

open Constrained Keyed

def validForCatalog (engine : Engine) : Bool :=
  engine = enginePostgreSQL || engine = engineAgnostic

structure CatalogRow.Checked (row : CatalogRow) : Prop where
  engine : validForCatalog row.engine = true
  weight : row.aggregation = .weightedAverage ↔ row.aggregationWeight.isSome = true
  level : row.aggregation = .none ↔ row.level = .instanceLevel

/-- The columns of `UNIQUE (semantic_slot, engine)` are the same; no two `NULL`s are. -/
def CatalogRow.SameBinding (row row' : CatalogRow) : Prop :=
  row.semanticSlot.isSome = true ∧ row.semanticSlot = row'.semanticSlot ∧ row.engine = row'.engine

instance (row : CatalogRow) : Decidable row.Checked :=
  decidable_of_iff (validForCatalog row.engine = true
      ∧ (row.aggregation = .weightedAverage ↔ row.aggregationWeight.isSome = true)
      ∧ (row.aggregation = .none ↔ row.level = .instanceLevel))
    ⟨fun h => ⟨h.1, h.2.1, h.2.2⟩, fun h => ⟨h.engine, h.weight, h.level⟩⟩

instance (row row' : CatalogRow) : Decidable (row.SameBinding row') :=
  inferInstanceAs (Decidable (_ ∧ _ ∧ _))

/-- The rows of the two tables and what refers to them: the metrics of `metric_series` and the slots
of `alert_rule_template`. -/
structure CatalogData where
  slots : List SemanticSlotDeclaration
  catalog : List CatalogRow
  series : List MetricId
  templates : List SemanticSlot
  deriving DecidableEq

namespace CatalogData

structure Constraints (data : CatalogData) : Prop where
  slot_key : (data.slots.map SemanticSlotDeclaration.id).Nodup
  metric_key : (data.catalog.map CatalogRow.metricId).Nodup
  checked : ∀ row ∈ data.catalog, row.Checked
  bound_once : ∀ row ∈ data.catalog, ∀ row' ∈ data.catalog, row.SameBinding row' → row = row'
  slot_declared : ∀ row ∈ data.catalog, ∀ slot ∈ row.semanticSlot,
    slot ∈ data.slots.map SemanticSlotDeclaration.id
  series_metric : ∀ id ∈ data.series, id ∈ data.catalog.map CatalogRow.metricId
  template_slot : ∀ slot ∈ data.templates, slot ∈ data.slots.map SemanticSlotDeclaration.id

instance : DecidablePred Constraints := fun data =>
  decidable_of_iff
    ((data.slots.map SemanticSlotDeclaration.id).Nodup
      ∧ (data.catalog.map CatalogRow.metricId).Nodup
      ∧ (∀ row ∈ data.catalog, row.Checked)
      ∧ (∀ row ∈ data.catalog, ∀ row' ∈ data.catalog, row.SameBinding row' → row = row')
      ∧ (∀ row ∈ data.catalog, ∀ slot ∈ row.semanticSlot,
          slot ∈ data.slots.map SemanticSlotDeclaration.id)
      ∧ (∀ id ∈ data.series, id ∈ data.catalog.map CatalogRow.metricId)
      ∧ ∀ slot ∈ data.templates, slot ∈ data.slots.map SemanticSlotDeclaration.id)
    ⟨fun ⟨h₁, h₂, h₃, h₄, h₅, h₆, h₇⟩ => ⟨h₁, h₂, h₃, h₄, h₅, h₆, h₇⟩,
      fun ⟨h₁, h₂, h₃, h₄, h₅, h₆, h₇⟩ => ⟨h₁, h₂, h₃, h₄, h₅, h₆, h₇⟩⟩

/-- `INSERT INTO metric_semantic_slot … ON CONFLICT (slot_id) DO UPDATE` -/
def seedSlot (slot : SemanticSlotDeclaration) (data : CatalogData) : CatalogData :=
  { data with slots := upsert SemanticSlotDeclaration.id slot data.slots }

def seedMetric (item : CatalogMetric) (data : CatalogData) : CatalogData :=
  { data with catalog := upsert CatalogRow.metricId item.row data.catalog }

def unusedMetrics (data : CatalogData) : List MetricId :=
  (data.catalog.map CatalogRow.metricId).filter fun id => id ∉ data.series

def deleteMetric (id : MetricId) (data : CatalogData) : CatalogData :=
  { data with catalog := data.catalog.filter fun row => row.metricId ≠ id }

def unusedSlots (data : CatalogData) : List SemanticSlot :=
  (data.slots.map SemanticSlotDeclaration.id).filter fun slot =>
    some slot ∉ data.catalog.map CatalogRow.semanticSlot

def deleteSlot (slot : SemanticSlot) (data : CatalogData) : CatalogData :=
  { data with slots := data.slots.filter fun declaration => declaration.id ≠ slot }

end CatalogData

abbrev CatalogTables := Subtype CatalogData.Constraints

inductive CatalogSeedError
  | seedSlot (slot : SemanticSlot)
  | seedMetric (id : MetricId)
  | pruneMetricCatalog
  | pruneSemanticSlots
  deriving DecidableEq, Repr

/-- The text that the error of the statement is wrapped in. `quote` is the verb `%q`. -/
def CatalogSeedError.message (quote : String → String) : CatalogSeedError → String
  | .seedSlot slot => "seed semantic slot " ++ quote slot
  | .seedMetric id => "seed metric catalog entry " ++ quote id
  | .pruneMetricCatalog => "prune metric catalog"
  | .pruneSemanticSlots => "prune semantic slots"

def pruneStaleRows (error : CatalogSeedError) (declared : List String)
    (select : CatalogData → List String) (delete : String → CatalogData → CatalogData)
    (tables : CatalogTables) : Except CatalogSeedError CatalogTables :=
  let stale := (select tables.val).filter fun id => id ∉ declared
  execEach delete (fun _ => error) stale tables

def reconcileMetricCatalog (dictionary : Dictionary) (tables : CatalogTables) :
    Except CatalogSeedError CatalogTables := do
  let tables ← execEach CatalogData.seedSlot (fun slot => .seedSlot slot.id) dictionary.slots tables
  let tables ← execEach CatalogData.seedMetric (fun item => .seedMetric item.id)
    dictionary.metrics tables
  let tables ← pruneStaleRows .pruneMetricCatalog (dictionary.metrics.map CatalogMetric.id)
    CatalogData.unusedMetrics CatalogData.deleteMetric tables
  pruneStaleRows .pruneSemanticSlots (dictionary.slots.map SemanticSlotDeclaration.id)
    CatalogData.unusedSlots CatalogData.deleteSlot tables

end DbsMonitor
