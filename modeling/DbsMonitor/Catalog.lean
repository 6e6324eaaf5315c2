import DbsMonitor.Metric

/-!
# The metric catalogue and its semantic slots

A rule on a metric is evaluated, on an instance of another engine, on the metric that fills the same
slot there. The resolution is written twice: in Go over the dictionary, and in SQL over the rows of
`metric_catalog`. Go writes the empty string where the table has `NULL`.
-/

namespace DbsMonitor

/-- `dbengine.Engine`, a type of strings: a product is added by adding a constant. -/
abbrev Engine := String
abbrev SemanticSlot := String

def enginePostgreSQL : Engine := "POSTGRESQL"
def engineAgnostic : Engine := "AGNOSTIC"

inductive MetricLevel
  | instanceLevel
  | databaseLevel
  deriving DecidableEq, Repr

inductive MetricAggregation
  | none
  | sum
  | weightedAverage
  deriving DecidableEq, Repr

structure CatalogMetric where
  id : MetricId
  displayName : String
  engine : Engine
  level : MetricLevel
  aggregation : MetricAggregation
  weight : MetricId := ""
  slot : SemanticSlot := ""
  unit : String
  aggregation_iff : aggregation = .none ↔ level = .instanceLevel
  weight_iff : aggregation = .weightedAverage ↔ weight ≠ ""
  deriving DecidableEq

structure SemanticSlotDeclaration where
  id : SemanticSlot
  displayName : String
  deriving DecidableEq, Repr

structure Dictionary where
  metrics : List CatalogMetric
  slots : List SemanticSlotDeclaration
  metrics_nodup : (metrics.map CatalogMetric.id).Nodup
  slots_nodup : (slots.map SemanticSlotDeclaration.id).Nodup
  bound_once : ∀ item ∈ metrics, ∀ item' ∈ metrics, item.slot ≠ "" → item.slot = item'.slot →
    item.engine = item'.engine → item = item'
  declared : ∀ item ∈ metrics, item.slot ≠ "" → item.slot ∈ slots.map SemanticSlotDeclaration.id

inductive ResolveError
  | unknownSemanticSlot (slot : SemanticSlot)
  | slotNotApplicable (slot : SemanticSlot) (engine : Engine)
  | metricNotInCatalog (id : MetricId)
  | metricEngineMismatch (id : MetricId) (owner engine : Engine)
  deriving DecidableEq, Repr

/-- The loop of `ResolveSlot`, with the engine-agnostic binding it has seen. -/
def resolveSlotLoop (slot : SemanticSlot) (engine : Engine) :
    List CatalogMetric → MetricId → Except ResolveError MetricId
  | [], agnostic => if agnostic ≠ "" then .ok agnostic else .error (.slotNotApplicable slot engine)
  | item :: items, agnostic =>
    if item.slot ≠ slot then resolveSlotLoop slot engine items agnostic
    else if item.engine = engine then .ok item.id
    else resolveSlotLoop slot engine items
      (if item.engine = engineAgnostic then item.id else agnostic)

namespace Dictionary

variable (dictionary : Dictionary)

def slotDeclared (slot : SemanticSlot) : Bool :=
  dictionary.slots.any fun declaration => declaration.id = slot

def lookup (id : MetricId) : Option CatalogMetric :=
  dictionary.metrics.find? fun item => item.id = id

def resolveSlot (slot : SemanticSlot) (engine : Engine) : Except ResolveError MetricId :=
  if !dictionary.slotDeclared slot then .error (.unknownSemanticSlot slot)
  else resolveSlotLoop slot engine dictionary.metrics ""

def resolveForEngine (id : MetricId) (engine : Engine) : Except ResolveError MetricId :=
  match dictionary.lookup id with
  | none => .error (.metricNotInCatalog id)
  | some item =>
    if item.engine = engineAgnostic then .ok item.id
    else if item.slot ≠ "" then dictionary.resolveSlot item.slot engine
    else if item.engine = engine then .ok item.id
    else .error (.metricEngineMismatch id item.engine engine)

def appliesToEngine (id : MetricId) (engine : Engine) : Bool :=
  (dictionary.resolveForEngine id engine).isOk

end Dictionary

structure FieldError where
  field : String
  message : String
  deriving DecidableEq, Repr

/-- Why an instance cannot be in the scope of a rule. `quote` is the verb `%q`. -/
def alertRuleScopeEngineError (dictionary : Dictionary) (quote : String → String)
    (metricId : MetricId) (instanceName : String) (engine : Engine) : Option FieldError :=
  if dictionary.appliesToEngine metricId engine then none
  else some
    { field := "instance_ids"
      message := "contains instance " ++ quote instanceName ++ ", which runs " ++ engine
        ++ ": metric " ++ quote metricId ++ " is not available on that engine" }

structure CatalogRow where
  metricId : MetricId
  engine : Engine
  unit : String
  displayName : String
  semanticSlot : Option SemanticSlot
  level : MetricLevel
  aggregation : MetricAggregation
  aggregationWeight : Option MetricId
  deriving DecidableEq, Repr

def CatalogMetric.row (item : CatalogMetric) : CatalogRow :=
  { metricId := item.id, engine := item.engine, unit := item.unit, displayName := item.displayName
    semanticSlot := if item.slot ≠ "" then some item.slot else none
    level := item.level, aggregation := item.aggregation
    aggregationWeight := if item.weight ≠ "" then some item.weight else none }

def Dictionary.rows (dictionary : Dictionary) : List CatalogRow :=
  dictionary.metrics.map CatalogMetric.row

def CatalogRow.boundBy (engine : Engine) (own bound : CatalogRow) : Bool :=
  own.semanticSlot.isSome && own.engine ≠ engineAgnostic && bound.semanticSlot = own.semanticSlot
    && bound.engine = engine

def leftJoinBound (catalog : List CatalogRow) (engine : Engine) (own : CatalogRow) :
    List (Option CatalogRow) :=
  match catalog.filter (own.boundBy engine) with
  | [] => [none]
  | bound => bound.map some

def resolvedMetrics (catalog : List CatalogRow) (metricId : MetricId) (engine : Engine) :
    List MetricId :=
  (catalog.filter fun own => own.metricId = metricId).flatMap fun own =>
    ((leftJoinBound catalog engine own).filter fun bound =>
      own.engine = engineAgnostic || own.engine = engine || bound.isSome).map fun bound =>
        (bound.map CatalogRow.metricId).getD own.metricId

/-- The condition of `ListEvaluationTargets` on the metric of a rule and the engine of an
instance. -/
def evaluatedOn (catalog : List CatalogRow) (metricId : MetricId) (engine : Engine) : Bool :=
  !(resolvedMetrics catalog metricId engine).isEmpty
    || !(catalog.any fun own => own.metricId = metricId)

end DbsMonitor
