import DbsMonitor.AlertRules
import DbsMonitor.InstanceViews

/-!
# The pages of the list of instances

The list is filtered, sorted and cut in the server and not in the database, since the health of an
instance is not a column. Instances that an order does not separate are ordered by their names and
then by their ids.
-/

namespace DbsMonitor

def defaultInstancePage : ℤ := 1

def defaultInstancePageSize : ℤ := 50

def maxInstancePageSize : ℤ := 500

inductive InstanceListSort
  | health
  | name
  | nameDescending
  | stalest
  | other (text : String)
  deriving DecidableEq, Repr

structure ListInstancesParams where
  page : Option ℤ := none
  pageSize : Option ℤ := none
  q : Option String := none
  engine : Option (List String) := none
  status : Option (List HealthStatus) := none
  flags : Option (List InstanceFlag) := none
  severity : Option (List Severity) := none
  sort : Option InstanceListSort := none

structure InstancePageQuery extends InstanceListQuery where
  page : ℤ
  pageSize : ℤ
  sort : InstanceListSort

structure InstanceListPage where
  items : List ApiInstance
  total : ℤ
  deriving DecidableEq

section

variable (toLower : String → String)

def newInstanceListQuery (params : ListInstancesParams) : InstancePageQuery where
  page := (params.page.filter (0 < ·)).getD defaultInstancePage
  pageSize := ((params.pageSize.filter (0 < ·)).map (min · maxInstancePageSize)).getD
    defaultInstancePageSize
  search := (params.q.map fun q => toLower (trimSpace q)).getD ""
  engines := params.engine.getD []
  statuses := params.status.getD []
  flags := params.flags.getD []
  severities := params.severity.getD []
  sort := (params.sort.filter (· ≠ .other "")).getD .health

def healthRank : HealthStatus → ℤ
  | .critical => 5
  | .warning => 4
  | .unknown => 3
  | .healthy => 2
  | .paused => 1

def instanceStaleness (item : ApiInstance) : ℤ := item.dataFreshnessSeconds.getD (2 ^ 63 - 1)

def instanceStableOrder (first second : ApiInstance) : Bool :=
  if first.name ≠ second.name then first.name < second.name else first.id < second.id

def instanceLess (order : InstanceListSort) (first second : ApiInstance) : Bool :=
  match order with
  | .name =>
    if first.name ≠ second.name then first.name < second.name
    else instanceStableOrder first second
  | .nameDescending =>
    if first.name ≠ second.name then second.name < first.name
    else instanceStableOrder first second
  | .stalest =>
    if instanceStaleness first ≠ instanceStaleness second then
      instanceStaleness second < instanceStaleness first
    else instanceStableOrder first second
  | .health | .other _ =>
    if healthRank first.health.status ≠ healthRank second.health.status then
      healthRank second.health.status < healthRank first.health.status
    else instanceStableOrder first second

/-- `sort.SliceStable`: of two instances that neither comes before the other the order is kept. -/
def sortInstances (instances : List ApiInstance) (order : InstanceListSort) : List ApiInstance :=
  instances.insertionSort fun first second => instanceLess order second first = false

def matchingInstances (instances : List ApiInstance) (query : InstanceListQuery) :
    List ApiInstance :=
  instances.filter (instanceMatches toLower · query)

/-- `none` is the panic of a slice with a negative bound. The end is added to a start below the
length of a slice, so only the product can leave the 64 bits. -/
def selectInstances (instances : List ApiInstance) (query : InstancePageQuery) :
    Option InstanceListPage :=
  let matched :=
    sortInstances (matchingInstances toLower instances query.toInstanceListQuery) query.sort
  let total : ℤ := matched.length
  let start := int64 ((query.page - 1) * query.pageSize)
  if total ≤ start then some ⟨[], total⟩
  else if start < 0 then none
  else
    let stop := min (start + query.pageSize) total
    some ⟨(matched.take stop.toNat).drop start.toNat, total⟩

end

/-- The handler `ListInstances`: the outer `none` is an error of the query, the inner one the panic
of `selectInstances`. -/
def HealthTables.listInstancesPage (tables : HealthTables) (toLower : String → String) (now : ℤ)
    (params : ListInstancesParams) : Option (Option InstanceListPage) :=
  (tables.listInstancesWithHealth now).map fun instances =>
    selectInstances toLower instances (newInstanceListQuery toLower params)

end DbsMonitor
