import DbsMonitor.AlertingSettings

/-!
# The numbers of requests

Numbers come in as 64-bit integers. The interval of a collection task is checked as a duration, the
limit and the offset of a page as they are, and what the database is given of them has 32 bits.
-/

namespace DbsMonitor

def minimumTaskInterval : ℤ := 5 * second

def hasTask (id : TaskId) : Bool := tasks.any fun task => task.id = id

def validateTaskInterval (quote : String → String) (id : TaskId) (interval : ℤ) : Option String :=
  if !hasTask id then some ("unknown collection task " ++ quote id)
  else if interval < minimumTaskInterval then
    some ("collection task " ++ quote id ++ " interval must be at least 5s")
  else none

def durationOfSeconds (seconds : ℤ) : ℤ := int64 (seconds * second)

/-- `UpdateCollectionTaskInterval`: the refusal's message, or the seconds `SetTaskInterval` is
given. -/
def updateCollectionTaskInterval (quote : String → String) (id : TaskId) (intervalSeconds : ℤ) :
    Except String ℤ :=
  match validateTaskInterval quote id (durationOfSeconds intervalSeconds) with
  | some message => .error message
  | none => .ok (int32 intervalSeconds)

structure Pagination where
  limit : ℤ
  offset : ℤ
  deriving DecidableEq, Repr

def defaultAlertObservationLimit : ℤ := 50

def maxAlertObservationLimit : ℤ := 200

def parseAlertObservationPagination (requestedLimit requestedOffset : Option ℤ) :
    Pagination × Bool :=
  let limit := requestedLimit.getD defaultAlertObservationLimit
  let offset := requestedOffset.getD 0
  (⟨limit, offset⟩, 1 ≤ limit && limit ≤ maxAlertObservationLimit && 0 ≤ offset)

def Pagination.params (pagination : Pagination) : Pagination :=
  ⟨int32 pagination.limit, int32 pagination.offset⟩

/-- `ListAlertHistory`, and the list of the current alerts: the page that is queried. -/
def alertObservationPage (requestedLimit requestedOffset : Option ℤ) : Except String Pagination :=
  match parseAlertObservationPagination requestedLimit requestedOffset with
  | (_, false) => .error "invalid pagination"
  | (pagination, true) => .ok pagination.params

/-- `ListLongQuerySamples` and `ListPerformanceEvents`, with the orders each of them knows: they
check their page in the same way as the alerts. -/
def sortedPage (orders : List String) (defaultOrder : String)
    (requestedLimit requestedOffset : Option ℤ) (requestedSort : Option String) :
    Except String (Pagination × String) :=
  let limit := requestedLimit.getD 50
  let offset := requestedOffset.getD 0
  let sortOrder := requestedSort.getD defaultOrder
  if limit < 1 || 200 < limit || offset < 0 || sortOrder ∉ orders then
    .error "invalid pagination or sort"
  else .ok (Pagination.params ⟨limit, offset⟩, sortOrder)

def longQueryPage : Option ℤ → Option ℤ → Option String → Except String (Pagination × String) :=
  sortedPage ["sampled_at", "-sampled_at", "query_started_at", "-query_started_at"] "-sampled_at"

def performanceEventPage :
    Option ℤ → Option ℤ → Option String → Except String (Pagination × String) :=
  sortedPage ["derived_at", "-derived_at", "updated_at", "-updated_at"] "-derived_at"

end DbsMonitor
