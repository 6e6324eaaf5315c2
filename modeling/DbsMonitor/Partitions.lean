import DbsMonitor.Calendar
import DbsMonitor.Machine
import DbsMonitor.Metric

/-!
# The partitions of the samples

The server creates the partitions of a range of time and of seven spans after it, and drops those
that are older than thirty spans. It computes with nanoseconds in 64 bits, and writes the bounds and
the name of a partition in seconds. What a partition is for is known from its name only.
-/

namespace DbsMonitor.Partitions

open Calendar

def unixNano (value : ℤ) : ℤ := int64 value

def defaultPartitionSpan : ℤ := 86400 * second

def partitionPrebuild : ℤ := 7

def partitionRetention : ℤ := 30

def partitionBoundary (value span : ℤ) : ℤ := (unixNano value).tdiv span * span

def dateLayout : List Verb := [.year, .month, .day]

def timeLayout : List Verb := [.year, .month, .day, .literal '_', .hour, .minute, .second]

def namePrefix : List Char := "metric_sample_".toList

def partitionName (start span : ℤ) : String :=
  let layout := if span = defaultPartitionSpan then dateLayout else timeLayout
  String.ofList (namePrefix ++ format layout (Time.ofSeconds (start / second)))

def partitionTime (name : String) : Option ℤ :=
  let text := name.toList
  let value := if namePrefix <+: text then text.drop namePrefix.length else text
  ((parse dateLayout value).or (parse timeLayout value)).map (· * second)

def boundText (bound : ℤ) : ℤ := bound / second * second

structure Partition where
  name : String
  lower : ℤ
  upper : ℤ
  samples : List ℤ := []
  deriving DecidableEq, Repr

inductive PartitionError
  | spanTooShort
  | emptyRange (name : String)
  | overlaps (name : String)
  deriving DecidableEq, Repr

/-- `CREATE TABLE IF NOT EXISTS … PARTITION OF metric_sample FOR VALUES FROM … TO …` -/
def create (partition : Partition) (table : List Partition) :
    Except PartitionError (List Partition) :=
  if partition.name ∈ table.map Partition.name then .ok table
  else if partition.upper ≤ partition.lower then .error (.emptyRange partition.name)
  else if ∃ other ∈ table, other.lower < partition.upper ∧ partition.lower < other.upper then
    .error (.overlaps partition.name)
  else .ok (table ++ [partition])

def createEach : List Partition → List Partition → List Partition × Option PartitionError
  | [], table => (table, none)
  | partition :: partitions, table =>
    match create partition table with
    | .error error => (table, some error)
    | .ok table => createEach partitions table

def boundaries (start stop span : ℤ) : List ℤ :=
  (List.range ((stop - start) / span + 1).toNat).map fun k : ℕ => start + k * span

def ensured (span from_ through : ℤ) : List Partition :=
  let start := partitionBoundary from_ span
  let stop := partitionBoundary through span + int64 (partitionPrebuild * span)
  (boundaries start stop span).map fun boundary =>
    { name := partitionName boundary span, lower := boundText boundary
      upper := boundText (boundary + span) }

def ensurePartitionRange (span from_ through : ℤ) (table : List Partition) :
    List Partition × Option PartitionError :=
  if span < second then (table, some .spanTooShort)
  else createEach (ensured span from_ through) table

def dropExpiredPartitionsWithSpan (span now : ℤ) (table : List Partition) :
    List Partition × Option PartitionError :=
  if span < second then (table, some .spanTooShort)
  else
    let cutoff := partitionBoundary now span + int64 (-partitionRetention * span)
    (table.filter fun partition =>
      match partitionTime partition.name with
      | none => true
      | some date => !(date < cutoff), none)

inductive Action
  | ensure (from_ through : ℤ)
  | drop (now : ℤ)
  | insert (at_ : ℤ)
  deriving DecidableEq, Repr

def Partition.insert (partition : Partition) (at_ : ℤ) : Partition :=
  if partition.lower ≤ at_ ∧ at_ < partition.upper then
    { partition with samples := at_ :: partition.samples }
  else partition

def step (span : ℤ) (table : List Partition) : Action → Option (List Partition)
  | .ensure from_ through => some (ensurePartitionRange span from_ through table).1
  | .drop now => some (dropExpiredPartitionsWithSpan span now table).1
  | .insert at_ =>
    if ∃ partition ∈ table, partition.lower ≤ at_ ∧ at_ < partition.upper then
      some (table.map (·.insert at_))
    else none

end DbsMonitor.Partitions
