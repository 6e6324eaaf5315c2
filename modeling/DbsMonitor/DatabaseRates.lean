import Mathlib.Data.List.Sort
import DbsMonitor.CollectState

/-!
# Rates of the database counters

The difference of two snapshots of `pg_stat_database` is turned into rates. When a counter has gone
back, all were reset together, and the round gives no sample. Counters and rates are exact
rationals, so the branches on values that are not finite are not taken.
-/

namespace DbsMonitor

inductive ResetReason
  | counter
  | invalidInterval
  deriving DecidableEq, Repr

def seconds (duration : ℤ) : ℚ := duration / 1000000000

def rate (previous current : ℚ) (elapsed : ℤ) : Except ResetReason ℚ :=
  if elapsed ≤ 0 then .error .invalidInterval
  else if current < previous then .error .counter
  else .ok ((current - previous) / seconds elapsed)

inductive StatDatabaseCounter
  | xactCommit
  | xactRollback
  | tuplesRead
  | tuplesWrite
  | tempFiles
  | tempBytes
  | blocksHit
  | blocksRead
  | deadlocks
  deriving DecidableEq, Repr

namespace StatDatabaseCounter

def all : List StatDatabaseCounter :=
  [xactCommit, xactRollback, tuplesRead, tuplesWrite, tempFiles, tempBytes, blocksHit, blocksRead,
    deadlocks]

/-- `statDatabaseCounterMetrics`; the block counters have no metric of their own. -/
def metric : StatDatabaseCounter → Option MetricId
  | xactCommit => some "pg.xact.commit_per_sec"
  | xactRollback => some "pg.xact.rollback_per_sec"
  | tuplesRead => some "pg.tuples.read_per_sec"
  | tuplesWrite => some "pg.tuples.write_per_sec"
  | tempFiles => some "pg.temp.files_per_sec"
  | tempBytes => some "pg.temp.bytes_per_sec"
  | blocksHit => none
  | blocksRead => none
  | deadlocks => some "pg.deadlock.count"

end StatDatabaseCounter

abbrev StatDatabaseCounters := StatDatabaseCounter → ℚ

structure StatDatabaseSnapshot where
  observedAt : ℤ
  databases : List (String × StatDatabaseCounters)
  names_nodup : (databases.map Prod.fst).Nodup

def StatDatabaseSnapshot.counters (snapshot : StatDatabaseSnapshot) (name : String) :
    Option StatDatabaseCounters :=
  snapshot.databases.lookup name

structure StatDatabaseRateState where
  previous : InstanceId → Option StatDatabaseSnapshot

def newStatDatabaseRateState : StatDatabaseRateState where
  previous _ := none

/-- The rates of one database; the first counter for which there is none ends the loop. -/
def ratesLoop (before now : StatDatabaseCounters) (elapsed : ℤ) :
    List StatDatabaseCounter → StatDatabaseCounters → Except ResetReason StatDatabaseCounters
  | [], rates => .ok rates
  | index :: indices, rates =>
    match rate (before index) (now index) elapsed with
    | .error reason => .error reason
    | .ok value => ratesLoop before now elapsed indices (Function.update rates index value)

def databaseSamples (name : String) (rates : StatDatabaseCounters) : List CollectedSample :=
  let access := rates .blocksHit + rates .blocksRead
  [{ metricId := "pg.tps", databaseName := name
     value := rates .xactCommit + rates .xactRollback }]
  ++ (StatDatabaseCounter.all.filterMap fun index => index.metric.map fun metricId =>
      { metricId := metricId, databaseName := name, value := rates index })
  ++ [{ metricId := "pg.cache.block_access_per_sec", databaseName := name, value := access }]
  -- without access there is no ratio
  ++ if 0 < access then
      [{ metricId := "pg.cache.hit_ratio", databaseName := name
         value := rates .blocksHit * 100 / access }]
    else []

def samplesLoop (previous current : StatDatabaseSnapshot) (elapsed : ℤ) :
    List String → List CollectedSample → CollectedBatch
  | [], samples => { samples := samples }
  | name :: names, samples =>
    let before := (previous.counters name).getD fun _ => 0
    let now := (current.counters name).getD fun _ => 0
    match ratesLoop before now elapsed StatDatabaseCounter.all fun _ => 0 with
    | .error reason => { counterReset := reason = .counter }
    | .ok rates =>
      samplesLoop previous current elapsed names (samples ++ databaseSamples name rates)

def commonDatabases (previous current : StatDatabaseSnapshot) : List String :=
  ((current.databases.map Prod.fst).filter fun name =>
    (previous.counters name).isSome).insertionSort (· ≤ ·)

namespace StatDatabaseRateState

variable (state : StatDatabaseRateState)

def observe (instanceId : InstanceId) (current : StatDatabaseSnapshot) :
    StatDatabaseRateState × CollectedBatch :=
  let kept : StatDatabaseRateState :=
    { previous := Function.update state.previous instanceId (some current) }
  match state.previous instanceId with
  | none => (kept, {})
  | some previous =>
    if current.observedAt ≤ previous.observedAt then (state, {})
    else
      let elapsed := current.observedAt - previous.observedAt
      (kept, samplesLoop previous current elapsed (commonDatabases previous current) [])

def after (history : List (InstanceId × StatDatabaseSnapshot)) : StatDatabaseRateState :=
  history.foldl (fun state entry => (state.observe entry.1 entry.2).1) state

end StatDatabaseRateState

end DbsMonitor
