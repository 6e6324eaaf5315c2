import DbsMonitor.Catalog
import DbsMonitor.Evaluator
import DbsMonitor.Grouping

/-!
# The points of a chart

The read side of a database-level metric: the points of each of its series in the range of the
chart, at raw granularity, and the one series of the instance that they are aggregated to. A value
is a rational, so the branches on values that are not finite are not taken.
-/

namespace DbsMonitor

open Grouping

structure DatabaseValue where
  databaseName : String
  value : ℚ
  weight : ℚ
  deriving DecidableEq

inductive AggregateError
  | notAggregatable
  | noWeight
  deriving DecidableEq, Repr

def weightedLoop (values : List DatabaseValue) : ℚ × ℚ :=
  values.foldl (fun (sums : ℚ × ℚ) value =>
    if value.weight < 0 then sums
    else (sums.1 + value.value * value.weight, sums.2 + value.weight)) (0, 0)

def aggregateToInstance (aggregation : MetricAggregation) (values : List DatabaseValue) :
    Except AggregateError ℚ :=
  if values = [] then .error .notAggregatable
  else
    match aggregation with
    | .sum => .ok (values.foldl (fun total value => total + value.value) 0)
    | .weightedAverage =>
      let (weighted, totalWeight) := weightedLoop values
      if totalWeight ≤ 0 then .error .noWeight else .ok (weighted / totalWeight)
    | .none => .error .notAggregatable

structure DatabasePoint where
  instant : ℤ
  value : ℚ
  weight : ℚ
  deriving DecidableEq

structure DatabaseSeries where
  databaseName : String
  points : List DatabasePoint
  deriving DecidableEq

def valuesAt (series : List DatabaseSeries) (instant : ℤ) : List DatabaseValue :=
  series.flatMap fun item =>
    (item.points.filter fun point => point.instant = instant).map fun point =>
      { databaseName := item.databaseName, value := point.value, weight := point.weight }

def instantsOf (series : List DatabaseSeries) : List ℤ :=
  (series.flatMap fun item => item.points.map DatabasePoint.instant).dedup

def aggregateDatabaseSeries (aggregation : MetricAggregation) (series : List DatabaseSeries) :
    List Point :=
  ((instantsOf series).filterMap fun instant =>
    (aggregateToInstance aggregation (valuesAt series instant)).toOption.map fun value =>
      { timestamp := instant, value := value }).insertionSort fun left right =>
        left.timestamp ≤ right.timestamp

/-- The columns of a row of `metric_series` that tell the series of a metric apart. -/
abbrev SeriesKey := String × String

structure FetchedSeries where
  databaseName : String
  points : List Point
  deriving DecidableEq

def Sample.seriesKey (sample : Sample) : SeriesKey := (sample.databaseName, sample.labelsKey)

def samplesOfMetric (samples : List Sample) (metricId : MetricId) : List Sample :=
  samples.filter fun sample => sample.metricId = metricId

def seriesForMetric (samples : List Sample) (metricId : MetricId) : List SeriesKey :=
  ((samplesOfMetric samples metricId).map Sample.seriesKey).dedup.insertionSort fun left right =>
    left.1 ≤ right.1

def pointsInRange (samples : List Sample) (metricId : MetricId) (series : SeriesKey)
    (start stop : ℤ) : List Point :=
  (((samplesOfMetric samples metricId).filter fun sample => sample.seriesKey = series
      && start ≤ sample.ts && sample.ts ≤ stop).map fun sample =>
    { timestamp := sample.ts, value := sample.value }).insertionSort fun left right =>
      left.timestamp ≤ right.timestamp

def readMetricSeries (samples : List Sample) (metricId : MetricId) (start stop : ℤ) :
    List FetchedSeries :=
  (seriesForMetric samples metricId).map fun series =>
    { databaseName := series.1
      points := pointsInRange samples metricId series (timestamptz start) (timestamptz stop) }

namespace Dictionary

variable (dictionary : Dictionary)

def levelFor (id : MetricId) : MetricLevel :=
  ((dictionary.lookup id).map CatalogMetric.level).getD .instanceLevel

def aggregationFor (id : MetricId) : MetricAggregation :=
  ((dictionary.lookup id).map CatalogMetric.aggregation).getD .none

def weightMetricFor (id : MetricId) : Option MetricId :=
  (dictionary.lookup id).bind fun item => if item.weight = "" then none else some item.weight

def weightsByDatabase (weightSeries : List FetchedSeries) :
    List (String × List (ℤ × ℚ)) :=
  weightSeries.map fun item =>
    (item.databaseName, item.points.map fun point => (point.timestamp, point.value))

def weightAt (weights : List (String × List (ℤ × ℚ))) (databaseName : String) (ts : ℤ) :
    Option ℚ :=
  (assigned weights databaseName).bind fun byTime => assigned byTime ts

/-- The points of a series with their weights; one that has no weight is left out. -/
def convertSeries (weight : String → ℤ → Option ℚ) (item : FetchedSeries) : DatabaseSeries :=
  { databaseName := item.databaseName
    points := item.points.filterMap fun point =>
      (weight item.databaseName point.timestamp).map fun weight =>
        { instant := point.timestamp, value := point.value, weight := weight } }

def aggregateSeriesToInstance (samples : List Sample) (metricId : MetricId) (start stop : ℤ)
    (series : List FetchedSeries) : List Point :=
  let aggregation := dictionary.aggregationFor metricId
  if aggregation = .weightedAverage then
    match dictionary.weightMetricFor metricId with
    | none => []
    | some weightMetric =>
      let weights := weightsByDatabase (readMetricSeries samples weightMetric start stop)
      aggregateDatabaseSeries aggregation (series.map (convertSeries (weightAt weights)))
  else aggregateDatabaseSeries aggregation (series.map (convertSeries fun _ _ => some 1))

def chartSeries (samples : List Sample) (metricId : MetricId) (start stop : ℤ) :
    List FetchedSeries :=
  let series := readMetricSeries samples metricId start stop
  if dictionary.levelFor metricId = .databaseLevel then
    [{ databaseName := ""
       points := dictionary.aggregateSeriesToInstance samples metricId start stop series }]
  else series

def ruleWindowPoints (samples : List Sample) (metricId : MetricId) (dimensionKey : String)
    (now window : ℤ) : List Point :=
  let windowStart := timestamptz (now - window)
  let windowEnd := timestamptz now
  match dictionary.weightMetricFor metricId with
  | some weightMetric =>
    weightedSamplesInRuleWindow samples metricId weightMetric dimensionKey windowStart windowEnd
  | none => samplesInRuleWindow samples metricId dimensionKey windowStart windowEnd

theorem ruleWindowPoints_eq {metricId : MetricId}
    (h : dictionary.weightMetricFor metricId = DbsMonitor.weightMetricFor metricId)
    (samples : List Sample) (dimensionKey : String) (now window : ℤ) :
    dictionary.ruleWindowPoints samples metricId dimensionKey now window
      = DbsMonitor.ruleWindowPoints samples metricId dimensionKey now window := by
  unfold ruleWindowPoints DbsMonitor.ruleWindowPoints
  generalize dictionary.weightMetricFor metricId = weightMetric at h
  subst h
  rfl

end Dictionary

end DbsMonitor
