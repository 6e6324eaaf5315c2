import DbsMonitor.CollectState

/-!
# The reports of the Agent

Samples whose report the Agent does not know to be accepted stay in a buffer and go along with the
next reports, for five minutes. The server refuses a report of an unsupported version, one whose
clock is too far from its own, and every report at the emergency watermark.
-/

namespace DbsMonitor

structure AgentMetric where
  metric : MetricId
  value : ℚ
  deriving DecidableEq

structure AgentSample where
  timestamp : ℤ
  metrics : List AgentMetric
  deriving DecidableEq

structure AgentReport where
  agentVersion : String
  timestamp : ℤ
  metrics : List AgentMetric
  backfill : Option (List AgentSample)
  deriving DecidableEq

inductive AgentResponse
  | ok (serverTime : ℤ) (serverVersion : String)
  | badRequest (message : String)
  deriving DecidableEq

structure CounterSnapshot where
  sampledAt : ℤ
  diskOps : ℕ
  diskBytes : ℕ
  networkBytes : ℕ
  deriving DecidableEq, Repr

structure RateSnapshot where
  diskCountersValid : Bool := false
  networkCountersValid : Bool := false
  diskIOPS : ℚ := 0
  diskBytesPerSecond : ℚ := 0
  networkBytesPerSecond : ℚ := 0

def calculateCounterRates (previous current : CounterSnapshot) : RateSnapshot :=
  let elapsed : ℚ := ((current.sampledAt - previous.sampledAt : ℤ) : ℚ) / second
  if elapsed ≤ 0 then {}
  else
    let diskCountersValid :=
      previous.diskOps ≤ current.diskOps && previous.diskBytes ≤ current.diskBytes
    let networkCountersValid := decide (previous.networkBytes ≤ current.networkBytes)
    { diskCountersValid := diskCountersValid
      networkCountersValid := networkCountersValid
      diskIOPS :=
        if diskCountersValid then ((current.diskOps - previous.diskOps : ℕ) : ℚ) / elapsed else 0
      diskBytesPerSecond :=
        if diskCountersValid then ((current.diskBytes - previous.diskBytes : ℕ) : ℚ) / elapsed
        else 0
      networkBytesPerSecond :=
        if networkCountersValid then
          ((current.networkBytes - previous.networkBytes : ℕ) : ℚ) / elapsed
        else 0 }

/-- What the host tells in a round. The counters are summed over its disks and network devices. -/
structure HostReading where
  cpuPercent : ℚ
  memoryUsedPercent : ℚ
  diskUsedPercent : ℚ
  diskFree : ℕ
  diskOps : ℕ
  diskBytes : ℕ
  networkBytes : ℕ

def HostReading.counters (reading : HostReading) (sampledAt : ℤ) : CounterSnapshot :=
  { sampledAt := sampledAt, diskOps := reading.diskOps, diskBytes := reading.diskBytes
    networkBytes := reading.networkBytes }

def rateMetrics (rates : RateSnapshot) : List AgentMetric :=
  (if rates.diskCountersValid then
    [{ metric := "host.disk.iops", value := rates.diskIOPS },
      { metric := "host.disk.throughput_bytes_per_sec", value := rates.diskBytesPerSecond }]
  else [])
    ++ if rates.networkCountersValid then
      [{ metric := "host.network.bytes_per_sec", value := rates.networkBytesPerSecond }]
    else []

def collectSample (previous : Option CounterSnapshot) (reading : HostReading) (sampledAt : ℤ) :
    AgentSample :=
  { timestamp := sampledAt
    metrics :=
      [{ metric := "host.cpu.usage_percent", value := reading.cpuPercent },
        { metric := "host.memory.usage_percent", value := reading.memoryUsedPercent },
        { metric := "host.disk.usage_percent", value := reading.diskUsedPercent },
        { metric := "host.disk.free_bytes", value := reading.diskFree }]
      ++ match previous with
        | none => []
        | some previous =>
          rateMetrics (calculateCounterRates previous (reading.counters sampledAt)) }

def maxBackfillAge : ℤ := 5 * minute

def startupClockSkewLimit : ℤ := 5 * second

/-- `reportBuffer.pending`: the samples that are not too old, which are also what is kept. -/
def pendingSamples (buffer : List AgentSample) (now : ℤ) : List AgentSample :=
  buffer.filter fun sample => !decide (sample.timestamp < now - maxBackfillAge)

def agentReport (version : String) (collected : AgentSample) (pending : List AgentSample) :
    AgentReport :=
  { agentVersion := version, timestamp := collected.timestamp, metrics := collected.metrics
    backfill := if 1 < pending.length then some pending.dropLast else none }

def clockSkewExceedsStartupLimit (agentTime serverTime : ℤ) : Bool :=
  agentTime - serverTime > startupClockSkewLimit || agentTime - serverTime < -startupClockSkewLimit

def acceptsResponse (now : ℤ) : AgentResponse → Bool
  | .ok serverTime _ => !clockSkewExceedsStartupLimit now serverTime
  | .badRequest _ => false

def agentBackfillWindow : ℤ := 5 * minute

def agentClockSkew : ℤ := 30 * second

def atoi (text : List Char) : Option ℤ :=
  let (sign, digits) : ℤ × List Char :=
    match text with
    | '-' :: digits => (-1, digits)
    | '+' :: digits => (1, digits)
    | digits => (1, digits)
  if digits = [] ∨ ¬ digits.all Char.isDigit then none
  else
    let value := sign * digits.foldl (fun n c => n * 10 + (c.toNat - '0'.toNat)) 0
    if -2 ^ 63 ≤ value ∧ value < 2 ^ 63 then some value else none

def majorVersion (version : String) : Option ℤ :=
  let version := match version.toList with
    | 'v' :: rest => rest
    | rest => rest
  (atoi (version.takeWhile (· ≠ '.'))).filter (0 ≤ ·)

def agentVersionSupported (agentVersion serverVersion : String) : Bool :=
  match majorVersion agentVersion, majorVersion serverVersion with
  | some agentMajor, some serverMajor => serverMajor - 1 ≤ agentMajor
  | _, _ => false

def agentReportHasClockSkew (report : AgentReport) (now : ℤ) : Bool :=
  let earliestCurrentSample := now - agentClockSkew
  let latestSample := now + agentClockSkew
  report.timestamp < earliestCurrentSample || latestSample < report.timestamp
    || (report.backfill.getD []).any fun sample => latestSample < sample.timestamp

structure AgentRejection where
  code : String
  message : String
  deriving DecidableEq

def agentReportRejection (report : AgentReport) (serverVersion : String) (now : ℤ)
    (rejectSampleWrites : Bool) : Option AgentRejection :=
  if !agentVersionSupported report.agentVersion serverVersion then
    some { code := "AGENT_VERSION_TOO_OLD", message := "版本过旧，需升级" }
  else if agentReportHasClockSkew report now then
    some { code := "CLOCK_SKEW", message := "时钟偏移" }
  else if rejectSampleWrites then
    some { code := "DISK_EMERGENCY_WATERMARK", message := "磁盘紧急水位，样本写入已拒绝" }
  else none

/-- The Agent's version in the instance row, and the `AGENT` row of `instance_collect_state`. -/
structure AgentState where
  agentVersion : Option String := none
  lastReportAt : Option ℤ := none
  lastErrorCode : Option String := none
  lastErrorMessage : Option String := none
  deriving DecidableEq

def AgentState.reported (state : AgentState) (version : String) (receivedAt : ℤ) : AgentState :=
  { state with
    agentVersion := version
    lastReportAt := timestamptz receivedAt
    lastErrorCode := none
    lastErrorMessage := none }

def AgentState.rejected (state : AgentState) (version : String) (rejection : AgentRejection) :
    AgentState :=
  { state with
    agentVersion := version
    lastErrorCode := rejection.code
    lastErrorMessage := rejection.message }

def AgentSample.rows (batch : AgentSample) : List Sample :=
  batch.metrics.map fun reported =>
    { metricId := reported.metric, databaseName := "", labelsKey := "\x7b\x7d"
      ts := timestamptz batch.timestamp, value := reported.value }

def AgentReport.samples (report : AgentReport) : List AgentSample :=
  { timestamp := report.timestamp, metrics := report.metrics } :: report.backfill.getD []

def AgentReport.rows (report : AgentReport) (receivedAt : ℤ) : List Sample :=
  (report.samples.filter fun batch =>
    !decide (batch.timestamp < receivedAt - agentBackfillWindow)).flatMap AgentSample.rows

/-- `storeAgentReport`, with the pause flag it reads; the Agent's row is written in any case. -/
def storeAgentReport (report : AgentReport) (receivedAt : ℤ) (paused : Bool) (state : AgentState)
    (samples : List Sample) : AgentState × List Sample :=
  (state.reported report.agentVersion receivedAt,
    if paused then samples else samples ++ report.rows receivedAt)

end DbsMonitor
