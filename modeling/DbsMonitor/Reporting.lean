import DbsMonitor.AgentReport
import DbsMonitor.Machine

/-!
# The Agent and the server it reports to

When a report was accepted, and the clock of the server is near its own, the Agent empties its
buffer. A request is taken in by the server at most once, perhaps after the Agent has stopped
waiting for it.
-/

namespace DbsMonitor

abbrev RequestId := ℕ

/-- What the server answers to a request. The samples of a report that is accepted while collection
is paused are withheld from the tables. -/
structure Answer where
  response : AgentResponse
  withheld : Bool := false

def Answer.accepted (answer : Answer) : Bool :=
  match answer.response with
  | .ok _ _ => true
  | .badRequest _ => false

def Answer.stored (answer : Answer) : Bool := answer.accepted && !answer.withheld

structure Round where
  now : ℤ
  request : RequestId
  answer : Option Answer := none

/-- A sample that the Agent dropped because of an answer, with the server's time in it, whether the
report was withheld, and whether collection is paused by then. -/
structure Drop where
  sample : AgentSample
  serverTime : ℤ
  withheld : Bool
  paused : Bool

structure Reporting where
  previous : Option CounterSnapshot := none
  buffer : List AgentSample := []
  round : Option Round := none
  requests : AList fun _ : RequestId => AgentReport := ∅
  nextRequest : RequestId := 0
  paused : Bool := false
  agent : AgentState := {}
  samples : List Sample := []
  collected : List AgentSample := []
  drops : List Drop := []

namespace Reporting

section

variable (s : Reporting)

def collect (agentVersion : String) (reading : HostReading) (now : ℤ) : Reporting :=
  let collected := collectSample s.previous reading now
  let pending := pendingSamples (s.buffer ++ [collected]) now
  { s with
    previous := reading.counters now
    buffer := pending
    round := some { now := now, request := s.nextRequest }
    requests := s.requests.insert s.nextRequest (agentReport agentVersion collected pending)
    nextRequest := s.nextRequest + 1
    collected := s.collected ++ [collected] }

def reply (id : RequestId) (answer : Answer) : Option Round :=
  s.round.map fun round =>
    if round.request = id then { round with answer := some answer } else round

def receive (serverVersion : String) (id : RequestId) (report : AgentReport) (now : ℤ)
    (rejectSampleWrites : Bool) : Reporting :=
  let s := { s with requests := s.requests.erase id }
  match agentReportRejection report serverVersion now rejectSampleWrites with
  | some rejection =>
    { s with
      agent := s.agent.rejected report.agentVersion rejection
      round := s.reply id { response := .badRequest rejection.message } }
  | none =>
    let (agent, samples) := storeAgentReport report now s.paused s.agent s.samples
    { s with
      agent := agent
      samples := samples
      round := s.reply id { response := .ok now serverVersion, withheld := s.paused } }

def respond (round : Round) (answer : Answer) : Reporting :=
  match answer.response with
  | .badRequest _ => { s with round := none }
  | .ok serverTime _ =>
    if acceptsResponse round.now answer.response then
      { s with
        buffer := []
        round := none
        drops := s.drops ++ s.buffer.map fun sample =>
          { sample := sample, serverTime := serverTime, withheld := answer.withheld
            paused := s.paused } }
    else { s with round := none }

end

inductive Action
  | collect (reading : HostReading) (now : ℤ)
  | receive (id : RequestId) (now : ℤ) (rejectSampleWrites : Bool)
  | respond
  | fail
  | pause (paused : Bool)
  | restart

/-- A request that the server fails to store without an answer is one that is never taken in. -/
def step (agentVersion serverVersion : String) (s : Reporting) : Action → Option Reporting
  | .collect reading now =>
    match s.round with
    | none => some (s.collect agentVersion reading now)
    | some _ => none
  | .receive id now rejectSampleWrites =>
    (s.requests.lookup id).map fun report =>
      s.receive serverVersion id report now rejectSampleWrites
  | .respond =>
    s.round.bind fun round => round.answer.map fun answer => s.respond round answer
  | .fail => s.round.map fun _ => { s with round := none }
  | .pause paused => some { s with paused := paused }
  | .restart => some { s with previous := none, buffer := [], round := none }

end Reporting

end DbsMonitor
