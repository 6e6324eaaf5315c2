import DbsMonitor.AgentReport
import DbsMonitor.Health

/-!
# The Agent as the control plane sees it

Every request of an Agent that passes the token check leaves its mark in the `AGENT` row of
`instance_collect_state`: a stored report sets the instant of the last report and clears the error,
a refused one sets only the error. The status of the Agent is projected from that row alone.
-/

namespace DbsMonitor

def agentStatusOffline : ℚ := 0

structure Contact where
  report : AgentReport
  serverVersion : String
  receivedAt : ℤ
  rejectSampleWrites : Bool

def Contact.refusal (contact : Contact) : Option AgentRejection :=
  agentReportRejection contact.report contact.serverVersion contact.receivedAt
    contact.rejectSampleWrites

namespace AgentState

def contact (state : AgentState) (contact : Contact) : AgentState :=
  match contact.refusal with
  | some rejection => state.rejected contact.report.agentVersion rejection
  | none => state.reported contact.report.agentVersion contact.receivedAt

def ofContacts (history : List Contact) : AgentState := history.foldl contact {}

def facts (state : AgentState) (expected : Bool) : AgentFacts :=
  { expected := expected
    lastReportAt := state.lastReportAt.filter (· ≠ zeroTime)
    lastErrorCode := state.lastErrorCode.filter (· ≠ "") }

end AgentState

end DbsMonitor
