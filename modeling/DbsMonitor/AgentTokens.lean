import Mathlib.Data.List.AList
import DbsMonitor.Metric

/-!
# The tokens of Agents

Each request is one `UPDATE`. It takes its snapshot, and when it gets the lock on the row it checks
its condition again on the newest version: the two steps `start` and `finish`. The state also keeps
a log of what was committed, and the tokens drawn.
-/

namespace DbsMonitor

structure Registration (Hash : Type) where
  agentExpected : Bool := false
  agentTokenHash : Option Hash := none
  agentTokenIssuedAt : Option ℤ := none
  agentTokenRevokedAt : Option ℤ := none
  agentFirstRegisteredAt : Option ℤ := none
  deriving DecidableEq, Repr

/-- The conditions of `RotateAgentToken`, `RevokeAgentToken` and `GetAgentTokenHash`. -/
def Registration.active {Hash : Type} (row : Registration Hash) : Bool :=
  row.agentExpected && row.agentTokenHash.isSome && row.agentTokenRevokedAt.isNone

inductive TokenRequest
  | register (id : InstanceId) (token : String) (now : ℤ)
  | rotate (id : InstanceId) (token : String) (now : ℤ)
  | revoke (id : InstanceId) (now : ℤ)
  | disable (id : InstanceId)
  deriving DecidableEq, Repr

namespace TokenRequest

def instanceId : TokenRequest → InstanceId
  | .register id _ _ | .rotate id _ _ | .revoke id _ | .disable id => id

def token : TokenRequest → Option String
  | .register _ token _ | .rotate _ token _ => some token
  | .revoke _ _ | .disable _ => none

def conflict : TokenRequest → String
  | .register .. => "Agent is already registered or cannot be re-enabled"
  | .rotate .. => "Agent has no active token to rotate"
  | .revoke .. => "Agent has no active token to revoke"
  | .disable _ => "Agent is not currently expected online"

variable {Hash : Type} (hash : String → Hash)

def selects (request : TokenRequest) (row : Registration Hash) : Bool :=
  match request with
  | .register .. => !row.agentExpected && row.agentTokenHash.isNone
  | .rotate .. | .revoke .. => row.active
  | .disable _ => row.agentExpected

def update (request : TokenRequest) (row : Registration Hash) : Registration Hash :=
  match request with
  | .register _ token now =>
    { row with
      agentExpected := true
      agentTokenHash := some (hash token)
      agentTokenIssuedAt := some (timestamptz now)
      agentTokenRevokedAt := none
      agentFirstRegisteredAt := row.agentFirstRegisteredAt.or (some (timestamptz now)) }
  | .rotate _ token now =>
    { row with
      agentTokenHash := some (hash token)
      agentTokenIssuedAt := some (timestamptz now)
      agentTokenRevokedAt := none }
  | .revoke _ now =>
    { row with agentTokenHash := none, agentTokenRevokedAt := some (timestamptz now) }
  | .disable _ => { row with agentExpected := false, agentTokenHash := none }

end TokenRequest

inductive TokenEvent
  | issued (id : InstanceId) (token : String)
  | revoked (id : InstanceId)
  | disabled (id : InstanceId)
  deriving DecidableEq, Repr

def TokenEvent.instanceId : TokenEvent → InstanceId
  | .issued id _ | .revoked id | .disabled id => id

def TokenRequest.event : TokenRequest → TokenEvent
  | .register id token _ | .rotate id token _ => .issued id token
  | .revoke id _ => .revoked id
  | .disable id => .disabled id

structure AgentTokens (Hash : Type) where
  instances : AList fun _ : InstanceId => Registration Hash := ∅
  pending : AList fun _ : ℕ => TokenRequest := ∅
  drawn : List String := []
  log : List TokenEvent := []

def bearerToken (header : String) : String :=
  let scheme := "Bearer ".toList
  if header.toList.length ≤ scheme.length || header.toList.take scheme.length ≠ scheme then ""
  else String.ofList (header.toList.drop scheme.length)

namespace AgentTokens

variable {Hash : Type} [DecidableEq Hash] (hash : String → Hash) (s : AgentTokens Hash)

def getAgentTokenHash (id : InstanceId) : Option Hash :=
  (s.instances.lookup id).bind fun row => if row.active then row.agentTokenHash else none

def getInstanceIDByAgentTokenHash (tokenHash : Hash) : Option InstanceId :=
  (s.instances.entries.find? fun entry =>
    entry.2.agentTokenHash = some tokenHash && entry.2.agentExpected
      && entry.2.agentTokenRevokedAt.isNone).map Sigma.fst

def authenticateReport (id : InstanceId) (header : String) : Bool :=
  let token := bearerToken header
  match s.getAgentTokenHash id with
  | some stored => token ≠ "" && stored = hash token
  | none => false

def authenticateDownload (header : String) : Option InstanceId :=
  let token := bearerToken header
  if token = "" then none else s.getInstanceIDByAgentTokenHash (hash token)

inductive Action
  | start (request : ℕ) (work : TokenRequest)
  | finish (request : ℕ)
  deriving DecidableEq, Repr

def fresh (work : TokenRequest) : Bool :=
  work.token.all fun token => token ≠ "" && token ∉ s.drawn

/-- Another instance has the hash: `instance_agent_token_hash_unique_idx`. -/
def taken (work : TokenRequest) : Bool :=
  work.token.any fun token => s.instances.entries.any fun entry =>
    entry.1 ≠ work.instanceId && entry.2.agentTokenHash = some (hash token)

def step : Action → Option (AgentTokens Hash)
  | .start request work =>
    if s.pending.lookup request ≠ none || !s.fresh work then none
    else
      let s := { s with drawn := work.token.toList ++ s.drawn }
      if (s.instances.lookup work.instanceId).any work.selects then
        some { s with pending := s.pending.insert request work }
      else some s
  | .finish request => do
    let work ← s.pending.lookup request
    let s := { s with pending := s.pending.erase request }
    match s.instances.lookup work.instanceId with
    | some row =>
      if work.selects row && !s.taken hash work then
        some { s with
          instances := s.instances.insert work.instanceId (work.update hash row)
          log := work.event :: s.log }
      else some s
    | none => some s

end AgentTokens

end DbsMonitor
