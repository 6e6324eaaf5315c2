import DbsMonitor.AlertRules
import DbsMonitor.Json

/-!
# The verdict of an acceptance report

`Evaluate` goes through the evidence of a candidate and collects reasons against it; the verdict is
GO when there are none. Times are counted from the zero time, and a `RawMessage` is what
`json.Unmarshal` makes of it.
-/

namespace DbsMonitor.AcceptanceReport

inductive Verdict
  | go
  | noGo
  | provisionalPass
  deriving DecidableEq

inductive Profile
  | ci
  | final
  deriving DecidableEq

inductive ReasonCode
  | evidenceMissing
  | evidenceSHAMismatch
  | hardGateFailed
  | unexpectedMatrixState
  | gitHubActions
  | roundsInvalid
  | rtcDataMissing
  | manualResultMissing
  | manualGateFailed
  deriving DecidableEq

abbrev RawMessage : Type := Option Json

structure Entry where
  id : String
  baseline : Bool
  status : String

structure Block where
  candidateSHA : String
  result : String := ""
  entries : List Entry := []
  exceptions : List RawMessage := []
  summary : RawMessage := none

structure Evidence where
  package : Option Block
  checkFull : Option Block
  matrix : Option Block
  pgRange : Option Block
  rtc : Option Block
  linuxNative : Option Block

structure ManualReview where
  operator : String
  at_ : ℤ
  result : String
  screenshotIndex : List String
  residualRisks : Option (List String)

structure Round where
  sequence : ℤ
  candidateSHA : String
  valid : Bool
  startedAt : ℤ
  finishedAt : ℤ
  environment : RawMessage
  evidence : Evidence
  manualReview : Option ManualReview

structure Input where
  candidateSHA : String
  profile : Profile
  gitHubActions : Bool
  rounds : List Round

structure Decision where
  verdict : Verdict
  provisional : Bool
  reasonCodes : List ReasonCode

def allowedMatrixNA : List String := ["AC-03-F2", "AC-04-F2", "AC-05-S4", "AC-08-F2", "AC-09-F2"]

def allowedMatrixPending : List String := ["AC-03-F6", "AC-08-S8"]

/-- `strings.ToLower`; two characters beyond ASCII become letters of it. -/
def toLower (text : String) : String :=
  String.ofList (text.toList.map fun c =>
    if c = Char.ofNat 0x130 then 'i' else if c = Char.ofNat 0x212A then 'k' else c.toLower)

def normalizeStatus (status : String) : String :=
  let normalized := toLower status
  if normalized = "pass" ∨ normalized = "passed" then "pass"
  else if normalized = "fail" ∨ normalized = "failed" then "fail"
  else normalized

def hasJSONData : RawMessage → Bool
  | none | some .null => false
  | some (.object fields) => !fields.isEmpty
  | some (.array items) => !items.isEmpty
  | some _ => true

abbrev ReasonSet : Type := List ReasonCode

def ReasonSet.addIf (reasons : ReasonSet) (condition : Prop) [Decidable condition]
    (reason : ReasonCode) : ReasonSet :=
  if condition then reason :: reasons else reasons

def ReasonSet.hasFailure (reasons : ReasonSet) : Bool := reasons.any (· ≠ .gitHubActions)

def reasonOrder : List ReasonCode :=
  [.evidenceMissing, .evidenceSHAMismatch, .hardGateFailed, .unexpectedMatrixState,
    .roundsInvalid, .rtcDataMissing, .manualResultMissing, .manualGateFailed, .gitHubActions]

def timingValid (round : Round) : Bool :=
  round.startedAt ≠ 0 ∧ round.finishedAt ≠ 0 ∧ round.startedAt < round.finishedAt

def evaluateFinalRounds (input : Input) (reasons : ReasonSet) : ReasonSet :=
  match input.rounds with
  | [first, second] =>
    if first.sequence ≠ 1 ∨ second.sequence ≠ 2 then .roundsInvalid :: reasons
    else
      let reasons := input.rounds.foldl (fun reasons round => reasons.addIf
        (¬ (hasJSONData round.environment ∧ timingValid round)) .roundsInvalid) reasons
      reasons.addIf (first.finishedAt ≠ 0 ∧ second.startedAt ≠ 0 ∧
        second.startedAt < first.finishedAt) .roundsInvalid
  | _ => .roundsInvalid :: reasons

def evaluateHardGate (isMatrix : Bool) (block : Block) (reasons : ReasonSet) : ReasonSet :=
  let reasons := reasons.addIf
    (block.result ≠ "" ∧ normalizeStatus block.result ≠ "pass") .hardGateFailed
  let reasons := reasons.addIf
    (isMatrix = false ∧ block.result = "" ∧ block.entries = []) .hardGateFailed
  block.entries.foldl (fun reasons entry =>
    let status := normalizeStatus entry.status
    let isAllowedMatrixNA : Bool := isMatrix ∧ status = "n-a" ∧ entry.id ∈ allowedMatrixNA
    let isRequired := !isMatrix || entry.baseline
    reasons.addIf (isRequired ∧ status ≠ "pass" ∧ ¬ isAllowedMatrixNA) .hardGateFailed) reasons

/-- The loop, which stops at an empty or repeated id; otherwise the number of baseline entries. -/
def matrixLoop (ids : List String) (baselineCount : ℕ) : List Entry → Option ℕ
  | [] => some baselineCount
  | entry :: entries =>
    if entry.id = "" ∨ entry.id ∈ ids then none
    else
      matrixLoop (entry.id :: ids) (if entry.baseline then baselineCount + 1 else baselineCount)
        entries

def matrixIsComplete (entries : List Entry) : Bool :=
  entries.length = 104 && matrixLoop [] 0 entries = some 101

def evaluateMatrixEntry (reasons : ReasonSet) (entry : Entry) : ReasonSet :=
  let status := normalizeStatus entry.status
  if status = "pending" then
    reasons.addIf (entry.id ∉ allowedMatrixPending ∨ entry.baseline) .unexpectedMatrixState
  else if status = "n-a" then
    reasons.addIf (entry.id ∉ allowedMatrixNA) .unexpectedMatrixState
  else reasons

def evaluateMatrix (matrix : Option Block) (reasons : ReasonSet) : ReasonSet :=
  match matrix with
  | none => reasons
  | some matrix =>
    let reasons := reasons.addIf (¬ matrixIsComplete matrix.entries) .evidenceMissing
    let reasons := reasons.addIf (matrix.exceptions ≠ []) .unexpectedMatrixState
    matrix.entries.foldl evaluateMatrixEntry reasons

def requiredEvidence (profile : Profile) (evidence : Evidence) : List (Option Block) :=
  match profile with
  | .ci => [evidence.matrix, evidence.pgRange, evidence.rtc]
  | .final => [evidence.package, evidence.checkFull, evidence.matrix, evidence.pgRange,
      evidence.rtc, evidence.linuxNative]

def evaluateRequired (candidateSHA : String) (reasons : ReasonSet) : Option Block → ReasonSet
  | none => .evidenceMissing :: reasons
  | some block => reasons.addIf (block.candidateSHA ≠ candidateSHA) .evidenceSHAMismatch

def hardGateEvidence (evidence : Evidence) : List (Bool × Option Block) :=
  [(false, evidence.package), (false, evidence.checkFull), (true, evidence.matrix),
    (false, evidence.pgRange), (false, evidence.linuxNative)]

def evaluateGate (reasons : ReasonSet) : Bool × Option Block → ReasonSet
  | (_, none) => reasons
  | (isMatrix, some block) => evaluateHardGate isMatrix block reasons

def evaluateRTC (rtc : Option Block) (reasons : ReasonSet) : ReasonSet :=
  match rtc with
  | none => reasons
  | some rtc => reasons.addIf (¬ hasJSONData rtc.summary) .rtcDataMissing

def evaluateEvidence (profile : Profile) (candidateSHA : String) (evidence : Evidence)
    (reasons : ReasonSet) : ReasonSet :=
  let reasons := (requiredEvidence profile evidence).foldl (evaluateRequired candidateSHA) reasons
  let reasons := (hardGateEvidence evidence).foldl evaluateGate reasons
  evaluateRTC evidence.rtc (evaluateMatrix evidence.matrix reasons)

def ManualReview.complete (review : ManualReview) : Bool :=
  trimSpace review.operator ≠ "" ∧ review.at_ ≠ 0 ∧ review.result ≠ "" ∧
    review.screenshotIndex ≠ [] ∧ review.residualRisks.isSome

def evaluateManualReview (review : Option ManualReview) (reasons : ReasonSet) : ReasonSet :=
  match review with
  | none => .manualResultMissing :: reasons
  | some review =>
    if !review.complete then .manualResultMissing :: reasons
    else reasons.addIf (normalizeStatus review.result ≠ "pass") .manualGateFailed

def evaluateRound (input : Input) (reasons : ReasonSet) (round : Round) : ReasonSet :=
  let reasons := reasons.addIf (¬ round.valid) .roundsInvalid
  let reasons := reasons.addIf (round.candidateSHA ≠ input.candidateSHA) .evidenceSHAMismatch
  let reasons := evaluateEvidence input.profile input.candidateSHA round.evidence reasons
  match input.profile with
  | .ci => reasons
  | .final => evaluateManualReview round.manualReview reasons

def reasonsOf (input : Input) : ReasonSet :=
  let reasons := match input.profile with
    | .final => evaluateFinalRounds input []
    | .ci => ReasonSet.addIf [] (input.rounds = []) .roundsInvalid
  (input.rounds.foldl (evaluateRound input) reasons).addIf input.gitHubActions .gitHubActions

def evaluate (input : Input) : Decision :=
  let provisional := input.profile = .ci || input.gitHubActions
  let reasons := reasonsOf input
  { verdict :=
      if reasons.hasFailure then .noGo else if provisional then .provisionalPass else .go
    provisional := provisional
    reasonCodes := reasonOrder.filter (· ∈ reasons) }

end DbsMonitor.AcceptanceReport
