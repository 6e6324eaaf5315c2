import DbsMonitor.AlertRules
import DbsMonitor.Envelopes
import DbsMonitor.Machine

/-!
# The notification channels and their snapshot

No request opens a transaction: one statement reads what an update needs of the row, another writes
the whole row back. Then the request syncs the snapshot file, with one query for the SMTP channel,
one for the webhook targets, and a rename. A sync is known by how many had begun when it did.
-/

namespace DbsMonitor

inductive SMTPAuthType
  | none
  | plain
  | login
  deriving DecidableEq, Repr

inductive SMTPTransportSecurity
  | startTLS
  | implicitTLS
  deriving DecidableEq, Repr

structure SealedColumns where
  ciphertext : List UInt8
  keyVersion : ℕ
  deriving DecidableEq, Repr

/-- A row of `smtp_channel`; its authentication columns are null together. -/
structure SMTPChannelRow where
  enabled : Bool
  host : String
  port : ℤ
  fromAddress : String
  recipient : String
  authType : SMTPAuthType
  username : Option String
  auth : Option SealedColumns
  tlsMode : SMTPTransportSecurity
  deriving DecidableEq, Repr

structure WebhookTargetRow where
  id : Uuid
  name : String
  enabled : Bool
  url : String
  signingValueCiphertext : List UInt8
  signatureHeaderCiphertext : List UInt8
  signingKeyVersion : ℕ
  deriving DecidableEq

structure ChannelTables where
  smtp : Option SMTPChannelRow := none
  webhooks : List WebhookTargetRow := []
  deriving DecidableEq

/-- `net/mail`, `net/url`, the collation of the database and the keyring of the server. -/
structure ChannelConfig (Key : Type) where
  validEmail : String → Bool
  validURL : String → Bool
  nameLess : String → String → Bool
  keyring : Keyring Key
  currentVersion : ℕ

inductive ChannelError
  | validationFailed (message : String)
  | notFound (message : String)
  | failed
  deriving DecidableEq, Repr

structure SMTPChannelInput where
  enabled : Bool
  host : String
  port : ℤ
  fromAddress : String
  recipient : String
  authType : SMTPAuthType
  username : Option String
  password : Option String
  tlsMode : SMTPTransportSecurity
  deriving DecidableEq, Repr

structure WebhookTargetInput where
  name : String
  enabled : Bool
  url : String
  signingValue : Option String
  signatureHeader : Option String
  deriving DecidableEq, Repr

structure WebhookTargetValues where
  name : String
  targetURL : String
  signingValue : Option String
  signatureHeader : Option String

def SMTPChannelInput.carried (input : SMTPChannelInput) : Option String :=
  input.password.filter (· ≠ "")

namespace ChannelConfig

variable {Key : Type} (config : ChannelConfig Key)

def encrypt (nonce : Nonce) (plaintext : List UInt8) (secret : Secret) : Option SealedColumns :=
  (config.keyring.encrypt config.currentVersion nonce plaintext secret.aad).map fun ciphertext =>
    ⟨ciphertext, config.currentVersion⟩

def decrypt (columns : SealedColumns) (secret : Secret) : Option (List UInt8) :=
  config.keyring.decrypt columns.ciphertext columns.keyVersion secret.aad

def smtpAuth (existing : Option SMTPChannelRow) (input : SMTPChannelInput) (nonce : Nonce) :
    Except ChannelError SealedColumns :=
  match input.carried with
  | some password =>
    match config.encrypt nonce (utf8 password) .smtpPassword with
    | some columns => .ok columns
    | none => .error .failed
  | none =>
    match existing.bind SMTPChannelRow.auth with
    | some columns =>
      if columns.ciphertext = [] then
        .error (.validationFailed "authentication value is required until it has been configured")
      else .ok columns
    | none =>
      .error (.validationFailed "authentication value is required until it has been configured")

def updateSMTPChannel (existing : Option SMTPChannelRow) (input : SMTPChannelInput)
    (nonce : Nonce) : Except ChannelError SMTPChannelRow :=
  let host := trimSpace input.host
  let row : SMTPChannelRow :=
    { enabled := input.enabled, host := host, port := input.port
      fromAddress := input.fromAddress, recipient := input.recipient
      authType := input.authType, username := none, auth := none, tlsMode := input.tlsMode }
  if !config.validEmail input.fromAddress || !config.validEmail input.recipient || host = ""
      || input.port < 1 || 65535 < input.port then
    .error (.validationFailed "host and valid email addresses are required")
  else if input.authType = .none then .ok row
  else
    let username := trimSpace (input.username.getD "")
    if username = "" then
      .error (.validationFailed "username is required for SMTP authentication")
    else
      match config.smtpAuth existing input nonce with
      | .error error => .error error
      | .ok columns => .ok { row with username := some username, auth := some columns }

def validWebhookInput (input : WebhookTargetInput) : Option WebhookTargetValues :=
  let values : WebhookTargetValues :=
    { name := trimSpace input.name, targetURL := trimSpace input.url
      signingValue := input.signingValue.map trimSpace
      signatureHeader := input.signatureHeader.map trimSpace }
  if !config.validURL values.targetURL || values.name = "" then none
  -- the canonical form of a header is empty when the header is
  else if values.signingValue = some "" || values.signatureHeader = some "" then none
  else some values

def sealWebhook (id : Uuid) (enabled : Bool) (values : WebhookTargetValues)
    (signingValue signatureHeader : List UInt8) (nonces : Nonce × Nonce) :
    Option WebhookTargetRow := do
  let value ← config.encrypt nonces.1 signingValue (.webhookSigningValue id)
  let header ← config.encrypt nonces.2 signatureHeader (.webhookSignatureHeader id)
  return { id := id, name := values.name, enabled := enabled, url := values.targetURL
           signingValueCiphertext := value.ciphertext
           signatureHeaderCiphertext := header.ciphertext
           signingKeyVersion := value.keyVersion }

def signingValue (row : WebhookTargetRow) : Option (List UInt8) :=
  config.decrypt ⟨row.signingValueCiphertext, row.signingKeyVersion⟩ (.webhookSigningValue row.id)

def signatureHeader (row : WebhookTargetRow) : Option (List UInt8) :=
  config.decrypt ⟨row.signatureHeaderCiphertext, row.signingKeyVersion⟩
    (.webhookSignatureHeader row.id)

/-- The row an update makes of the one it has read: with the secrets it carries, the others opened
and sealed again; without any, the columns stay. -/
def updatedWebhook (existing : WebhookTargetRow) (enabled : Bool) (values : WebhookTargetValues)
    (nonces : Nonce × Nonce) : Option WebhookTargetRow :=
  if values.signingValue = none ∧ values.signatureHeader = none then
    some { existing with name := values.name, enabled := enabled, url := values.targetURL }
  else do
    let value ← (values.signingValue.map utf8).or (config.signingValue existing)
    let header ← (values.signatureHeader.map utf8).or (config.signatureHeader existing)
    config.sealWebhook existing.id enabled values value header nonces

def createWebhookTarget (id : Uuid) (input : WebhookTargetInput) (nonces : Nonce × Nonce) :
    Except ChannelError WebhookTargetRow :=
  if input.signingValue = none || input.signatureHeader = none then
    .error (.validationFailed "Webhook target and signing configuration are required")
  else
    match config.validWebhookInput input with
    | none => .error (.validationFailed
        "valid name, HTTP(S) URL, and signing configuration are required")
    | some values =>
      match config.sealWebhook id input.enabled values (utf8 (values.signingValue.getD ""))
        (utf8 (values.signatureHeader.getD "")) nonces with
      | none => .error .failed
      | some row => .ok row

def updateWebhookTarget (existing : Option WebhookTargetRow) (input : WebhookTargetInput)
    (nonces : Nonce × Nonce) : Except ChannelError WebhookTargetRow :=
  match config.validWebhookInput input with
  | none => .error (.validationFailed
      "valid name, HTTP(S) URL, and signing configuration are required")
  | some values =>
    match existing with
    | none => .error (.notFound "Webhook target not found")
    | some existing =>
      match config.updatedWebhook existing input.enabled values nonces with
      | none => .error .failed
      | some row => .ok row

end ChannelConfig

inductive ChannelWrite
  | upsertSMTPChannel (row : SMTPChannelRow)
  | createWebhookTarget (row : WebhookTargetRow)
  | updateWebhookTarget (row : WebhookTargetRow)
  | deleteWebhookTarget (id : Uuid)

namespace ChannelTables

variable (tables : ChannelTables)

def getWebhookTarget (id : Uuid) : Option WebhookTargetRow :=
  tables.webhooks.find? fun row => row.id = id

def listWebhookTargets (nameLess : String → String → Bool) : List WebhookTargetRow :=
  tables.webhooks.insertionSort fun row row' =>
    nameLess row.name row'.name || !nameLess row'.name row.name && row.id.text ≤ row'.id.text

def write : ChannelWrite → Except ChannelError ChannelTables
  | .upsertSMTPChannel row => .ok { tables with smtp := some row }
  | .createWebhookTarget row =>
    if (tables.getWebhookTarget row.id).isSome then .error .failed
    else .ok { tables with webhooks := tables.webhooks ++ [row] }
  | .updateWebhookTarget row =>
    if (tables.getWebhookTarget row.id).isSome then
      .ok { tables with
        webhooks := tables.webhooks.map fun row' => if row'.id = row.id then row else row' }
    else .error .failed
  | .deleteWebhookTarget id =>
    if (tables.getWebhookTarget id).isSome then
      .ok { tables with webhooks := tables.webhooks.filter fun row => row.id ≠ id }
    else .error (.notFound "Webhook target not found")

end ChannelTables

structure SnapshotWebhookTarget where
  id : String
  name : String
  enabled : Bool
  url : String
  signingValueCiphertext : List UInt8
  signatureHeaderCiphertext : List UInt8
  signingKeyVersion : ℕ
  deriving DecidableEq, Repr

structure ChannelSnapshot where
  formatVersion : ℕ
  smtp : Option SMTPChannelRow
  webhooks : List SnapshotWebhookTarget
  deriving DecidableEq, Repr

def channelSnapshotFormatVersion : ℕ := 1

def WebhookTargetRow.snapshot (row : WebhookTargetRow) : SnapshotWebhookTarget :=
  { id := row.id.text, name := row.name, enabled := row.enabled, url := row.url
    signingValueCiphertext := row.signingValueCiphertext
    signatureHeaderCiphertext := row.signatureHeaderCiphertext
    signingKeyVersion := row.signingKeyVersion }

def channelSnapshot (smtp : Option SMTPChannelRow) (webhooks : List WebhookTargetRow) :
    ChannelSnapshot :=
  { formatVersion := channelSnapshotFormatVersion, smtp := smtp
    webhooks := webhooks.map WebhookTargetRow.snapshot }

def ChannelTables.snapshot (tables : ChannelTables) (nameLess : String → String → Bool) :
    ChannelSnapshot :=
  channelSnapshot tables.smtp (tables.listWebhookTargets nameLess)

inductive ChannelRequest
  | updateSMTPChannel (input : SMTPChannelInput) (nonce : Nonce)
  | createWebhookTarget (id : Uuid) (input : WebhookTargetInput) (nonces : Nonce × Nonce)
  | updateWebhookTarget (id : Uuid) (input : WebhookTargetInput) (nonces : Nonce × Nonce)
  | deleteWebhookTarget (id : Uuid)

def ChannelRequest.prepare {Key : Type} (config : ChannelConfig Key) (tables : ChannelTables) :
    ChannelRequest → Except ChannelError ChannelWrite
  | .updateSMTPChannel input nonce =>
    (config.updateSMTPChannel tables.smtp input nonce).map .upsertSMTPChannel
  | .createWebhookTarget id input nonces =>
    (config.createWebhookTarget id input nonces).map .createWebhookTarget
  | .updateWebhookTarget id input nonces =>
    (config.updateWebhookTarget (tables.getWebhookTarget id) input nonces).map
      .updateWebhookTarget
  | .deleteWebhookTarget id => .ok (.deleteWebhookTarget id)

inductive ChannelPhase
  | writing (write : ChannelWrite) (seen : ℕ)
  | written
  | listing (smtp : Option SMTPChannelRow) (begun : ℕ)
  | publishing (snapshot : ChannelSnapshot) (begun : ℕ)

/-- The file is there from the start: the server syncs it before it serves requests. -/
structure Channels where
  tables : ChannelTables
  file : ChannelSnapshot
  requests : AList fun _ : ℕ => ChannelRequest × ChannelPhase := ∅
  committed : List ChannelRequest := []
  begun : ℕ := 1
  published : ℕ := 1

namespace Channels

inductive Action
  | receive (id : ℕ) (request : ChannelRequest)
  | write (id : ℕ)
  | readSMTPChannel (id : ℕ)
  | readWebhookTargets (id : ℕ)
  | publish (id : ℕ)

def start {Key : Type} (config : ChannelConfig Key) (tables : ChannelTables) : Channels :=
  { tables := tables, file := tables.snapshot config.nameLess }

def setPhase (s : Channels) (id : ℕ) (request : ChannelRequest) (phase : ChannelPhase) : Channels :=
  { s with requests := s.requests.insert id (request, phase) }

def step {Key : Type} (config : ChannelConfig Key) (s : Channels) : Action → Option Channels
  | .receive id request => do
    guard (id ∉ s.requests)
    match request.prepare config s.tables with
    | .error _ => return s
    | .ok write => return s.setPhase id request (.writing write s.committed.length)
  | .write id =>
    match s.requests.lookup id with
    | some (request, .writing write _) =>
      match s.tables.write write with
      | .error _ => some { s with requests := s.requests.erase id }
      | .ok tables =>
        some { s.setPhase id request .written with
          tables := tables, committed := request :: s.committed }
    | _ => none
  | .readSMTPChannel id =>
    match s.requests.lookup id with
    | some (request, .written) =>
      some { s.setPhase id request (.listing s.tables.smtp (s.begun + 1)) with
        begun := s.begun + 1 }
    | _ => none
  | .readWebhookTargets id =>
    match s.requests.lookup id with
    | some (request, .listing smtp begun) =>
      let webhooks := s.tables.listWebhookTargets config.nameLess
      some (s.setPhase id request (.publishing (channelSnapshot smtp webhooks) begun))
    | _ => none
  | .publish id =>
    match s.requests.lookup id with
    | some (_, .publishing snapshot begun) =>
      some { s with requests := s.requests.erase id, file := snapshot, published := begun }
    | _ => none

end Channels

end DbsMonitor
