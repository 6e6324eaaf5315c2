import DbsMonitor.Rotation

/-!
# The migration of plaintext passwords

`migrate-up` applies the migrations in order, each in a transaction with its version. Between the
one that adds the columns for ciphertexts and the one that drops the column of the passwords it
encrypts the passwords. One run is under way at a time, under the advisory lock.

The key file is written in place and may be left incomplete; `current` is renamed to its place.
-/

namespace DbsMonitor

def credentialSchemaVersion : ℕ := 6

def plaintextPasswordRemovalVersion : ℕ := 7

/-- The versions with the tables `smtp_channel` and `webhook_target`, and the last one. -/
def smtpChannelVersion : ℕ := 20

def webhookTargetVersion : ℕ := 21

def latestVersion : ℕ := 33

structure PasswordRow where
  id : Uuid
  password : Option (List UInt8)
  encrypted : Option (List UInt8 × ℕ) := none

inductive MigrationPhase (Key : Type)
  | idle
  | upgrading (current : ℕ)
  | creatingKey
  | writingKey
  | activating
  | opening
  | encrypting (keyring : OpenKeyring Key)
  | finishing

structure CredentialMigration (Key : Type) where
  version : ℕ
  instances : List PasswordRow
  hasEncryptedSMTP : Bool := false
  hasEncryptedWebhook : Bool := false
  keys : AList fun _ : ℕ => Option Key := ∅
  current : Option ℕ := none
  phase : MigrationPhase Key := .idle

namespace CredentialMigration

variable {Key : Type}

def keyring (s : CredentialMigration Key) (aead : Aead Key) : Keyring Key :=
  { aead := aead, key := fun version => (s.keys.lookup version).join }

/-- The next migration. That of version 7 sets the columns `NOT NULL` and drops the passwords. -/
def applyMigration (s : CredentialMigration Key) : Option (CredentialMigration Key) :=
  if s.version + 1 = plaintextPasswordRemovalVersion then
    if s.instances.all fun row => row.encrypted.isSome then
      some { s with
        version := s.version + 1
        instances := s.instances.map fun row => { row with password := none } }
    else none
  else some { s with version := s.version + 1 }

def hasEncryptedCredentials (s : CredentialMigration Key) : Bool :=
  (s.instances.any fun row => row.encrypted.isSome)
    || (decide (smtpChannelVersion ≤ s.version) && s.hasEncryptedSMTP)
    || (decide (webhookTargetVersion ≤ s.version) && s.hasEncryptedWebhook)

/-- `initializeCredentialKeyring` up to its first write; `none` for a fault. -/
def initializeCredentialKeyring (s : CredentialMigration Key) : Option (MigrationPhase Key) :=
  if s.hasEncryptedCredentials ∨ s.current.isSome then some .opening
  else if s.keys.keys = [] then some .creatingKey
  else none

/-- `migrateInstanceCredentials` up to its first write, where it is called. -/
def inspect (s : CredentialMigration Key) (current : ℕ) : Option (MigrationPhase Key) :=
  if current < plaintextPasswordRemovalVersion
      ∧ (s.instances.any fun row => row.encrypted.isNone) then initializeCredentialKeyring s
  else some .finishing

def openCredentialKeyring (s : CredentialMigration Key) : Option (OpenKeyring Key) :=
  s.current.bind fun version =>
    if version = 0 then none
    else (s.keys.lookup version).join.map fun key => ⟨version, key⟩

def encryptPassword (aead : Aead Key) (keyring : OpenKeyring Key) (nonces : Uuid → Nonce)
    (row : PasswordRow) : PasswordRow :=
  match row.encrypted, row.password with
  | none, some password =>
    { row with
      encrypted := (Keyring.encrypt { aead := aead, key := fun _ => some keyring.key }
        keyring.version (nonces row.id) password (credentialAAD row.id.text)).map
          (·, keyring.version) }
  | _, _ => row

inductive Action (Key : Type)
  | begin
  | migrate
  | inspect
  | createKey
  | writeKey (key : Key)
  | discardKey
  | activate
  | openKeyring
  | encrypt (nonces : Uuid → Nonce)
  | finish
  | crash

def step (aead : Aead Key) (s : CredentialMigration Key) :
    Action Key → Option (CredentialMigration Key)
  | .begin =>
    match s.phase with
    | .idle => some { s with phase := .upgrading s.version }
    | _ => none
  | .migrate =>
    match s.phase with
    | .upgrading _ => if s.version < credentialSchemaVersion then s.applyMigration else none
    | .finishing => if s.version < latestVersion then s.applyMigration else none
    | _ => none
  | .inspect =>
    match s.phase with
    | .upgrading current =>
      if s.version < credentialSchemaVersion then none
      else (s.inspect current).map fun phase => { s with phase := phase }
    | _ => none
  | .createKey =>
    match s.phase with
    | .creatingKey => some { s with keys := s.keys.insert 1 none, phase := .writingKey }
    | _ => none
  | .writeKey key =>
    match s.phase with
    | .writingKey => some { s with keys := s.keys.insert 1 (some key), phase := .activating }
    | _ => none
  | .discardKey =>
    match s.phase with
    | .writingKey => some { s with keys := s.keys.erase 1, phase := .idle }
    | _ => none
  | .activate =>
    match s.phase with
    | .activating => some { s with current := some 1, phase := .opening }
    | _ => none
  | .openKeyring =>
    match s.phase with
    | .opening => s.openCredentialKeyring.map fun keyring => { s with phase := .encrypting keyring }
    | _ => none
  | .encrypt nonces =>
    match s.phase with
    | .encrypting keyring =>
      some { s with
        instances := s.instances.map (encryptPassword aead keyring nonces)
        phase := .finishing }
    | _ => none
  | .finish =>
    match s.phase with
    | .finishing => if s.version < latestVersion then none else some { s with phase := .idle }
    | _ => none
  | .crash => some { s with phase := .idle }

end CredentialMigration

end DbsMonitor
