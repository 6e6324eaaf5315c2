import Mathlib.Data.List.AList
import Mathlib.Data.List.Sort
import DbsMonitor.Envelopes
import DbsMonitor.Machine

/-!
# The rotation of the master key

`rotateCredentialKeyring` stages a new key file beside the current one, points `current` at it,
re-encrypts every secret in one transaction, writes the notification snapshot anew, and removes the
key files that no row refers to. It can be stopped at any point; file operations are atomic.
-/

namespace DbsMonitor

structure InstanceCredential where
  id : Uuid
  passwordCiphertext : List UInt8
  passwordKeyVersion : ℕ

structure SMTPAuth where
  authCiphertext : List UInt8
  authKeyVersion : ℕ

structure WebhookSigning where
  id : Uuid
  signingValueCiphertext : List UInt8
  signatureHeaderCiphertext : List UInt8
  signingKeyVersion : ℕ

/-- The secrets of the notification channels: in the tables, and in the snapshot. -/
structure ChannelSecrets where
  smtp : Option SMTPAuth
  webhooks : List WebhookSigning

structure CredentialTables where
  instances : List InstanceCredential
  channels : ChannelSecrets

/-- The credential directory: the files `master-key-v<version>`, `current`, and the snapshot. -/
structure KeyDirectory (Key : Type) where
  keys : AList fun _ : ℕ => Key
  current : ℕ
  snapshot : Option ChannelSecrets

structure SealedEntry where
  secret : Secret
  ciphertext : List UInt8
  keyVersion : ℕ

def InstanceCredential.entry (row : InstanceCredential) : SealedEntry :=
  ⟨.instancePassword row.id, row.passwordCiphertext, row.passwordKeyVersion⟩

def SMTPAuth.entry (row : SMTPAuth) : SealedEntry :=
  ⟨.smtpPassword, row.authCiphertext, row.authKeyVersion⟩

def WebhookSigning.entries (row : WebhookSigning) : List SealedEntry :=
  [⟨.webhookSigningValue row.id, row.signingValueCiphertext, row.signingKeyVersion⟩,
    ⟨.webhookSignatureHeader row.id, row.signatureHeaderCiphertext, row.signingKeyVersion⟩]

def ChannelSecrets.entries (channels : ChannelSecrets) : List SealedEntry :=
  channels.smtp.toList.map SMTPAuth.entry ++ channels.webhooks.flatMap WebhookSigning.entries

def CredentialTables.entries (tables : CredentialTables) : List SealedEntry :=
  tables.instances.map InstanceCredential.entry ++ tables.channels.entries

def KeyDirectory.keyring {Key : Type} (directory : KeyDirectory Key) (aead : Aead Key) :
    Keyring Key :=
  { aead := aead, key := fun version => directory.keys.lookup version }

namespace CredentialTables

variable (tables : CredentialTables)

def countCredentialsNotUsingKeyVersion (keyVersion : ℕ) : ℕ :=
  tables.instances.countP (fun row => row.passwordKeyVersion ≠ keyVersion)
    + tables.channels.smtp.toList.countP (fun row => row.authKeyVersion ≠ keyVersion)
    + tables.channels.webhooks.countP (fun row => row.signingKeyVersion ≠ keyVersion)

def countCredentialKeyReferences (keyVersion : ℕ) : ℕ :=
  tables.instances.countP (fun row => row.passwordKeyVersion = keyVersion)
    + tables.channels.smtp.toList.countP (fun row => row.authKeyVersion = keyVersion)
    + tables.channels.webhooks.countP (fun row => row.signingKeyVersion = keyVersion)

end CredentialTables

structure OpenKeyring (Key : Type) where
  version : ℕ
  key : Key

inductive RotationPhase (Key : Type)
  | idle
  | generating (version : ℕ)
  | activating (version : ℕ)
  | reencrypting (keyring : OpenKeyring Key)
  | syncing (keyring : OpenKeyring Key)
  | verifying (keyring : OpenKeyring Key)
  | removing (keyring : OpenKeyring Key) (versions : List ℕ)

structure Rotation (Key : Type) where
  directory : KeyDirectory Key
  tables : CredentialTables
  phase : RotationPhase Key := .idle

namespace Rotation

variable {Key : Type}

def openCredentialKeyring (directory : KeyDirectory Key) : Option (OpenKeyring Key) :=
  (directory.keys.lookup directory.current).map fun key => ⟨directory.current, key⟩

def credentialKeyVersions (directory : KeyDirectory Key) : List ℕ :=
  directory.keys.keys.insertionSort (· ≤ ·)

/-- The loop over the versions in `PrepareCredentialKeyRotation`; `none` for a fault. -/
def inspectVersions (keyring : OpenKeyring Key) (nextVersion : ℕ) :
    List ℕ → Option (RotationPhase Key)
  | [] => some (.generating nextVersion)
  | version :: versions =>
    if version < keyring.version then some (.syncing keyring)
    else if nextVersion < version then none
    else inspectVersions keyring nextVersion versions

/-- `PrepareCredentialKeyRotation` up to its first write; `none` for a fault. Versions have 32
bits. -/
def prepare (directory : KeyDirectory Key) (tables : CredentialTables) :
    Option (RotationPhase Key) := do
  let keyring ← openCredentialKeyring directory
  let versions := credentialKeyVersions directory
  let nextVersion := keyring.version + 1
  if 2 ^ 31 ≤ nextVersion then none
  else if nextVersion ∈ versions then some (.activating nextVersion)
  else if 0 < tables.countCredentialsNotUsingKeyVersion keyring.version then
    some (.reencrypting keyring)
  else inspectVersions keyring nextVersion versions

section Reencrypt

variable (aead : Aead Key) (directory : KeyDirectory Key) (keyring : OpenKeyring Key)
  (nonces : Secret → Nonce)

def keys : Keyring Key :=
  { aead := aead
    key := fun version =>
      if version = keyring.version then some keyring.key else directory.keys.lookup version }

def reencrypt (entry : SealedEntry) : Option (List UInt8) :=
  ((keys aead directory keyring).decrypt entry.ciphertext entry.keyVersion
    entry.secret.aad).bind fun plaintext =>
      (keys aead directory keyring).encrypt keyring.version (nonces entry.secret) plaintext
        entry.secret.aad

def reencryptCredential (row : InstanceCredential) : Option InstanceCredential :=
  if row.passwordKeyVersion = keyring.version then some row
  else (reencrypt aead directory keyring nonces row.entry).map fun ciphertext =>
    { row with passwordCiphertext := ciphertext, passwordKeyVersion := keyring.version }

def reencryptSMTPChannel : Option SMTPAuth → Option (Option SMTPAuth)
  | none => some none
  | some row =>
    if row.authKeyVersion = keyring.version then some (some row)
    else (reencrypt aead directory keyring nonces row.entry).map fun ciphertext =>
      some { authCiphertext := ciphertext, authKeyVersion := keyring.version }

def reencryptWebhookTarget (row : WebhookSigning) : Option WebhookSigning :=
  if row.signingKeyVersion = keyring.version then some row
  else do
    let signingValue ← reencrypt aead directory keyring nonces
      ⟨.webhookSigningValue row.id, row.signingValueCiphertext, row.signingKeyVersion⟩
    let signatureHeader ← reencrypt aead directory keyring nonces
      ⟨.webhookSignatureHeader row.id, row.signatureHeaderCiphertext, row.signingKeyVersion⟩
    return { row with
      signingValueCiphertext := signingValue
      signatureHeaderCiphertext := signatureHeader
      signingKeyVersion := keyring.version }

/-- The transaction of `rotateCredentialKeyring`; `none`, rolled back, when a secret does not
open. -/
def reencryptTables (tables : CredentialTables) : Option CredentialTables := do
  let instances ← tables.instances.mapM (reencryptCredential aead directory keyring nonces)
  let smtp ← reencryptSMTPChannel aead directory keyring nonces tables.channels.smtp
  let webhooks ← tables.channels.webhooks.mapM
    (reencryptWebhookTarget aead directory keyring nonces)
  return { instances := instances, channels := { smtp := smtp, webhooks := webhooks } }

end Reencrypt

/-- `RemoveUnreferencedKeys` before it removes a file: the versions it will remove; `none` when a
row refers to one of them. -/
def staleVersions (directory : KeyDirectory Key) (tables : CredentialTables)
    (keyring : OpenKeyring Key) : Option (List ℕ) :=
  let stale := (credentialKeyVersions directory).filter (· ≠ keyring.version)
  if stale.all fun version => tables.countCredentialKeyReferences version = 0 then some stale
  else none

inductive Action (Key : Type)
  | begin
  | generate (key : Key)
  | activate
  | reencrypt (nonces : Secret → Nonce)
  | sync
  | verify
  | remove
  | finish
  | crash

def step (aead : Aead Key) (s : Rotation Key) : Action Key → Option (Rotation Key)
  | .begin =>
    match s.phase with
    | .idle => (prepare s.directory s.tables).map fun phase => { s with phase := phase }
    | _ => none
  | .generate key =>
    match s.phase with
    | .generating version =>
      if version ∈ s.directory.keys then none
      else some { s with
        directory := { s.directory with keys := s.directory.keys.insert version key }
        phase := .activating version }
    | _ => none
  | .activate =>
    match s.phase with
    | .activating version =>
      let directory := { s.directory with current := version }
      some { s with
        directory := directory
        phase :=
          match openCredentialKeyring directory with
          | some keyring => .reencrypting keyring
          | none => .idle }
    | _ => none
  | .reencrypt nonces =>
    match s.phase with
    | .reencrypting keyring =>
      (reencryptTables aead s.directory keyring nonces s.tables).map fun tables =>
        { s with tables := tables, phase := .syncing keyring }
    | _ => none
  | .sync =>
    match s.phase with
    | .syncing keyring =>
      some { s with
        directory := { s.directory with snapshot := some s.tables.channels }
        phase := .verifying keyring }
    | _ => none
  | .verify =>
    match s.phase with
    | .verifying keyring =>
      (staleVersions s.directory s.tables keyring).map fun versions =>
        { s with phase := .removing keyring versions }
    | _ => none
  | .remove =>
    match s.phase with
    | .removing keyring (version :: versions) =>
      some { s with
        directory := { s.directory with keys := s.directory.keys.erase version }
        phase := .removing keyring versions }
    | _ => none
  | .finish =>
    match s.phase with
    | .removing _ [] => some { s with phase := .idle }
    | _ => none
  | .crash => some { s with phase := .idle }

end Rotation

end DbsMonitor
