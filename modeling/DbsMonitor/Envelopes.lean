import DbsMonitor.Credentials

/-!
# The secrets of the platform and their envelopes

The secrets are stored in envelopes of one form: a version byte, a nonce, and the plaintext sealed
under the current key. What a secret is for and whose it is goes into the associated data. The
cipher is ideal: it opens exactly what was sealed with the same key, nonce and associated data.
-/

namespace DbsMonitor

structure Uuid where
  bytes : List UInt8
  length_eq : bytes.length = 16
  deriving DecidableEq

theorem length_sevens : (List.replicate 16 (7 : UInt8)).length = 16 := rfl

def hexEncode (bytes : List UInt8) : List Char :=
  bytes.flatMap fun byte => [Nat.digitChar (byte.toNat / 16), Nat.digitChar (byte.toNat % 16)]

def Uuid.text (id : Uuid) : String :=
  let part := fun start stop => hexEncode ((id.bytes.take stop).drop start)
  String.ofList (part 0 4 ++ '-' :: part 4 6 ++ '-' :: part 6 8 ++ '-' :: part 8 10
    ++ '-' :: part 10 16)

inductive Secret
  | instancePassword (instanceId : Uuid)
  | smtpPassword
  | webhookSigningValue (targetId : Uuid)
  | webhookSignatureHeader (targetId : Uuid)
  deriving DecidableEq

def smtpCredentialAAD : List UInt8 := utf8 "smtp-channel:singleton:auth"

def webhookSigningValuePurpose : String := "signing-value"

def webhookSignatureHeaderPurpose : String := "signature-header"

def webhookCredentialAAD (targetId : Uuid) (field : String) : List UInt8 :=
  utf8 ("dbs-monitor:webhook:" ++ targetId.text ++ ":" ++ field ++ ":v1")

def Secret.aad : Secret → List UInt8
  | .instancePassword instanceId => credentialAAD instanceId.text
  | .smtpPassword => smtpCredentialAAD
  | .webhookSigningValue targetId => webhookCredentialAAD targetId webhookSigningValuePurpose
  | .webhookSignatureHeader targetId => webhookCredentialAAD targetId webhookSignatureHeaderPurpose

/-- `Sealed key nonce plaintext aad`: the plaintext was sealed with key, nonce and associated
data. -/
structure IdealAead (Key : Type) where
  overhead : ℕ
  sealBytes : (key : Key) → (nonce plaintext aad : List UInt8) → List UInt8
  openBytes : (key : Key) → (nonce ciphertext aad : List UInt8) → Option (List UInt8)
  Sealed : Key → (nonce plaintext aad : List UInt8) → Prop
  length_sealed : ∀ key nonce plaintext aad,
    (sealBytes key nonce plaintext aad).length = plaintext.length + overhead
  open_iff : ∀ key nonce ciphertext aad plaintext,
    openBytes key nonce ciphertext aad = some plaintext ↔
      Sealed key nonce plaintext aad ∧ ciphertext = sealBytes key nonce plaintext aad
  /-- What was sealed with another key, nonce or associated data is another ciphertext. -/
  sealed_inj : ∀ {key nonce plaintext aad key' nonce' plaintext' aad'},
    Sealed key nonce plaintext aad → Sealed key' nonce' plaintext' aad' →
      sealBytes key nonce plaintext aad = sealBytes key' nonce' plaintext' aad' →
      key = key' ∧ nonce = nonce' ∧ aad = aad'

inductive CredentialFault
  | missingKey
  | currentKey
  | keyLength
  | keyPermissions
  | keyOwner
  | unknownKeyVersion
  | authentication
  | keyFormat
  deriving DecidableEq, Repr

def CredentialFault.error : CredentialFault → String
  | .missingKey => "instance credential key is missing"
  | .currentKey => "instance credential current key is invalid"
  | .keyFormat => "instance credential key must contain one line of standard base64"
  | .keyLength => "instance credential key length is invalid"
  | .keyPermissions => "instance credential key permissions are invalid"
  | .keyOwner => "instance credential key owner is invalid"
  | .unknownKeyVersion => "instance credential key version is unknown"
  | .authentication => "instance credential authentication failed"

inductive KeyFile (Key : Type)
  | missing
  | invalid (fault : CredentialFault)
  | key (key : Key)

structure CredentialKeyring (Key : Type) where
  directory : ℤ → KeyFile Key
  currentVersion : ℤ
  currentKey : Key
  fault : Option CredentialFault := none

def readCredentialKey {Key : Type} (directory : ℤ → KeyFile Key) (version : ℤ)
    (missingCode : CredentialFault) : Except CredentialFault Key :=
  if version ≤ 0 then .error missingCode
  else
    match directory version with
    | .missing => .error missingCode
    | .invalid fault => .error fault
    | .key key => .ok key

namespace CredentialKeyring

variable {Key : Type} (keyring : CredentialKeyring Key) (aead : IdealAead Key)

def envelope (nonce : Nonce) (ciphertext : List UInt8) : List UInt8 :=
  credentialEnvelopeVersion :: (nonce.bytes ++ ciphertext)

/-- The envelope and the version of the key it was sealed with; the nonce is random. -/
def encrypt (nonce : Nonce) (plaintext aad : List UInt8) :
    Except CredentialFault (List UInt8 × ℤ) :=
  match keyring.fault with
  | some fault => .error fault
  | none => .ok (envelope nonce (aead.sealBytes keyring.currentKey nonce.bytes plaintext aad),
      keyring.currentVersion)

def keyOf (keyVersion : ℤ) : Except CredentialFault Key :=
  match keyring.fault with
  | some fault => .error fault
  | none =>
    if keyVersion ≠ keyring.currentVersion then
      readCredentialKey keyring.directory keyVersion .unknownKeyVersion
    else .ok keyring.currentKey

def openEnvelope (key : Key) (bytes aad : List UInt8) : Except CredentialFault (List UInt8) :=
  if bytes.length < credentialEnvelopeHeaderSize + aead.overhead
      ∨ bytes.head? ≠ some credentialEnvelopeVersion then .error .authentication
  else
    match aead.openBytes key ((bytes.take credentialEnvelopeHeaderSize).drop 1)
      (bytes.drop credentialEnvelopeHeaderSize) aad with
    | some plaintext => .ok plaintext
    | none => .error .authentication

def decrypt (bytes : List UInt8) (keyVersion : ℤ) (aad : List UInt8) :
    Except CredentialFault (List UInt8) :=
  match keyring.keyOf keyVersion with
  | .error fault => .error fault
  | .ok key => openEnvelope aead key bytes aad

def encryptPassword (instanceId : Uuid) (nonce : Nonce) (password : List UInt8) :
    Except CredentialFault (List UInt8 × ℤ) :=
  keyring.encrypt aead nonce password (credentialAAD instanceId.text)

def encryptSMTPPassword (nonce : Nonce) (password : List UInt8) :
    Except CredentialFault (List UInt8 × ℤ) :=
  keyring.encrypt aead nonce password smtpCredentialAAD

def encryptWebhookSigningValue (targetId : Uuid) (nonce : Nonce) (value : List UInt8) :
    Except CredentialFault (List UInt8 × ℤ) :=
  keyring.encrypt aead nonce value (webhookCredentialAAD targetId webhookSigningValuePurpose)

def encryptWebhookSignatureHeader (targetId : Uuid) (nonce : Nonce) (header : List UInt8) :
    Except CredentialFault (List UInt8 × ℤ) :=
  keyring.encrypt aead nonce header (webhookCredentialAAD targetId webhookSignatureHeaderPurpose)

def decryptPassword (instanceId : Uuid) (bytes : List UInt8) (keyVersion : ℤ) :
    Except CredentialFault (List UInt8) :=
  keyring.decrypt aead bytes keyVersion (credentialAAD instanceId.text)

def decryptSMTPPassword (bytes : List UInt8) (keyVersion : ℤ) :
    Except CredentialFault (List UInt8) :=
  keyring.decrypt aead bytes keyVersion smtpCredentialAAD

def decryptWebhookSigningValue (targetId : Uuid) (bytes : List UInt8) (keyVersion : ℤ) :
    Except CredentialFault (List UInt8) :=
  keyring.decrypt aead bytes keyVersion (webhookCredentialAAD targetId webhookSigningValuePurpose)

def decryptWebhookSignatureHeader (targetId : Uuid) (bytes : List UInt8) (keyVersion : ℤ) :
    Except CredentialFault (List UInt8) :=
  keyring.decrypt aead bytes keyVersion
    (webhookCredentialAAD targetId webhookSignatureHeaderPurpose)

def encryptSecret (nonce : Nonce) (plaintext : List UInt8) :
    Secret → Except CredentialFault (List UInt8 × ℤ)
  | .instancePassword instanceId => keyring.encryptPassword aead instanceId nonce plaintext
  | .smtpPassword => keyring.encryptSMTPPassword aead nonce plaintext
  | .webhookSigningValue targetId =>
    keyring.encryptWebhookSigningValue aead targetId nonce plaintext
  | .webhookSignatureHeader targetId =>
    keyring.encryptWebhookSignatureHeader aead targetId nonce plaintext

def decryptSecret (bytes : List UInt8) (keyVersion : ℤ) :
    Secret → Except CredentialFault (List UInt8)
  | .instancePassword instanceId => keyring.decryptPassword aead instanceId bytes keyVersion
  | .smtpPassword => keyring.decryptSMTPPassword aead bytes keyVersion
  | .webhookSigningValue targetId =>
    keyring.decryptWebhookSigningValue aead targetId bytes keyVersion
  | .webhookSignatureHeader targetId =>
    keyring.decryptWebhookSignatureHeader aead targetId bytes keyVersion

end CredentialKeyring

end DbsMonitor
