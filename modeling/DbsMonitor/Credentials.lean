import DbsMonitor.Timing

/-!
# Encrypted credentials

A password is stored in an envelope: a version byte, a nonce, and the plaintext sealed under the key
of a key version with the instance in the associated data. The authenticated encryption is a
parameter with two facts: what was sealed opens again, and the length of what it seals.
-/

namespace DbsMonitor

structure Aead (Key : Type) where
  overhead : ℕ
  sealBytes : (key : Key) → (nonce plaintext aad : List UInt8) → List UInt8
  openBytes : (key : Key) → (nonce ciphertext aad : List UInt8) → Option (List UInt8)
  open_seal : ∀ key nonce plaintext aad,
    openBytes key nonce (sealBytes key nonce plaintext aad) aad = some plaintext
  length_sealed : ∀ key nonce plaintext aad,
    (sealBytes key nonce plaintext aad).length = plaintext.length + overhead

structure Keyring (Key : Type) where
  aead : Aead Key
  key : ℕ → Option Key

structure Nonce where
  bytes : List UInt8
  length_eq : bytes.length = 12

def credentialEnvelopeVersion : UInt8 := 1

def credentialEnvelopeHeaderSize : ℕ := 13

def credentialAAD (instanceId : InstanceId) : List UInt8 :=
  utf8 ("dbs-monitor:instance:" ++ instanceId ++ ":pg-password:v1")

namespace Keyring

variable {Key : Type} (keyring : Keyring Key)

def encrypt (keyVersion : ℕ) (nonce : Nonce) (plaintext aad : List UInt8) :
    Option (List UInt8) :=
  (keyring.key keyVersion).map fun key =>
    credentialEnvelopeVersion
      :: (nonce.bytes ++ keyring.aead.sealBytes key nonce.bytes plaintext aad)

def decrypt (envelope : List UInt8) (keyVersion : ℕ) (aad : List UInt8) :
    Option (List UInt8) :=
  (keyring.key keyVersion).bind fun key =>
    if envelope.length < credentialEnvelopeHeaderSize + keyring.aead.overhead
        ∨ envelope.head? ≠ some credentialEnvelopeVersion then none
    else keyring.aead.openBytes key ((envelope.drop 1).take 12)
      (envelope.drop credentialEnvelopeHeaderSize) aad

theorem decrypt_encrypt {keyVersion : ℕ} {nonce : Nonce} {plaintext aad envelope : List UInt8}
    (h : keyring.encrypt keyVersion nonce plaintext aad = some envelope) :
    keyring.decrypt envelope keyVersion aad = some plaintext := by
  obtain ⟨key, hkey, rfl⟩ := Option.map_eq_some_iff.mp h
  have hlen := nonce.length_eq
  rw [decrypt, hkey, Option.bind_some, if_neg]
  · have hdrop : (credentialEnvelopeVersion :: (nonce.bytes
        ++ keyring.aead.sealBytes key nonce.bytes plaintext aad)).drop credentialEnvelopeHeaderSize
        = keyring.aead.sealBytes key nonce.bytes plaintext aad := by
      simp [credentialEnvelopeHeaderSize, ← hlen]
    rw [hdrop, List.drop_one, List.tail_cons, ← hlen, List.take_left]
    exact keyring.aead.open_seal _ _ _ _
  · simp only [List.length_cons, List.length_append, hlen, keyring.aead.length_sealed,
      credentialEnvelopeHeaderSize, List.head?_cons, ne_eq, not_true_eq_false, or_false]
    omega

end Keyring

/-- A keyring for the concrete runs, with one key and a cipher that appends its tag. -/
def plainKeyring : Keyring Unit :=
  { aead :=
      { overhead := 16
        sealBytes := fun _ _ plaintext _ => plaintext ++ List.replicate 16 0
        openBytes := fun _ _ ciphertext _ => some (ciphertext.take (ciphertext.length - 16))
        open_seal := fun _ _ plaintext _ => by simp
        length_sealed := fun _ _ plaintext _ => by simp }
    key := fun _ => some () }

def zeroNonce : Nonce := ⟨List.replicate 12 0, rfl⟩

end DbsMonitor
