import DbsMonitor.Envelopes

/-!
# Envelopes are bound to their secrets

The kind of a secret shows in how its associated data begins and ends, and between the two stands
the text of an identifier, from which the identifier can be read back. The cipher does the rest.
-/

namespace DbsMonitor

theorem utf8_injective : Function.Injective utf8 := by
  intro s t h
  refine String.toByteArray_inj.mp ?_
  rw [← String.ofList_toList (s := s), ← String.ofList_toList (s := t), String.toByteArray_ofList,
    String.toByteArray_ofList]
  exact congrArg List.toByteArray h

theorem digitChar_injOn : ∀ m < 16, ∀ n < 16, Nat.digitChar m = Nat.digitChar n → m = n := by
  decide

theorem digitChar_ne_dash : ∀ n < 16, Nat.digitChar n ≠ '-' := by
  decide

theorem hexEncode_cons (byte : UInt8) (bytes : List UInt8) :
    hexEncode (byte :: bytes) = Nat.digitChar (byte.toNat / 16)
      :: Nat.digitChar (byte.toNat % 16) :: hexEncode bytes := rfl

theorem hexEncode_append (bytes bytes' : List UInt8) :
    hexEncode (bytes ++ bytes') = hexEncode bytes ++ hexEncode bytes' :=
  List.flatMap_append ..

theorem byte_div_lt (byte : UInt8) : byte.toNat / 16 < 16 := by
  have := byte.toNat_lt
  omega

theorem byte_mod_lt (byte : UInt8) : byte.toNat % 16 < 16 := Nat.mod_lt _ (by decide)

theorem hexEncode_injective : Function.Injective hexEncode
  | [], [], _ => rfl
  | [], byte :: bytes, h => by simp [hexEncode] at h
  | byte :: bytes, [], h => by simp [hexEncode] at h
  | byte :: bytes, byte' :: bytes', h => by
    simp only [hexEncode_cons, List.cons.injEq] at h
    obtain ⟨hdiv, hmod, hrest⟩ := h
    have hdiv := digitChar_injOn _ (byte_div_lt byte) _ (byte_div_lt byte') hdiv
    have hmod := digitChar_injOn _ (byte_mod_lt byte) _ (byte_mod_lt byte') hmod
    have hbyte : byte = byte' := by
      refine UInt8.toNat_inj.mp ?_
      omega
    rw [hbyte, hexEncode_injective hrest]

theorem filter_hexEncode (bytes : List UInt8) :
    (hexEncode bytes).filter (fun c => !decide (c = '-')) = hexEncode bytes := by
  refine List.filter_eq_self.mpr fun c hc => ?_
  obtain ⟨byte, -, hc⟩ := List.mem_flatMap.mp hc
  rcases List.mem_pair.mp hc with rfl | rfl
  · simp [digitChar_ne_dash _ (byte_div_lt byte)]
  · simp [digitChar_ne_dash _ (byte_mod_lt byte)]

theorem slice_append_drop {α : Type*} (l : List α) {i j : ℕ} (h : i ≤ j) :
    (l.take j).drop i ++ l.drop j = l.drop i := by
  obtain ⟨k, rfl⟩ := Nat.exists_eq_add_of_le h
  rw [List.drop_take, Nat.add_sub_cancel_left, ← List.drop_drop, List.take_append_drop]

theorem Uuid.filter_text (id : Uuid) :
    id.text.toList.filter (fun c => !decide (c = '-')) = hexEncode id.bytes := by
  have hparts : (id.bytes.take 4).drop 0 ++ ((id.bytes.take 6).drop 4
      ++ ((id.bytes.take 8).drop 6 ++ ((id.bytes.take 10).drop 8
      ++ (id.bytes.take 16).drop 10))) = id.bytes := by
    rw [← id.length_eq, List.take_length, slice_append_drop _ (by decide),
      slice_append_drop _ (by decide), slice_append_drop _ (by decide),
      slice_append_drop _ (by decide), List.drop_zero]
  have hencoded := congrArg hexEncode hparts
  simp only [hexEncode_append] at hencoded
  rw [← hencoded]
  simp [Uuid.text, List.filter_append, filter_hexEncode]

theorem Uuid.text_injective : Function.Injective Uuid.text := by
  intro id id' h
  have hbytes : hexEncode id.bytes = hexEncode id'.bytes := by
    rw [← id.filter_text, ← id'.filter_text, h]
  cases id
  cases id'
  simpa using hexEncode_injective hbytes

theorem credentialAAD_injective {id id' : InstanceId} (h : credentialAAD id = credentialAAD id') :
    id = id' := by
  have h := congrArg String.toList (utf8_injective h)
  simp only [String.toList_append, List.append_left_inj, List.append_right_inj] at h
  exact String.toList_inj.mp h

theorem webhookCredentialAAD_injective {id id' : Uuid} {field : String}
    (h : webhookCredentialAAD id field = webhookCredentialAAD id' field) : id = id' := by
  have h := congrArg String.toList (utf8_injective h)
  simp only [String.toList_append, List.append_left_inj, List.append_right_inj] at h
  exact Uuid.text_injective (String.toList_inj.mp h)

theorem webhookCredentialAAD_field (id id' : Uuid) :
    webhookCredentialAAD id webhookSigningValuePurpose
      ≠ webhookCredentialAAD id' webhookSignatureHeaderPurpose := by
  intro h
  have h := congrArg (fun s : String => s.toList.reverse[3]?) (utf8_injective h)
  simp [webhookSigningValuePurpose, webhookSignatureHeaderPurpose] at h

theorem credentialAAD_ne_webhook (id : InstanceId) (id' : Uuid) (field : String) :
    credentialAAD id ≠ webhookCredentialAAD id' field := by
  intro h
  have h := congrArg (fun s : String => s.toList[12]?) (utf8_injective h)
  simp at h

theorem credentialAAD_ne_smtp (id : InstanceId) : credentialAAD id ≠ smtpCredentialAAD := by
  intro h
  have h := congrArg (fun s : String => s.toList[0]?) (utf8_injective h)
  simp at h

theorem webhookCredentialAAD_ne_smtp (id : Uuid) (field : String) :
    webhookCredentialAAD id field ≠ smtpCredentialAAD := by
  intro h
  have h := congrArg (fun s : String => s.toList[0]?) (utf8_injective h)
  simp at h

theorem Secret.aad_injective : Function.Injective Secret.aad := by
  intro secret secret' h
  cases secret <;> cases secret' <;> simp only [Secret.aad] at h
  case instancePassword.instancePassword =>
    rw [Uuid.text_injective (credentialAAD_injective h)]
  case smtpPassword.smtpPassword => rfl
  case webhookSigningValue.webhookSigningValue => rw [webhookCredentialAAD_injective h]
  case webhookSignatureHeader.webhookSignatureHeader => rw [webhookCredentialAAD_injective h]
  case webhookSigningValue.webhookSignatureHeader => exact absurd h (webhookCredentialAAD_field _ _)
  case webhookSignatureHeader.webhookSigningValue =>
    exact absurd h.symm (webhookCredentialAAD_field _ _)
  case instancePassword.smtpPassword => exact absurd h (credentialAAD_ne_smtp _)
  case smtpPassword.instancePassword => exact absurd h.symm (credentialAAD_ne_smtp _)
  case smtpPassword.webhookSigningValue => exact absurd h.symm (webhookCredentialAAD_ne_smtp _ _)
  case smtpPassword.webhookSignatureHeader =>
    exact absurd h.symm (webhookCredentialAAD_ne_smtp _ _)
  case webhookSigningValue.smtpPassword => exact absurd h (webhookCredentialAAD_ne_smtp _ _)
  case webhookSignatureHeader.smtpPassword => exact absurd h (webhookCredentialAAD_ne_smtp _ _)
  case webhookSigningValue.instancePassword =>
    exact absurd h.symm (credentialAAD_ne_webhook _ _ _)
  case webhookSignatureHeader.instancePassword =>
    exact absurd h.symm (credentialAAD_ne_webhook _ _ _)
  all_goals exact absurd h (credentialAAD_ne_webhook _ _ _)

namespace CredentialKeyring

variable {Key : Type} {aead : IdealAead Key} {keyring : CredentialKeyring Key} {key : Key}
  {bytes plaintext aad : List UInt8} {secret : Secret} {keyVersion : ℤ}

theorem encryptSecret_eq (nonce : Nonce) :
    keyring.encryptSecret aead nonce plaintext secret
      = keyring.encrypt aead nonce plaintext secret.aad := by
  cases secret <;> rfl

theorem decryptSecret_eq :
    keyring.decryptSecret aead bytes keyVersion secret
      = keyring.decrypt aead bytes keyVersion secret.aad := by
  cases secret <;> rfl

def SealedIn (aead : IdealAead Key) (key : Key) (plaintext aad bytes : List UInt8) : Prop :=
  ∃ nonce : Nonce, aead.Sealed key nonce.bytes plaintext aad
    ∧ bytes = envelope nonce (aead.sealBytes key nonce.bytes plaintext aad)

theorem eq_envelope (hlength : credentialEnvelopeHeaderSize ≤ bytes.length)
    (hhead : bytes.head? = some credentialEnvelopeVersion) :
    ∃ nonce : Nonce, nonce.bytes = (bytes.take credentialEnvelopeHeaderSize).drop 1
      ∧ bytes = envelope nonce (bytes.drop credentialEnvelopeHeaderSize) := by
  rcases bytes with _ | ⟨byte, rest⟩
  · simp at hhead
  obtain rfl : byte = credentialEnvelopeVersion := by simpa using hhead
  refine ⟨⟨rest.take 12, ?_⟩, ?_, ?_⟩
  · simp only [credentialEnvelopeHeaderSize, List.length_cons] at hlength
    rw [List.length_take]
    omega
  · simp [credentialEnvelopeHeaderSize]
  · simp [envelope, credentialEnvelopeHeaderSize]

theorem openEnvelope_iff :
    openEnvelope aead key bytes aad = .ok plaintext ↔ SealedIn aead key plaintext aad bytes := by
  constructor
  · intro h
    unfold openEnvelope at h
    split_ifs at h with hshort
    obtain ⟨hlength, hhead⟩ := not_or.mp hshort
    obtain ⟨nonce, hnonce, hbytes⟩ := eq_envelope (by omega) (not_not.mp hhead)
    rw [← hnonce] at h
    rcases hopen : aead.openBytes key nonce.bytes (bytes.drop credentialEnvelopeHeaderSize) aad
      with _ | opened
    · rw [hopen] at h
      cases h
    · rw [hopen] at h
      cases h
      obtain ⟨hsealed, hrest⟩ := (aead.open_iff _ _ _ _ _).mp hopen
      exact ⟨nonce, hsealed, hrest ▸ hbytes⟩
  · rintro ⟨nonce, hsealed, rfl⟩
    have hlen := nonce.length_eq
    have hopen := (aead.open_iff _ _ _ _ _).mpr ⟨hsealed, rfl⟩
    have htake : ((envelope nonce (aead.sealBytes key nonce.bytes plaintext aad)).take
        credentialEnvelopeHeaderSize).drop 1 = nonce.bytes := by
      simp [envelope, credentialEnvelopeHeaderSize, ← hlen]
    have hdrop : (envelope nonce (aead.sealBytes key nonce.bytes plaintext aad)).drop
        credentialEnvelopeHeaderSize = aead.sealBytes key nonce.bytes plaintext aad := by
      simp [envelope, credentialEnvelopeHeaderSize, ← hlen]
    unfold openEnvelope
    rw [if_neg, htake, hdrop, hopen]
    simp only [envelope, List.length_cons, List.length_append, hlen, aead.length_sealed,
      credentialEnvelopeHeaderSize, List.head?_cons, ne_eq, not_true_eq_false, or_false]
    omega

theorem decryptSecret_iff :
    keyring.decryptSecret aead bytes keyVersion secret = .ok plaintext ↔
      ∃ key, keyring.keyOf keyVersion = .ok key ∧ SealedIn aead key plaintext secret.aad bytes := by
  rw [decryptSecret_eq, decrypt]
  rcases keyring.keyOf keyVersion with fault | key
  · simp
  · simp [openEnvelope_iff]

theorem SealedIn.unique {key' : Key} {plaintext' aad' : List UInt8}
    (h : SealedIn aead key plaintext aad bytes) (h' : SealedIn aead key' plaintext' aad' bytes) :
    key = key' ∧ aad = aad' := by
  obtain ⟨nonce, hsealed, rfl⟩ := h
  obtain ⟨nonce', hsealed', hbytes⟩ := h'
  have hlengths : nonce.bytes.length = nonce'.bytes.length :=
    nonce.length_eq.trans nonce'.length_eq.symm
  have hciphertext := (List.append_inj (List.cons.inj hbytes).2 hlengths).2
  obtain ⟨hkey, -, haad⟩ := aead.sealed_inj hsealed hsealed' hciphertext
  exact ⟨hkey, haad⟩

theorem keyOf_of_encryptSecret {nonce : Nonce}
    (h : keyring.encryptSecret aead nonce plaintext secret = .ok (bytes, keyVersion)) :
    bytes = envelope nonce (aead.sealBytes keyring.currentKey nonce.bytes plaintext secret.aad)
      ∧ keyring.keyOf keyVersion = .ok keyring.currentKey := by
  rw [encryptSecret_eq, encrypt] at h
  rcases hfault : keyring.fault with _ | fault <;> rw [hfault] at h <;> cases h
  simp [keyOf, hfault]

/-- An envelope opens for the secret it was sealed for, and other bytes for none. -/
theorem secrets_bound (aead : IdealAead Key) :
    Function.Injective Secret.aad
      ∧ ∀ (keyring : CredentialKeyring Key) (secret : Secret) (nonce : Nonce)
          (plaintext bytes : List UInt8) (keyVersion : ℤ),
        keyring.encryptSecret aead nonce plaintext secret = .ok (bytes, keyVersion) →
        aead.Sealed keyring.currentKey nonce.bytes plaintext secret.aad →
          keyring.decryptSecret aead bytes keyVersion secret = .ok plaintext
          ∧ (∀ reader : CredentialKeyring Key, reader.keyOf keyVersion = .ok keyring.currentKey →
            reader.decryptSecret aead bytes keyVersion secret = .ok plaintext)
          ∧ (∀ (reader : CredentialKeyring Key) (keyVersion' : ℤ) (secret' : Secret)
              (opened : List UInt8), secret' ≠ secret →
            reader.decryptSecret aead bytes keyVersion' secret' ≠ .ok opened)
          ∧ ∀ (reader : CredentialKeyring Key) (bytes' : List UInt8) (keyVersion' : ℤ)
              (secret' : Secret) (opened : List UInt8),
            reader.decryptSecret aead bytes' keyVersion' secret' = .ok opened →
            ∃ key, reader.keyOf keyVersion' = .ok key
              ∧ SealedIn aead key opened secret'.aad bytes' := by
  refine ⟨Secret.aad_injective, fun keyring secret nonce plaintext bytes keyVersion henc hsealed =>
    ?_⟩
  obtain ⟨hbytes, hkey⟩ := keyOf_of_encryptSecret henc
  have hin : SealedIn aead keyring.currentKey plaintext secret.aad bytes := ⟨nonce, hsealed, hbytes⟩
  refine ⟨decryptSecret_iff.mpr ⟨_, hkey, hin⟩,
    fun reader hreader => decryptSecret_iff.mpr ⟨_, hreader, hin⟩, ?_,
    fun reader bytes' keyVersion' secret' opened h => decryptSecret_iff.mp h⟩
  intro reader keyVersion' secret' opened hne h
  obtain ⟨key, -, hin'⟩ := decryptSecret_iff.mp h
  exact hne (Secret.aad_injective (hin'.unique hin).2)

def ordersSecret : Secret := .instancePassword ⟨List.range 16 |>.map UInt8.ofNat, rfl⟩

def onceSealed : IdealAead Unit :=
  { overhead := 16
    sealBytes := fun _ _ plaintext _ => plaintext ++ List.replicate 16 0
    openBytes := fun _ nonce ciphertext aad =>
      if nonce = zeroNonce.bytes ∧ aad = ordersSecret.aad
        ∧ ciphertext = utf8 "s3cret" ++ List.replicate 16 0 then some (utf8 "s3cret") else none
    Sealed := fun _ nonce plaintext aad =>
      nonce = zeroNonce.bytes ∧ plaintext = utf8 "s3cret" ∧ aad = ordersSecret.aad
    length_sealed := plainKeyring.aead.length_sealed
    open_iff := by
      intro _ nonce ciphertext aad plaintext
      constructor
      · intro h
        split_ifs at h with hsealed
        obtain ⟨rfl, rfl, rfl⟩ := hsealed
        cases h
        exact ⟨⟨rfl, rfl, rfl⟩, rfl⟩
      · rintro ⟨⟨rfl, rfl, rfl⟩, rfl⟩
        simp
    sealed_inj := by
      rintro _ _ _ _ _ _ _ _ ⟨rfl, rfl, rfl⟩ ⟨rfl, rfl, rfl⟩ _
      exact ⟨rfl, rfl, rfl⟩ }

def ordersKeyring : CredentialKeyring Unit :=
  { directory := fun _ => .missing, currentVersion := 1, currentKey := () }

theorem secrets_bound_orders :
    ordersKeyring.encryptSecret onceSealed zeroNonce (utf8 "s3cret") ordersSecret
        = .ok (envelope zeroNonce (utf8 "s3cret" ++ List.replicate 16 0), 1)
      ∧ onceSealed.Sealed () zeroNonce.bytes (utf8 "s3cret") ordersSecret.aad
      ∧ ordersKeyring.decryptSecret onceSealed
          (envelope zeroNonce (utf8 "s3cret" ++ List.replicate 16 0)) 1 ordersSecret
        = .ok (utf8 "s3cret") :=
  ⟨rfl, ⟨rfl, rfl, rfl⟩, ((secrets_bound onceSealed).2 ordersKeyring ordersSecret zeroNonce
    (utf8 "s3cret") _ 1 rfl ⟨rfl, rfl, rfl⟩).1⟩

end CredentialKeyring

end DbsMonitor
