import DbsMonitor.Rotation

/-!
# A rotation can be stopped at any point

A run encrypts under the key of `current` alone. A key file is created when it is the only one
beside no other, and removed when every row and the snapshot use the current key.
-/

namespace DbsMonitor.Rotation

open Machine

variable {Key : Type}

def Opens (aead : Aead Key) (directory : KeyDirectory Key) (plain : Secret → List UInt8)
    (entries : List SealedEntry) : Prop :=
  ∀ entry ∈ entries, (directory.keyring aead).decrypt entry.ciphertext entry.keyVersion
    entry.secret.aad = some (plain entry.secret)

def Uses (version : ℕ) (entries : List SealedEntry) : Prop :=
  ∀ entry ∈ entries, entry.keyVersion = version

/-- Exactly the current key is on disk, and every row and the snapshot use it. -/
structure Settled (s : Rotation Key) : Prop where
  keys : ∀ version, version ∈ s.directory.keys ↔ version = s.directory.current
  tables : Uses s.directory.current s.tables.entries
  snapshot : ∀ channels ∈ s.directory.snapshot, Uses s.directory.current channels.entries

section Counts

variable {tables : CredentialTables} {version : ℕ}

theorem forall_entries_iff {p : ℕ → Prop} :
    (∀ entry ∈ tables.entries, p entry.keyVersion) ↔
      (∀ row ∈ tables.instances, p row.passwordKeyVersion)
        ∧ (∀ row ∈ tables.channels.smtp, p row.authKeyVersion)
        ∧ ∀ row ∈ tables.channels.webhooks, p row.signingKeyVersion := by
  simp only [CredentialTables.entries, ChannelSecrets.entries, List.mem_append, or_imp,
    forall_and, List.forall_mem_map, List.forall_mem_flatMap, Option.mem_toList]
  simp [InstanceCredential.entry, SMTPAuth.entry, WebhookSigning.entries]

theorem uses_of_count (h : tables.countCredentialsNotUsingKeyVersion version = 0) :
    Uses version tables.entries := by
  simp only [CredentialTables.countCredentialsNotUsingKeyVersion, Nat.add_eq_zero_iff,
    List.countP_eq_zero, Option.mem_toList, decide_eq_true_eq, not_not] at h
  exact (forall_entries_iff (p := (· = version))).mpr ⟨h.1.1, h.1.2, h.2⟩

end Counts

section Opens

variable {aead : Aead Key} {directory directory' : KeyDirectory Key}
  {plain : Secret → List UInt8} {entries : List SealedEntry}

theorem Opens.lookup (h : Opens aead directory plain entries) {entry : SealedEntry}
    (hentry : entry ∈ entries) : entry.keyVersion ∈ directory.keys := by
  have hopen := h entry hentry
  rw [← AList.lookup_isSome]
  unfold Keyring.decrypt at hopen
  obtain ⟨key, hkey, -⟩ := Option.bind_eq_some_iff.mp hopen
  exact Option.isSome_iff_exists.mpr ⟨key, hkey⟩

theorem Opens.congr (h : Opens aead directory plain entries)
    (hkeys : ∀ entry ∈ entries,
      directory'.keys.lookup entry.keyVersion = directory.keys.lookup entry.keyVersion) :
    Opens aead directory' plain entries := by
  intro entry hentry
  have hopen := h entry hentry
  have hkey : (directory'.keyring aead).key entry.keyVersion
      = (directory.keyring aead).key entry.keyVersion := hkeys entry hentry
  unfold Keyring.decrypt at hopen ⊢
  rw [hkey]
  exact hopen

theorem Opens.insert (h : Opens aead directory plain entries) {version : ℕ} {key : Key}
    (hversion : version ∉ directory.keys) :
    Opens aead { directory with keys := directory.keys.insert version key } plain entries := by
  refine h.congr fun entry hentry => AList.lookup_insert_ne ?_
  rintro rfl
  exact hversion (h.lookup hentry)

theorem Opens.erase (h : Opens aead directory plain entries) {version : ℕ}
    (hunused : ∀ entry ∈ entries, entry.keyVersion ≠ version) :
    Opens aead { directory with keys := directory.keys.erase version } plain entries :=
  h.congr fun entry hentry => AList.lookup_erase_ne (hunused entry hentry)

end Opens

section Reencrypt

variable {aead : Aead Key} {directory : KeyDirectory Key} {keyring : OpenKeyring Key}
  {plain : Secret → List UInt8} {nonces : Secret → Nonce} {entries entries' : List SealedEntry}

theorem keys_eq (h : directory.keys.lookup keyring.version = some keyring.key) :
    keys aead directory keyring = directory.keyring aead := by
  unfold keys KeyDirectory.keyring
  congr 1
  funext version
  split_ifs with hversion
  · rw [hversion, h]
  · rfl

structure Renewed (aead : Aead Key) (directory : KeyDirectory Key) (version : ℕ)
    (plain : Secret → List UInt8) (entries entries' : List SealedEntry) : Prop where
  secrets : entries'.map SealedEntry.secret = entries.map SealedEntry.secret
  uses : Uses version entries'
  opens : Opens aead directory plain entries'

theorem Renewed.append {version : ℕ} {more more' : List SealedEntry}
    (h : Renewed aead directory version plain entries entries')
    (hmore : Renewed aead directory version plain more more') :
    Renewed aead directory version plain (entries ++ more) (entries' ++ more') := by
  refine ⟨by simp [h.secrets, hmore.secrets], fun entry hentry => ?_, fun entry hentry => ?_⟩
  · exact (List.mem_append.mp hentry).elim (h.uses entry) (hmore.uses entry)
  · exact (List.mem_append.mp hentry).elim (h.opens entry) (hmore.opens entry)

theorem Renewed.nil {version : ℕ} : Renewed aead directory version plain [] [] :=
  ⟨rfl, by simp [Uses], by simp [Opens]⟩

theorem renewed_of_uses {version : ℕ} (hopens : Opens aead directory plain entries)
    (huses : Uses version entries) : Renewed aead directory version plain entries entries :=
  ⟨rfl, huses, hopens⟩

theorem renewed_mapM {α : Type*} {f : α → Option α} {g : α → List SealedEntry} {version : ℕ} :
    ∀ {rows rows' : List α}, Opens aead directory plain (rows.flatMap g) →
      (∀ row row', Opens aead directory plain (g row) → f row = some row' →
        Renewed aead directory version plain (g row) (g row')) →
      rows.mapM f = some rows' →
      Renewed aead directory version plain (rows.flatMap g) (rows'.flatMap g)
  | [], rows', _, _, h => by
    rw [List.mapM_nil] at h
    cases h
    exact .nil
  | row :: rows, rows', hopens, hf, h => by
    rw [List.mapM_cons] at h
    obtain ⟨row', hrow, h⟩ := Option.bind_eq_some_iff.mp h
    obtain ⟨rest, hrest, h⟩ := Option.bind_eq_some_iff.mp h
    cases h
    rw [List.flatMap_cons] at hopens ⊢
    have hrow := hf row row' (fun entry he => hopens entry (List.mem_append_left _ he)) hrow
    have hrest := renewed_mapM (fun entry he => hopens entry (List.mem_append_right _ he)) hf hrest
    exact hrow.append hrest

theorem renewed_reencrypt (hkey : directory.keys.lookup keyring.version = some keyring.key)
    {entry : SealedEntry} {ciphertext : List UInt8} (hopens : Opens aead directory plain [entry])
    (h : reencrypt aead directory keyring nonces entry = some ciphertext) :
    Renewed aead directory keyring.version plain [entry]
      [⟨entry.secret, ciphertext, keyring.version⟩] := by
  unfold reencrypt at h
  rw [keys_eq hkey, hopens entry (by simp), Option.bind_some] at h
  refine ⟨rfl, by simp [Uses], ?_⟩
  intro entry' hentry'
  obtain rfl := List.mem_singleton.mp hentry'
  exact Keyring.decrypt_encrypt _ h

variable (hkey : directory.keys.lookup keyring.version = some keyring.key)
include hkey

theorem renewed_credential (row row' : InstanceCredential)
    (hopens : Opens aead directory plain [row.entry])
    (h : reencryptCredential aead directory keyring nonces row = some row') :
    Renewed aead directory keyring.version plain [row.entry] [row'.entry] := by
  unfold reencryptCredential at h
  split_ifs at h with hversion
  · cases h
    exact renewed_of_uses hopens (by simpa [Uses, InstanceCredential.entry] using hversion)
  · obtain ⟨ciphertext, hciphertext, rfl⟩ := Option.map_eq_some_iff.mp h
    exact renewed_reencrypt hkey hopens hciphertext

theorem renewed_smtp {row row' : Option SMTPAuth}
    (hopens : Opens aead directory plain (row.toList.map SMTPAuth.entry))
    (h : reencryptSMTPChannel aead directory keyring nonces row = some row') :
    Renewed aead directory keyring.version plain (row.toList.map SMTPAuth.entry)
      (row'.toList.map SMTPAuth.entry) := by
  rcases row with _ | row
  · cases h
    exact .nil
  simp only [reencryptSMTPChannel] at h
  split_ifs at h with hversion
  · cases h
    exact renewed_of_uses hopens (by simpa [Uses, SMTPAuth.entry] using hversion)
  · obtain ⟨ciphertext, hciphertext, rfl⟩ := Option.map_eq_some_iff.mp h
    exact renewed_reencrypt hkey hopens hciphertext

theorem renewed_webhook (row row' : WebhookSigning)
    (hopens : Opens aead directory plain row.entries)
    (h : reencryptWebhookTarget aead directory keyring nonces row = some row') :
    Renewed aead directory keyring.version plain row.entries row'.entries := by
  unfold reencryptWebhookTarget at h
  split_ifs at h with hversion
  · cases h
    exact renewed_of_uses hopens (by simpa [Uses, WebhookSigning.entries] using hversion)
  · obtain ⟨signingValue, hvalue, h⟩ := Option.bind_eq_some_iff.mp h
    obtain ⟨signatureHeader, hheader, h⟩ := Option.bind_eq_some_iff.mp h
    cases h
    have hvalue := renewed_reencrypt hkey
      (fun entry he => hopens entry (List.mem_cons.mpr (.inl (List.mem_singleton.mp he)))) hvalue
    have hheader := renewed_reencrypt hkey
      (fun entry he => hopens entry (List.mem_cons_of_mem _ he)) hheader
    exact hvalue.append hheader

theorem renewed_tables {tables tables' : CredentialTables}
    (hopens : Opens aead directory plain tables.entries)
    (h : reencryptTables aead directory keyring nonces tables = some tables') :
    Renewed aead directory keyring.version plain tables.entries tables'.entries
      ∧ tables'.channels.entries.map SealedEntry.secret
        = tables.channels.entries.map SealedEntry.secret := by
  obtain ⟨instances, hinstances, h⟩ := Option.bind_eq_some_iff.mp h
  obtain ⟨smtp, hsmtp, h⟩ := Option.bind_eq_some_iff.mp h
  obtain ⟨webhooks, hwebhooks, h⟩ := Option.bind_eq_some_iff.mp h
  cases h
  have hleft := fun entry he => hopens entry (List.mem_append_left _ he)
  have hright := fun entry he => hopens entry (List.mem_append_right _ he)
  have hchannels := (renewed_smtp hkey (fun entry he => hright entry (List.mem_append_left _ he))
    hsmtp).append (renewed_mapM (fun entry he => hright entry (List.mem_append_right _ he))
      (renewed_webhook hkey) hwebhooks)
  refine ⟨Renewed.append ?_ hchannels, hchannels.secrets⟩
  rw [List.map_eq_flatMap] at hleft
  rw [List.map_eq_flatMap, List.map_eq_flatMap]
  exact renewed_mapM hleft (renewed_credential hkey) hinstances

end Reencrypt

section Run

variable {aead : Aead Key} {plain snapshotPlain : Secret → List UInt8} {start s t : Rotation Key}
  {a : Action Key}

/-- Every secret of the start is there and opens with the keys on disk, to the plaintext it had; the
snapshot is that of the start, or has the secrets of the channels in the tables. -/
structure SecretsKept (aead : Aead Key) (plain snapshotPlain : Secret → List UInt8)
    (start s : Rotation Key) : Prop where
  secrets : s.tables.entries.map SealedEntry.secret = start.tables.entries.map SealedEntry.secret
  channels : s.tables.channels.entries.map SealedEntry.secret
    = start.tables.channels.entries.map SealedEntry.secret
  tables : Opens aead s.directory plain s.tables.entries
  snapshot : (s.directory.snapshot = start.directory.snapshot
      ∧ ∀ channels ∈ s.directory.snapshot, Opens aead s.directory snapshotPlain channels.entries)
    ∨ ∃ channels, s.directory.snapshot = some channels
      ∧ channels.entries.map SealedEntry.secret
        = start.tables.channels.entries.map SealedEntry.secret
      ∧ Opens aead s.directory plain channels.entries

def Opened (s : Rotation Key) (keyring : OpenKeyring Key) : Prop :=
  keyring.version = s.directory.current
    ∧ s.directory.keys.lookup keyring.version = some keyring.key

def SnapshotUses (s : Rotation Key) (version : ℕ) : Prop :=
  ∀ channels ∈ s.directory.snapshot, Uses version channels.entries

def PhaseInv (s : Rotation Key) : Prop :=
  match s.phase with
  | .idle => True
  | .generating _ => (∀ version, version ∈ s.directory.keys ↔ version = s.directory.current)
    ∧ Uses s.directory.current s.tables.entries
  | .activating version => version ∈ s.directory.keys
  | .reencrypting keyring => Opened s keyring
  | .syncing keyring => Opened s keyring ∧ Uses keyring.version s.tables.entries
  | .verifying keyring => Opened s keyring ∧ Uses keyring.version s.tables.entries
    ∧ SnapshotUses s keyring.version
  | .removing keyring versions => Opened s keyring ∧ Uses keyring.version s.tables.entries
    ∧ SnapshotUses s keyring.version ∧ keyring.version ∉ versions
    ∧ ∀ version ∈ s.directory.keys, version = keyring.version ∨ version ∈ versions

theorem mem_credentialKeyVersions {directory : KeyDirectory Key} {version : ℕ} :
    version ∈ credentialKeyVersions directory ↔ version ∈ directory.keys := by
  unfold credentialKeyVersions
  rw [List.mem_insertionSort, AList.mem_keys]

theorem inspectVersions_cases {keyring : OpenKeyring Key} {nextVersion : ℕ}
    {phase : RotationPhase Key} : ∀ {versions : List ℕ},
    inspectVersions keyring nextVersion versions = some phase →
      phase = .syncing keyring
        ∨ phase = .generating nextVersion
          ∧ ∀ version ∈ versions, keyring.version ≤ version ∧ version ≤ nextVersion
  | [], h => by
    cases h
    exact .inr ⟨rfl, by simp⟩
  | version :: versions, h => by
    unfold inspectVersions at h
    split_ifs at h with hold hnew
    · cases h
      exact .inl rfl
    · rcases inspectVersions_cases h with hphase | ⟨hphase, hrest⟩
      · exact .inl hphase
      · refine .inr ⟨hphase, fun other hother => ?_⟩
        rcases List.mem_cons.mp hother with rfl | hmem
        · omega
        · exact hrest other hmem

theorem phaseInv_prepare {directory : KeyDirectory Key} {tables : CredentialTables}
    {phase : RotationPhase Key} (h : prepare directory tables = some phase) :
    PhaseInv { directory := directory, tables := tables, phase := phase } := by
  obtain ⟨keyring, hkeyring, h⟩ := Option.bind_eq_some_iff.mp h
  obtain ⟨key, hkey, rfl⟩ := Option.map_eq_some_iff.mp hkeyring
  simp only [] at h
  split_ifs at h with hlimit hnext hcount
  · cases h
    exact mem_credentialKeyVersions.mp hnext
  · cases h
    exact ⟨rfl, hkey⟩
  have huses := uses_of_count (Nat.eq_zero_of_not_pos hcount)
  rcases inspectVersions_cases h with rfl | ⟨rfl, hversions⟩
  · exact ⟨⟨rfl, hkey⟩, huses⟩
  refine ⟨fun version => ⟨fun hversion => ?_, ?_⟩, huses⟩
  · have hmem := mem_credentialKeyVersions.mpr hversion
    obtain ⟨hle, hge⟩ := hversions version hmem
    have hne : version ≠ directory.current + 1 := by
      rintro rfl
      exact hnext hmem
    simp only [] at hle hge ⊢
    omega
  · rintro rfl
    rw [← AList.lookup_isSome]
    exact Option.isSome_iff_exists.mpr ⟨key, hkey⟩

def Stored (s : Rotation Key) (entries : List SealedEntry) : Prop :=
  entries = s.tables.entries ∨ ∃ channels ∈ s.directory.snapshot, entries = channels.entries

theorem SecretsKept.transfer (h : SecretsKept aead plain snapshotPlain start s)
    (htables : t.tables = s.tables) (hsnapshot : t.directory.snapshot = s.directory.snapshot)
    (hopens : ∀ plain entries, Stored s entries → Opens aead s.directory plain entries →
      Opens aead t.directory plain entries) :
    SecretsKept aead plain snapshotPlain start t := by
  refine ⟨htables ▸ h.secrets, htables ▸ h.channels, ?_, ?_⟩
  · rw [htables]
    exact hopens plain _ (.inl rfl) h.tables
  rw [hsnapshot]
  rcases h.snapshot with ⟨hstart, hold⟩ | ⟨channels, hchannels, hsecrets, hnew⟩
  · exact .inl ⟨hstart, fun channels hmem =>
      hopens _ _ (.inr ⟨channels, hmem, rfl⟩) (hold channels hmem)⟩
  · exact .inr ⟨channels, hchannels, hsecrets, hopens _ _ (.inr ⟨channels, hchannels, rfl⟩) hnew⟩

theorem SecretsKept.phase (h : SecretsKept aead plain snapshotPlain start s)
    (phase : RotationPhase Key) :
    SecretsKept aead plain snapshotPlain start { s with phase := phase } :=
  h.transfer rfl rfl fun _ _ _ hopens => hopens

theorem SecretsKept.mem_keys (h : SecretsKept aead plain snapshotPlain start s)
    {entries : List SealedEntry} (hstored : Stored s entries) {entry : SealedEntry}
    (hentry : entry ∈ entries) : entry.keyVersion ∈ s.directory.keys := by
  rcases hstored with rfl | ⟨channels, hmem, rfl⟩
  · exact h.tables.lookup hentry
  rcases h.snapshot with ⟨-, hold⟩ | ⟨channels', hchannels', -, hnew⟩
  · exact (hold channels hmem).lookup hentry
  · obtain rfl := Option.some.inj (hchannels'.symm.trans hmem)
    exact hnew.lookup hentry

theorem keeps_generate {key : Key} (h : SecretsKept aead plain snapshotPlain start s)
    (hstep : step aead s (.generate key) = some t) :
    SecretsKept aead plain snapshotPlain start t ∧ PhaseInv t := by
  simp only [step] at hstep
  split at hstep
  · split_ifs at hstep with hversion
    cases hstep
    refine ⟨h.transfer rfl rfl fun _ _ _ hopens => hopens.insert hversion, ?_⟩
    exact (AList.mem_insert _).mpr (.inl rfl)
  · cases hstep

theorem keeps_activate (h : SecretsKept aead plain snapshotPlain start s) (hphase : PhaseInv s)
    (hstep : step aead s .activate = some t) :
    SecretsKept aead plain snapshotPlain start t ∧ PhaseInv t := by
  simp only [step] at hstep
  split at hstep
  case h_2 => cases hstep
  rename_i version heq
  cases hstep
  refine ⟨h.transfer rfl rfl fun _ _ _ hopens => hopens.congr fun _ _ => rfl, ?_⟩
  simp only [PhaseInv, heq] at hphase
  obtain ⟨key, hkey⟩ := Option.isSome_iff_exists.mp (AList.lookup_isSome.mpr hphase)
  simp only [PhaseInv, openCredentialKeyring, hkey, Option.map_some]
  exact ⟨rfl, hkey⟩

theorem keeps_reencrypt {nonces : Secret → Nonce}
    (h : SecretsKept aead plain snapshotPlain start s) (hphase : PhaseInv s)
    (hstep : step aead s (.reencrypt nonces) = some t) :
    SecretsKept aead plain snapshotPlain start t ∧ PhaseInv t := by
  simp only [step] at hstep
  split at hstep
  case h_2 => cases hstep
  rename_i keyring heq
  obtain ⟨tables, htables, rfl⟩ := Option.map_eq_some_iff.mp hstep
  simp only [PhaseInv, heq] at hphase
  obtain ⟨hrenewed, hchannels⟩ := renewed_tables hphase.2 h.tables htables
  refine ⟨⟨hrenewed.secrets.trans h.secrets, hchannels.trans h.channels, hrenewed.opens,
    h.snapshot⟩, hphase, hrenewed.uses⟩

theorem keeps_sync (h : SecretsKept aead plain snapshotPlain start s) (hphase : PhaseInv s)
    (hstep : step aead s .sync = some t) :
    SecretsKept aead plain snapshotPlain start t ∧ PhaseInv t := by
  simp only [step] at hstep
  split at hstep
  case h_2 => cases hstep
  rename_i keyring heq
  cases hstep
  simp only [PhaseInv, heq] at hphase
  have hopens : ∀ {plain entries}, Opens aead s.directory plain entries →
      Opens aead { s.directory with snapshot := some s.tables.channels } plain entries :=
    fun hopens => hopens.congr fun _ _ => rfl
  refine ⟨⟨h.secrets, h.channels, hopens h.tables, .inr ⟨_, rfl, h.channels, hopens ?_⟩⟩,
    hphase.1, hphase.2, ?_⟩
  · exact fun entry hentry => h.tables entry (List.mem_append_right _ hentry)
  · intro channels hchannels
    cases hchannels
    exact fun entry hentry => hphase.2 entry (List.mem_append_right _ hentry)

theorem keeps_verify (h : SecretsKept aead plain snapshotPlain start s) (hphase : PhaseInv s)
    (hstep : step aead s .verify = some t) :
    SecretsKept aead plain snapshotPlain start t ∧ PhaseInv t := by
  simp only [step] at hstep
  split at hstep
  case h_2 => cases hstep
  rename_i keyring heq
  obtain ⟨versions, hversions, rfl⟩ := Option.map_eq_some_iff.mp hstep
  simp only [PhaseInv, heq] at hphase
  refine ⟨h.phase _, hphase.1, hphase.2.1, hphase.2.2, ?_, ?_⟩
  all_goals
    simp only [staleVersions] at hversions
    split_ifs at hversions
    cases hversions
  · simp
  · intro version hversion
    by_cases hcurrent : version = keyring.version
    · exact .inl hcurrent
    · exact .inr (List.mem_filter.mpr
        ⟨mem_credentialKeyVersions.mpr hversion, by simpa using hcurrent⟩)

theorem keeps_remove (h : SecretsKept aead plain snapshotPlain start s) (hphase : PhaseInv s)
    (hstep : step aead s .remove = some t) :
    SecretsKept aead plain snapshotPlain start t ∧ PhaseInv t := by
  simp only [step] at hstep
  split at hstep
  case h_2 => cases hstep
  rename_i keyring version versions heq
  cases hstep
  simp only [PhaseInv, heq] at hphase
  obtain ⟨hopened, huses, hsnapshot, hcurrent, hkeys⟩ := hphase
  have hne : keyring.version ≠ version := fun hversion => hcurrent (by simp [hversion])
  refine ⟨h.transfer rfl rfl fun _ entries hstored hopens => hopens.erase fun entry hentry => ?_,
    ⟨hopened.1, ?_⟩, huses, hsnapshot, fun hmem => hcurrent (List.mem_cons_of_mem _ hmem), ?_⟩
  · have hversion : entry.keyVersion = keyring.version := by
      rcases hstored with rfl | ⟨channels, hmem, rfl⟩
      · exact huses entry hentry
      · exact hsnapshot channels hmem entry hentry
    rw [hversion]
    exact hne
  · rw [AList.lookup_erase_ne hne]
    exact hopened.2
  · intro other hother
    obtain ⟨hother, hmem⟩ := AList.mem_erase.mp hother
    rcases hkeys other hmem with hkeyring | hlisted
    · exact .inl hkeyring
    · exact .inr ((List.mem_cons.mp hlisted).resolve_left hother)

theorem keeps_step (h : SecretsKept aead plain snapshotPlain start s) (hphase : PhaseInv s)
    (hstep : step aead s a = some t) :
    SecretsKept aead plain snapshotPlain start t ∧ PhaseInv t := by
  cases a
  case begin =>
    simp only [step] at hstep
    split at hstep
    · obtain ⟨phase, hprepare, rfl⟩ := Option.map_eq_some_iff.mp hstep
      exact ⟨h.phase _, phaseInv_prepare hprepare⟩
    · cases hstep
  case generate key => exact keeps_generate h hstep
  case activate => exact keeps_activate h hphase hstep
  case reencrypt nonces => exact keeps_reencrypt h hphase hstep
  case sync => exact keeps_sync h hphase hstep
  case verify => exact keeps_verify h hphase hstep
  case remove => exact keeps_remove h hphase hstep
  case finish =>
    simp only [step] at hstep
    split at hstep <;> cases hstep
    exact ⟨h.phase _, trivial⟩
  case crash =>
    cases hstep
    exact ⟨h.phase _, trivial⟩

theorem settled_of_generate {key : Key} (h : SecretsKept aead plain snapshotPlain start s)
    (hphase : PhaseInv s) (hstep : step aead s (.generate key) = some t) : Settled s := by
  simp only [step] at hstep
  split at hstep
  case h_2 => cases hstep
  rename_i heq
  simp only [PhaseInv, heq] at hphase
  refine ⟨hphase.1, hphase.2, fun channels hmem entry hentry => ?_⟩
  exact (hphase.1 _).mp (h.mem_keys (.inr ⟨channels, hmem, rfl⟩) hentry)

theorem settled_of_finish (hphase : PhaseInv s) (hstep : step aead s .finish = some t) :
    Settled t := by
  simp only [step] at hstep
  split at hstep
  case h_2 => cases hstep
  rename_i keyring heq
  cases hstep
  simp only [PhaseInv, heq] at hphase
  obtain ⟨hopened, huses, hsnapshot, -, hkeys⟩ := hphase
  refine ⟨fun version => ⟨fun hversion => ?_, ?_⟩, hopened.1 ▸ huses, hopened.1 ▸ hsnapshot⟩
  · exact ((hkeys version hversion).resolve_right (by simp)).trans hopened.1
  · rintro rfl
    rw [← AList.lookup_isSome, ← hopened.1]
    exact Option.isSome_iff_exists.mpr ⟨_, hopened.2⟩

end Run

def Action.creates : Action Key → Bool
  | .generate _ => true
  | _ => false

def Action.completes : Action Key → Bool
  | .finish => true
  | _ => false

def firstKey : Rotation Unit :=
  let id : Uuid := ⟨List.replicate 16 7, length_sevens⟩
  let ciphertext := 1 :: (zeroNonce.bytes ++ (utf8 "s3cret" ++ List.replicate 16 0))
  let channels : ChannelSecrets := { smtp := none, webhooks := [⟨id, ciphertext, ciphertext, 1⟩] }
  { directory := { keys := (∅ : AList _).insert 1 (), current := 1, snapshot := some channels }
    tables := { instances := [⟨id, ciphertext, 1⟩], channels := channels } }

/-- Two runs are stopped, after the key file and after `current`; the third completes. -/
def stoppedTwice : List (Action Unit) :=
  [.begin, .generate (), .crash, .begin, .activate, .crash, .begin, .reencrypt fun _ => zeroNonce,
    .sync, .verify, .remove, .finish]

end DbsMonitor.Rotation
