import DbsMonitor.CredentialMigration

/-!
# The migration of passwords can be stopped at any point

The passwords are in their column until the migration that drops it, which the database refuses
while a row has no ciphertext. A ciphertext is written with a key read from its file, and no key
file is written over: a run creates one only where there is none at all.
-/

namespace DbsMonitor.CredentialMigration

open Machine

variable {Key : Type} {aead : Aead Key} {plain : Uuid → List UInt8}
  {s t : CredentialMigration Key} {a : Action Key}

/-- The row has a ciphertext that opens with a key on disk, to the password of the instance. -/
def Opens (aead : Aead Key) (plain : Uuid → List UInt8) (s : CredentialMigration Key)
    (row : PasswordRow) : Prop :=
  ∃ ciphertext version, row.encrypted = some (ciphertext, version)
    ∧ (s.keyring aead).decrypt ciphertext version (credentialAAD row.id.text) = some (plain row.id)

def Available (aead : Aead Key) (plain : Uuid → List UInt8) (s : CredentialMigration Key)
    (row : PasswordRow) : Prop :=
  row.password = some (plain row.id) ∨ Opens aead plain s row

/-- What tables and key files have to be: each row has the password in its column while there is
one, a ciphertext when there is none, and a ciphertext opens. -/
structure Sound (aead : Aead Key) (plain : Uuid → List UInt8) (s : CredentialMigration Key) :
    Prop where
  opens : ∀ row ∈ s.instances, row.encrypted.isSome → Opens aead plain s row
  plaintext : s.version < plaintextPasswordRemovalVersion →
    ∀ row ∈ s.instances, row.password = some (plain row.id)
  encrypted : plaintextPasswordRemovalVersion ≤ s.version →
    ∀ row ∈ s.instances, row.encrypted.isSome

def Keyless (s : CredentialMigration Key) : Prop := ∀ version, (s.keys.lookup version).join = none

/-- A run creates a key only where there is none, and encrypts with one that is on disk. -/
def PhaseInv (s : CredentialMigration Key) : Prop :=
  match s.phase with
  | .creatingKey | .writingKey => s.Keyless
  | .encrypting keyring => (s.keys.lookup keyring.version).join = some keyring.key
  | _ => True

/-- No row is lost, and the passwords are dropped only behind ciphertexts that open. -/
structure Kept (aead : Aead Key) (plain : Uuid → List UInt8) (s t : CredentialMigration Key) :
    Prop where
  instances : t.instances.map PasswordRow.id = s.instances.map PasswordRow.id
  removed : s.version < plaintextPasswordRemovalVersion →
    plaintextPasswordRemovalVersion ≤ t.version → ∀ row ∈ s.instances, Opens aead plain s row

theorem Sound.available (h : Sound aead plain s) (row : PasswordRow) (hrow : row ∈ s.instances) :
    Available aead plain s row := by
  by_cases hversion : s.version < plaintextPasswordRemovalVersion
  · exact .inl (h.plaintext hversion row hrow)
  · exact .inr (h.opens row hrow (h.encrypted (Nat.le_of_not_lt hversion) row hrow))

theorem Sound.not_encrypted (h : Sound aead plain s) (hkeys : s.Keyless) (row : PasswordRow)
    (hrow : row ∈ s.instances) : row.encrypted.isSome = false := by
  by_contra hsome
  obtain ⟨ciphertext, version, -, hopen⟩ := h.opens row hrow (Bool.eq_true_of_not_eq_false hsome)
  have hnone : (s.keyring aead).key version = none := hkeys version
  simp [Keyring.decrypt, hnone] at hopen

theorem Sound.setKeys (h : Sound aead plain s) (hkeys : s.Keyless)
    (keys : AList fun _ : ℕ => Option Key) (phase : MigrationPhase Key) :
    Sound aead plain { s with keys := keys, phase := phase } where
  opens := fun row hrow hsome => by
    rw [h.not_encrypted hkeys row hrow] at hsome
    cases hsome
  plaintext := h.plaintext
  encrypted := h.encrypted

theorem id_encryptPassword (keyring : OpenKeyring Key) (nonces : Uuid → Nonce)
    (row : PasswordRow) : (encryptPassword aead keyring nonces row).id = row.id := by
  unfold encryptPassword
  split <;> rfl

theorem password_encryptPassword (keyring : OpenKeyring Key) (nonces : Uuid → Nonce)
    (row : PasswordRow) :
    (encryptPassword aead keyring nonces row).password = row.password := by
  unfold encryptPassword
  split <;> rfl

theorem opens_encryptPassword {keyring : OpenKeyring Key} (nonces : Uuid → Nonce)
    {row : PasswordRow} (hkey : (s.keys.lookup keyring.version).join = some keyring.key)
    (hrow : Opens aead plain s row ∨ row.encrypted = none ∧ row.password = some (plain row.id)) :
    Opens aead plain s (encryptPassword aead keyring nonces row) := by
  rcases hrow with hopens | ⟨hnone, hpassword⟩
  · obtain ⟨ciphertext, version, hsome, hopen⟩ := hopens
    have hrow : encryptPassword aead keyring nonces row = row := by
      rw [encryptPassword, hsome]
    rw [hrow]
    exact ⟨ciphertext, version, hsome, hopen⟩
  · have hencrypt : (s.keyring aead).encrypt keyring.version (nonces row.id) (plain row.id)
        (credentialAAD row.id.text) = some (credentialEnvelopeVersion :: ((nonces row.id).bytes
          ++ aead.sealBytes keyring.key (nonces row.id).bytes (plain row.id)
            (credentialAAD row.id.text))) := by
      simp only [Keyring.encrypt, CredentialMigration.keyring, hkey, Option.map_some]
    unfold encryptPassword
    rw [hnone, hpassword]
    exact ⟨_, _, rfl, (s.keyring aead).decrypt_encrypt hencrypt⟩

theorem Sound.encrypt (h : Sound aead plain s) {keyring : OpenKeyring Key} (nonces : Uuid → Nonce)
    (hkey : (s.keys.lookup keyring.version).join = some keyring.key)
    (phase : MigrationPhase Key) :
    Sound aead plain { s with
      instances := s.instances.map (encryptPassword aead keyring nonces), phase := phase } := by
  have hopens : ∀ row ∈ s.instances.map (encryptPassword aead keyring nonces),
      Opens aead plain s row := by
    intro row hrow
    obtain ⟨old, hold, rfl⟩ := List.mem_map.mp hrow
    refine opens_encryptPassword nonces hkey ?_
    rcases hencrypted : old.encrypted with _ | entry
    · refine .inr ⟨rfl, h.plaintext ?_ old hold⟩
      by_contra hversion
      simpa [hencrypted] using h.encrypted (Nat.le_of_not_lt hversion) old hold
    · exact .inl (h.opens old hold (by simp [hencrypted]))
  refine ⟨fun row hrow _ => hopens row hrow, fun hversion row hrow => ?_, fun _ row hrow => ?_⟩
  · obtain ⟨old, hold, rfl⟩ := List.mem_map.mp hrow
    rw [password_encryptPassword, id_encryptPassword]
    exact h.plaintext hversion old hold
  · obtain ⟨_, _, hsome, -⟩ := hopens row hrow
    simp [hsome]

theorem applyMigration_kept (h : Sound aead plain s) (hstep : s.applyMigration = some t) :
    Sound aead plain t ∧ Kept aead plain s t ∧ t.phase = s.phase ∧ t.keys = s.keys := by
  unfold applyMigration at hstep
  split_ifs at hstep with hremoval hall
  · cases hstep
    have hsome : ∀ row ∈ s.instances, row.encrypted.isSome := by simpa using hall
    refine ⟨⟨fun row hrow _ => ?_, fun hversion => ?_, fun _ row hrow => ?_⟩,
      ⟨by simp [Function.comp_def], fun _ _ row hrow => h.opens row hrow (hsome row hrow)⟩,
      rfl, rfl⟩
    · obtain ⟨old, hold, rfl⟩ := List.mem_map.mp hrow
      exact h.opens old hold (hsome old hold)
    · exact absurd hversion (by dsimp only; omega)
    · obtain ⟨old, hold, rfl⟩ := List.mem_map.mp hrow
      exact hsome old hold
  · cases hstep
    refine ⟨⟨h.opens, fun hversion => h.plaintext (Nat.lt_of_succ_lt hversion), fun hversion => ?_⟩,
      ⟨rfl, fun hversion hversion' => ?_⟩, rfl, rfl⟩
    · exact h.encrypted (by dsimp only at hversion; omega)
    · dsimp only at hversion'
      omega

theorem kept_of_same (hinstances : t.instances = s.instances) (hversion : t.version = s.version) :
    Kept aead plain s t :=
  ⟨by rw [hinstances], fun hbefore hafter => absurd hafter (by omega)⟩

theorem phaseInv_inspect {current : ℕ} {phase : MigrationPhase Key}
    (h : s.inspect current = some phase) : PhaseInv { s with phase := phase } := by
  unfold inspect initializeCredentialKeyring at h
  split_ifs at h with hplaintext hopening hkeys
  · cases h
    trivial
  · cases h
    intro version
    have hnot : version ∉ s.keys := by
      rw [AList.mem_keys, hkeys]
      exact List.not_mem_nil
    rw [AList.lookup_eq_none.mpr hnot]
    rfl
  · cases h
    trivial

theorem kept_step (h : Sound aead plain s) (hphase : PhaseInv s) (hstep : step aead s a = some t) :
    Kept aead plain s t ∧ Sound aead plain t ∧ PhaseInv t := by
  have hsame : ∀ phase current, Sound aead plain { s with current := current, phase := phase } :=
    fun _ _ => ⟨h.opens, h.plaintext, h.encrypted⟩
  unfold PhaseInv at hphase
  cases a with
  | begin =>
    simp only [step] at hstep
    split at hstep <;> cases hstep
    exact ⟨kept_of_same rfl rfl, hsame _ _, trivial⟩
  | migrate =>
    have happly : s.applyMigration = some t ∧ PhaseInv s := by
      simp only [step] at hstep
      split at hstep
      · rename_i hupgrading
        split_ifs at hstep
        exact ⟨hstep, by rw [PhaseInv, hupgrading]; trivial⟩
      · rename_i hfinishing
        split_ifs at hstep
        exact ⟨hstep, by rw [PhaseInv, hfinishing]; trivial⟩
      · cases hstep
    obtain ⟨hsound, hkept, hphase', hkeys⟩ := applyMigration_kept h happly.1
    refine ⟨hkept, hsound, ?_⟩
    have hinv := happly.2
    unfold PhaseInv Keyless at hinv ⊢
    rw [hphase', hkeys]
    exact hinv
  | inspect =>
    simp only [step] at hstep
    split at hstep
    · split_ifs at hstep
      obtain ⟨phase, hinspect, rfl⟩ := Option.map_eq_some_iff.mp hstep
      exact ⟨kept_of_same rfl rfl, hsame _ _, phaseInv_inspect hinspect⟩
    · cases hstep
  | createKey =>
    simp only [step] at hstep
    split at hstep <;> cases hstep
    rename_i hcreating
    rw [hcreating] at hphase
    refine ⟨kept_of_same rfl rfl, h.setKeys hphase _ _, fun version => ?_⟩
    by_cases hversion : version = 1
    · subst hversion
      rw [AList.lookup_insert]
      rfl
    · rw [AList.lookup_insert_ne hversion]
      exact hphase version
  | writeKey key =>
    simp only [step] at hstep
    split at hstep <;> cases hstep
    rename_i hwriting
    rw [hwriting] at hphase
    exact ⟨kept_of_same rfl rfl, h.setKeys hphase _ _, trivial⟩
  | discardKey =>
    simp only [step] at hstep
    split at hstep <;> cases hstep
    rename_i hwriting
    rw [hwriting] at hphase
    exact ⟨kept_of_same rfl rfl, h.setKeys hphase _ _, trivial⟩
  | activate =>
    simp only [step] at hstep
    split at hstep <;> cases hstep
    exact ⟨kept_of_same rfl rfl, hsame _ _, trivial⟩
  | openKeyring =>
    simp only [step] at hstep
    split at hstep
    · obtain ⟨keyring, hopen, rfl⟩ := Option.map_eq_some_iff.mp hstep
      refine ⟨kept_of_same rfl rfl, hsame _ _, ?_⟩
      obtain ⟨version, -, hread⟩ := Option.bind_eq_some_iff.mp hopen
      split_ifs at hread
      obtain ⟨key, hkey, rfl⟩ := Option.map_eq_some_iff.mp hread
      exact hkey
    · cases hstep
  | encrypt nonces =>
    simp only [step] at hstep
    split at hstep <;> cases hstep
    rename_i keyring hencrypting
    rw [hencrypting] at hphase
    have hsound := h.encrypt nonces hphase .finishing
    refine ⟨⟨?_, fun hbefore hafter => absurd hbefore (Nat.not_lt.mpr hafter)⟩, hsound, trivial⟩
    simp [Function.comp_def, id_encryptPassword]
  | finish =>
    simp only [step] at hstep
    split at hstep
    · split_ifs at hstep
      cases hstep
      exact ⟨kept_of_same rfl rfl, hsame _ _, trivial⟩
    · cases hstep
  | crash =>
    cases hstep
    exact ⟨kept_of_same rfl rfl, hsame _ _, trivial⟩

/-- Everything is migrated, and no run under way will do more than look. -/
def Done (s : CredentialMigration Key) : Prop :=
  latestVersion ≤ s.version ∧
    match s.phase with
    | .idle | .finishing => True
    | .upgrading current => latestVersion ≤ current
    | _ => False

def Same (s t : CredentialMigration Key) : Prop :=
  t.version = s.version ∧ t.instances = s.instances ∧ t.keys = s.keys ∧ t.current = s.current

theorem done_step (h : Done s) (hstep : step aead s a = some t) : Done t ∧ Same s t := by
  obtain ⟨hversion, hphase⟩ := h
  have hlatest : ¬ s.version < latestVersion := Nat.not_lt.mpr hversion
  have hschema : ¬ s.version < credentialSchemaVersion :=
    fun hlt => hlatest (hlt.trans (by decide))
  cases a with
  | begin =>
    simp only [step] at hstep
    split at hstep <;> cases hstep
    exact ⟨⟨hversion, hversion⟩, rfl, rfl, rfl, rfl⟩
  | migrate =>
    simp only [step, if_neg hschema, if_neg hlatest] at hstep
    split at hstep <;> cases hstep
  | inspect =>
    simp only [step, if_neg hschema] at hstep
    split at hstep
    · rename_i current hupgrading
      rw [hupgrading] at hphase
      -- the version read at the beginning is past the encryption
      have hpast : ¬ current < plaintextPasswordRemovalVersion :=
        fun hlt => absurd (hphase.trans_lt hlt) (by decide)
      rw [inspect, if_neg (fun hneed => hpast hneed.1)] at hstep
      cases hstep
      exact ⟨⟨hversion, trivial⟩, rfl, rfl, rfl, rfl⟩
    · cases hstep
  | createKey | writeKey | discardKey | activate | openKeyring | encrypt =>
    simp only [step] at hstep
    split at hstep
    · rename_i hs
      rw [hs] at hphase
      exact hphase.elim
    · cases hstep
  | finish =>
    simp only [step, if_neg hlatest] at hstep
    split at hstep <;> cases hstep
    exact ⟨⟨hversion, trivial⟩, rfl, rfl, rfl, rfl⟩
  | crash =>
    cases hstep
    exact ⟨⟨hversion, trivial⟩, rfl, rfl, rfl, rfl⟩

theorem done_of_finish (hstep : step aead s .finish = some t) : Done t := by
  simp only [step] at hstep
  split at hstep
  · split_ifs at hstep with hlt
    cases hstep
    exact ⟨Nat.le_of_not_lt hlt, trivial⟩
  · cases hstep

theorem Done.run_same (h : Done s) (again : List (Action Key))
    (hrun : run (step aead) s again = some t) : Same s t := by
  refine (run_invariant (I := fun t => Done t ∧ Same s t) (step aead) ?_ again
    ⟨h, rfl, rfl, rfl, rfl⟩ hrun).2
  rintro t a u ⟨hdone, hsame⟩ hstep
  obtain ⟨hdone', hsame'⟩ := done_step hdone hstep
  exact ⟨hdone', hsame'.1.trans hsame.1, hsame'.2.1.trans hsame.2.1,
    hsame'.2.2.1.trans hsame.2.2.1, hsame'.2.2.2.trans hsame.2.2.2⟩

structure Safe (aead : Aead Key) (plain : Uuid → List UInt8) (start s : CredentialMigration Key)
    (a : Action Key) (t : CredentialMigration Key) : Prop where
  instances : t.instances.map PasswordRow.id = start.instances.map PasswordRow.id
  available : ∀ row ∈ t.instances, Available aead plain t row
  removed : s.version < plaintextPasswordRemovalVersion →
    plaintextPasswordRemovalVersion ≤ t.version → ∀ row ∈ s.instances, Opens aead plain s row
  completed : a = .finish → (∀ row ∈ t.instances, Opens aead plain t row)
    ∧ ∀ again u, run (step aead) t again = some u → Same t u

/-- The runs of `actions` may be stopped and started again in any way. -/
theorem credential_migration_crash_safe (aead : Aead Key) (plain : Uuid → List UInt8)
    {start : CredentialMigration Key} (hstart : Sound aead plain start)
    (hidle : start.phase = .idle) (actions : List (Action Key)) :
    Along (step aead) (Safe aead plain start) start actions := by
  refine Along.of_invariant (I := fun s => Sound aead plain s ∧ PhaseInv s
    ∧ s.instances.map PasswordRow.id = start.instances.map PasswordRow.id) ?_
    ⟨hstart, by rw [PhaseInv, hidle]; trivial, rfl⟩
  rintro s a t ⟨hsound, hphase, hids⟩ hstep
  obtain ⟨hkept, hsound', hphase'⟩ := kept_step hsound hphase hstep
  refine ⟨⟨hkept.instances.trans hids, hsound'.available, hkept.removed, ?_⟩, hsound', hphase',
    hkept.instances.trans hids⟩
  rintro rfl
  have hdone := done_of_finish hstep
  have hremoved : plaintextPasswordRemovalVersion ≤ t.version := le_trans (by decide) hdone.1
  exact ⟨fun row hrow => hsound'.opens row hrow (hsound'.encrypted hremoved row hrow),
    fun again _ hrun => hdone.run_same again hrun⟩

def plaintextInstance : CredentialMigration Unit :=
  { version := 5
    instances := [⟨⟨List.replicate 16 7, length_sevens⟩, some (utf8 "s3cret"), none⟩] }

/-- The first run is stopped after the ciphertexts are written, the second completes. -/
def stoppedEncrypted : List (Action Unit) :=
  [.begin, .migrate, .inspect, .createKey, .writeKey (), .activate, .openKeyring,
    .encrypt fun _ => zeroNonce, .crash, .begin, .inspect] ++ List.replicate 27 .migrate
    ++ [.finish]

theorem credential_migration_crash_safe_stopped :
    (run (step plainKeyring.aead) plaintextInstance stoppedEncrypted).isSome = true
      ∧ Along (step plainKeyring.aead)
        (Safe plainKeyring.aead (fun _ => utf8 "s3cret") plaintextInstance)
        plaintextInstance stoppedEncrypted :=
  ⟨by decide +kernel, credential_migration_crash_safe plainKeyring.aead (fun _ => utf8 "s3cret")
    ⟨by simp [plaintextInstance], by simp [plaintextInstance], by decide⟩ rfl stoppedEncrypted⟩

end DbsMonitor.CredentialMigration
