import DbsMonitor.Channels
import DbsMonitor.Pool

/-!
# The secrets of the channels under concurrent edits

What a request writes for a secret it does not carry is what it has read, sealed again or as it was.
So it keeps the secret unless a request that sets it commits between its read and its write: that
change it takes back.
-/

namespace DbsMonitor

open Machine Pool

variable {Key : Type} {config : ChannelConfig Key}

def ChannelConfig.secretIn (config : ChannelConfig Key) (tables : ChannelTables) :
    Secret → Option (List UInt8)
  | .instancePassword _ => none
  | .smtpPassword => (tables.smtp.bind SMTPChannelRow.auth).bind (config.decrypt · .smtpPassword)
  | .webhookSigningValue id => (tables.getWebhookTarget id).bind config.signingValue
  | .webhookSignatureHeader id => (tables.getWebhookTarget id).bind config.signatureHeader

def ChannelWrite.stores (config : ChannelConfig Key) :
    ChannelWrite → Secret → Option (Option (List UInt8))
  | .upsertSMTPChannel row, .smtpPassword => some (row.auth.bind (config.decrypt · .smtpPassword))
  | .createWebhookTarget row, .webhookSigningValue id
  | .updateWebhookTarget row, .webhookSigningValue id =>
    if id = row.id then some (config.signingValue row) else none
  | .createWebhookTarget row, .webhookSignatureHeader id
  | .updateWebhookTarget row, .webhookSignatureHeader id =>
    if id = row.id then some (config.signatureHeader row) else none
  | .deleteWebhookTarget id', .webhookSigningValue id
  | .deleteWebhookTarget id', .webhookSignatureHeader id => if id = id' then some none else none
  | _, _ => none

theorem ChannelConfig.decrypt_encrypt {nonce : Nonce} {plaintext : List UInt8} {secret : Secret}
    {columns : SealedColumns} (h : config.encrypt nonce plaintext secret = some columns) :
    config.decrypt columns secret = some plaintext := by
  obtain ⟨ciphertext, hciphertext, rfl⟩ := Option.map_eq_some_iff.mp h
  exact config.keyring.decrypt_encrypt hciphertext

namespace ChannelTables

variable {tables tables' : ChannelTables} {id : Uuid} {row : WebhookTargetRow}

theorem getWebhookTarget_append (h : tables.getWebhookTarget row.id = none) :
    getWebhookTarget { tables with webhooks := tables.webhooks ++ [row] } id
      = if id = row.id then some row else tables.getWebhookTarget id := by
  unfold getWebhookTarget at h ⊢
  rw [List.find?_append]
  split_ifs with hid
  · subst hid
    rw [h]
    simp
  · simp [Ne.symm hid]

theorem getWebhookTarget_replace (h : (tables.getWebhookTarget row.id).isSome) :
    getWebhookTarget { tables with
        webhooks := tables.webhooks.map fun row' => if row'.id = row.id then row else row' } id
      = if id = row.id then some row else tables.getWebhookTarget id := by
  unfold getWebhookTarget at h ⊢
  have hsame : ∀ row' : WebhookTargetRow,
      (if row'.id = row.id then row else row').id = row'.id := by
    intro row'
    split_ifs with hid
    · exact hid.symm
    · rfl
  rw [List.find?_map]
  have hcomp : ((fun row' : WebhookTargetRow => decide (row'.id = id)) ∘ fun row' =>
      if row'.id = row.id then row else row') = fun row' => decide (row'.id = id) := by
    funext row'
    simp [hsame]
  rw [hcomp]
  split_ifs with hid
  · subst hid
    obtain ⟨found, hfound⟩ := Option.isSome_iff_exists.mp h
    rw [hfound, Option.map_some, if_pos (by simpa using List.find?_some hfound)]
  · rcases hfound : tables.webhooks.find? fun row' => decide (row'.id = id) with _ | found
    · rw [hfound, Option.map_none]
    · have hfoundId : found.id = id := by simpa using List.find?_some hfound
      rw [hfound, Option.map_some, if_neg (hfoundId ▸ hid)]

theorem getWebhookTarget_filter {id' : Uuid} :
    getWebhookTarget { tables with webhooks := tables.webhooks.filter fun row => row.id ≠ id' } id
      = if id = id' then none else tables.getWebhookTarget id := by
  unfold getWebhookTarget
  rw [List.find?_filter]
  split_ifs with hid
  · subst hid
    simp
  · congr 1
    funext row
    by_cases hrow : row.id = id <;> simp [hrow, hid]

theorem secretIn_write {write : ChannelWrite} (h : tables.write write = .ok tables')
    (secret : Secret) :
    config.secretIn tables' secret
      = (write.stores config secret).getD (config.secretIn tables secret) := by
  cases write with
  | upsertSMTPChannel row =>
    cases h
    cases secret <;> rfl
  | createWebhookTarget row =>
    simp only [ChannelTables.write] at h
    split_ifs at h with hthere
    cases h
    have hnone : tables.getWebhookTarget row.id = none := by simpa using hthere
    cases secret with
    | instancePassword _ | smtpPassword => rfl
    | webhookSigningValue id | webhookSignatureHeader id =>
      simp only [ChannelConfig.secretIn, ChannelWrite.stores, getWebhookTarget_append hnone]
      split_ifs <;> rfl
  | updateWebhookTarget row =>
    simp only [ChannelTables.write] at h
    split_ifs at h with hthere
    cases h
    cases secret with
    | instancePassword _ | smtpPassword => rfl
    | webhookSigningValue id | webhookSignatureHeader id =>
      simp only [ChannelConfig.secretIn, ChannelWrite.stores, getWebhookTarget_replace hthere]
      split_ifs <;> rfl
  | deleteWebhookTarget id' =>
    simp only [ChannelTables.write] at h
    split_ifs at h with hthere
    cases h
    cases secret with
    | instancePassword _ | smtpPassword => rfl
    | webhookSigningValue id | webhookSignatureHeader id =>
      simp only [ChannelConfig.secretIn, ChannelWrite.stores, getWebhookTarget_filter]
      split_ifs <;> rfl

end ChannelTables

namespace ChannelRequest

def sets : ChannelRequest → Secret → Option (Option (List UInt8))
  | .updateSMTPChannel input _, .smtpPassword =>
    if input.authType = .none then some none
    else input.carried.map fun password => some (utf8 password)
  | .createWebhookTarget id' input _, .webhookSigningValue id
  | .updateWebhookTarget id' input _, .webhookSigningValue id =>
    if id = id' then input.signingValue.map fun value => some (utf8 (trimSpace value)) else none
  | .createWebhookTarget id' input _, .webhookSignatureHeader id
  | .updateWebhookTarget id' input _, .webhookSignatureHeader id =>
    if id = id' then input.signatureHeader.map fun header => some (utf8 (trimSpace header))
    else none
  | .deleteWebhookTarget id', .webhookSigningValue id
  | .deleteWebhookTarget id', .webhookSignatureHeader id => if id = id' then some none else none
  | _, _ => none

def secrets : ChannelRequest → List Secret
  | .updateSMTPChannel _ _ => [.smtpPassword]
  | .createWebhookTarget id _ _ | .updateWebhookTarget id _ _ | .deleteWebhookTarget id =>
    [.webhookSigningValue id, .webhookSignatureHeader id]

end ChannelRequest

namespace ChannelConfig

theorem smtpAuth_opens {existing : Option SMTPChannelRow} {input : SMTPChannelInput}
    {nonce : Nonce} {columns : SealedColumns}
    (h : config.smtpAuth existing input nonce = .ok columns) :
    config.decrypt columns .smtpPassword
      = (input.carried.map fun password => some (utf8 password)).getD
        ((existing.bind SMTPChannelRow.auth).bind (config.decrypt · .smtpPassword)) := by
  unfold smtpAuth at h
  split at h
  · rename_i password hcarried
    split at h
    · rename_i columns' hsealed
      cases h
      simp [hcarried, decrypt_encrypt hsealed]
    · cases h
  · rename_i hcarried
    split at h
    · rename_i columns' hauth
      split_ifs at h
      cases h
      simp [hcarried, hauth]
    · cases h

theorem updateSMTPChannel_opens {existing : Option SMTPChannelRow} {input : SMTPChannelInput}
    {nonce : Nonce} {row : SMTPChannelRow}
    (h : config.updateSMTPChannel existing input nonce = .ok row) :
    row.auth.bind (config.decrypt · .smtpPassword)
      = ((ChannelRequest.updateSMTPChannel input nonce).sets .smtpPassword).getD
        ((existing.bind SMTPChannelRow.auth).bind (config.decrypt · .smtpPassword)) := by
  simp only [updateSMTPChannel] at h
  simp only [ChannelRequest.sets]
  split_ifs at h with hinput hauth husername
  · cases h
    rw [if_pos hauth]
    rfl
  · rw [if_neg hauth]
    split at h
    · cases h
    · rename_i columns hcolumns
      cases h
      exact smtpAuth_opens hcolumns

theorem sealWebhook_opens {id : Uuid} {enabled : Bool} {values : WebhookTargetValues}
    {value header : List UInt8} {nonces : Nonce × Nonce} {row : WebhookTargetRow}
    (h : config.sealWebhook id enabled values value header nonces = some row) :
    row.id = id ∧ config.signingValue row = some value
      ∧ config.signatureHeader row = some header := by
  simp only [sealWebhook, Option.bind_eq_bind, Option.bind_eq_some_iff] at h
  obtain ⟨columns, hcolumns, columns', hcolumns', hrow⟩ := h
  cases hrow
  refine ⟨rfl, decrypt_encrypt hcolumns, ?_⟩
  have hversion : columns.keyVersion = columns'.keyVersion := by
    obtain ⟨_, _, rfl⟩ := Option.map_eq_some_iff.mp hcolumns
    obtain ⟨_, _, rfl⟩ := Option.map_eq_some_iff.mp hcolumns'
    rfl
  simpa only [signatureHeader, hversion] using decrypt_encrypt hcolumns'

theorem validWebhookInput_values {input : WebhookTargetInput} {values : WebhookTargetValues}
    (h : config.validWebhookInput input = some values) :
    values.signingValue = input.signingValue.map trimSpace
      ∧ values.signatureHeader = input.signatureHeader.map trimSpace := by
  simp only [validWebhookInput] at h
  split_ifs at h
  cases h
  exact ⟨rfl, rfl⟩

theorem updatedWebhook_opens {existing : WebhookTargetRow} {enabled : Bool}
    {values : WebhookTargetValues} {nonces : Nonce × Nonce} {row : WebhookTargetRow}
    (h : config.updatedWebhook existing enabled values nonces = some row) :
    row.id = existing.id
      ∧ config.signingValue row
          = (values.signingValue.map fun value => some (utf8 value)).getD
              (config.signingValue existing)
      ∧ config.signatureHeader row
          = (values.signatureHeader.map fun header => some (utf8 header)).getD
              (config.signatureHeader existing) := by
  unfold updatedWebhook at h
  split_ifs at h with hnone
  · cases h
    rw [hnone.1, hnone.2]
    exact ⟨rfl, rfl, rfl⟩
  · simp only [Option.bind_eq_bind, Option.bind_eq_some_iff] at h
    obtain ⟨value, hvalue, header, hheader, hsealed⟩ := h
    obtain ⟨hid, hvalue', hheader'⟩ := sealWebhook_opens hsealed
    refine ⟨hid, ?_, ?_⟩
    · rw [hvalue', ← hvalue]
      cases values.signingValue <;> rfl
    · rw [hheader', ← hheader]
      cases values.signatureHeader <;> rfl

theorem createWebhookTarget_opens {id : Uuid} {input : WebhookTargetInput}
    {nonces : Nonce × Nonce} {row : WebhookTargetRow}
    (h : config.createWebhookTarget id input nonces = .ok row) :
    row.id = id
      ∧ input.signingValue.map (fun value => some (utf8 (trimSpace value)))
          = some (config.signingValue row)
      ∧ input.signatureHeader.map (fun header => some (utf8 (trimSpace header)))
          = some (config.signatureHeader row) := by
  unfold createWebhookTarget at h
  split_ifs at h with hcarried
  split at h
  · cases h
  · rename_i values hvalues
    obtain ⟨hvalue, hheader⟩ := validWebhookInput_values hvalues
    split at h
    · cases h
    · rename_i row' hsealed
      cases h
      obtain ⟨hid, hvalue', hheader'⟩ := sealWebhook_opens hsealed
      simp only [Bool.or_eq_true, decide_eq_true_eq, not_or, ← ne_eq,
        Option.ne_none_iff_exists] at hcarried
      obtain ⟨⟨value, hvalueIs⟩, header, hheaderIs⟩ := hcarried
      rw [hvalue, ← hvalueIs] at hvalue'
      rw [hheader, ← hheaderIs] at hheader'
      rw [← hvalueIs, ← hheaderIs, hvalue', hheader']
      exact ⟨hid, rfl, rfl⟩

theorem updateWebhookTarget_opens {existing : Option WebhookTargetRow} {input : WebhookTargetInput}
    {nonces : Nonce × Nonce} {row : WebhookTargetRow}
    (h : config.updateWebhookTarget existing input nonces = .ok row) :
    ∃ row' ∈ existing, row.id = row'.id
      ∧ config.signingValue row
          = (input.signingValue.map fun value => some (utf8 (trimSpace value))).getD
              (config.signingValue row')
      ∧ config.signatureHeader row
          = (input.signatureHeader.map fun header => some (utf8 (trimSpace header))).getD
              (config.signatureHeader row') := by
  unfold updateWebhookTarget at h
  split at h
  · cases h
  · rename_i values hvalues
    obtain ⟨hvalue, hheader⟩ := validWebhookInput_values hvalues
    split at h
    · cases h
    · rename_i row'
      split at h
      · cases h
      · rename_i hupdated
        cases h
        obtain ⟨hid, hvalue', hheader'⟩ := updatedWebhook_opens hupdated
        rw [hvalue, Option.map_map] at hvalue'
        rw [hheader, Option.map_map] at hheader'
        exact ⟨row', rfl, hid, hvalue', hheader'⟩

end ChannelConfig

theorem map_eq_ok {ε α β : Type} {f : α → β} {x : Except ε α} {b : β} (h : x.map f = .ok b) :
    ∃ a, x = .ok a ∧ f a = b := by
  cases x with
  | error e => cases h
  | ok a => exact ⟨a, rfl, Except.ok.inj h⟩

theorem ChannelRequest.stores_prepare {request : ChannelRequest} {tables : ChannelTables}
    {write : ChannelWrite} (h : request.prepare config tables = .ok write) (secret : Secret) :
    write.stores config secret = none ∧ request.sets secret = none
      ∨ secret ∈ request.secrets
        ∧ write.stores config secret
            = some ((request.sets secret).getD (config.secretIn tables secret)) := by
  cases request with
  | updateSMTPChannel input nonce =>
    obtain ⟨row, hrow, rfl⟩ := map_eq_ok h
    cases secret with
    | smtpPassword =>
      refine .inr ⟨List.mem_singleton_self _, ?_⟩
      exact congrArg some (ChannelConfig.updateSMTPChannel_opens hrow)
    | instancePassword _ | webhookSigningValue _ | webhookSignatureHeader _ => exact .inl ⟨rfl, rfl⟩
  | createWebhookTarget id' input nonces =>
    obtain ⟨row, hrow, rfl⟩ := map_eq_ok h
    obtain ⟨rfl, hvalue, hheader⟩ := ChannelConfig.createWebhookTarget_opens hrow
    cases secret with
    | instancePassword _ | smtpPassword => exact .inl ⟨rfl, rfl⟩
    | webhookSigningValue id | webhookSignatureHeader id =>
      by_cases hid : id = row.id
      · simp [ChannelWrite.stores, sets, secrets, hid, hvalue, hheader]
      · simp [ChannelWrite.stores, sets, secrets, hid]
  | updateWebhookTarget id' input nonces =>
    obtain ⟨row, hrow, rfl⟩ := map_eq_ok h
    obtain ⟨existing, hexisting, hid', hvalue, hheader⟩ :=
      ChannelConfig.updateWebhookTarget_opens hrow
    have hexistingId : existing.id = id' := by simpa using List.find?_some hexisting
    cases secret with
    | instancePassword _ | smtpPassword => exact .inl ⟨rfl, rfl⟩
    | webhookSigningValue id | webhookSignatureHeader id =>
      by_cases hid : id = id'
      · simp [ChannelWrite.stores, sets, secrets, ChannelConfig.secretIn, hid, hid', hexistingId,
          hvalue, hheader, Option.mem_def.mp hexisting]
      · simp [ChannelWrite.stores, sets, secrets, hid, hid', hexistingId]
  | deleteWebhookTarget id' =>
    cases h
    cases secret with
    | instancePassword _ | smtpPassword => exact .inl ⟨rfl, rfl⟩
    | webhookSigningValue id | webhookSignatureHeader id =>
      by_cases hid : id = id' <;> simp [ChannelWrite.stores, sets, secrets, hid]

namespace Channels

inductive Move (config : ChannelConfig Key) (s : Channels) : Action → Channels → Prop
  | refuse {id : ℕ} {request : ChannelRequest} : Move config s (.receive id request) s
  | receive {id : ℕ} {request : ChannelRequest} {write : ChannelWrite} (hnew : id ∉ s.requests)
      (hprepare : request.prepare config s.tables = .ok write) :
      Move config s (.receive id request)
        (s.setPhase id request (.writing write s.committed.length))
  | fail {id : ℕ} {request : ChannelRequest} {write : ChannelWrite} {seen : ℕ}
      (hlookup : s.requests.lookup id = some (request, .writing write seen)) :
      Move config s (.write id) { s with requests := s.requests.erase id }
  | write {id : ℕ} {request : ChannelRequest} {write : ChannelWrite} {seen : ℕ}
      {tables : ChannelTables}
      (hlookup : s.requests.lookup id = some (request, .writing write seen))
      (hwrite : s.tables.write write = .ok tables) :
      Move config s (.write id) { s.setPhase id request .written with
        tables := tables, committed := request :: s.committed }
  | readSMTPChannel {id : ℕ} {request : ChannelRequest}
      (hlookup : s.requests.lookup id = some (request, .written)) :
      Move config s (.readSMTPChannel id)
        { s.setPhase id request (.listing s.tables.smtp (s.begun + 1)) with begun := s.begun + 1 }
  | readWebhookTargets {id : ℕ} {request : ChannelRequest} {smtp : Option SMTPChannelRow}
      {begun : ℕ} (hlookup : s.requests.lookup id = some (request, .listing smtp begun)) :
      Move config s (.readWebhookTargets id)
        (s.setPhase id request (.publishing
          (channelSnapshot smtp (s.tables.listWebhookTargets config.nameLess)) begun))
  | publish {id : ℕ} {request : ChannelRequest} {snapshot : ChannelSnapshot} {begun : ℕ}
      (hlookup : s.requests.lookup id = some (request, .publishing snapshot begun)) :
      Move config s (.publish id)
        { s with requests := s.requests.erase id, file := snapshot, published := begun }

theorem Move.of_step {s t : Channels} {a : Action} (h : step config s a = some t) :
    Move config s a t := by
  cases a with
  | receive id request =>
    simp only [step, Option.bind_eq_bind, Option.bind_eq_some_iff] at h
    obtain ⟨_, hguard, h⟩ := h
    have hnew := of_guard hguard
    split at h
    · cases h
      exact .refuse
    · rename_i hprepare
      cases h
      exact .receive hnew hprepare
  | write id =>
    simp only [step] at h
    split at h
    · rename_i hlookup
      split at h
      · cases h
        exact .fail hlookup
      · rename_i hwrite
        cases h
        exact .write hlookup hwrite
    · cases h
  | readSMTPChannel id =>
    simp only [step] at h
    split at h
    · rename_i hlookup
      cases h
      exact .readSMTPChannel hlookup
    · cases h
  | readWebhookTargets id =>
    simp only [step] at h
    split at h
    · rename_i hlookup
      cases h
      exact .readWebhookTargets hlookup
    · cases h
  | publish id =>
    simp only [step] at h
    split at h
    · rename_i hlookup
      cases h
      exact .publish hlookup
    · cases h

/-- The value the last of the committed requests that set a secret has set it to. -/
def lastSet (initial : Option (List UInt8)) (secret : Secret) (committed : List ChannelRequest) :
    Option (List UInt8) :=
  (committed.findSome? (·.sets secret)).getD initial

theorem lastSet_cons {initial : Option (List UInt8)} {secret : Secret} {request : ChannelRequest}
    {committed : List ChannelRequest} :
    lastSet initial secret (request :: committed)
      = (request.sets secret).getD (lastSet initial secret committed) := by
  unfold lastSet
  rw [List.findSome?_cons]
  cases request.sets secret <;> rfl

theorem lastSet_drop {initial : Option (List UInt8)} {secret : Secret}
    {committed : List ChannelRequest} {n : ℕ}
    (h : ∀ other ∈ committed.take n, other.sets secret = none) :
    lastSet initial secret (committed.drop n) = lastSet initial secret committed := by
  unfold lastSet
  conv_rhs => rw [← List.take_append_drop n committed, List.findSome?_append,
    List.findSome?_eq_none_iff.mpr h, Option.none_or]

/-- What a request about to write does to a secret, read when `seen` requests had committed. -/
def Writes (config : ChannelConfig Key) (initial : Secret → Option (List UInt8))
    (committed : List ChannelRequest) (request : ChannelRequest) (write : ChannelWrite) (seen : ℕ)
    (secret : Secret) : Prop :=
  write.stores config secret = none ∧ request.sets secret = none
    ∨ secret ∈ request.secrets ∧ write.stores config secret = some ((request.sets secret).getD
        (lastSet (initial secret) secret (committed.drop (committed.length - seen))))

def Pending (config : ChannelConfig Key) (initial : Secret → Option (List UInt8))
    (committed : List ChannelRequest) : ChannelRequest × ChannelPhase → Prop
  | (request, .writing write seen) =>
    seen ≤ committed.length ∧ ∀ secret, Writes config initial committed request write seen secret
  | _ => True

structure SecretsInv (config : ChannelConfig Key) (initial : Secret → Option (List UInt8))
    (s : Channels) : Prop where
  current : ∀ secret, config.secretIn s.tables secret = lastSet (initial secret) secret s.committed
  pending : Each (fun _ => Pending config initial s.committed) s.requests

variable {initial : Secret → Option (List UInt8)} {committed : List ChannelRequest}

theorem Pending.commit {pending : ChannelRequest × ChannelPhase} {other : ChannelRequest}
    (h : Pending config initial committed pending) :
    Pending config initial (other :: committed) pending := by
  obtain ⟨request, phase⟩ := pending
  cases phase with
  | writing write seen =>
    obtain ⟨hseen, hwrites⟩ := h
    refine ⟨Nat.le_succ_of_le hseen, fun secret => ?_⟩
    unfold Writes
    rw [List.length_cons, Nat.succ_sub hseen, List.drop_succ_cons]
    exact hwrites secret
  | written | listing _ _ | publishing _ _ => trivial

/-- No request that set a secret this one does not carry has committed since this one read the
row. -/
def Fresh (committed : List ChannelRequest) : ChannelRequest × ChannelPhase → Prop
  | (request, .writing _ seen) =>
    ∀ other ∈ committed.take (committed.length - seen), ∀ secret ∈ request.secrets,
      request.sets secret = none → other.sets secret = none
  | _ => True

instance Fresh.decidable : ∀ pending, Decidable (Fresh committed pending)
  | (request, .writing _ seen) => inferInstanceAs (Decidable
      (∀ other ∈ committed.take (committed.length - seen), ∀ secret ∈ request.secrets,
        request.sets secret = none → other.sets secret = none))
  | (_, .written) | (_, .listing _ _) | (_, .publishing _ _) => .isTrue trivial

def SecretsFresh (s : Channels) (a : Action) (_ : Channels) : Prop :=
  match a with
  | .write id => ∀ pending ∈ s.requests.lookup id, Fresh s.committed pending
  | _ => True

instance SecretsFresh.decidable (s : Channels) : ∀ a t, Decidable (SecretsFresh s a t)
  | .write id, _ => inferInstanceAs (Decidable
      (∀ pending ∈ s.requests.lookup id, Fresh s.committed pending))
  | .receive _ _, _ | .readSMTPChannel _, _ | .readWebhookTargets _, _ | .publish _, _ =>
    .isTrue trivial

def KeepsSecrets (config : ChannelConfig Key) (s : Channels) (a : Action) (t : Channels) : Prop :=
  ∀ secret, (∀ id request phase, a = .write id → s.requests.lookup id = some (request, phase) →
    request.sets secret = none) →
    config.secretIn t.tables secret = config.secretIn s.tables secret

variable {s t : Channels} {a : Action}

theorem secretIn_commit {request : ChannelRequest} {write : ChannelWrite} {seen : ℕ}
    {tables : ChannelTables} {secret : Secret}
    (hcurrent : config.secretIn s.tables secret = lastSet (initial secret) secret s.committed)
    (hwrites : Writes config initial s.committed request write seen secret)
    (hfresh : Fresh s.committed (request, .writing write seen))
    (hwrite : s.tables.write write = .ok tables) :
    config.secretIn tables secret
      = (request.sets secret).getD (config.secretIn s.tables secret) := by
  rw [ChannelTables.secretIn_write hwrite]
  rcases hwrites with ⟨hstores, hsets⟩ | ⟨hsecret, hstores⟩
  · rw [hstores, hsets]
  · rw [hstores, Option.getD_some]
    rcases hsets : request.sets secret with _ | value
    · rw [Option.getD_none, Option.getD_none, hcurrent]
      exact lastSet_drop fun other hother => hfresh other hother secret hsecret hsets
    · rfl

theorem SecretsInv.step (hs : SecretsInv config initial s) (hstep : step config s a = some t)
    (hfresh : SecretsFresh s a t) : KeepsSecrets config s a t ∧ SecretsInv config initial t := by
  cases Move.of_step hstep with
  | refuse => exact ⟨fun _ _ => rfl, hs⟩
  | receive hnew hprepare =>
    refine ⟨fun _ _ => rfl, hs.current, hs.pending.insert ⟨le_rfl, fun secret => ?_⟩⟩
    unfold Writes
    rw [Nat.sub_self, List.drop_zero, ← hs.current]
    exact ChannelRequest.stores_prepare hprepare secret
  | fail hlookup => exact ⟨fun _ _ => rfl, hs.current, hs.pending.erase⟩
  | @write id request write seen tables hlookup hwrite =>
    have hpending := (hs.pending id _ hlookup).2
    have hleaves := fun secret =>
      secretIn_commit (hs.current secret) (hpending secret) (hfresh _ hlookup) hwrite
    refine ⟨fun secret hsets => ?_, fun secret => ?_, ?_⟩
    · rw [hleaves, hsets id request _ rfl hlookup, Option.getD_none]
    · rw [hleaves, lastSet_cons, hs.current]
    · exact (hs.pending.mono fun _ _ h => h.commit).insert trivial
  | readSMTPChannel hlookup => exact ⟨fun _ _ => rfl, hs.current, hs.pending.insert trivial⟩
  | readWebhookTargets hlookup => exact ⟨fun _ _ => rfl, hs.current, hs.pending.insert trivial⟩
  | publish hlookup => exact ⟨fun _ _ => rfl, hs.current, hs.pending.erase⟩

theorem SecretsInv.start (config : ChannelConfig Key) (tables : ChannelTables) :
    SecretsInv config (config.secretIn tables) (start config tables) :=
  ⟨fun _ => rfl, each_empty⟩

/-- While every request that writes is fresh. -/
theorem secrets_kept (config : ChannelConfig Key) (tables : ChannelTables) (actions : List Action)
    (hfresh : Along (step config) SecretsFresh (start config tables) actions) :
    Along (step config) (fun s a t => KeepsSecrets config s a t
      ∧ ∀ secret, config.secretIn t.tables secret
        = lastSet (config.secretIn tables secret) secret t.committed)
      (start config tables) actions := by
  refine Along.of_guarded (fun s a t hs hstep hfresh => ?_) (SecretsInv.start config tables) hfresh
  obtain ⟨hkeeps, ht⟩ := hs.step hstep hfresh
  exact ⟨⟨hkeeps, ht.current⟩, ht⟩

def plainChannels : ChannelConfig Unit :=
  { validEmail := fun _ => true, validURL := fun _ => true, nameLess := fun a b => a < b
    keyring := plainKeyring, currentVersion := 1 }

def pagerId : Uuid := ⟨List.replicate 16 7, length_sevens⟩

def pager : ChannelTables :=
  let envelope := fun plaintext =>
    1 :: (zeroNonce.bytes ++ (utf8 plaintext ++ List.replicate 16 0))
  { webhooks := [{ id := pagerId, name := "pager", enabled := true, url := "https://pager"
                   signingValueCiphertext := envelope "old"
                   signatureHeaderCiphertext := envelope "X-Signature", signingKeyVersion := 1 }] }

def rename : ChannelRequest :=
  .updateWebhookTarget pagerId { name := "on call", enabled := true, url := "https://pager"
                                 signingValue := none, signatureHeader := none }
    (zeroNonce, zeroNonce)

def newSigningValue : ChannelRequest :=
  .updateWebhookTarget pagerId { name := "pager", enabled := true, url := "https://pager"
                                 signingValue := some "new", signatureHeader := none }
    (zeroNonce, zeroNonce)

def finish (id : ℕ) : List Action :=
  [.write id, .readSMTPChannel id, .readWebhookTargets id, .publish id]

theorem rename_restores_signingValue :
    ∃ t, run (step plainChannels) (start plainChannels pager)
        (.receive 0 rename :: .receive 1 newSigningValue :: (finish 1 ++ finish 0)) = some t
      ∧ t.requests.keys = []
      ∧ lastSet (plainChannels.secretIn pager (.webhookSigningValue pagerId))
          (.webhookSigningValue pagerId) t.committed = some (utf8 "new")
      ∧ plainChannels.secretIn t.tables (.webhookSigningValue pagerId) = some (utf8 "old") := by
  refine ⟨_, rfl, ?_⟩
  decide +kernel

theorem secrets_kept_rename_first :
    (run (step plainChannels) (start plainChannels pager)
        (.receive 0 rename :: .receive 1 newSigningValue :: (finish 0 ++ finish 1))).isSome
      ∧ Along (step plainChannels) (fun s a t => KeepsSecrets plainChannels s a t
        ∧ ∀ secret, plainChannels.secretIn t.tables secret
          = lastSet (plainChannels.secretIn pager secret) secret t.committed)
        (start plainChannels pager)
        (.receive 0 rename :: .receive 1 newSigningValue :: (finish 0 ++ finish 1)) :=
  ⟨by decide +kernel, secrets_kept plainChannels pager _ (by decide +kernel)⟩

end Channels

end DbsMonitor
