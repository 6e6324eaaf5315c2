import DbsMonitor.Machine
import DbsMonitor.Proofs.ConnectionMoves

/-!
# What a connection was dialled with

Every statement that changes the connection data of an instance raises its `credential_version`, so
committed states of one version have the same data (`StatesOk`). A connection is cached under the
version of the row it was dialled with, and taken only for that version, however stale the row
(`held_connectionData`).
-/

namespace DbsMonitor

open Machine

section States

variable {Key : Type} {keyring : Keyring Key} {id : InstanceId} {states : List InstanceState}

/-- The committed states of an instance: each decrypts to its password, a version has one set of
connection data, and no version is above the newest. -/
structure StatesOk (keyring : Keyring Key) (id : InstanceId) (states : List InstanceState) :
    Prop where
  row_id : ∀ state ∈ states, state.row.id = id
  decrypts : ∀ state ∈ states, keyring.decrypt state.row.passwordCiphertext
    state.row.passwordKeyVersion (credentialAAD id) = some state.password
  version : ∀ state ∈ states, ∀ other ∈ states,
    state.row.credentialVersion = other.row.credentialVersion →
      state.connectionData = other.connectionData
  newest : ∀ state ∈ states, ∀ head ∈ states.head?,
    state.row.credentialVersion ≤ head.row.credentialVersion

/-- A new state continues the states when it keeps the version and the connection data of the
newest, or goes to a version above it. -/
theorem StatesOk.cons (h : StatesOk keyring id states) {state : InstanceState}
    (hid : state.row.id = id)
    (hdecrypts : keyring.decrypt state.row.passwordCiphertext state.row.passwordKeyVersion
      (credentialAAD id) = some state.password)
    (hversion : ∀ head ∈ states.head?,
      head.row.credentialVersion < state.row.credentialVersion
      ∨ head.row.credentialVersion = state.row.credentialVersion
        ∧ head.connectionData = state.connectionData) : StatesOk keyring id (state :: states) := by
  have hle : ∀ other ∈ states, other.row.credentialVersion ≤ state.row.credentialVersion := by
    intro other hother
    obtain ⟨head, hhead⟩ := Option.isSome_iff_exists.mp
      (List.isSome_head?.mpr (List.ne_nil_of_mem hother))
    have hnewest := h.newest other hother head hhead
    rcases hversion head hhead with hlt | ⟨heq, -⟩ <;> omega
  have hsame : ∀ other ∈ states,
      other.row.credentialVersion = state.row.credentialVersion →
        other.connectionData = state.connectionData := by
    intro other hother heq
    obtain ⟨head, hhead⟩ := Option.isSome_iff_exists.mp
      (List.isSome_head?.mpr (List.ne_nil_of_mem hother))
    have hnewest := h.newest other hother head hhead
    rcases hversion head hhead with hlt | ⟨hhv, hdata⟩
    · omega
    · rw [← hdata]
      exact h.version other hother head (List.mem_of_mem_head? hhead) (heq.trans hhv.symm)
  refine ⟨?_, ?_, ?_, ?_⟩
  · exact List.forall_mem_cons.mpr ⟨hid, h.row_id⟩
  · exact List.forall_mem_cons.mpr ⟨hdecrypts, h.decrypts⟩
  · intro a ha b hb heq
    rcases List.mem_cons.mp ha with rfl | ha' <;> rcases List.mem_cons.mp hb with rfl | hb'
    · rfl
    · exact (hsame b hb' heq.symm).symm
    · exact hsame a ha' heq
    · exact h.version a ha' b hb' heq
  · rintro a ha _ ⟨⟩
    rcases List.mem_cons.mp ha with rfl | ha
    · exact Nat.le_refl _
    · exact hle a ha

theorem updateInstanceMetadata_version (state : InstanceState) (host : String)
    (port : {p : ℕ // 1 ≤ p ∧ p ≤ 65535}) (databaseName : Option String) :
    state.row.credentialVersion
        < (updateInstanceMetadata state host port databaseName).row.credentialVersion
      ∨ state.row.credentialVersion
          = (updateInstanceMetadata state host port databaseName).row.credentialVersion
        ∧ state.connectionData
          = (updateInstanceMetadata state host port databaseName).connectionData := by
  by_cases h : state.row.host ≠ host ∨ state.row.port ≠ port
      ∨ state.row.databaseName ≠ databaseName
  · left
    simp [updateInstanceMetadata, h]
  · right
    have hfields := h
    push Not at hfields
    obtain ⟨hhost, hport, hname⟩ := hfields
    simp [updateInstanceMetadata, InstanceState.connectionData, hhost, hport, hname]

theorem statesOk_applyEdit (h : StatesOk keyring id states) {edit : InstanceEdit}
    {state : InstanceState} (hedit : applyEdit keyring id states edit = some state) :
    StatesOk keyring id (state :: states) := by
  cases edit
  case create host port databaseName username password keyVersion nonce =>
    rcases states with _ | ⟨head, rest⟩
    · obtain ⟨ciphertext, hsealed, rfl⟩ := Option.map_eq_some_iff.mp hedit
      exact h.cons rfl (keyring.decrypt_encrypt hsealed) (by simp)
    · cases hedit
  case updateMetadata host port databaseName =>
    obtain ⟨head, hhead, rfl⟩ := Option.map_eq_some_iff.mp hedit
    have hmem := List.mem_of_mem_head? hhead
    refine h.cons (h.row_id head hmem) (h.decrypts head hmem) fun head' hhead' => ?_
    obtain rfl : head = head' := Option.some.inj (hhead.symm.trans hhead')
    exact updateInstanceMetadata_version head host port databaseName
  case updateCredential username password keyVersion nonce =>
    obtain ⟨head, hhead, hedit⟩ := Option.bind_eq_some_iff.mp hedit
    obtain ⟨ciphertext, hsealed, rfl⟩ := Option.map_eq_some_iff.mp hedit
    have hid := h.row_id head (List.mem_of_mem_head? hhead)
    rw [hid] at hsealed
    refine h.cons hid (keyring.decrypt_encrypt hsealed) fun head' hhead' => .inl ?_
    obtain rfl : head = head' := Option.some.inj (hhead.symm.trans hhead')
    exact Nat.lt_succ_self _
  case rotateKey keyVersion nonce =>
    obtain ⟨head, hhead, hedit⟩ := Option.bind_eq_some_iff.mp hedit
    obtain ⟨password, hpassword, hedit⟩ := Option.bind_eq_some_iff.mp hedit
    obtain ⟨ciphertext, hsealed, rfl⟩ := Option.map_eq_some_iff.mp hedit
    have hmem := List.mem_of_mem_head? hhead
    have hid := h.row_id head hmem
    rw [hid] at hsealed hpassword
    obtain rfl : head.password = password :=
      Option.some.inj ((h.decrypts head hmem).symm.trans hpassword)
    refine h.cons hid (keyring.decrypt_encrypt hsealed) fun head' hhead' => .inr ?_
    obtain rfl : head = head' := Option.some.inj (hhead.symm.trans hhead')
    exact ⟨rfl, rfl⟩

theorem connectionConfig_eq (h : StatesOk keyring id states) {state : InstanceState}
    (hstate : state ∈ states) {config : DialConfig}
    (hconfig : connectionConfig keyring state.row = some config) :
    config = state.connectionData := by
  obtain ⟨password, hpassword, rfl⟩ := Option.map_eq_some_iff.mp hconfig
  rw [h.row_id state hstate, h.decrypts state hstate, Option.some.injEq] at hpassword
  have hport : state.row.port < 65536 := Nat.lt_succ_of_le state.row.port_range.2
  simp [targetConnectionConfig, InstanceState.connectionData, hpassword, hport]

end States

namespace Connections

variable {Key : Type} {keyring : Keyring Key} {w w' : World} {p : ℕ} {party : Party} {a : Action}

/-- The connection was dialled for the instance, with the data of a committed state of the
version. -/
def DialledFor (w : World) (id : InstanceId) (version : ℕ) (conn : ℕ) : Prop :=
  ∃ state ∈ w.states id, state.row.credentialVersion = version
    ∧ w.dialled[conn]? = some ⟨id, state.connectionData⟩

structure DataInv (keyring : Keyring Key) (w : World) : Prop where
  states : ∀ id, StatesOk keyring id (w.states id)
  target : ∀ p party, w.parties p = some party → w.committed party.target = true
  cached : ∀ id cached, w.cache id = some cached →
    DialledFor w id cached.credentialVersion cached.conn
  held : ∀ p party held, w.parties p = some party → party.place.held = some held →
    DialledFor w party.target.id party.target.credentialVersion held.conn

theorem dataInv_init : DataInv keyring World.init := by
  refine ⟨fun id => ⟨?_, ?_, ?_, ?_⟩, ?_, ?_, ?_⟩ <;> simp [World.init]

theorem committed_iff {target : TargetRow} :
    w.committed target = true ↔ ∃ state ∈ w.states target.id, state.row = target := by
  simp [World.committed]

theorem DialledFor.mono (hstates : w'.states = w.states)
    (hdialled : w.dialled <+: w'.dialled) {id : InstanceId} {version conn : ℕ}
    (h : DialledFor w id version conn) : DialledFor w' id version conn := by
  obtain ⟨state, hstate, hversion, hconn⟩ := h
  refine ⟨state, hstates ▸ hstate, hversion, ?_⟩
  obtain ⟨rest, hrest⟩ := hdialled
  rw [← hrest, List.getElem?_append_left (List.getElem?_eq_some_iff.mp hconn).1, hconn]

theorem DataInv.update {new : Option Party} (hinv : DataInv keyring w)
    (hstates : w'.states = w.states) (hdialled : w.dialled <+: w'.dialled)
    (hparties : w'.parties = Function.update w.parties p new)
    (hcached : ∀ id cached, w'.cache id = some cached → w.cache id ≠ some cached →
      DialledFor w' id cached.credentialVersion cached.conn)
    (htarget : ∀ party' ∈ new, w.committed party'.target = true)
    (hheld : ∀ party' ∈ new, ∀ held ∈ party'.place.held,
      DialledFor w' party'.target.id party'.target.credentialVersion held.conn) :
    DataInv keyring w' := by
  refine ⟨hstates ▸ hinv.states, fun q party' hq => ?_, fun id cached hc => ?_,
    fun q party' held hq hh => ?_⟩
  · rw [World.committed, hstates, ← World.committed]
    rw [hparties] at hq
    by_cases hqp : q = p
    · subst hqp
      exact htarget party' (by simpa using hq)
    · exact hinv.target q party' (by simpa [hqp] using hq)
  · by_cases hold : w.cache id = some cached
    · exact (hinv.cached id cached hold).mono hstates hdialled
    · exact hcached id cached hc hold
  · rw [hparties] at hq
    by_cases hqp : q = p
    · subst hqp
      exact hheld party' (by simpa using hq) held hh
    · exact (hinv.held q party' held (by simpa [hqp] using hq) hh).mono hstates hdialled

theorem DataInv.quiet {new : Option Party} (hinv : DataInv keyring w)
    (hp : w.parties p = some party) (hstates : w'.states = w.states)
    (hdialled : w'.dialled = w.dialled)
    (hparties : w'.parties = Function.update w.parties p new)
    (hcache : ∀ id cached, w'.cache id = some cached → w.cache id = some cached)
    (hnew : ∀ party' ∈ new, party'.target = party.target
      ∧ ∀ held ∈ party'.place.held, ∃ before ∈ party.place.held, before.conn = held.conn) :
    DataInv keyring w' := by
  refine hinv.update hstates (hdialled ▸ List.prefix_refl _) hparties
    (fun id cached hc hne => absurd (hcache id cached hc) hne) (fun party' h => ?_)
    fun party' h held hheld => ?_
  · rw [(hnew party' h).1]
    exact hinv.target p party hp
  · obtain ⟨before, hbefore, hconn⟩ := (hnew party' h).2 held hheld
    rw [(hnew party' h).1, ← hconn]
    exact (hinv.held p party before hp hbefore).mono hstates (hdialled ▸ List.prefix_refl _)

theorem setCache_none {id id' : InstanceId} {cached : CachedConnection}
    (h : (w.setCache id none).cache id' = some cached) : w.cache id' = some cached := by
  by_cases hid : id' = id
  · subst hid
    simp [World.setCache] at h
  · simpa [World.setCache, hid] using h

theorem dataInv_move (hinv : DataInv keyring w) (hp : w.parties p = some party)
    (hm : Move keyring w p party a w') : DataInv keyring w' := by
  have htarget := hinv.target p party hp
  cases hm
  case lookupHit cached hplace hcache hversion _ =>
    refine hinv.update rfl (List.prefix_refl _) rfl (fun _ _ hc hne => absurd hc hne) ?_ ?_
    · rintro _ ⟨⟩
      exact htarget
    · rintro _ ⟨⟩ held ⟨⟩
      rw [← hversion]
      exact (hinv.cached _ cached hcache).mono rfl (List.prefix_refl _)
  case dialOk config hplace hconfig =>
    obtain ⟨state, hstate, hrow⟩ := committed_iff.mp htarget
    have hnew : DialledFor ((({ w with dialled := w.dialled ++ [⟨party.target.id, config⟩] } :
        World).setCache party.target.id
          (some ⟨party.target.credentialVersion, w.dialled.length⟩)).setParty p
            (some { party with place := .inUse w.dialled.length })) party.target.id
        party.target.credentialVersion w.dialled.length := by
      refine ⟨state, hstate, by rw [hrow], ?_⟩
      rw [← connectionConfig_eq (hinv.states _) hstate (hrow ▸ hconfig)]
      simp [World.setCache]
    refine hinv.update rfl (List.prefix_append _ _) rfl (fun id cached hc hne => ?_) ?_ ?_
    · by_cases hid : id = party.target.id
      · subst hid
        simp only [setParty_cache, World.setCache, Function.update_self, Option.some.injEq] at hc
        subst hc
        exact hnew
      · exact absurd (by simpa [World.setCache, hid] using hc) hne
    · rintro _ ⟨⟩
      exact htarget
    · rintro _ ⟨⟩ held ⟨⟩
      exact hnew
  case capture target hplace hid hcommitted =>
    refine hinv.update rfl (List.prefix_refl _) rfl (fun _ _ hc hne => absurd hc hne) ?_ ?_
    · rintro _ ⟨⟩
      exact hcommitted
    · rintro _ ⟨⟩ held ⟨⟩
  case dialFail hplace =>
    refine hinv.quiet hp rfl rfl rfl (fun _ _ h => h) ?_
    rintro _ ⟨⟩
    by_cases hk : party.kind = .trigger <;> simp [hk, Place.held]
  case release hplace =>
    refine hinv.quiet hp rfl rfl rfl (fun _ _ h => h) fun party' h => ?_
    split_ifs at h <;> cases h
    simp [Place.held]
  case lookupStale hplace _ | finishInvalidate hplace _ | invalidateCached hplace _ =>
    refine hinv.quiet hp rfl rfl rfl (fun _ _ => setCache_none) ?_
    rintro _ ⟨⟩
    simp [Place.held, hplace]
  case grantOutcome hplace _ _ =>
    refine hinv.quiet hp rfl rfl rfl (fun _ _ h => h) ?_
    rintro _ ⟨⟩
    exact ⟨rfl, fun held h => ⟨held, by rwa [hplace], rfl⟩⟩
  case closeOwn hplace | finishInvalidated hplace _ | finishKeep hplace =>
    refine hinv.quiet hp rfl rfl rfl (fun _ _ h => h) ?_
    rintro _ ⟨⟩
    simp only [afterUse_held, hplace]
    simp [Place.held]
  all_goals
    refine hinv.quiet hp rfl rfl rfl (fun _ _ h => h) ?_
    rintro _ ⟨⟩
    try simp [Place.held, *]

theorem dataInv_step (hinv : DataInv keyring w) (h : step keyring w a = some w') :
    DataInv keyring w' := by
  obtain ⟨p, kind, target, -, hp, hcommitted, rfl⟩ | ⟨p, party, hp, -, hm⟩ | ⟨conn, -, rfl⟩ |
    ⟨id, edit, state, -, hedit, rfl⟩ := step_cases keyring h
  · have hplace : (firstPlace kind).held = none := by cases kind <;> rfl
    refine hinv.update rfl (List.prefix_refl _) rfl (fun _ _ hc hne => absurd hc hne) ?_ ?_
    · rintro _ ⟨⟩
      exact hcommitted
    · rintro _ ⟨⟩
      simp [hplace]
  · exact dataInv_move hinv hp hm
  · exact ⟨hinv.states, hinv.target, hinv.cached, hinv.held⟩
  · have hmem : ∀ {i} {s : InstanceState}, s ∈ w.states i →
        s ∈ Function.update w.states id (state :: w.states id) i := by
      intro i s hs
      by_cases hi : i = id
      · subst hi
        simp [hs]
      · simpa [hi] using hs
    have hmono : ∀ {i v c}, DialledFor w i v c → DialledFor
        { w with states := Function.update w.states id (state :: w.states id) } i v c :=
      fun ⟨s, hs, h⟩ => ⟨s, hmem hs, h⟩
    refine ⟨fun i => ?_, fun p party hp => ?_, fun i cached hc => hmono (hinv.cached i cached hc),
      fun p party held hp hh => hmono (hinv.held p party held hp hh)⟩
    · by_cases hi : i = id
      · subst hi
        simpa using statesOk_applyEdit (hinv.states i) hedit
      · simpa [hi] using hinv.states i
    · obtain ⟨s, hs, hrow⟩ := committed_iff.mp (hinv.target p party hp)
      exact committed_iff.mpr ⟨s, hmem hs, hrow⟩

theorem held_connectionData (keyring : Keyring Key) (actions : List Action) (w : World)
    (hrun : run (step keyring) World.init actions = some w) (p : ℕ) (party : Party)
    (hp : w.parties p = some party) (held : Held) (hheld : party.place.held = some held) :
    ∃ state ∈ w.states party.target.id,
      state.row.credentialVersion = party.target.credentialVersion
      ∧ w.dialled[held.conn]? = some ⟨party.target.id, state.connectionData⟩
      ∧ ∀ other ∈ w.states party.target.id,
          other.row.credentialVersion = party.target.credentialVersion →
            other.connectionData = state.connectionData := by
  have hinv : DataInv keyring w :=
    run_invariant (step keyring) (fun _ _ _ => dataInv_step) actions dataInv_init hrun
  obtain ⟨state, hstate, hversion, hdialled⟩ := hinv.held p party held hp hheld
  refine ⟨state, hstate, hversion, hdialled, fun other hother hother' => ?_⟩
  exact (hinv.states _).version other hother state hstate (hother'.trans hversion.symm)

/-- The instance moves to another host and its key is rotated while a query works from the old
row. -/
def staleQuery : List Action :=
  [ createOrders,
    .edit orders.id (.updateMetadata "10.0.4.18" ⟨5432, orders.port_range⟩ (some "orders")),
    .edit orders.id (.rotateKey 2 zeroNonce),
    .begin 0 .query ordersRow, .grant 0, .commit 0, .grant 0, .lookup 0, .dial 0 true ]

theorem held_connectionData_stale :
    ∃ w party held, run (step plainKeyring) World.init staleQuery = some w
      ∧ w.parties 0 = some party ∧ party.place.held = some held
      ∧ ∃ state ∈ w.states party.target.id,
        state.row.credentialVersion = party.target.credentialVersion
        ∧ w.dialled[held.conn]? = some ⟨party.target.id, state.connectionData⟩
        ∧ ∀ other ∈ w.states party.target.id,
            other.row.credentialVersion = party.target.credentialVersion →
              other.connectionData = state.connectionData :=
  ⟨_, _, _, rfl, rfl, rfl,
    held_connectionData plainKeyring staleQuery _ rfl 0 _ rfl _ rfl⟩

end Connections

end DbsMonitor
