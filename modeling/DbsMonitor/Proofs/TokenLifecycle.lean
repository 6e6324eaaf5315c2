import DbsMonitor.AgentTokens
import DbsMonitor.Machine

/-!
# The lifecycle of an Agent's token

The row of an instance follows the last request on it that was committed (`Registration.Follows`). A
token is drawn once, so it is issued once, and a row that has its hash is the one it was issued
for.
-/

namespace DbsMonitor

def TokenEvent.token : TokenEvent → Option String
  | .issued _ token => some token
  | .revoked _ | .disabled _ => none

namespace AgentTokens

def latest (log : List TokenEvent) (id : InstanceId) : Option TokenEvent :=
  log.find? fun event => event.instanceId = id

/-- The token is the last one issued for the instance, neither revoked nor disabled since. -/
def Active (log : List TokenEvent) (id : InstanceId) (token : String) : Prop :=
  ∃ newer older, log = newer ++ .issued id token :: older ∧ ∀ event ∈ newer, event.instanceId ≠ id

def issuedTokens (log : List TokenEvent) : List String := log.filterMap TokenEvent.token

section Log

variable {log : List TokenEvent} {id id' : InstanceId} {token : String} {event : TokenEvent}

theorem latest_cons : latest (event :: log) id
    = if event.instanceId = id then some event else latest log id := by
  simp only [latest, List.find?_cons]
  split_ifs with hid <;> simp [hid]

theorem active_iff_latest : Active log id token ↔ latest log id = some (.issued id token) := by
  unfold Active latest
  rw [List.find?_eq_some_iff_append]
  constructor
  · rintro ⟨newer, older, rfl, hnewer⟩
    exact ⟨decide_eq_true rfl, newer, older, rfl, fun event hevent => by simp [hnewer event hevent]⟩
  · rintro ⟨-, newer, older, rfl, hnewer⟩
    exact ⟨newer, older, rfl, fun event hevent => by simpa using hnewer event hevent⟩

theorem mem_issuedTokens (h : TokenEvent.issued id token ∈ log) : token ∈ issuedTokens log :=
  List.mem_filterMap.mpr ⟨_, h, rfl⟩

theorem instanceId_of_latest (h : latest log id = some event) : event.instanceId = id := by
  simpa using List.find?_some h

theorem append_inj_of_nodup (h : (issuedTokens log).Nodup) :
    ∀ {newer newer' older older' : List TokenEvent},
      log = newer ++ .issued id token :: older → log = newer' ++ .issued id' token :: older' →
      newer = newer' ∧ id = id' := by
  induction log with
  | nil => simp
  | cons event log ih =>
    have hlog : (issuedTokens log).Nodup :=
      h.sublist ((List.sublist_cons_self event log).filterMap _)
    -- the head of the log is not an issue of a token that is issued further down
    have hhead : ∀ {id id' : InstanceId}, event = .issued id token → .issued id' token ∉ log := by
      rintro id id' rfl hmem
      exact (List.nodup_cons.mp h).1 (mem_issuedTokens hmem)
    intro newer newer' older older' hsplit hsplit'
    rcases newer with _ | ⟨first, newer⟩ <;> rcases newer' with _ | ⟨first', newer'⟩ <;>
      simp only [List.nil_append, List.cons_append, List.cons.injEq] at hsplit hsplit'
    · obtain ⟨rfl, -⟩ := hsplit
      simpa using hsplit'.1
    · have hmem : .issued id' token ∈ log := by simp [hsplit'.2]
      exact absurd hmem (hhead hsplit.1)
    · have hmem : .issued id token ∈ log := by simp [hsplit.2]
      exact absurd hmem (hhead hsplit'.1)
    · obtain ⟨rfl, hid⟩ := ih hlog hsplit.2 hsplit'.2
      exact ⟨by rw [← hsplit.1, ← hsplit'.1], hid⟩

theorem eq_of_active (h : (issuedTokens log).Nodup) (hactive : Active log id token)
    (hactive' : Active log id' token) : id = id' := by
  obtain ⟨newer, older, hlog, -⟩ := hactive
  obtain ⟨newer', older', hlog', -⟩ := hactive'
  exact (append_inj_of_nodup h hlog hlog').2

end Log

end AgentTokens

namespace Registration

variable {Hash : Type} (hash : String → Hash)

def Follows (row : Registration Hash) : Option TokenEvent → Prop
  | none | some (.disabled _) => row.agentExpected = false ∧ row.agentTokenHash = none
  | some (.issued _ token) => row.agentExpected = true ∧ row.agentTokenHash = some (hash token)
      ∧ row.agentTokenRevokedAt = none
  | some (.revoked _) => row.agentExpected = true ∧ row.agentTokenHash = none

variable {hash} {row : Registration Hash}

theorem follows_update {work : TokenRequest} (h : work.selects row = true) :
    (work.update hash row).Follows hash (some work.event) := by
  cases work with
  | register id token now => exact ⟨rfl, rfl, rfl⟩
  | rotate id token now =>
    simp only [TokenRequest.selects, active, Bool.and_eq_true] at h
    exact ⟨h.1.1, rfl, rfl⟩
  | revoke id now =>
    simp only [TokenRequest.selects, active, Bool.and_eq_true] at h
    exact ⟨h.1.1, rfl⟩
  | disable id => exact ⟨rfl, rfl⟩

theorem Follows.issued {event : Option TokenEvent} {tokenHash : Hash} (h : row.Follows hash event)
    (htoken : row.agentTokenHash = some tokenHash) :
    ∃ id token, event = some (.issued id token) ∧ tokenHash = hash token
      ∧ row.agentExpected = true ∧ row.agentTokenRevokedAt = none := by
  match event, h with
  | none, h | some (.disabled _), h | some (.revoked _), h => simp [h.2] at htoken
  | some (.issued id token), h =>
    exact ⟨id, token, rfl, Option.some.inj (htoken.symm.trans h.2.1), h.1, h.2.2⟩

end Registration

namespace AgentTokens

variable {Hash : Type} {hash : String → Hash} {s t : AgentTokens Hash}

inductive Move (hash : String → Hash) (s : AgentTokens Hash) : Action → AgentTokens Hash → Prop
  | refuse {request : ℕ} {work : TokenRequest} (hfresh : s.fresh work = true) :
      Move hash s (.start request work) { s with drawn := work.token.toList ++ s.drawn }
  | start {request : ℕ} {work : TokenRequest} (hfresh : s.fresh work = true) :
      Move hash s (.start request work)
        { s with
          drawn := work.token.toList ++ s.drawn
          pending := s.pending.insert request work }
  | drop {request : ℕ} : Move hash s (.finish request) { s with pending := s.pending.erase request }
  | commit {request : ℕ} {work : TokenRequest} {row : Registration Hash}
      (hpending : s.pending.lookup request = some work)
      (hrow : s.instances.lookup work.instanceId = some row) (hselects : work.selects row = true) :
      Move hash s (.finish request)
        { s with
          pending := s.pending.erase request
          instances := s.instances.insert work.instanceId (work.update hash row)
          log := work.event :: s.log }

theorem step_move [DecidableEq Hash] {a : Action} (h : step hash s a = some t) :
    Move hash s a t := by
  cases a with
  | start request work =>
    simp only [step] at h
    split_ifs at h with hguard
    all_goals
      cases h
      simp only [ne_eq, decide_not, Bool.or_eq_true, Bool.not_eq_eq_eq_not, Bool.not_true,
        decide_eq_false_iff_not, not_or, not_not, Bool.not_eq_false] at hguard
    · exact .start hguard.2
    · exact .refuse hguard.2
  | finish request =>
    simp only [step, Option.bind_eq_bind, Option.bind_eq_some_iff] at h
    obtain ⟨work, hpending, h⟩ := h
    split at h
    · rename_i row hrow
      split_ifs at h with hguard
      · cases h
        exact .commit hpending hrow (Bool.and_eq_true_iff.mp hguard).1
      · cases h
        exact .drop
    · cases h
      exact .drop

structure TokenInv (hash : String → Hash) (s : AgentTokens Hash) : Prop where
  rows : ∀ id row, s.instances.lookup id = some row → row.Follows hash (latest s.log id)
  absent : ∀ id, s.instances.lookup id = none → latest s.log id = none
  nodup : (issuedTokens s.log).Nodup
  issued : ∀ token ∈ issuedTokens s.log, token ∈ s.drawn
  drawn : ∀ token ∈ s.drawn, token ≠ ""
  pending : ∀ request work token, s.pending.lookup request = some work →
    work.token = some token → token ∈ s.drawn ∧ token ∉ issuedTokens s.log
  distinct : ∀ request request' work work' token, s.pending.lookup request = some work →
    s.pending.lookup request' = some work' → work.token = some token →
    work'.token = some token → request = request'

theorem mem_drawn_of_fresh {work : TokenRequest} {token : String} (hfresh : s.fresh work = true)
    (htoken : work.token = some token) : token ≠ "" ∧ token ∉ s.drawn := by
  simpa [fresh, htoken] using hfresh

theorem TokenInv.draw (h : TokenInv hash s) {work : TokenRequest}
    (hfresh : s.fresh work = true) :
    TokenInv hash { s with drawn := work.token.toList ++ s.drawn } where
  rows := h.rows
  absent := h.absent
  nodup := h.nodup
  issued := fun token htoken => List.mem_append_right _ (h.issued token htoken)
  drawn := fun token htoken => by
    rcases List.mem_append.mp htoken with htoken | htoken
    · exact (mem_drawn_of_fresh hfresh (Option.mem_toList.mp htoken)).1
    · exact h.drawn token htoken
  pending := fun request work' token hpending htoken => by
    obtain ⟨hdrawn, hnot⟩ := h.pending request work' token hpending htoken
    exact ⟨List.mem_append_right _ hdrawn, hnot⟩
  distinct := h.distinct

theorem lookup_of_erase {request request' : ℕ} {work : TokenRequest}
    (h : (s.pending.erase request).lookup request' = some work) :
    request' ≠ request ∧ s.pending.lookup request' = some work := by
  have hne : request' ≠ request := by
    rintro rfl
    simp at h
  exact ⟨hne, by rwa [AList.lookup_erase_ne hne] at h⟩

theorem TokenInv.move (h : TokenInv hash s) {a : Action} (hmove : Move hash s a t) :
    TokenInv hash t := by
  cases hmove with
  | refuse hfresh => exact h.draw hfresh
  | start hfresh =>
    rename_i request work
    have hdraw := h.draw hfresh
    -- the token of the new request differs from all that were drawn before it
    have hnew : ∀ request' work' token, s.pending.lookup request' = some work' →
        work'.token = some token → work.token ≠ some token := by
      intro request' work' token hpending htoken hwork
      exact (mem_drawn_of_fresh hfresh hwork).2 (h.pending request' work' token hpending htoken).1
    refine ⟨hdraw.rows, hdraw.absent, hdraw.nodup, hdraw.issued, hdraw.drawn, ?_, ?_⟩
    · intro request' work' token hpending htoken
      by_cases hrequest : request' = request
      · subst hrequest
        simp only [AList.lookup_insert, Option.some.injEq] at hpending
        subst hpending
        refine ⟨by simp [htoken], fun hmem => ?_⟩
        exact (mem_drawn_of_fresh hfresh htoken).2 (h.issued token hmem)
      · rw [AList.lookup_insert_ne hrequest] at hpending
        exact hdraw.pending request' work' token hpending htoken
    · intro request₁ request₂ work₁ work₂ token hpending₁ hpending₂ htoken₁ htoken₂
      by_cases hrequest₁ : request₁ = request <;> by_cases hrequest₂ : request₂ = request
      · rw [hrequest₁, hrequest₂]
      · subst hrequest₁
        simp only [AList.lookup_insert, Option.some.injEq] at hpending₁
        rw [AList.lookup_insert_ne hrequest₂] at hpending₂
        exact absurd (hpending₁ ▸ htoken₁) (hnew _ _ _ hpending₂ htoken₂)
      · subst hrequest₂
        simp only [AList.lookup_insert, Option.some.injEq] at hpending₂
        rw [AList.lookup_insert_ne hrequest₁] at hpending₁
        exact absurd (hpending₂ ▸ htoken₂) (hnew _ _ _ hpending₁ htoken₁)
      · rw [AList.lookup_insert_ne hrequest₁] at hpending₁
        rw [AList.lookup_insert_ne hrequest₂] at hpending₂
        exact h.distinct _ _ _ _ _ hpending₁ hpending₂ htoken₁ htoken₂
  | drop =>
    refine ⟨h.rows, h.absent, h.nodup, h.issued, h.drawn, ?_, ?_⟩
    · intro request work token hpending
      exact h.pending request work token (lookup_of_erase hpending).2
    · intro request₁ request₂ work₁ work₂ token hpending₁ hpending₂
      exact h.distinct _ _ _ _ token (lookup_of_erase hpending₁).2 (lookup_of_erase hpending₂).2
  | commit hpending hrow hselects =>
    rename_i request work row
    have hevent : work.event.instanceId = work.instanceId := by cases work <;> rfl
    have htoken : work.event.token = work.token := by cases work <;> rfl
    have hissued : issuedTokens (work.event :: s.log)
        = work.token.toList ++ issuedTokens s.log := by
      rw [issuedTokens, List.filterMap_cons, htoken]
      cases work.token <;> rfl
    refine ⟨?_, ?_, ?_, ?_, h.drawn, ?_, ?_⟩
    · intro id row' hrow'
      rw [latest_cons, hevent]
      by_cases hid : id = work.instanceId
      · subst hid
        simp only [AList.lookup_insert, Option.some.injEq] at hrow'
        rw [if_pos rfl, ← hrow']
        exact Registration.follows_update hselects
      · rw [AList.lookup_insert_ne hid] at hrow'
        rw [if_neg (Ne.symm hid)]
        exact h.rows id row' hrow'
    · intro id hnone
      have hid : id ≠ work.instanceId := by
        rintro rfl
        simp at hnone
      rw [AList.lookup_insert_ne hid] at hnone
      rw [latest_cons, hevent, if_neg (Ne.symm hid)]
      exact h.absent id hnone
    · rw [hissued]
      cases hwork : work.token with
      | none => exact h.nodup
      | some token =>
        exact List.nodup_cons.mpr ⟨(h.pending _ _ _ hpending hwork).2, h.nodup⟩
    · intro token hmem
      rw [hissued] at hmem
      rcases List.mem_append.mp hmem with hmem | hmem
      · exact (h.pending _ _ _ hpending (Option.mem_toList.mp hmem)).1
      · exact h.issued token hmem
    · intro request' work' token hpending' htoken'
      obtain ⟨hne, hpending'⟩ := lookup_of_erase hpending'
      obtain ⟨hdrawn, hnot⟩ := h.pending request' work' token hpending' htoken'
      refine ⟨hdrawn, fun hmem => ?_⟩
      rw [hissued] at hmem
      rcases List.mem_append.mp hmem with hmem | hmem
      · exact hne (h.distinct _ _ _ _ _ hpending' hpending htoken' (Option.mem_toList.mp hmem))
      · exact hnot hmem
    · intro request₁ request₂ work₁ work₂ token hpending₁ hpending₂
      exact h.distinct _ _ _ _ token (lookup_of_erase hpending₁).2 (lookup_of_erase hpending₂).2

section Authenticate

variable {id : InstanceId} {header : String}

theorem TokenInv.row_iff (h : TokenInv hash s) (hinjective : Function.Injective hash)
    (token : String) :
    (∃ row, s.instances.lookup id = some row ∧ row.active = true
      ∧ row.agentTokenHash = some (hash token)) ↔ Active s.log id token := by
  rw [active_iff_latest]
  constructor
  · rintro ⟨row, hrow, -, htoken⟩
    obtain ⟨id', token', hlatest, hhash, -⟩ := (h.rows id row hrow).issued htoken
    obtain rfl : id' = id := instanceId_of_latest hlatest
    rw [hlatest, hinjective hhash]
  · intro hlatest
    cases hrow : s.instances.lookup id with
    | none => simp [h.absent id hrow] at hlatest
    | some row =>
      have hfollows := h.rows id row hrow
      rw [hlatest] at hfollows
      obtain ⟨hexpected, htoken, hrevoked⟩ := hfollows
      exact ⟨row, rfl, by simp [Registration.active, hexpected, htoken, hrevoked], htoken⟩

theorem TokenInv.ne_empty (h : TokenInv hash s) {token : String} (hactive : Active s.log id token) :
    token ≠ "" := by
  obtain ⟨newer, older, hlog, -⟩ := hactive
  have hmem : .issued id token ∈ s.log := by simp [hlog]
  exact h.drawn token (h.issued token (mem_issuedTokens hmem))

variable [DecidableEq Hash]

theorem authenticateReport_eq_true : s.authenticateReport hash id header = true ↔
    bearerToken header ≠ "" ∧ ∃ row, s.instances.lookup id = some row ∧ row.active = true
      ∧ row.agentTokenHash = some (hash (bearerToken header)) := by
  unfold authenticateReport getAgentTokenHash
  cases s.instances.lookup id with
  | none => simp
  | some row =>
    cases hactive : row.active <;> cases htoken : row.agentTokenHash <;> simp [hactive, htoken]

theorem TokenInv.authenticateReport_iff (h : TokenInv hash s)
    (hinjective : Function.Injective hash) :
    s.authenticateReport hash id header = true ↔ Active s.log id (bearerToken header) := by
  rw [authenticateReport_eq_true, h.row_iff hinjective]
  exact ⟨fun hreport => hreport.2, fun hactive => ⟨h.ne_empty hactive, hactive⟩⟩

theorem TokenInv.authenticateDownload_iff (h : TokenInv hash s)
    (hinjective : Function.Injective hash) :
    s.authenticateDownload hash header = some id ↔ Active s.log id (bearerToken header) := by
  -- the condition of the query on an entry of the table, and the token that is active for it
  have hentry : ∀ entry ∈ s.instances.entries,
      (entry.2.agentTokenHash = some (hash (bearerToken header)) && entry.2.agentExpected
        && entry.2.agentTokenRevokedAt.isNone) = true →
      Active s.log entry.1 (bearerToken header) := by
    rintro ⟨id', row⟩ hmem hselects
    simp only [Bool.and_eq_true, decide_eq_true_eq] at hselects
    obtain ⟨⟨htoken, hexpected⟩, hrevoked⟩ := hselects
    refine (h.row_iff hinjective _).mp ⟨row, AList.mem_lookup_iff.mpr hmem, ?_, htoken⟩
    simp [Registration.active, hexpected, htoken, hrevoked]
  unfold authenticateDownload getInstanceIDByAgentTokenHash
  constructor
  · intro hdownload
    simp only at hdownload
    split_ifs at hdownload
    obtain ⟨entry, hfind, rfl⟩ := Option.map_eq_some_iff.mp hdownload
    exact hentry entry (List.mem_of_find?_eq_some hfind) (by simpa using List.find?_some hfind)
  · intro hactive
    obtain ⟨row, hrow, hrowActive, htoken⟩ := (h.row_iff hinjective _).mpr hactive
    simp only [if_neg (h.ne_empty hactive)]
    have hmem : (⟨id, row⟩ : Sigma fun _ : InstanceId => Registration Hash) ∈ s.instances.entries :=
      AList.mem_lookup_iff.mp hrow
    cases hfind : s.instances.entries.find? fun entry =>
        entry.2.agentTokenHash = some (hash (bearerToken header)) && entry.2.agentExpected
          && entry.2.agentTokenRevokedAt.isNone with
    | none =>
      have hnone := List.find?_eq_none.mp hfind _ hmem
      simp only [Registration.active, Bool.and_eq_true] at hrowActive
      simp [htoken, hrowActive] at hnone
    | some entry =>
      have hother := hentry entry (List.mem_of_find?_eq_some hfind)
        (by simpa using List.find?_some hfind)
      rw [Option.map_some, eq_of_active h.nodup hother hactive]

end Authenticate

structure Unregistered (s : AgentTokens Hash) : Prop where
  rows : ∀ id row, s.instances.lookup id = some row →
    row.agentExpected = false ∧ row.agentTokenHash = none
  pending : s.pending = ∅
  drawn : s.drawn = []
  log : s.log = []

theorem Unregistered.tokenInv (h : s.Unregistered) : TokenInv hash s := by
  refine ⟨fun id row hrow => ?_, ?_, ?_, ?_, ?_, ?_, ?_⟩
  · rw [h.log]
    exact h.rows id row hrow
  all_goals simp [h.log, h.drawn, h.pending, latest, issuedTokens]

structure Lifecycle [DecidableEq Hash] (hash : String → Hash) (s : AgentTokens Hash) : Prop where
  report : ∀ id header,
    s.authenticateReport hash id header = true ↔ Active s.log id (bearerToken header)
  download : ∀ id header,
    s.authenticateDownload hash header = some id ↔ Active s.log id (bearerToken header)
  stored : ∀ id row, s.instances.lookup id = some row → row.agentTokenHash.isSome = true →
    row.agentExpected = true ∧ row.agentTokenRevokedAt = none
  /-- A token after which the instance got another, or lost it, is not let through any more. -/
  superseded : ∀ newer id token older, s.log = newer ++ .issued id token :: older →
    (∃ event ∈ newer, event.instanceId = id) → ∀ id' header, bearerToken header = token →
    s.authenticateReport hash id' header = false ∧ s.authenticateDownload hash header = none

theorem TokenInv.lifecycle [DecidableEq Hash] (h : TokenInv hash s)
    (hinjective : Function.Injective hash) : Lifecycle hash s where
  report := fun _ _ => h.authenticateReport_iff hinjective
  download := fun _ _ => h.authenticateDownload_iff hinjective
  stored := fun id row hrow hsome => by
    obtain ⟨tokenHash, htoken⟩ := Option.isSome_iff_exists.mp hsome
    obtain ⟨-, -, -, -, hexpected, hrevoked⟩ := (h.rows id row hrow).issued htoken
    exact ⟨hexpected, hrevoked⟩
  superseded := fun newer id token older hlog ⟨event, hevent, hid⟩ id' header htoken => by
    have hinactive : ∀ id', ¬ Active s.log id' token := by
      rintro id' ⟨newer', older', hlog', hnewer⟩
      obtain ⟨rfl, rfl⟩ := append_inj_of_nodup h.nodup hlog hlog'
      exact hnewer event hevent hid
    refine ⟨Bool.eq_false_iff.mpr fun hreport => ?_, Option.eq_none_iff_forall_ne_some.mpr ?_⟩
    · exact hinactive id' (htoken ▸ (h.authenticateReport_iff hinjective).mp hreport)
    · exact fun id' hdownload =>
        hinactive id' (htoken ▸ (h.authenticateDownload_iff hinjective).mp hdownload)

/-- An Agent that is expected stays expected unless a request to disable it commits. -/
def ExpectedKept (s : AgentTokens Hash) (a : Action) (t : AgentTokens Hash) : Prop :=
  ∀ id row, s.instances.lookup id = some row → row.agentExpected = true →
    (∃ row', t.instances.lookup id = some row' ∧ row'.agentExpected = true)
      ∨ ∃ request, a = .finish request ∧ s.pending.lookup request = some (.disable id)

theorem Move.expectedKept {a : Action} (h : Move hash s a t) : ExpectedKept s a t := by
  intro id row hrow hexpected
  cases h with
  | refuse _ | start _ | drop => exact .inl ⟨row, hrow, hexpected⟩
  | commit hpending hrow' hselects =>
    rename_i request work row'
    by_cases hid : id = work.instanceId
    · subst hid
      obtain rfl : row = row' := Option.some.inj (hrow.symm.trans hrow')
      cases work with
      | register id token now => exact .inl ⟨_, AList.lookup_insert _, rfl⟩
      | rotate id token now => exact .inl ⟨_, AList.lookup_insert _, hexpected⟩
      | revoke id now => exact .inl ⟨_, AList.lookup_insert _, hexpected⟩
      | disable id => exact .inr ⟨request, rfl, hpending⟩
    · exact .inl ⟨row, by rwa [AList.lookup_insert_ne hid], hexpected⟩

/-- An Agent is let through exactly with the last token of its instance, not revoked or disabled
since. -/
theorem agent_token_lifecycle [DecidableEq Hash] (hinjective : Function.Injective hash)
    (hs : s.Unregistered) (actions : List Action) :
    (∀ t, Machine.run (step hash) s actions = some t → Lifecycle hash t)
      ∧ Machine.Along (step hash) ExpectedKept s actions := by
  have hstep : ∀ s a t, TokenInv hash s → step hash s a = some t → TokenInv hash t :=
    fun s a t h hst => h.move (step_move hst)
  refine ⟨fun t hrun => ?_, Machine.Along.of_invariant (I := TokenInv hash) ?_ hs.tokenInv⟩
  · exact (Machine.run_invariant (step hash) hstep actions hs.tokenInv hrun).lifecycle hinjective
  · exact fun s a t h hst => ⟨(step_move hst).expectedKept, hstep s a t h hst⟩

/-- A token is issued, rotated while a revocation waits; the Agent is disabled and registered
again. -/
theorem agent_token_lifecycle_registered_again :
    ∃ (s t : AgentTokens String) (actions : List Action), s.Unregistered
      ∧ Machine.run (step id) s actions = some t ∧ Lifecycle id t
      ∧ Machine.Along (step id) ExpectedKept s actions
      ∧ t.authenticateReport id "orders" "Bearer t3" = true
      ∧ t.log = [.issued "orders" "t3", .disabled "orders", .revoked "orders",
          .issued "orders" "t2", .issued "orders" "t1"] := by
  let s : AgentTokens String := { instances := AList.singleton "orders" {} }
  let actions : List Action :=
    [.start 0 (.register "orders" "t1" 0), .finish 0, .start 1 (.rotate "orders" "t2" 1),
      .start 2 (.revoke "orders" 2), .finish 1, .finish 2, .start 3 (.disable "orders"), .finish 3,
      .start 4 (.register "orders" "t3" 4), .finish 4]
  have hs : s.Unregistered := by
    refine ⟨fun id row hrow => ?_, rfl, rfl, rfl⟩
    by_cases hid : id = "orders"
    · subst hid
      cases hrow
      exact ⟨rfl, rfl⟩
    · have hnone : s.instances.lookup id = none := by
        simp [s, ← AList.insert_empty, hid]
      cases hnone.symm.trans hrow
  obtain ⟨hlifecycle, hkept⟩ := agent_token_lifecycle Function.injective_id hs actions
  exact ⟨s, _, actions, hs, rfl, hlifecycle _ rfl, hkept, by decide, by decide⟩

end AgentTokens

end DbsMonitor
