import DbsMonitor.Proofs.LastAdmin

/-!
# No stale session survives

A login shares the row of its user from its verification to the commit of its session, so a request
that disables the user or sets another password waits, and its `DELETE` finds the session
(`Tracked.found`). Every session left comes from a login that verified later (`VerifiedSince`).
-/

namespace DbsMonitor.Accounts

open RowLock

variable {Hash : Type} {config : Config Hash} {s t : Accounts Hash}

def verifiedLogins (log : List (Event Hash)) : List TransactionId :=
  log.filterMap fun
    | .verified login _ _ _ => some login
    | .committed _ => none

def passwordOf (log : List (Event Hash)) (user : UserId) : Option Hash :=
  log.findSome? fun
    | .verified _ _ _ _ => none
    | .committed request => request.setsPassword.bind fun (id, passwordHash) =>
      if id = user then some passwordHash else none

/-- The login verified its user after every commit that deletes such sessions. -/
def VerifiedSince (log : List (Event Hash)) (login : TransactionId) (session : Session) : Prop :=
  ∀ newer request older, log = newer ++ .committed request :: older →
    request.deletes session = true →
    ∃ passwordHash password, .verified login session.userId passwordHash password ∈ newer

def Matched (config : Config Hash) (log : List (Event Hash)) : Prop :=
  ∀ newer login user passwordHash password older,
    log = newer ++ .verified login user passwordHash password :: older →
    config.compare passwordHash password = true
      ∧ ∀ given, passwordOf older user = some given → passwordHash = given

def GivenPasswords (users : AList fun _ : UserId => User Hash) (log : List (Event Hash)) : Prop :=
  ∀ id user, users.lookup id = some user →
    ∀ given, passwordOf log id = some given → user.passwordHash = given

section Log

variable {log : List (Event Hash)} {login tx : TransactionId} {session : Session} {user : UserId}
  {request : Request Hash} {passwordHash : Hash} {password : String}

@[simp] theorem verifiedLogins_nil : verifiedLogins ([] : List (Event Hash)) = [] := rfl

@[simp] theorem verifiedLogins_committed :
    verifiedLogins (.committed request :: log) = verifiedLogins log := rfl

@[simp] theorem verifiedLogins_append (newer older : List (Event Hash)) :
    verifiedLogins (newer ++ older) = verifiedLogins newer ++ verifiedLogins older :=
  List.filterMap_append

@[simp] theorem passwordOf_nil : passwordOf ([] : List (Event Hash)) user = none := rfl

theorem passwordOf_committed :
    passwordOf (.committed request :: log) user
      = (request.setsPassword.bind fun (id, passwordHash) =>
          if id = user then some passwordHash else none).or (passwordOf log user) := by
  simp only [passwordOf, List.findSome?_cons]
  cases request.setsPassword.bind _ <;> rfl

theorem passwordOf_append (newer older : List (Event Hash)) :
    passwordOf (newer ++ older) user = (passwordOf newer user).or (passwordOf older user) :=
  List.findSome?_append

theorem mem_verifiedLogins_of_mem
    (h : Event.verified login user passwordHash password ∈ log) : login ∈ verifiedLogins log :=
  List.mem_filterMap.mpr ⟨_, h, rfl⟩

theorem VerifiedSince.committed (h : VerifiedSince log login session)
    (hkept : request.deletes session = false) :
    VerifiedSince (.committed request :: log) login session := by
  intro newer request' older hlog hdeletes
  cases newer with
  | nil =>
    simp only [List.nil_append, List.cons.injEq, Event.committed.injEq] at hlog
    rw [← hlog.1, hkept] at hdeletes
    cases hdeletes
  | cons event newer =>
    simp only [List.cons_append, List.cons.injEq] at hlog
    obtain ⟨passwordHash, password, hmem⟩ := h newer request' older hlog.2 hdeletes
    exact ⟨passwordHash, password, List.mem_cons_of_mem _ hmem⟩

theorem VerifiedSince.verified (h : VerifiedSince log login session) :
    VerifiedSince (.verified tx user passwordHash password :: log) login session := by
  intro newer request older hlog hdeletes
  cases newer with
  | nil => simp at hlog
  | cons event newer =>
    simp only [List.cons_append, List.cons.injEq] at hlog
    obtain ⟨passwordHash, password, hmem⟩ := h newer request older hlog.2 hdeletes
    exact ⟨passwordHash, password, List.mem_cons_of_mem _ hmem⟩

theorem verifiedSince_self (hid : session.userId = user) :
    VerifiedSince (.verified login user passwordHash password :: log) login session := by
  intro newer request older hlog _
  cases newer with
  | nil => simp at hlog
  | cons event newer =>
    simp only [List.cons_append, List.cons.injEq] at hlog
    exact ⟨passwordHash, password, by simp [hid, ← hlog.1]⟩

theorem Matched.committed (h : Matched config log) :
    Matched config (.committed request :: log) := by
  intro newer login user passwordHash password older hlog
  cases newer with
  | nil => simp at hlog
  | cons event newer =>
    simp only [List.cons_append, List.cons.injEq] at hlog
    exact h newer login user passwordHash password older hlog.2

theorem Matched.verified (h : Matched config log)
    (hcompare : config.compare passwordHash password = true)
    (hgiven : ∀ given, passwordOf log user = some given → passwordHash = given) :
    Matched config (.verified login user passwordHash password :: log) := by
  intro newer login' user' passwordHash' password' older hlog
  cases newer with
  | nil =>
    simp only [List.nil_append, List.cons.injEq, Event.verified.injEq] at hlog
    obtain ⟨⟨-, rfl, rfl, rfl⟩, rfl⟩ := hlog
    exact ⟨hcompare, hgiven⟩
  | cons event newer =>
    simp only [List.cons_append, List.cons.injEq] at hlog
    exact h newer login' user' passwordHash' password' older hlog.2

end Log

def Phase.undecided : Phase Hash → Bool
  | .query _ _ | .lock _ _ _ _ _ => true
  | .written _ | .delete _ _ _ => false

def Phase.writes : Phase Hash → Option (Write Hash)
  | .query _ _ | .lock _ _ _ _ _ => none
  | .written write | .delete write _ _ => some write

structure Tracked (next : TransactionId) (log : List (Event Hash))
    (sessions : AList fun _ : TransactionId => Session) (tx : TransactionId)
    (transaction : Transaction Hash) : Prop where
  started : tx < next
  undecided : transaction.phase.undecided = true → tx ∉ verifiedLogins log
  pending : ∀ session, transaction.phase.writes = some (.insertSession session) →
    VerifiedSince log tx session
  found : ∀ write rows deleted, transaction.phase = .delete write rows deleted →
    ∀ login session, sessions.lookup login = some session →
      transaction.request.deletes session = true → login ∈ rows ∨ login ∈ deleted

structure SessionInv (config : Config Hash) (s : Accounts Hash) : Prop where
  known : ∀ login ∈ verifiedLogins s.log, login < s.next
  nodup : (verifiedLogins s.log).Nodup
  matched : Matched config s.log
  passwords : GivenPasswords s.users s.log
  sessions : ∀ login session, s.sessions.lookup login = some session →
    VerifiedSince s.log login session
  tracked : ∀ tx transaction, s.transactions.lookup tx = some transaction →
    Tracked s.next s.log s.sessions tx transaction

section Request

variable {locks : UserId → List (Holder TransactionId (User Hash))} {tx : TransactionId}
  {request : Request Hash} {write : Write Hash} {session : Session}

theorem deletes_eq_false (h : request.deletesSessions = false) :
    request.deletes session = false := by
  cases request <;> simp_all [Request.deletesSessions, Request.deletes]

@[simp] theorem deletes_seen (lastSeenAt : ℤ) :
    request.deletes { session with lastSeenAt := lastSeenAt } = request.deletes session := by
  cases request <;> rfl

theorem Decision.holds_of_deletes (h : Decision config locks tx request write)
    (hdeletes : request.deletes session = true) :
    ∃ user, Holds locks tx .update (session.userId, user) := by
  cases h with
  | createSession _ _ => simp [Request.deletes] at hdeletes
  | createUser => simp [Request.deletes] at hdeletes
  | setUserEnabled _ hholds _ =>
    simp only [Request.deletes, Bool.and_eq_true, decide_eq_true_eq] at hdeletes
    exact ⟨_, hdeletes.2 ▸ hholds⟩
  | setUserRole _ _ _ => simp [Request.deletes] at hdeletes
  | resetUserPassword hholds =>
    simp only [Request.deletes, decide_eq_true_eq] at hdeletes
    exact ⟨_, hdeletes ▸ hholds⟩
  | changeOwnPassword hholds =>
    simp only [Request.deletes, Bool.and_eq_true, decide_eq_true_eq] at hdeletes
    exact ⟨_, hdeletes.1 ▸ hholds⟩

theorem Decision.holds_of_insertSession
    (h : Decision config locks tx request (.insertSession session)) :
    request.deletesSessions = false ∧ ∃ user, Holds locks tx .share (session.userId, user) := by
  cases h with
  | createSession hholds _ => exact ⟨rfl, _, hholds⟩

theorem Decision.deletes_eq_false_of_insertSession (hlocks : LockInv s.users s.locks)
    {other : TransactionId} {request' : Request Hash} (hne : other ≠ tx)
    (h : Decision config s.locks tx request (.insertSession session))
    (hother : Decision config s.locks other request' write) : request'.deletes session = false := by
  refine Bool.eq_false_iff.mpr fun hdeletes => ?_
  obtain ⟨user, hholds⟩ := hother.holds_of_deletes hdeletes
  obtain ⟨-, user', hholds'⟩ := h.holds_of_insertSession
  have hid : (session.userId, user).1 = (session.userId, user').1 := rfl
  exact hne (hlocks.eq_of_holds hid hholds hholds').symm

theorem Holding.decision {transaction : Transaction Hash}
    (h : Holding config locks tx transaction) (hwrites : transaction.phase.writes = some write) :
    Decision config locks tx transaction.request write := by
  obtain ⟨request, phase⟩ := transaction
  cases phase with
  | query _ _ | lock _ _ _ _ _ => cases hwrites
  | written _ | delete _ _ _ =>
    cases hwrites
    exact h

theorem verification_of_decide {results : List (List (Row Hash))}
    (hreturned : List.Forall₂ (Returned locks tx) request.queries results)
    (h : request.decide config results = .ok write) :
    (request.verification tx results = [] ∧ ∀ session, write ≠ .insertSession session)
      ∨ ∃ id user password session,
          request.verification tx results = [.verified tx id user.passwordHash password]
          ∧ write = .insertSession session ∧ session.userId = id
          ∧ Holds locks tx .share (id, user)
          ∧ config.compare user.passwordHash password = true := by
  cases request with
  | createSession username password tokenHash now =>
    right
    obtain ⟨rows, rfl, hrows⟩ := returned_singleton hreturned
    cases rows with
    | nil => cases h
    | cons row rows =>
      simp only [Request.decide] at h
      split_ifs at h with hcompare
      cases h
      exact ⟨row.1, row.2, password, _, rfl, rfl, rfl, hrows.head.2, hcompare⟩
  | _ =>
    left
    refine ⟨rfl, fun session hwrite => ?_⟩
    subst hwrite
    cases decision_of_decide hreturned h

end Request

section Tracked

variable {next next' tx : TransactionId} {log log' : List (Event Hash)}
  {sessions sessions' : AList fun _ : TransactionId => Session} {transaction : Transaction Hash}
  {request : Request Hash} {phase : Phase Hash}

theorem Tracked.frame (h : Tracked next log sessions tx transaction) (hnext : next ≤ next')
    (hlog : tx ∈ verifiedLogins log' → tx ∈ verifiedLogins log)
    (hpending : ∀ session, transaction.phase.writes = some (.insertSession session) →
      VerifiedSince log tx session → VerifiedSince log' tx session)
    (hsessions : ∀ write login session, transaction.phase.writes = some write →
      sessions'.lookup login = some session → transaction.request.deletes session = true →
      ∃ old, sessions.lookup login = some old ∧ transaction.request.deletes old = true) :
    Tracked next' log' sessions' tx transaction where
  started := h.started.trans_le hnext
  undecided := fun hundecided hmem => h.undecided hundecided (hlog hmem)
  pending := fun session hwrites => hpending session hwrites (h.pending session hwrites)
  found := fun write rows deleted hphase login session hlookup hdeletes => by
    have hwrites : transaction.phase.writes = some write := by rw [hphase]; rfl
    obtain ⟨old, hold, hdeletes⟩ := hsessions write login session hwrites hlookup hdeletes
    exact h.found write rows deleted hphase login old hold hdeletes

theorem Tracked.advance (h : Tracked next log sessions tx transaction)
    (hundecided : transaction.phase.undecided = true) (hphase : phase.undecided = true) :
    Tracked next log sessions tx ⟨request, phase⟩ := by
  refine ⟨h.started, fun _ => h.undecided hundecided, fun session hwrites => ?_,
    fun write rows deleted heq => ?_⟩
  · cases phase <;> simp_all [Phase.undecided, Phase.writes]
  · subst heq
    cases hphase

theorem Tracked.delete (h : Tracked next log sessions tx ⟨request, phase⟩) {write : Write Hash}
    {rows deleted : List TransactionId} (hwrites : phase.writes = some write)
    (hfound : ∀ login session, sessions.lookup login = some session →
      request.deletes session = true → login ∈ rows ∨ login ∈ deleted) :
    Tracked next log sessions tx ⟨request, .delete write rows deleted⟩ := by
  refine ⟨h.started, fun hundecided => ?_, fun session hwrites' => ?_, fun _ _ _ hphase => ?_⟩
  · cases hundecided
  · exact h.pending session (hwrites.trans hwrites')
  · cases hphase
    exact hfound

theorem tracked_insert
    (h : ∀ tx transaction, s.transactions.lookup tx = some transaction → tx ≠ next →
      Tracked next' log sessions tx transaction)
    (hown : Tracked next' log sessions next ⟨request, phase⟩) (other : TransactionId)
    (transaction : Transaction Hash)
    (hlookup : (s.transactions.insert next ⟨request, phase⟩).lookup other = some transaction) :
    Tracked next' log sessions other transaction := by
  by_cases hother : other = next
  · subst hother
    simp only [AList.lookup_insert, Option.some.injEq] at hlookup
    exact hlookup ▸ hown
  · rw [AList.lookup_insert_ne hother] at hlookup
    exact h other transaction hlookup hother

theorem SessionInv.setPhase (h : SessionInv config s)
    (hown : Tracked s.next s.log s.sessions tx ⟨request, phase⟩) :
    SessionInv config (s.setPhase tx request phase) where
  known := h.known
  nodup := h.nodup
  matched := h.matched
  passwords := h.passwords
  sessions := h.sessions
  tracked := tracked_insert (fun tx transaction hlookup _ => h.tracked tx transaction hlookup) hown

end Tracked

theorem lookup_of_foldl_erase {deleted : List TransactionId} {login : TransactionId}
    {session : Session} :
    ∀ {sessions : AList fun _ : TransactionId => Session},
      (deleted.foldl (fun sessions login => sessions.erase login) sessions).lookup login
        = some session →
      login ∉ deleted ∧ sessions.lookup login = some session := by
  induction deleted with
  | nil => exact fun h => ⟨by simp, h⟩
  | cons other deleted ih =>
    intro sessions h
    obtain ⟨hmem, hlookup⟩ := ih h
    have hne : login ≠ other := by
      rintro rfl
      simp at hlookup
    rw [AList.lookup_erase_ne hne] at hlookup
    exact ⟨by simp [hne, hmem], hlookup⟩

theorem mem_selectedSessions {request : Request Hash} {login : TransactionId} {session : Session}
    (hlookup : s.sessions.lookup login = some session) (hdeletes : request.deletes session = true) :
    login ∈ s.selectedSessions request := by
  have hmem : (⟨login, session⟩ : Sigma fun _ : TransactionId => Session) ∈ s.sessions.entries :=
    AList.mem_lookup_iff.mp hlookup
  exact List.mem_map.mpr ⟨_, List.mem_filter.mpr ⟨hmem, hdeletes⟩, rfl⟩

theorem SessionInv.verified (h : SessionInv config s) (hlocks : LockInv s.users s.locks)
    {tx : TransactionId} {request : Request Hash} {results : List (List (Row Hash))}
    {id : UserId} {user : User Hash} {password : String} {session : Session}
    (hlookup : s.transactions.lookup tx = some ⟨request, .query [] results⟩)
    (hrequest : request.deletesSessions = false) (hid : session.userId = id)
    (hholds : Holds s.locks tx .share (id, user))
    (hcompare : config.compare user.passwordHash password = true) :
    SessionInv config
      { s.setPhase tx request (.delete (.insertSession session) [] []) with
        log := .verified tx id user.passwordHash password :: s.log } := by
  have htracked := h.tracked _ _ hlookup
  have hfresh := htracked.undecided rfl
  refine ⟨?_, ?_, ?_, ?_, ?_, ?_⟩
  · intro login hlogin
    rcases List.mem_cons.mp hlogin with rfl | hlogin
    · exact htracked.started
    · exact h.known login hlogin
  · exact List.nodup_cons.mpr ⟨hfresh, h.nodup⟩
  · exact h.matched.verified hcompare (h.passwords id user (hlocks.lookup_of_holds hholds))
  · exact h.passwords
  · exact fun login session hsession => (h.sessions login session hsession).verified
  · refine tracked_insert (fun other transaction hother hne => ?_) ⟨htracked.started, ?_, ?_, ?_⟩
    · refine (h.tracked other transaction hother).frame le_rfl (fun hmem => ?_)
        (fun session _ hsince => hsince.verified)
        fun _ login session _ hsession hdeletes => ⟨session, hsession, hdeletes⟩
      exact (List.mem_cons.mp hmem).resolve_left hne
    · intro hundecided
      cases hundecided
    · intro session' hwrites
      cases hwrites
      exact verifiedSince_self hid
    · intro write rows deleted _ login session' _ hdeletes
      rw [deletes_eq_false hrequest] at hdeletes
      cases hdeletes

theorem SessionInv.decided (h : SessionInv config s) {tx : TransactionId} {request : Request Hash}
    {results : List (List (Row Hash))} {write : Write Hash}
    (hlookup : s.transactions.lookup tx = some ⟨request, .query [] results⟩)
    (hwrite : ∀ session, write ≠ .insertSession session) :
    SessionInv config (s.setPhase tx request (request.phaseAfter write)) := by
  refine h.setPhase ⟨(h.tracked _ _ hlookup).started, ?_, ?_, ?_⟩ <;> unfold Request.phaseAfter
  · intro hundecided
    split_ifs at hundecided <;> cases hundecided
  · intro session hwrites
    split_ifs at hwrites <;> exact absurd (Option.some.inj hwrites) (hwrite session)
  · intro write' rows deleted hphase login session _ hdeletes
    split_ifs at hphase with hrequest
    rw [deletes_eq_false (Bool.eq_false_iff.mpr hrequest)] at hdeletes
    cases hdeletes

section Commit

variable {tx : TransactionId} {request : Request Hash} {write : Write Hash}
  {applied : Accounts Hash} {log : List (Event Hash)}

theorem GivenPasswords.of_setsPassword {users : AList fun _ : UserId => User Hash}
    (h : GivenPasswords users log) {target : UserId} {user : User Hash}
    (hset : request.setsPassword = some (target, user.passwordHash)) :
    GivenPasswords (users.insert target user) (.committed request :: log) := by
  intro id user' hlookup given hgiven
  rw [passwordOf_committed, hset] at hgiven
  by_cases hid : id = target
  · subst hid
    simp only [AList.lookup_insert, Option.some.injEq] at hlookup
    simpa [hlookup] using hgiven
  · rw [AList.lookup_insert_ne hid] at hlookup
    exact h id user' hlookup given (by simpa [Ne.symm hid] using hgiven)

theorem GivenPasswords.committed {users : AList fun _ : UserId => User Hash}
    (h : GivenPasswords users log) (hset : request.setsPassword = none) :
    GivenPasswords users (.committed request :: log) := by
  intro id user hlookup given hgiven
  simp only [passwordOf_committed, hset, Option.bind_none, Option.none_or] at hgiven
  exact h id user hlookup given hgiven

theorem GivenPasswords.insert {users : AList fun _ : UserId => User Hash}
    (h : GivenPasswords users log) {target : UserId} {old user : User Hash}
    (hlookup : users.lookup target = some old) (hsame : user.passwordHash = old.passwordHash) :
    GivenPasswords (users.insert target user) log := by
  intro id user' hlookup' given hgiven
  by_cases hid : id = target
  · subst hid
    simp only [AList.lookup_insert, Option.some.injEq] at hlookup'
    rw [← hlookup', hsame]
    exact h id old hlookup given hgiven
  · rw [AList.lookup_insert_ne hid] at hlookup'
    exact h id user' hlookup' given hgiven

theorem Decision.passwords (hlocks : LockInv s.users s.locks)
    (hdecision : Decision config s.locks tx request write)
    (happly : s.apply tx write = some applied) (h : GivenPasswords s.users log) :
    GivenPasswords applied.users (.committed request :: log) := by
  cases hdecision with
  | createSession _ _ =>
    simp only [apply] at happly
    split_ifs at happly
    cases happly
    exact h.committed rfl
  | createUser =>
    simp only [apply] at happly
    split_ifs at happly
    cases happly
    exact h.of_setsPassword rfl
  | setUserEnabled _ hholds _ =>
    cases happly
    have hlookup := hlocks.lookup_of_holds hholds
    rw [updateUser_of_lookup hlookup]
    refine GivenPasswords.committed ?_ rfl
    exact h.insert hlookup rfl
  | setUserRole _ hholds _ =>
    cases happly
    have hlookup := hlocks.lookup_of_holds hholds
    rw [updateUser_of_lookup hlookup]
    refine GivenPasswords.committed ?_ rfl
    exact h.insert hlookup rfl
  | resetUserPassword hholds =>
    cases happly
    rw [updateUser_of_lookup (hlocks.lookup_of_holds hholds)]
    exact h.of_setsPassword rfl
  | changeOwnPassword hholds =>
    cases happly
    rw [updateUser_of_lookup (hlocks.lookup_of_holds hholds)]
    exact h.of_setsPassword rfl

theorem lookup_of_apply (happly : s.apply tx write = some applied) {login : TransactionId}
    {session : Session} (hlookup : applied.sessions.lookup login = some session) :
    s.sessions.lookup login = some session ∨ login = tx ∧ write = .insertSession session := by
  cases write with
  | insertSession inserted =>
    simp only [apply] at happly
    split_ifs at happly
    cases happly
    by_cases hlogin : login = tx
    · subst hlogin
      simp only [AList.lookup_insert, Option.some.injEq] at hlookup
      exact .inr ⟨rfl, hlookup ▸ rfl⟩
    · exact .inl (by simpa [AList.lookup_insert_ne hlogin] using hlookup)
  | insertUser id user =>
    simp only [apply] at happly
    split_ifs at happly
    cases happly
    exact .inl hlookup
  | setEnabled id enabled =>
    cases happly
    exact .inl hlookup
  | setRole id role =>
    cases happly
    exact .inl hlookup
  | setPassword id passwordHash =>
    cases happly
    exact .inl hlookup

theorem SessionInv.commit (h : SessionInv config s) (hinv : HoldInv config s)
    {deleted : List TransactionId}
    (hlookup : s.transactions.lookup tx = some ⟨request, .delete write [] deleted⟩)
    (happly : s.apply tx write = some applied) :
    SessionInv config
      { applied.finish tx with
        sessions := deleted.foldl (fun sessions login => sessions.erase login) applied.sessions
        log := .committed request :: s.log } := by
  have htracked := h.tracked _ _ hlookup
  have hdecision : Decision config s.locks tx request write := hinv.holding _ _ hlookup
  obtain ⟨-, htransactions, hnext⟩ := apply_frame happly
  have hpasswords := hdecision.passwords hinv.locks happly h.passwords
  refine ⟨?_, h.nodup, h.matched.committed, hpasswords, ?_, ?_⟩
  · exact fun login hlogin => (h.known login hlogin).trans_eq hnext.symm
  · intro login session hsession
    obtain ⟨hkept, hsession⟩ := lookup_of_foldl_erase hsession
    rcases lookup_of_apply happly hsession with hsession | ⟨rfl, rfl⟩
    · refine (h.sessions login session hsession).committed ?_
      refine Bool.eq_false_iff.mpr fun hdeletes => ?_
      rcases htracked.found write [] deleted rfl login session hsession hdeletes with hmem | hmem
      · cases hmem
      · exact hkept hmem
    · exact (htracked.pending session rfl).committed
        (deletes_eq_false hdecision.holds_of_insertSession.1)
  · intro other transaction hother
    have hne : other ≠ tx := by
      rintro rfl
      simp at hother
    simp only [finish_transactions, htransactions, AList.lookup_erase_ne hne] at hother
    have hother' := hinv.holding other transaction hother
    refine (h.tracked other transaction hother).frame hnext.ge (fun hmem => hmem)
      (fun session hwrites hsince => hsince.committed ?_)
      fun _ login session hwrites hsession hdeletes => ?_
    · exact Decision.deletes_eq_false_of_insertSession hinv.locks hne.symm
        (hother'.decision hwrites) hdecision
    · obtain ⟨-, hsession⟩ := lookup_of_foldl_erase hsession
      rcases lookup_of_apply happly hsession with hsession | ⟨rfl, rfl⟩
      · exact ⟨session, hsession, hdeletes⟩
      · rw [Decision.deletes_eq_false_of_insertSession hinv.locks hne hdecision
          (hother'.decision hwrites)] at hdeletes
        cases hdeletes

end Commit

theorem SessionInv.setSessions (h : SessionInv config s)
    {sessions : AList fun _ : TransactionId => Session}
    (authentications : AList fun _ : ℕ => Authentication)
    (hsessions : ∀ login session, sessions.lookup login = some session →
      ∃ lastSeenAt, s.sessions.lookup login = some { session with lastSeenAt := lastSeenAt }) :
    SessionInv config { s with sessions := sessions, authentications := authentications } where
  known := h.known
  nodup := h.nodup
  matched := h.matched
  passwords := h.passwords
  sessions := fun login session hsession newer request older hlog hdeletes => by
    obtain ⟨lastSeenAt, hold⟩ := hsessions login session hsession
    exact h.sessions login _ hold newer request older hlog (by rwa [deletes_seen])
  tracked := fun tx transaction hlookup => by
    refine (h.tracked tx transaction hlookup).frame le_rfl (fun hmem => hmem)
      (fun _ _ hsince => hsince) fun _ login session _ hsession hdeletes => ?_
    obtain ⟨lastSeenAt, hold⟩ := hsessions login session hsession
    exact ⟨_, hold, by rwa [deletes_seen]⟩

theorem SessionInv.move (h : SessionInv config s) (hinv : HoldInv config s)
    (hmove : Move config s t) : SessionInv config t := by
  cases hmove with
  | begin request _ _ =>
    have hfresh : s.next ∉ verifiedLogins s.log := fun hmem => (h.known _ hmem).false
    refine ⟨fun login hlogin => (h.known login hlogin).trans (Nat.lt_succ_self _), h.nodup,
      h.matched, h.passwords, h.sessions, tracked_insert (fun tx transaction hlookup _ => ?_) ?_⟩
    · exact (h.tracked tx transaction hlookup).frame (Nat.le_succ _) (fun hmem => hmem)
        (fun _ _ hsince => hsince) fun _ login session _ hsession hdeletes =>
          ⟨session, hsession, hdeletes⟩
    · refine ⟨Nat.lt_succ_self _, fun _ => hfresh, fun _ hwrites => ?_, fun _ _ _ hphase => ?_⟩
      · cases hwrites
      · cases hphase
  | select hlookup => exact h.setPhase ((h.tracked _ _ hlookup).advance rfl rfl)
  | returned hlookup => exact h.setPhase ((h.tracked _ _ hlookup).advance rfl rfl)
  | lock hlookup _ _ =>
    refine ⟨h.known, h.nodup, h.matched, h.passwords, h.sessions, ?_⟩
    exact tracked_insert (fun tx transaction hother _ => h.tracked tx transaction hother)
      ((h.tracked _ _ hlookup).advance rfl rfl)
  | finish tx =>
    refine ⟨h.known, h.nodup, h.matched, h.passwords, h.sessions, ?_⟩
    intro other transaction hother
    have hne : other ≠ tx := by
      rintro rfl
      simp at hother
    rw [finish_transactions, AList.lookup_erase_ne hne] at hother
    exact h.tracked other transaction hother
  | decide hlookup hdecide =>
    obtain ⟨done, hdone, hresults⟩ := hinv.holding _ _ hlookup
    simp only [List.append_nil] at hdone
    have hreturned := hdone ▸ hresults
    rcases verification_of_decide hreturned hdecide with ⟨hnil, hwrite⟩
      | ⟨id, user, password, session, hverification, rfl, hid, hholds, hcompare⟩
    · rw [hnil]
      exact h.decided hlookup hwrite
    · have hrequest := (decision_of_decide hreturned hdecide).holds_of_insertSession.1
      rw [hverification, Request.phaseAfter, hrequest]
      exact h.verified hinv.locks hlookup hrequest hid hholds hcompare
  | selectSessions hlookup =>
    refine h.setPhase ((h.tracked _ _ hlookup).delete rfl fun login session hsession hdeletes => ?_)
    exact .inl (mem_selectedSessions hsession hdeletes)
  | delete hlookup _ =>
    have htracked := h.tracked _ _ hlookup
    refine h.setPhase (htracked.delete rfl fun login session hsession hdeletes => ?_)
    rcases htracked.found _ _ _ rfl login session hsession hdeletes with hmem | hmem
    · rcases List.mem_cons.mp hmem with rfl | hmem
      · exact .inr List.mem_cons_self
      · exact .inl hmem
    · exact .inr (List.mem_cons_of_mem _ hmem)
  | skip hlookup hfound =>
    have htracked := h.tracked _ _ hlookup
    refine h.setPhase (htracked.delete rfl fun login session hsession hdeletes => ?_)
    rcases htracked.found _ _ _ rfl login session hsession hdeletes with hmem | hmem
    · rcases List.mem_cons.mp hmem with rfl | hmem
      · simp [hsession, hdeletes] at hfound
      · exact .inl hmem
    · exact .inr hmem
  | commit hlookup happly => exact h.commit hinv hlookup happly
  | authenticate authentications =>
    exact h.setSessions authentications fun login session hsession => ⟨session.lastSeenAt, hsession⟩
  | touch lastSeenAt authentications hlookup =>
    rename_i login session
    refine h.setSessions authentications fun login' session' hsession => ?_
    by_cases hlogin : login' = login
    · subst hlogin
      simp only [AList.lookup_insert, Option.some.injEq] at hsession
      exact ⟨session.lastSeenAt, by rw [hlookup, ← hsession]⟩
    · rw [AList.lookup_insert_ne hlogin] at hsession
      exact ⟨session'.lastSeenAt, hsession⟩
  | deleteSession login =>
    refine h.setSessions s.authentications fun login' session hsession => ?_
    have hlogin : login' ≠ login := by
      rintro rfl
      simp at hsession
    rw [AList.lookup_erase_ne hlogin] at hsession
    exact ⟨session.lastSeenAt, hsession⟩

theorem Idle.sessionInv (h : s.Idle) : SessionInv config s where
  known := by simp [h.log]
  nodup := by simp [h.log]
  matched := by simp [Matched, h.log]
  passwords := by simp [GivenPasswords, h.log]
  sessions := by simp [VerifiedSince, h.log]
  tracked := by simp [h.transactions]

def VerifiedIn (events : List (Event Hash)) (login : TransactionId) (user : UserId) : Prop :=
  ∃ passwordHash password, .verified login user passwordHash password ∈ events

structure Current (config : Config Hash) (log : List (Event Hash)) (login : TransactionId)
    (session : Session) : Prop where
  disabled : ∀ newer actor older,
    log = newer ++ .committed (.setUserEnabled actor session.userId false) :: older →
    VerifiedIn newer login session.userId ∧ login ∉ verifiedLogins older
  reset : ∀ newer actor password passwordHash older,
    log = newer ++ .committed (.resetUserPassword actor session.userId password passwordHash)
      :: older →
    VerifiedIn newer login session.userId ∧ login ∉ verifiedLogins older
  /-- The login had the new password, or the one that was given after it. -/
  changed : ∀ newer sessionHash oldPassword newPassword passwordHash older,
    log = newer ++ .committed (.changeOwnPassword session.userId sessionHash oldPassword newPassword
      passwordHash) :: older →
    session.tokenHash = sessionHash
      ∨ login ∉ verifiedLogins older
        ∧ ∃ newest given password between,
            newer = newest ++ .verified login session.userId given password :: between
            ∧ given = (passwordOf between session.userId).getD passwordHash
            ∧ config.compare given password = true

section Current

variable {login : TransactionId} {session : Session} {request : Request Hash}
  {newer older : List (Event Hash)}

theorem SessionInv.verifiedIn (h : SessionInv config s)
    (hlookup : s.sessions.lookup login = some session)
    (hlog : s.log = newer ++ .committed request :: older)
    (hdeletes : request.deletes session = true) :
    VerifiedIn newer login session.userId ∧ login ∉ verifiedLogins older := by
  have hverified := h.sessions login session hlookup newer request older hlog hdeletes
  refine ⟨hverified, fun hmem => ?_⟩
  obtain ⟨passwordHash, password, hnewer⟩ := hverified
  have hnodup := h.nodup
  rw [hlog, verifiedLogins_append, verifiedLogins_committed] at hnodup
  exact (List.nodup_append.mp hnodup).2.2 login (mem_verifiedLogins_of_mem hnewer) login hmem rfl

theorem SessionInv.current (h : SessionInv config s)
    (hlookup : s.sessions.lookup login = some session) : Current config s.log login session where
  disabled := fun newer actor older hlog => h.verifiedIn hlookup hlog (by simp [Request.deletes])
  reset := fun newer actor password passwordHash older hlog =>
    h.verifiedIn hlookup hlog (by simp [Request.deletes])
  changed := fun newer sessionHash oldPassword newPassword passwordHash older hlog => by
    by_cases htoken : session.tokenHash = sessionHash
    · exact .inl htoken
    · right
      obtain ⟨⟨given, password, hmem⟩, hnot⟩ :=
        h.verifiedIn hlookup hlog (by simp [Request.deletes, htoken])
      refine ⟨hnot, ?_⟩
      obtain ⟨newest, between, rfl⟩ := List.append_of_mem hmem
      rw [List.append_assoc, List.cons_append] at hlog
      obtain ⟨hcompare, hgiven⟩ := h.matched newest login session.userId given password _ hlog
      refine ⟨newest, given, password, between, rfl, hgiven _ ?_, hcompare⟩
      rw [passwordOf_append, passwordOf_committed]
      cases passwordOf between session.userId <;> simp [Request.setsPassword]

end Current

/-- However the statements of logins, status changes, resets and password changes interleave. -/
theorem no_stale_session (config : Config Hash) (hidle : s.Idle) (actions : List (Action Hash)) :
    Machine.Along (step config) (fun s a _ => ∀ request login session now, a = .touch request →
      s.touched config request = some (login, session, now) →
      Current config s.log login session) s actions := by
  refine Machine.Along.of_invariant (I := fun s => HoldInv config s ∧ SessionInv config s) ?_
    ⟨hidle.holdInv, hidle.sessionInv⟩
  intro s a t ⟨hinv, hsessions⟩ hstep
  have hmove := step_move hstep
  refine ⟨fun request login session now _ htouched => ?_, hinv.move hmove,
    hsessions.move hinv hmove⟩
  exact hsessions.current (lookup_of_touched htouched)

/-- The request in flight finds no session; one with that of the second login is authenticated. -/
theorem no_stale_session_enabled_again :
    ∃ (s t : Accounts String) (config : Config String) (actions : List (Action String)),
      s.Idle ∧ Machine.run (step config) s actions = some t
      ∧ (t.touched config 0).isNone ∧ (t.touched config 1).map Prod.fst = some 3
      ∧ Machine.Along (step config) (fun s a _ => ∀ request login session now, a = .touch request →
          s.touched config request = some (login, session, now) →
          Current config s.log login session) s (actions ++ [.touch 1]) := by
  let config : Config String :=
    { compare := fun hash password => hash = password, absoluteTTL := 100, idleTTL := 10 }
  let s : Accounts String :=
    { users := (AList.singleton 1 ⟨"ada", "a", .platformAdmin, true⟩).insert 2
        ⟨"bob", "b", .readonly, true⟩ }
  let login (tx : TransactionId) (token : String) : List (Action String) :=
    [.begin (.createSession "bob" "b" token 0), .select tx, .lock tx, .lock tx, .write tx,
      .commit tx]
  let lockTarget (tx : TransactionId) : List (Action String) :=
    [.select tx, .lock tx, .lock tx, .select tx, .lock tx, .lock tx, .write tx]
  let actions : List (Action String) :=
    login 0 "x" ++ [.authenticate 0 "x" 1]
      ++ .begin (.setUserEnabled 1 2 false) :: lockTarget 1
      ++ [.selectSessions 1, .deleteNext 1, .commit 1]
      ++ .begin (.setUserEnabled 1 2 true) :: lockTarget 2 ++ [.commit 2]
      ++ login 3 "y" ++ [.authenticate 1 "y" 1]
  have hidle : s.Idle := ⟨rfl, fun _ => rfl, by simp [s], rfl⟩
  exact ⟨s, _, config, actions, hidle, rfl, rfl, rfl, no_stale_session config hidle _⟩

end DbsMonitor.Accounts
