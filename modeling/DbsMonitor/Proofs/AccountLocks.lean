import DbsMonitor.Accounts
import DbsMonitor.Machine

/-!
# The locks on users

The locks on a row of `app_user` stay consistent with its committed version, so what a transaction
has read under a lock is committed until it ends (`LockInv.lookup_of_holds`). Every row that a query
of a running transaction returned is held by it (`HoldInv`).
-/

namespace DbsMonitor.Accounts

open RowLock

variable {Hash : Type} {config : Config Hash} {s t : Accounts Hash}

section Fields

variable (s : Accounts Hash) (tx : TransactionId)

@[simp] theorem finish_users : (s.finish tx).users = s.users := rfl
@[simp] theorem finish_locks : (s.finish tx).locks = fun id => release (s.locks id) tx := rfl
@[simp] theorem finish_transactions : (s.finish tx).transactions = s.transactions.erase tx := rfl

end Fields

def Request.phaseAfter (request : Request Hash) (write : Write Hash) : Phase Hash :=
  if request.deletesSessions then .written write else .delete write [] []

inductive Move (config : Config Hash) (s : Accounts Hash) : Accounts Hash → Prop
  | begin (request : Request Hash) (hcheck : request.check.isOk = true)
      (hhashed : request.hashed config = true) :
      Move config s
        { s.setPhase s.next request (.query request.queries []) with next := s.next + 1 }
  | select {tx : TransactionId} {request : Request Hash} {query : Query} {queries : List Query}
      {results : List (List (Row Hash))}
      (hlookup : s.transactions.lookup tx = some ⟨request, .query (query :: queries) results⟩) :
      Move config s (s.setPhase tx request (.lock query (s.selected query) [] queries results))
  | returned {tx : TransactionId} {request : Request Hash} {query : Query} {queries : List Query}
      {locked : List (Row Hash)} {results : List (List (Row Hash))}
      (hlookup : s.transactions.lookup tx = some ⟨request, .lock query [] locked queries results⟩) :
      Move config s (s.setPhase tx request (.query queries (results ++ [locked])))
  | lock {tx : TransactionId} {request : Request Hash} {query : Query} {queries : List Query}
      {locked : List (Row Hash)} {results : List (List (Row Hash))} {id : UserId}
      {rows : List UserId} {user : User Hash}
      {locks : UserId → List (Holder TransactionId (User Hash))}
      (hlookup : s.transactions.lookup tx
        = some ⟨request, .lock query (id :: rows) locked queries results⟩)
      (huser : s.users.lookup id = some user)
      (hlocks : s.lockRow tx query.mode id user = some locks) :
      Move config s
        { s.setPhase tx request (.lock query rows
            (if query.selects (id, user) then locked ++ [(id, user)] else locked) queries results)
          with locks := locks }
  | finish (tx : TransactionId) : Move config s (s.finish tx)
  | decide {tx : TransactionId} {request : Request Hash} {results : List (List (Row Hash))}
      {write : Write Hash} (hlookup : s.transactions.lookup tx = some ⟨request, .query [] results⟩)
      (hdecide : request.decide config results = .ok write) :
      Move config s
        { s.setPhase tx request (request.phaseAfter write) with
          log := request.verification tx results ++ s.log }
  | selectSessions {tx : TransactionId} {request : Request Hash} {write : Write Hash}
      (hlookup : s.transactions.lookup tx = some ⟨request, .written write⟩) :
      Move config s (s.setPhase tx request (.delete write (s.selectedSessions request) []))
  | delete {tx login : TransactionId} {request : Request Hash} {write : Write Hash}
      {rows deleted : List TransactionId}
      (hlookup : s.transactions.lookup tx = some ⟨request, .delete write (login :: rows) deleted⟩)
      (hfound : (s.sessions.lookup login).any request.deletes = true) :
      Move config s (s.setPhase tx request (.delete write rows (login :: deleted)))
  | skip {tx login : TransactionId} {request : Request Hash} {write : Write Hash}
      {rows deleted : List TransactionId}
      (hlookup : s.transactions.lookup tx = some ⟨request, .delete write (login :: rows) deleted⟩)
      (hfound : (s.sessions.lookup login).any request.deletes = false) :
      Move config s (s.setPhase tx request (.delete write rows deleted))
  | commit {tx : TransactionId} {request : Request Hash} {write : Write Hash}
      {deleted : List TransactionId} {applied : Accounts Hash}
      (hlookup : s.transactions.lookup tx = some ⟨request, .delete write [] deleted⟩)
      (happly : s.apply tx write = some applied) :
      Move config s
        { applied.finish tx with
          sessions := deleted.foldl (fun sessions login => sessions.erase login) applied.sessions
          log := .committed request :: s.log }
  | authenticate (authentications : AList fun _ : ℕ => Authentication) :
      Move config s { s with authentications := authentications }
  | touch {login : TransactionId} {session : Session} (lastSeenAt : ℤ)
      (authentications : AList fun _ : ℕ => Authentication)
      (hlookup : s.sessions.lookup login = some session) :
      Move config s
        { s with
          sessions := s.sessions.insert login { session with lastSeenAt := lastSeenAt }
          authentications := authentications }
  | deleteSession (login : TransactionId) :
      Move config s { s with sessions := s.sessions.erase login }

theorem lookup_of_touched {request : ℕ} {login : TransactionId} {session : Session} {now : ℤ}
    (h : s.touched config request = some (login, session, now)) :
    s.sessions.lookup login = some session := by
  simp only [touched, Option.bind_eq_bind, Option.bind_eq_some_iff, Option.pure_def,
    Option.some.injEq, Prod.mk.injEq] at h
  obtain ⟨authentication, -, -, -, found, hfound, -, -, rfl, rfl, -⟩ := h
  exact hfound

theorem step_move {a : Action Hash} (h : step config s a = some t) : Move config s t := by
  cases a with
  | begin request =>
    simp only [step] at h
    split_ifs at h with hguard
    cases h
    obtain ⟨hcheck, hhashed⟩ := Bool.and_eq_true_iff.mp hguard
    exact .begin request hcheck hhashed
  | select tx =>
    simp only [step] at h
    split at h
    · rename_i hlookup
      cases h
      exact .select hlookup
    · cases h
  | lock tx =>
    simp only [step] at h
    split at h
    · rename_i hlookup
      cases h
      exact .returned hlookup
    · rename_i hlookup
      simp only [Option.bind_eq_bind, Option.bind_eq_some_iff, Option.pure_def,
        Option.some.injEq] at h
      obtain ⟨user, huser, locks, hlocks, rfl⟩ := h
      exact .lock hlookup huser hlocks
    · cases h
  | write tx =>
    simp only [step] at h
    split at h
    · rename_i hlookup
      split at h
      · cases h
        exact .finish tx
      · rename_i hdecide
        cases h
        exact .decide hlookup hdecide
    · cases h
  | selectSessions tx =>
    simp only [step] at h
    split at h
    · rename_i hlookup
      cases h
      exact .selectSessions hlookup
    · cases h
  | deleteNext tx =>
    simp only [step] at h
    split at h
    · rename_i hlookup
      split_ifs at h with _ hfound
      · cases h
        exact .delete hlookup hfound
      · cases h
        exact .skip hlookup (Bool.eq_false_iff.mpr hfound)
    · cases h
  | commit tx =>
    simp only [step] at h
    split at h
    · rename_i hlookup
      simp only [Option.bind_eq_bind, Option.bind_eq_some_iff, Option.pure_def,
        Option.some.injEq] at h
      obtain ⟨applied, happly, rfl⟩ := h
      exact .commit hlookup happly
    · cases h
  | abort tx =>
    cases h
    exact .finish tx
  | authenticate request tokenHash now =>
    simp only [step, Option.bind_eq_bind, Option.bind_eq_some_iff, Option.pure_def,
      Option.some.injEq] at h
    obtain ⟨-, -, login, -, rfl⟩ := h
    exact .authenticate _
  | touch request =>
    simp only [step, Option.bind_eq_bind, Option.bind_eq_some_iff, Option.pure_def,
      Option.some.injEq] at h
    obtain ⟨⟨login, session, now⟩, htouched, rfl⟩ := h
    exact .touch now _ (lookup_of_touched htouched)
  | deleteSession tokenHash =>
    simp only [step, Option.bind_eq_bind, Option.bind_eq_some_iff, Option.pure_def,
      Option.some.injEq] at h
    obtain ⟨entry, -, -, -, rfl⟩ := h
    exact .deleteSession entry.1

def Holds (locks : UserId → List (Holder TransactionId (User Hash))) (tx : TransactionId)
    (mode : Mode) (row : Row Hash) : Prop :=
  ∃ holder ∈ locks row.1, holder.tx = tx ∧ holder.read = row.2
    ∧ (mode = .update → holder.mode = .update)

structure Returned (locks : UserId → List (Holder TransactionId (User Hash))) (tx : TransactionId)
    (query : Query) (rows : List (Row Hash)) : Prop where
  nodup : (rows.map Prod.fst).Nodup
  selected : ∀ row ∈ rows, query.selects row = true
  holds : ∀ row ∈ rows, Holds locks tx query.mode row

/-- What a transaction that has decided on its request knows of the rows it has read. -/
inductive Decision (config : Config Hash)
    (locks : UserId → List (Holder TransactionId (User Hash))) (tx : TransactionId) :
    Request Hash → Write Hash → Prop
  | createSession {username password tokenHash : String} {now : ℤ} {id : UserId}
      {user : User Hash} (hholds : Holds locks tx .share (id, user))
      (hcompare : config.compare user.passwordHash password = true) :
      Decision config locks tx (.createSession username password tokenHash now)
        (.insertSession ⟨tokenHash, id, now + config.absoluteTTL, now⟩)
  | createUser {id : UserId} {username password : String} {role : Role} {passwordHash : Hash} :
      Decision config locks tx (.createUser id username role password passwordHash)
        (.insertUser id { username := username, passwordHash := passwordHash, role := role })
  | setUserEnabled {actor target : UserId} {enabled : Bool} {admins : List (Row Hash)}
      {user : User Hash} (hadmins : Returned locks tx .enabledPlatformAdmins admins)
      (hholds : Holds locks tx .update (target, user))
      (hothers : enabled = false → user.enabledPlatformAdmin = true → 1 < admins.length) :
      Decision config locks tx (.setUserEnabled actor target enabled) (.setEnabled target enabled)
  | setUserRole {actor target : UserId} {role : Role} {admins : List (Row Hash)}
      {user : User Hash} (hadmins : Returned locks tx .enabledPlatformAdmins admins)
      (hholds : Holds locks tx .update (target, user))
      (hothers : role ≠ .platformAdmin → user.enabledPlatformAdmin = true → 1 < admins.length) :
      Decision config locks tx (.setUserRole actor target role) (.setRole target role)
  | resetUserPassword {actor target : UserId} {password : String} {passwordHash : Hash}
      {user : User Hash} (hholds : Holds locks tx .update (target, user)) :
      Decision config locks tx (.resetUserPassword actor target password passwordHash)
        (.setPassword target passwordHash)
  | changeOwnPassword {userId : UserId} {sessionHash oldPassword newPassword : String}
      {passwordHash : Hash} {user : User Hash} (hholds : Holds locks tx .update (userId, user)) :
      Decision config locks tx
        (.changeOwnPassword userId sessionHash oldPassword newPassword passwordHash)
        (.setPassword userId passwordHash)

section Decide

variable {locks : UserId → List (Holder TransactionId (User Hash))} {tx : TransactionId}

theorem decideEnabled_ok {actor target : UserId} {enabled : Bool} {admins : List (Row Hash)}
    {user : User Hash} {write : Write Hash}
    (h : Request.decideEnabled actor target enabled admins user = .ok write) :
    write = .setEnabled target enabled
      ∧ (enabled = false → user.enabledPlatformAdmin = true → 1 < admins.length) := by
  simp only [Request.decideEnabled] at h
  split_ifs at h with _ hlast
  cases h
  refine ⟨rfl, fun henabled hadmin => ?_⟩
  simp only [User.enabledPlatformAdmin, Bool.and_eq_true, decide_eq_true_eq] at hadmin
  simpa [henabled, hadmin] using hlast

theorem decideRole_ok {actor target : UserId} {role : Role} {admins : List (Row Hash)}
    {user : User Hash} {write : Write Hash}
    (h : Request.decideRole actor target role admins user = .ok write) :
    write = .setRole target role
      ∧ (role ≠ .platformAdmin → user.enabledPlatformAdmin = true → 1 < admins.length) := by
  simp only [Request.decideRole] at h
  split_ifs at h with _ hlast
  cases h
  refine ⟨rfl, fun hrole hadmin => ?_⟩
  simp only [User.enabledPlatformAdmin, Bool.and_eq_true, decide_eq_true_eq] at hadmin
  simpa [hrole, hadmin] using hlast

theorem Returned.head {query : Query} {row : Row Hash} {rows : List (Row Hash)}
    (h : Returned locks tx query (row :: rows)) :
    query.selects row = true ∧ Holds locks tx query.mode row :=
  ⟨h.selected row List.mem_cons_self, h.holds row List.mem_cons_self⟩

theorem Returned.head_id {query : Query} {target : UserId} {row : Row Hash}
    {rows : List (Row Hash)} (h : Returned locks tx query (row :: rows))
    (hquery : query.mode = .update) (hid : query.selects row = true → row.1 = target) :
    Holds locks tx .update (target, row.2) := by
  obtain ⟨hselects, hholds⟩ := h.head
  rw [hquery] at hholds
  exact hid hselects ▸ hholds

theorem returned_singleton {query : Query} {results : List (List (Row Hash))}
    (h : List.Forall₂ (Returned locks tx) [query] results) :
    ∃ rows, results = [rows] ∧ Returned locks tx query rows := by
  obtain ⟨rows, _, hrows, hnil, rfl⟩ := List.forall₂_cons_left_iff.mp h
  obtain rfl := List.forall₂_nil_left_iff.mp hnil
  exact ⟨rows, rfl, hrows⟩

theorem returned_pair {query query' : Query} {results : List (List (Row Hash))}
    (h : List.Forall₂ (Returned locks tx) [query, query'] results) :
    ∃ rows rows', results = [rows, rows'] ∧ Returned locks tx query rows
      ∧ Returned locks tx query' rows' := by
  obtain ⟨rows, _, hrows, hrest, rfl⟩ := List.forall₂_cons_left_iff.mp h
  obtain ⟨rows', rfl, hrows'⟩ := returned_singleton hrest
  exact ⟨rows, rows', rfl, hrows, hrows'⟩

theorem decision_of_decide {request : Request Hash} {results : List (List (Row Hash))}
    {write : Write Hash} (hreturned : List.Forall₂ (Returned locks tx) request.queries results)
    (h : request.decide config results = .ok write) : Decision config locks tx request write := by
  cases request with
  | createSession username password tokenHash now =>
    obtain ⟨rows, rfl, hrows⟩ := returned_singleton hreturned
    cases rows with
    | nil => cases h
    | cons row rows =>
      simp only [Request.decide] at h
      split_ifs at h with hcompare
      cases h
      exact .createSession hrows.head.2 hcompare
  | createUser id username role password passwordHash =>
    cases h
    exact .createUser
  | setUserEnabled actor target enabled =>
    obtain ⟨admins, rows, rfl, hadmins, hrows⟩ := returned_pair hreturned
    cases rows with
    | nil => cases h
    | cons row rows =>
      obtain ⟨rfl, hothers⟩ := decideEnabled_ok h
      exact .setUserEnabled hadmins (hrows.head_id rfl of_decide_eq_true) hothers
  | setUserRole actor target role =>
    obtain ⟨admins, rows, rfl, hadmins, hrows⟩ := returned_pair hreturned
    cases rows with
    | nil => cases h
    | cons row rows =>
      obtain ⟨rfl, hothers⟩ := decideRole_ok h
      exact .setUserRole hadmins (hrows.head_id rfl of_decide_eq_true) hothers
  | resetUserPassword actor target password passwordHash =>
    obtain ⟨rows, rfl, hrows⟩ := returned_singleton hreturned
    cases rows with
    | nil => cases h
    | cons row rows =>
      cases h
      exact .resetUserPassword (hrows.head_id rfl of_decide_eq_true)
  | changeOwnPassword userId sessionHash oldPassword newPassword passwordHash =>
    obtain ⟨rows, rfl, hrows⟩ := returned_singleton hreturned
    cases rows with
    | nil => cases h
    | cons row rows =>
      simp only [Request.decide] at h
      split_ifs at h
      cases h
      refine .changeOwnPassword (hrows.head_id rfl fun hselects => ?_)
      exact of_decide_eq_true (Bool.and_eq_true_iff.mp hselects).1

end Decide

def Holding (config : Config Hash) (locks : UserId → List (Holder TransactionId (User Hash)))
    (tx : TransactionId) (transaction : Transaction Hash) : Prop :=
  match transaction.phase with
  | .query queries results => ∃ done, done ++ queries = transaction.request.queries
      ∧ List.Forall₂ (Returned locks tx) done results
  | .lock query rows locked queries results =>
    (∃ done, done ++ query :: queries = transaction.request.queries
      ∧ List.Forall₂ (Returned locks tx) done results)
    ∧ Returned locks tx query locked ∧ (locked.map Prod.fst ++ rows).Nodup
  | .written write | .delete write _ _ => Decision config locks tx transaction.request write

section Keep

variable {locks locks' : UserId → List (Holder TransactionId (User Hash))} {tx : TransactionId}

theorem Returned.keep (hkeep : ∀ mode row, Holds locks tx mode row → Holds locks' tx mode row)
    {query : Query} {rows : List (Row Hash)} (h : Returned locks tx query rows) :
    Returned locks' tx query rows :=
  ⟨h.nodup, h.selected, fun row hrow => hkeep _ row (h.holds row hrow)⟩

theorem Decision.keep (hkeep : ∀ mode row, Holds locks tx mode row → Holds locks' tx mode row)
    {request : Request Hash} {write : Write Hash} (h : Decision config locks tx request write) :
    Decision config locks' tx request write := by
  cases h with
  | createSession hholds hcompare => exact .createSession (hkeep _ _ hholds) hcompare
  | createUser => exact .createUser
  | setUserEnabled hadmins hholds hothers =>
    exact .setUserEnabled (hadmins.keep hkeep) (hkeep _ _ hholds) hothers
  | setUserRole hadmins hholds hothers =>
    exact .setUserRole (hadmins.keep hkeep) (hkeep _ _ hholds) hothers
  | resetUserPassword hholds => exact .resetUserPassword (hkeep _ _ hholds)
  | changeOwnPassword hholds => exact .changeOwnPassword (hkeep _ _ hholds)

theorem Holding.keep (hkeep : ∀ mode row, Holds locks tx mode row → Holds locks' tx mode row)
    {transaction : Transaction Hash} (h : Holding config locks tx transaction) :
    Holding config locks' tx transaction := by
  obtain ⟨request, phase⟩ := transaction
  cases phase with
  | query queries results =>
    obtain ⟨done, hdone, hresults⟩ := h
    exact ⟨done, hdone, hresults.imp fun _ _ h => h.keep hkeep⟩
  | lock query rows locked queries results =>
    obtain ⟨⟨done, hdone, hresults⟩, hlocked, hnodup⟩ := h
    exact ⟨⟨done, hdone, hresults.imp fun _ _ h => h.keep hkeep⟩, hlocked.keep hkeep, hnodup⟩
  | written write => exact Decision.keep hkeep h
  | delete write rows deleted => exact Decision.keep hkeep h

theorem Holds.release {other : TransactionId} (hne : tx ≠ other) {mode : Mode} {row : Row Hash}
    (h : Holds locks tx mode row) : Holds (fun id => release (locks id) other) tx mode row := by
  obtain ⟨holder, hmem, rfl, hread, hmode⟩ := h
  exact ⟨holder, List.mem_filter.mpr ⟨hmem, decide_eq_true hne⟩, rfl, hread, hmode⟩

end Keep

theorem updateUser_of_lookup {id : UserId} {user : User Hash} (h : s.users.lookup id = some user)
    (f : User Hash → User Hash) : s.updateUser id f = s.users.insert id (f user) := by
  simp [updateUser, h]

theorem apply_frame {tx : TransactionId} {write : Write Hash} {applied : Accounts Hash}
    (h : s.apply tx write = some applied) :
    applied.locks = s.locks ∧ applied.transactions = s.transactions ∧ applied.next = s.next := by
  cases write <;> simp only [apply] at h
  case insertSession | insertUser =>
    split_ifs at h
    cases h
    exact ⟨rfl, rfl, rfl⟩
  all_goals
    cases h
    exact ⟨rfl, rfl, rfl⟩

structure LockInv (users : AList fun _ : UserId => User Hash)
    (locks : UserId → List (Holder TransactionId (User Hash))) : Prop where
  consistent : ∀ id user, users.lookup id = some user → Consistent user (locks id)
  free : ∀ id, users.lookup id = none → locks id = []

namespace LockInv

variable {tx : TransactionId} {mode : Mode} {id : UserId} {user : User Hash}
  {locks : UserId → List (Holder TransactionId (User Hash))}

theorem lookup_of_holds (h : LockInv s.users s.locks) {row : Row Hash}
    (hholds : Holds s.locks tx mode row) : s.users.lookup row.1 = some row.2 := by
  obtain ⟨holder, hmem, -, hread, -⟩ := hholds
  cases hlookup : s.users.lookup row.1 with
  | none =>
    rw [h.free _ hlookup] at hmem
    cases hmem
  | some user =>
    rw [← hread, (h.consistent _ _ hlookup).read holder hmem]

theorem eq_of_holds (h : LockInv s.users s.locks) {other : TransactionId} {row row' : Row Hash}
    (hid : row.1 = row'.1) (hholds : Holds s.locks tx .update row)
    (hother : Holds s.locks other mode row') : other = tx := by
  have hconsistent := h.consistent _ _ (h.lookup_of_holds hholds)
  obtain ⟨holder, hmem, htx, -, hmode⟩ := hholds
  obtain ⟨holder', hmem', htx', -, -⟩ := hother
  rw [← hid, hconsistent.eq_singleton hmem (hmode rfl)] at hmem'
  rw [← htx', List.mem_singleton.mp hmem', htx]

theorem lockRow (h : LockInv s.users s.locks) (huser : s.users.lookup id = some user)
    (hlocks : s.lockRow tx mode id user = some locks) :
    LockInv s.users locks ∧ Holds locks tx mode (id, user)
      ∧ ∀ other mode row, Holds s.locks other mode row → Holds locks other mode row := by
  unfold Accounts.lockRow at hlocks
  split_ifs at hlocks with hheld
  · cases hlocks
    refine ⟨h, ?_, fun _ _ _ hrow => hrow⟩
    obtain ⟨holder, hmem, hholder⟩ := List.any_eq_true.mp hheld
    simp only [Bool.and_eq_true, decide_eq_true_eq] at hholder
    exact ⟨holder, hmem, hholder.1, (h.consistent _ _ huser).read holder hmem, fun _ => hholder.2⟩
  · obtain ⟨holders, hgrant, rfl⟩ := Option.map_eq_some_iff.mp hlocks
    have hconsistent := (h.consistent _ _ huser).grant hgrant
    unfold grant at hgrant
    split_ifs at hgrant
    cases hgrant
    refine ⟨⟨fun id' user' huser' => ?_, fun id' hnone => ?_⟩, ?_, fun other mode' row hrow => ?_⟩
    · by_cases hid : id' = id
      · subst hid
        obtain rfl : user = user' := Option.some.inj (huser.symm.trans huser')
        simpa using hconsistent
      · simpa [hid] using h.consistent id' user' huser'
    · have hid : id' ≠ id := by
        rintro rfl
        cases huser.symm.trans hnone
      simpa [hid] using h.free id' hnone
    · exact ⟨⟨tx, mode, user⟩, by simp, rfl, rfl, fun hmode => hmode⟩
    · obtain ⟨holder, hmem, hholder⟩ := hrow
      refine ⟨holder, ?_, hholder⟩
      by_cases hid : row.1 = id
      · subst hid
        simpa using .inr hmem
      · simpa [hid] using hmem

theorem release (h : LockInv s.users s.locks) (tx : TransactionId) :
    LockInv s.users fun id => RowLock.release (s.locks id) tx :=
  ⟨fun id user huser => (h.consistent id user huser).release tx, fun id hnone => by
    simp [h.free id hnone, RowLock.release]⟩

theorem released (h : LockInv s.users s.locks) (hholds : Holds s.locks tx .update (id, user)) :
    RowLock.release (s.locks id) tx = [] := by
  have hconsistent := h.consistent id user (h.lookup_of_holds hholds)
  obtain ⟨holder, hmem, rfl, -, hmode⟩ := hholds
  rw [hconsistent.eq_singleton hmem (hmode rfl)]
  simp [RowLock.release]

theorem updateUser (h : LockInv s.users s.locks) (hholds : Holds s.locks tx .update (id, user))
    (f : User Hash → User Hash) :
    LockInv (s.updateUser id f) fun id => RowLock.release (s.locks id) tx := by
  have hupdate := updateUser_of_lookup (h.lookup_of_holds hholds) f
  refine ⟨fun id' user' huser' => ?_, fun id' hnone => ?_⟩
  · by_cases hid : id' = id
    · subst hid
      simpa [h.released hholds] using .nil
    · simp only [hupdate, AList.lookup_insert_ne hid] at huser'
      exact (h.consistent id' user' huser').release tx
  · have hid : id' ≠ id := by
      rintro rfl
      simp [hupdate] at hnone
    simp only [hupdate, AList.lookup_insert_ne hid] at hnone
    simp [h.free id' hnone, RowLock.release]

theorem apply (h : LockInv s.users s.locks) {request : Request Hash} {write : Write Hash}
    {applied : Accounts Hash} (hdecision : Decision config s.locks tx request write)
    (happly : s.apply tx write = some applied) :
    LockInv applied.users fun id => RowLock.release (s.locks id) tx := by
  cases hdecision with
  | createSession hholds _ =>
    simp only [Accounts.apply] at happly
    split_ifs at happly
    cases happly
    exact h.release tx
  | createUser =>
    rename_i id username password role passwordHash
    simp only [Accounts.apply] at happly
    split_ifs at happly with hunique
    cases happly
    have hnone : s.users.lookup id = none := by
      refine AList.lookup_eq_none.mpr fun hmem => hunique ?_
      obtain ⟨entry, hentry, rfl⟩ := List.mem_map.mp (AList.mem_keys.mp hmem)
      exact List.any_eq_true.mpr ⟨entry, hentry, by simp⟩
    refine ⟨fun id' user' huser' => ?_, fun id' hnone' => ?_⟩
    · by_cases hid : id' = id
      · subst hid
        simpa [h.free id' hnone, RowLock.release] using .nil
      · simp only [AList.lookup_insert_ne hid] at huser'
        exact (h.consistent id' user' huser').release tx
    · have hid : id' ≠ id := by
        rintro rfl
        simp at hnone'
      simp only [AList.lookup_insert_ne hid] at hnone'
      simp [h.free id' hnone', RowLock.release]
  | setUserEnabled _ hholds _ =>
    cases happly
    exact h.updateUser hholds _
  | setUserRole _ hholds _ =>
    cases happly
    exact h.updateUser hholds _
  | resetUserPassword hholds =>
    cases happly
    exact h.updateUser hholds _
  | changeOwnPassword hholds =>
    cases happly
    exact h.updateUser hholds _

end LockInv

structure HoldInv (config : Config Hash) (s : Accounts Hash) : Prop where
  locks : LockInv s.users s.locks
  holding : ∀ tx transaction, s.transactions.lookup tx = some transaction →
    Holding config s.locks tx transaction

section HoldInv

variable {locks : UserId → List (Holder TransactionId (User Hash))} {tx : TransactionId}
  {request : Request Hash} {phase : Phase Hash}

theorem HoldInv.insert (h : HoldInv config s)
    (hkeep : ∀ other mode row, Holds s.locks other mode row → Holds locks other mode row)
    (hown : Holding config locks tx ⟨request, phase⟩) (other : TransactionId)
    (transaction : Transaction Hash)
    (hlookup : (s.transactions.insert tx ⟨request, phase⟩).lookup other = some transaction) :
    Holding config locks other transaction := by
  by_cases hother : other = tx
  · subst hother
    simp only [AList.lookup_insert, Option.some.injEq] at hlookup
    exact hlookup ▸ hown
  · rw [AList.lookup_insert_ne hother] at hlookup
    exact (h.holding other transaction hlookup).keep (hkeep other)

theorem HoldInv.setPhase (h : HoldInv config s)
    (hown : Holding config s.locks tx ⟨request, phase⟩) :
    HoldInv config (s.setPhase tx request phase) where
  locks := h.locks
  holding := h.insert (fun _ _ _ hrow => hrow) hown

theorem HoldInv.erase (h : HoldInv config s) (other : TransactionId)
    (transaction : Transaction Hash)
    (hlookup : (s.transactions.erase tx).lookup other = some transaction) :
    Holding config (fun id => release (s.locks id) tx) other transaction := by
  have hother : other ≠ tx := by
    rintro rfl
    simp at hlookup
  rw [AList.lookup_erase_ne hother] at hlookup
  exact (h.holding other transaction hlookup).keep fun mode row hrow => hrow.release hother

theorem selected_nodup (query : Query) : (s.selected query).Nodup := by
  refine (List.perm_insertionSort _ _).nodup_iff.mpr ?_
  exact (List.filter_sublist.map Sigma.fst).nodup s.users.keys_nodup

theorem Returned.locked {query : Query} {id : UserId} {rows : List UserId} {user : User Hash}
    {locked : List (Row Hash)} (h : Returned locks tx query locked)
    (hnodup : (locked.map Prod.fst ++ id :: rows).Nodup)
    (hholds : Holds locks tx query.mode (id, user)) :
    Returned locks tx query (if query.selects (id, user) then locked ++ [(id, user)] else locked)
      ∧ ((if query.selects (id, user) then locked ++ [(id, user)] else locked).map Prod.fst
          ++ rows).Nodup := by
  split_ifs with hselects
  · have hrows : ((locked ++ [(id, user)]).map Prod.fst ++ rows).Nodup := by simpa using hnodup
    refine ⟨⟨(List.nodup_append.mp hrows).1, ?_, ?_⟩, hrows⟩
    · intro row hrow
      rcases List.mem_append.mp hrow with hrow | hrow
      · exact h.selected row hrow
      · exact List.mem_singleton.mp hrow ▸ hselects
    · intro row hrow
      rcases List.mem_append.mp hrow with hrow | hrow
      · exact h.holds row hrow
      · exact List.mem_singleton.mp hrow ▸ hholds
  · exact ⟨h, hnodup.sublist ((List.sublist_cons_self id rows).append_left _)⟩

theorem HoldInv.move (h : HoldInv config s) (hmove : Move config s t) : HoldInv config t := by
  cases hmove with
  | begin request _ _ =>
    have hown : Holding config s.locks s.next ⟨request, .query request.queries []⟩ :=
      ⟨[], rfl, .nil⟩
    exact ⟨h.locks, (h.setPhase hown).holding⟩
  | select hlookup =>
    obtain ⟨done, hdone, hresults⟩ := h.holding _ _ hlookup
    exact h.setPhase ⟨⟨done, hdone, hresults⟩, ⟨.nil, by simp, by simp⟩, selected_nodup _⟩
  | returned hlookup =>
    obtain ⟨⟨done, hdone, hresults⟩, hlocked, -⟩ := h.holding _ _ hlookup
    refine h.setPhase ⟨done ++ [_], by simpa using hdone, ?_⟩
    exact List.rel_append hresults (.cons hlocked .nil)
  | lock hlookup huser hlocks =>
    obtain ⟨hinv, hholds, hkeep⟩ := h.locks.lockRow huser hlocks
    refine ⟨hinv, h.insert hkeep ?_⟩
    obtain ⟨⟨done, hdone, hresults⟩, hlocked, hnodup⟩ := h.holding _ _ hlookup
    refine ⟨⟨done, hdone, hresults.imp fun _ _ h => h.keep (hkeep _)⟩, ?_⟩
    exact (hlocked.keep (hkeep _)).locked hnodup hholds
  | finish tx => exact ⟨h.locks.release tx, h.erase⟩
  | decide hlookup hdecide =>
    obtain ⟨done, hdone, hresults⟩ := h.holding _ _ hlookup
    simp only [List.append_nil] at hdone
    have hdecision := decision_of_decide (hdone ▸ hresults) hdecide
    refine ⟨h.locks, h.insert (fun _ _ _ hrow => hrow) ?_⟩
    unfold Request.phaseAfter
    split_ifs <;> exact hdecision
  | selectSessions hlookup =>
    have hdecision := h.holding _ _ hlookup
    exact h.setPhase hdecision
  | delete hlookup _ =>
    have hdecision := h.holding _ _ hlookup
    exact h.setPhase hdecision
  | skip hlookup _ =>
    have hdecision := h.holding _ _ hlookup
    exact h.setPhase hdecision
  | commit hlookup happly =>
    obtain ⟨hlocks, htransactions, -⟩ := apply_frame happly
    refine ⟨?_, ?_⟩
    · simpa [hlocks] using h.locks.apply (h.holding _ _ hlookup) happly
    · simpa [hlocks, htransactions] using h.erase
  | authenticate _ => exact ⟨h.locks, h.holding⟩
  | touch _ _ _ => exact ⟨h.locks, h.holding⟩
  | deleteSession _ => exact ⟨h.locks, h.holding⟩

end HoldInv

end DbsMonitor.Accounts
