import Mathlib.Data.List.AList
import Mathlib.Data.List.Sort
import DbsMonitor.RowLock

/-!
# Users and their sessions

Any number of requests are under way at once, statement by statement, under `READ COMMITTED`: a
statement finds its rows among those committed when it begins, locks them one by one, and checks its
condition again on the newest committed version of each. A row of `user_session` is known by the
login that inserted it.
-/

namespace DbsMonitor

namespace Accounts

open RowLock

abbrev UserId := ℕ

abbrev TransactionId := ℕ

inductive Role
  | readonly
  | alertAdmin
  | platformAdmin
  deriving DecidableEq, Repr

structure User (Hash : Type) where
  username : String
  passwordHash : Hash
  role : Role
  enabled : Bool := true
  deriving DecidableEq, Repr

def User.enabledPlatformAdmin {Hash : Type} (user : User Hash) : Bool :=
  user.enabled && user.role = .platformAdmin

abbrev Row (Hash : Type) := UserId × User Hash

structure Session where
  tokenHash : String
  userId : UserId
  expiresAt : ℤ
  lastSeenAt : ℤ
  deriving DecidableEq, Repr

structure Config (Hash : Type) where
  compare : Hash → String → Bool
  absoluteTTL : ℤ
  idleTTL : ℤ

/-- A request with what its handler has when it begins its transaction. Passwords are hashed. -/
inductive Request (Hash : Type)
  | createSession (username password tokenHash : String) (now : ℤ)
  | createUser (id : UserId) (username : String) (role : Role) (password : String)
      (passwordHash : Hash)
  | setUserEnabled (actor target : UserId) (enabled : Bool)
  | setUserRole (actor target : UserId) (role : Role)
  | resetUserPassword (actor target : UserId) (password : String) (passwordHash : Hash)
  | changeOwnPassword (userId : UserId) (sessionHash oldPassword newPassword : String)
      (passwordHash : Hash)

inductive UserError
  | lastPlatformAdmin
  | selfDisable
  | selfDowngrade
  | selfPasswordReset
  | userNotFound
  | invalidOwnPassword
  | invalidLogin
  | shortPassword
  | invalidUser
  deriving DecidableEq, Repr

def UserError.message : UserError → String
  | .lastPlatformAdmin => "at least one enabled platform administrator is required"
  | .selfDisable => "you cannot disable your own account"
  | .selfDowngrade => "you cannot downgrade your own role"
  | .selfPasswordReset => "use change password to update your own password"
  | .userNotFound => "user not found"
  | .invalidOwnPassword => "old password is incorrect"
  | .invalidLogin => "invalid credentials"
  | .shortPassword => "new password must be at least 12 characters"
  | .invalidUser => "valid username and role are required"

def isSpace (c : Char) : Bool :=
  c.toNat ∈ [0x09, 0x0A, 0x0B, 0x0C, 0x0D, 0x20, 0x85, 0xA0, 0x1680, 0x2028, 0x2029, 0x202F, 0x205F,
    0x3000] || (0x2000 ≤ c.toNat && c.toNat ≤ 0x200A)

inductive Query
  | enabledPlatformAdmins
  /-- `GetUserForUpdate`, and the `UPDATE` of `SetUserPassword`, which locks the row too. -/
  | userForUpdate (id : UserId)
  | userPassword (id : UserId)
  | userForLogin (username : String)
  deriving DecidableEq, Repr

namespace Query

def mode : Query → Mode
  | .userForLogin _ => .share
  | _ => .update

variable {Hash : Type}

def selects : Query → Row Hash → Bool
  | .enabledPlatformAdmins, row => row.2.enabledPlatformAdmin
  | .userForUpdate id, row => row.1 = id
  | .userPassword id, row => row.1 = id && row.2.enabled
  | .userForLogin username, row => row.2.username = username && row.2.enabled

end Query

inductive Write (Hash : Type)
  | insertSession (session : Session)
  | insertUser (id : UserId) (user : User Hash)
  | setEnabled (id : UserId) (enabled : Bool)
  | setRole (id : UserId) (role : Role)
  | setPassword (id : UserId) (passwordHash : Hash)

namespace Request

variable {Hash : Type} (config : Config Hash)

def check : Request Hash → Except UserError Unit
  | .createUser _ username _ _ _ =>
    if username.toList.all isSpace then .error .invalidUser else .ok ()
  | .resetUserPassword actor target _ _ =>
    if actor = target then .error .selfPasswordReset else .ok ()
  | .changeOwnPassword _ _ _ newPassword _ =>
    if newPassword.length < 12 then .error .shortPassword else .ok ()
  | _ => .ok ()

def hashed : Request Hash → Bool
  | .createUser _ _ _ password passwordHash | .resetUserPassword _ _ password passwordHash
  | .changeOwnPassword _ _ _ password passwordHash => config.compare passwordHash password
  | _ => true

def queries : Request Hash → List Query
  | .createSession username _ _ _ => [.userForLogin username]
  | .createUser .. => []
  | .setUserEnabled _ target _ | .setUserRole _ target _ =>
    [.enabledPlatformAdmins, .userForUpdate target]
  | .resetUserPassword _ target _ _ => [.userForUpdate target]
  | .changeOwnPassword userId _ _ _ _ => [.userPassword userId]

def deletes : Request Hash → Session → Bool
  | .setUserEnabled _ target enabled, session => !enabled && session.userId = target
  | .resetUserPassword _ target _ _, session => session.userId = target
  | .changeOwnPassword userId sessionHash _ _ _, session =>
    session.userId = userId && session.tokenHash ≠ sessionHash
  | _, _ => false

def deletesSessions : Request Hash → Bool
  | .setUserEnabled _ _ enabled => !enabled
  | .resetUserPassword .. | .changeOwnPassword .. => true
  | _ => false

/-- `setUserEnabled`, from the administrators it has locked and the row of its target. -/
def decideEnabled (actor target : UserId) (enabled : Bool) (admins : List (Row Hash))
    (user : User Hash) : Except UserError (Write Hash) :=
  let disablesPlatformAdmin := !enabled && user.enabled && user.role = .platformAdmin
  if !enabled && actor = target then .error .selfDisable
  else if disablesPlatformAdmin && admins.length ≤ 1 then .error .lastPlatformAdmin
  else .ok (.setEnabled target enabled)

def decideRole (actor target : UserId) (role : Role) (admins : List (Row Hash))
    (user : User Hash) : Except UserError (Write Hash) :=
  let downgradesPlatformAdmin := user.role = .platformAdmin && role ≠ .platformAdmin
  if actor = target && downgradesPlatformAdmin then .error .selfDowngrade
  else if user.enabled && downgradesPlatformAdmin && admins.length ≤ 1 then
    .error .lastPlatformAdmin
  else .ok (.setRole target role)

def decide : Request Hash → List (List (Row Hash)) → Except UserError (Write Hash)
  | .createSession _ password tokenHash now, [(id, user) :: _] =>
    if config.compare user.passwordHash password then
      .ok (.insertSession
        { tokenHash := tokenHash, userId := id, expiresAt := now + config.absoluteTTL
          lastSeenAt := now })
    else .error .invalidLogin
  | .createSession .., _ => .error .invalidLogin
  | .createUser id username role _ passwordHash, _ =>
    .ok (.insertUser id { username := username, passwordHash := passwordHash, role := role })
  | .setUserEnabled actor target enabled, [admins, (_, user) :: _] =>
    decideEnabled actor target enabled admins user
  | .setUserRole actor target role, [admins, (_, user) :: _] =>
    decideRole actor target role admins user
  | .setUserEnabled .., _ | .setUserRole .., _ => .error .userNotFound
  | .resetUserPassword _ target _ passwordHash, [_ :: _] => .ok (.setPassword target passwordHash)
  | .resetUserPassword .., _ => .error .userNotFound
  | .changeOwnPassword userId _ oldPassword _ passwordHash, [(_, user) :: _] =>
    if config.compare user.passwordHash oldPassword then .ok (.setPassword userId passwordHash)
    else .error .invalidOwnPassword
  | .changeOwnPassword .., _ => .error .invalidOwnPassword

def setsPassword : Request Hash → Option (UserId × Hash)
  | .createUser id _ _ _ passwordHash => some (id, passwordHash)
  | .resetUserPassword _ target _ passwordHash => some (target, passwordHash)
  | .changeOwnPassword userId _ _ _ passwordHash => some (userId, passwordHash)
  | _ => none

end Request

inductive Event (Hash : Type)
  /-- A login compared its password with the hash of the user, and they matched. -/
  | verified (login : TransactionId) (user : UserId) (passwordHash : Hash) (password : String)
  | committed (request : Request Hash)

def Request.verification {Hash : Type} (tx : TransactionId) :
    Request Hash → List (List (Row Hash)) → List (Event Hash)
  | .createSession _ password _ _, [(id, user) :: _] => [.verified tx id user.passwordHash password]
  | _, _ => []

inductive Phase (Hash : Type)
  | query (queries : List Query) (results : List (List (Row Hash)))
  | lock (query : Query) (rows : List UserId) (locked : List (Row Hash)) (queries : List Query)
      (results : List (List (Row Hash)))
  | written (write : Write Hash)
  /-- The sessions its `DELETE` found and has still to lock, and those it has deleted. -/
  | delete (write : Write Hash) (rows deleted : List TransactionId)

structure Transaction (Hash : Type) where
  request : Request Hash
  phase : Phase Hash

structure Authentication where
  login : TransactionId
  tokenHash : String
  now : ℤ
  deriving DecidableEq, Repr

end Accounts

open Accounts RowLock

structure Accounts (Hash : Type) where
  users : AList fun _ : UserId => User Hash := ∅
  sessions : AList fun _ : TransactionId => Session := ∅
  locks : UserId → List (Holder TransactionId (User Hash)) := fun _ => []
  transactions : AList fun _ : TransactionId => Transaction Hash := ∅
  authentications : AList fun _ : ℕ => Authentication := ∅
  next : TransactionId := 0
  log : List (Event Hash) := []

namespace Accounts

variable {Hash : Type}

inductive Action (Hash : Type)
  | begin (request : Request Hash)
  | select (tx : TransactionId)
  | lock (tx : TransactionId)
  | write (tx : TransactionId)
  | selectSessions (tx : TransactionId)
  | deleteNext (tx : TransactionId)
  | commit (tx : TransactionId)
  | abort (tx : TransactionId)
  | authenticate (request : ℕ) (tokenHash : String) (now : ℤ)
  | touch (request : ℕ)
  | deleteSession (tokenHash : String)

variable (config : Config Hash) (s : Accounts Hash)

def setPhase (tx : TransactionId) (request : Request Hash) (phase : Phase Hash) : Accounts Hash :=
  { s with transactions := s.transactions.insert tx { request := request, phase := phase } }

def finish (tx : TransactionId) : Accounts Hash :=
  { s with
    transactions := s.transactions.erase tx
    locks := fun id => release (s.locks id) tx }

def selected (query : Query) : List UserId :=
  ((s.users.entries.filter fun entry => query.selects (entry.1, entry.2)).map
    Sigma.fst).insertionSort (· ≤ ·)

def selectedSessions (request : Request Hash) : List TransactionId :=
  (s.sessions.entries.filter fun entry => request.deletes entry.2).map Sigma.fst

def lockRow (tx : TransactionId) (mode : Mode) (id : UserId) (user : User Hash) :
    Option (UserId → List (Holder TransactionId (User Hash))) :=
  if (s.locks id).any fun holder => holder.tx = tx && holder.mode = .update then some s.locks
  else (grant (s.locks id) tx mode user).map (Function.update s.locks id)

def sessionLocked (tx : Option TransactionId) (login : TransactionId) : Bool :=
  s.transactions.entries.any fun entry =>
    some entry.1 ≠ tx && match entry.2.phase with
      | .delete _ _ deleted => login ∈ deleted
      | _ => false

def updateUser (id : UserId) (f : User Hash → User Hash) : AList fun _ : UserId => User Hash :=
  match s.users.lookup id with
  | some user => s.users.insert id (f user)
  | none => s.users

/-- What a transaction has written, when it commits. `none` where it breaks a unique key. -/
def apply (tx : TransactionId) : Write Hash → Option (Accounts Hash)
  | .insertSession session =>
    if s.sessions.entries.any fun entry => entry.2.tokenHash = session.tokenHash then none
    else some { s with sessions := s.sessions.insert tx session }
  | .insertUser id user =>
    if s.users.entries.any fun entry => entry.1 = id || entry.2.username = user.username then none
    else some { s with users := s.users.insert id user }
  | .setEnabled id enabled =>
    some { s with users := s.updateUser id fun user => { user with enabled := enabled } }
  | .setRole id role =>
    some { s with users := s.updateUser id fun user => { user with role := role } }
  | .setPassword id passwordHash =>
    some { s with users := s.updateUser id fun user => { user with passwordHash := passwordHash } }

def authenticated (tokenHash : String) (now : ℤ) : Option TransactionId :=
  (s.sessions.entries.find? fun entry =>
    entry.2.tokenHash = tokenHash && entry.2.expiresAt > now
      && entry.2.lastSeenAt > now - config.idleTTL
      && ((s.users.lookup entry.2.userId).any User.enabled)).map Sigma.fst

/-- The row that `AuthenticateSession` updates: the newest version of the one it found, if it still
qualifies. The user is the one of the snapshot. -/
def touched (request : ℕ) : Option (TransactionId × Session × ℤ) := do
  let authentication ← s.authentications.lookup request
  guard (!s.sessionLocked none authentication.login)
  let session ← s.sessions.lookup authentication.login
  guard (session.tokenHash = authentication.tokenHash && session.expiresAt > authentication.now
    && session.lastSeenAt > authentication.now - config.idleTTL)
  return (authentication.login, session, authentication.now)

def step : Action Hash → Option (Accounts Hash)
  | .begin request =>
    if request.check.isOk && request.hashed config then
      some { s.setPhase s.next request (.query request.queries []) with next := s.next + 1 }
    else none
  | .select tx =>
    match s.transactions.lookup tx with
    | some ⟨request, .query (query :: queries) results⟩ =>
      some (s.setPhase tx request (.lock query (s.selected query) [] queries results))
    | _ => none
  | .lock tx =>
    match s.transactions.lookup tx with
    | some ⟨request, .lock _ [] locked queries results⟩ =>
      some (s.setPhase tx request (.query queries (results ++ [locked])))
    | some ⟨request, .lock query (id :: rows) locked queries results⟩ => do
      let user ← s.users.lookup id
      let locks ← s.lockRow tx query.mode id user
      -- The condition is checked again on the version that is locked.
      let locked := if query.selects (id, user) then locked ++ [(id, user)] else locked
      return { s.setPhase tx request (.lock query rows locked queries results) with locks := locks }
    | _ => none
  | .write tx =>
    match s.transactions.lookup tx with
    | some ⟨request, .query [] results⟩ =>
      match request.decide config results with
      | .error _ => some (s.finish tx)
      | .ok write =>
        let phase := if request.deletesSessions then .written write else .delete write [] []
        some { s.setPhase tx request phase with log := request.verification tx results ++ s.log }
    | _ => none
  | .selectSessions tx =>
    match s.transactions.lookup tx with
    | some ⟨request, .written write⟩ =>
      some (s.setPhase tx request (.delete write (s.selectedSessions request) []))
    | _ => none
  | .deleteNext tx =>
    match s.transactions.lookup tx with
    | some ⟨request, .delete write (login :: rows) deleted⟩ =>
      if s.sessionLocked (some tx) login then none
      else if (s.sessions.lookup login).any request.deletes then
        some (s.setPhase tx request (.delete write rows (login :: deleted)))
      else some (s.setPhase tx request (.delete write rows deleted))
    | _ => none
  | .commit tx =>
    match s.transactions.lookup tx with
    | some ⟨request, .delete write [] deleted⟩ => do
      let t ← s.apply tx write
      return { t.finish tx with
        sessions := deleted.foldl (fun sessions login => sessions.erase login) t.sessions
        log := .committed request :: s.log }
    | _ => none
  | .abort tx => some (s.finish tx)
  | .authenticate request tokenHash now => do
    guard (s.authentications.lookup request).isNone
    let login ← s.authenticated config tokenHash now
    return { s with authentications := s.authentications.insert request ⟨login, tokenHash, now⟩ }
  | .touch request => do
    let (login, session, now) ← s.touched config request
    return { s with
      sessions := s.sessions.insert login { session with lastSeenAt := now }
      authentications := s.authentications.erase request }
  | .deleteSession tokenHash => do
    let entry ← s.sessions.entries.find? fun entry => entry.2.tokenHash = tokenHash
    guard (!s.sessionLocked none entry.1)
    return { s with sessions := s.sessions.erase entry.1 }

end Accounts

end DbsMonitor
