import DbsMonitor.Instance

/-!
# The shared target connection

The collector caches one connection per instance and lends it to one party at a time under the
instance's use lock. A collection run also locks the instance row `FOR UPDATE` to record its start
and its outcome, an evaluator pass `FOR SHARE` for its whole transaction. What a party does between
two lock operations, or between a change of the cache and the closing of what was removed, is one
step.
-/

namespace DbsMonitor.Connections

inductive PartyKind
  | query
  | capability
  | trigger
  deriving DecidableEq, Repr

/-- A connection a party has acquired, and whether the party removed it from the cache itself. -/
structure Held where
  conn : ℕ
  invalidated : Bool
  deriving DecidableEq, Repr

inductive Place
  | startWait
  | starting
  | shareWait
  | evaluating
  /-- `acquireQueryConnection`: in `useLock.Lock()`; then in `queryConnection`, before the cache
  is read, while a stale connection is closed, and while a new one is dialled. -/
  | useWait
  | locked
  | closingStale (removed : ℕ)
  | dialling
  /-- The connection is acquired; then, after a failure, what it removed from the cache is
  closed. -/
  | inUse (conn : ℕ)
  | closingOwn (conn : ℕ) (removed : ℕ)
  /-- The acquisition failed and the use lock is released; then what was cached is closed. -/
  | acquireFailed
  | closingOther (removed : ℕ)
  | outcomeWait (held : Option Held)
  | recording (held : Option Held)
  | releasing (held : Held)
  deriving DecidableEq, Repr

def Place.held : Place → Option Held
  | inUse conn => some ⟨conn, false⟩
  | closingOwn conn _ => some ⟨conn, true⟩
  | outcomeWait held | recording held => held
  | releasing held => some held
  | _ => none

structure Party where
  kind : PartyKind
  target : TargetRow
  place : Place
  deriving DecidableEq

structure CachedConnection where
  credentialVersion : ℕ
  conn : ℕ
  deriving DecidableEq

structure Dialled where
  instanceId : InstanceId
  config : DialConfig
  deriving DecidableEq

/-- Connections are numbered as they were dialled; `states` has the committed states, newest
first. -/
structure World where
  parties : ℕ → Option Party
  useLock : InstanceId → Option ℕ
  exclusive : InstanceId → Option ℕ
  shared : InstanceId → List ℕ
  cache : InstanceId → Option CachedConnection
  dialled : List Dialled
  closed : ℕ → Bool
  states : InstanceId → List InstanceState

def World.init : World :=
  { parties := fun _ => none, useLock := fun _ => none, exclusive := fun _ => none
    shared := fun _ => [], cache := fun _ => none, dialled := [], closed := fun _ => false
    states := fun _ => [] }

inductive Action
  | begin (p : ℕ) (kind : PartyKind) (target : TargetRow)
  | grant (p : ℕ)
  | commit (p : ℕ)
  | abandon (p : ℕ)
  | capture (p : ℕ) (target : TargetRow)
  | lookup (p : ℕ)
  | close (p : ℕ)
  | dial (p : ℕ) (ok : Bool)
  | finish (p : ℕ) (invalidate : Bool)
  | invalidate (p : ℕ)
  | keep (p : ℕ)
  | release (p : ℕ)
  | drop (conn : ℕ)
  | edit (id : InstanceId) (edit : InstanceEdit)

def Action.party? : Action → Option ℕ
  | begin p _ _ | grant p | commit p | abandon p | capture p _ | lookup p | close p | dial p _
  | finish p _ | invalidate p | keep p | release p => some p
  | drop _ | edit _ _ => none

namespace World

variable (w : World)

def setParty (p : ℕ) (party : Option Party) : World :=
  { w with parties := Function.update w.parties p party }

def setUseLock (id : InstanceId) (holder : Option ℕ) : World :=
  { w with useLock := Function.update w.useLock id holder }

def setExclusive (id : InstanceId) (holder : Option ℕ) : World :=
  { w with exclusive := Function.update w.exclusive id holder }

def setShared (id : InstanceId) (holders : List ℕ) : World :=
  { w with shared := Function.update w.shared id holders }

def setCache (id : InstanceId) (cached : Option CachedConnection) : World :=
  { w with cache := Function.update w.cache id cached }

def closeConnection (conn : ℕ) : World :=
  { w with closed := Function.update w.closed conn true }

/-- The row of the target was committed at some time, when the party or the scheduler read it. -/
def committed (target : TargetRow) : Bool :=
  (w.states target.id).any fun state => state.row = target

end World

/-- Done with the connection, an evaluator releases it; a collection run first records its
outcome. -/
def afterUse (held : Held) : PartyKind → Place
  | .trigger => .releasing held
  | .query | .capability => .outcomeWait (some held)

def firstPlace : PartyKind → Place
  | .query => .startWait
  | .capability => .useWait
  | .trigger => .shareWait

section Steps

variable {Key : Type} (keyring : Keyring Key) (w : World) (p : ℕ) (party : Party)

def grantLock : Option World :=
  let id := party.target.id
  match party.place with
  | .startWait =>
    if w.exclusive id = none ∧ w.shared id = [] then
      some ((w.setExclusive id (some p)).setParty p (some { party with place := .starting }))
    else none
  | .outcomeWait held =>
    if w.exclusive id = none ∧ w.shared id = [] then
      some ((w.setExclusive id (some p)).setParty p (some { party with place := .recording held }))
    else none
  | .shareWait =>
    if w.exclusive id = none then
      some ((w.setShared id (p :: w.shared id)).setParty p
        (some { party with place := .evaluating }))
    else none
  | .useWait =>
    if w.useLock id = none then
      some ((w.setUseLock id (some p)).setParty p (some { party with place := .locked }))
    else none
  | _ => none

def commitTransaction : Option World :=
  let id := party.target.id
  match party.place with
  | .starting => some ((w.setExclusive id none).setParty p (some { party with place := .useWait }))
  | .recording (some held) =>
    some ((w.setExclusive id none).setParty p (some { party with place := .releasing held }))
  | .recording none => some ((w.setExclusive id none).setParty p none)
  | .evaluating =>
    some ((w.setShared id ((w.shared id).filter (· ≠ p))).setParty p none)
  | _ => none

/-- `queryConnection` up to the dialling: a cached connection of the target's version that is not
closed is taken, any other is removed. -/
def lookupCache : Option World :=
  let id := party.target.id
  match party.place with
  | .locked =>
    match w.cache id with
    | some cached =>
      if cached.credentialVersion = party.target.credentialVersion ∧ !w.closed cached.conn then
        some (w.setParty p (some { party with place := .inUse cached.conn }))
      else
        some ((w.setCache id none).setParty p
          (some { party with place := .closingStale cached.conn }))
    | none => some (w.setParty p (some { party with place := .dialling }))
  | _ => none

def closeRemoved : Option World :=
  match party.place with
  | .closingStale removed =>
    some ((w.closeConnection removed).setParty p (some { party with place := .dialling }))
  | .closingOwn conn removed =>
    some ((w.closeConnection removed).setParty p
      (some { party with place := afterUse ⟨conn, true⟩ party.kind }))
  | .closingOther removed =>
    some ((w.closeConnection removed).setParty p
      (some { party with place := .outcomeWait none }))
  | _ => none

/-- A dialled connection is cached under the version of the row. A failure releases the use lock. -/
def dialConnection (ok : Bool) : Option World :=
  let id := party.target.id
  match party.place, ok with
  | .dialling, true =>
    (connectionConfig keyring party.target).map fun config =>
      let conn := w.dialled.length
      (({ w with dialled := w.dialled ++ [⟨id, config⟩] } : World).setCache id
        (some ⟨party.target.credentialVersion, conn⟩)).setParty p
          (some { party with place := .inUse conn })
  | .dialling, false =>
    some ((w.setUseLock id none).setParty p (some
      { party with place := if party.kind = .trigger then .evaluating else .acquireFailed }))
  | _, _ => none

def finishUse (invalidate : Bool) : Option World :=
  let id := party.target.id
  match party.place, invalidate, w.cache id with
  | .inUse conn, true, some cached =>
    some ((w.setCache id none).setParty p
      (some { party with place := .closingOwn conn cached.conn }))
  | .inUse conn, true, none =>
    some (w.setParty p (some { party with place := afterUse ⟨conn, true⟩ party.kind }))
  | .inUse conn, false, _ =>
    some (w.setParty p (some { party with place := afterUse ⟨conn, false⟩ party.kind }))
  | _, _, _ => none

/-- `invalidateQueryConnection` after a failed acquisition: by instance, without the use lock. -/
def invalidateCached : Option World :=
  let id := party.target.id
  match party.place, w.cache id with
  | .acquireFailed, some cached =>
    some ((w.setCache id none).setParty p
      (some { party with place := .closingOther cached.conn }))
  | .acquireFailed, none => some (w.setParty p (some { party with place := .outcomeWait none }))
  | _, _ => none

def releaseConnection : Option World :=
  let id := party.target.id
  match party.place with
  | .releasing _ =>
    some ((w.setUseLock id none).setParty p
      (if party.kind = .trigger then some { party with place := .evaluating } else none))
  | _ => none

end Steps

section Step

variable {Key : Type} (keyring : Keyring Key)

def step (w : World) : Action → Option World
  | .begin p kind target =>
    if w.parties p = none ∧ w.committed target then
      some (w.setParty p (some { kind := kind, target := target, place := firstPlace kind }))
    else none
  | .grant p => (w.parties p).bind fun party => grantLock w p party
  | .commit p => (w.parties p).bind fun party => commitTransaction w p party
  | .abandon p => (w.parties p).bind fun party =>
    if party.place = .starting then
      some ((w.setExclusive party.target.id none).setParty p none)
    else none
  | .capture p target => (w.parties p).bind fun party =>
    if party.place = .evaluating ∧ target.id = party.target.id ∧ w.committed target then
      some (w.setParty p (some { party with target := target, place := .useWait }))
    else none
  | .lookup p => (w.parties p).bind fun party => lookupCache w p party
  | .close p => (w.parties p).bind fun party => closeRemoved w p party
  | .dial p ok => (w.parties p).bind fun party => dialConnection keyring w p party ok
  | .finish p invalidate => (w.parties p).bind fun party => finishUse w p party invalidate
  | .invalidate p => (w.parties p).bind fun party => invalidateCached w p party
  | .keep p => (w.parties p).bind fun party =>
    if party.place = .acquireFailed ∧ party.kind = .capability then
      some (w.setParty p (some { party with place := .outcomeWait none }))
    else none
  | .release p => (w.parties p).bind fun party => releaseConnection w p party
  | .drop conn => some (w.closeConnection conn)
  | .edit id edit => (applyEdit keyring id (w.states id) edit).map fun state =>
    { w with states := Function.update w.states id (state :: w.states id) }

end Step

def createOrders : Action :=
  .edit orders.id (.create orders.host ⟨orders.port, orders.port_range⟩ orders.databaseName
    orders.username (utf8 "s3cret") 1 zeroNonce)

def ordersRow : TargetRow :=
  { orders with passwordCiphertext :=
      1 :: (zeroNonce.bytes ++ (utf8 "s3cret" ++ List.replicate 16 0)) }

end DbsMonitor.Connections
