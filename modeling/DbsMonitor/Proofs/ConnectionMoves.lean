import DbsMonitor.Connections

/-!
# What a party can do

One constructor of `Move` for each thing a running party can do, with its guard and its effect;
`step_cases` says that a step is such a move, the beginning of a party, a connection dropped by its
server, or an edit of an instance.
-/

namespace DbsMonitor.Connections

section Fields

variable (w : World) (p : ℕ) (party : Option Party)

@[simp] theorem setParty_parties :
    (w.setParty p party).parties = Function.update w.parties p party := rfl
@[simp] theorem setParty_shared : (w.setParty p party).shared = w.shared := rfl
@[simp] theorem setParty_cache : (w.setParty p party).cache = w.cache := rfl
@[simp] theorem setParty_dialled : (w.setParty p party).dialled = w.dialled := rfl

end Fields

theorem afterUse_held (held : Held) (kind : PartyKind) : (afterUse held kind).held = some held := by
  cases kind <;> rfl

variable {Key : Type} (keyring : Keyring Key)

inductive Move (w : World) (p : ℕ) (party : Party) : Action → World → Prop
  | grantStart (hplace : party.place = .startWait) (hexcl : w.exclusive party.target.id = none)
      (hshared : w.shared party.target.id = []) :
      Move w p party (.grant p)
        ((w.setExclusive party.target.id (some p)).setParty p
          (some { party with place := .starting }))
  | grantOutcome {held : Option Held} (hplace : party.place = .outcomeWait held)
      (hexcl : w.exclusive party.target.id = none) (hshared : w.shared party.target.id = []) :
      Move w p party (.grant p)
        ((w.setExclusive party.target.id (some p)).setParty p
          (some { party with place := .recording held }))
  | grantShare (hplace : party.place = .shareWait) (hexcl : w.exclusive party.target.id = none) :
      Move w p party (.grant p)
        ((w.setShared party.target.id (p :: w.shared party.target.id)).setParty p
          (some { party with place := .evaluating }))
  | grantUse (hplace : party.place = .useWait) (huse : w.useLock party.target.id = none) :
      Move w p party (.grant p)
        ((w.setUseLock party.target.id (some p)).setParty p
          (some { party with place := .locked }))
  | commitStart (hplace : party.place = .starting) :
      Move w p party (.commit p)
        ((w.setExclusive party.target.id none).setParty p
          (some { party with place := .useWait }))
  | commitHolding {held : Held} (hplace : party.place = .recording (some held)) :
      Move w p party (.commit p)
        ((w.setExclusive party.target.id none).setParty p
          (some { party with place := .releasing held }))
  | commitOutcome (hplace : party.place = .recording none) :
      Move w p party (.commit p) ((w.setExclusive party.target.id none).setParty p none)
  | commitEvaluation (hplace : party.place = .evaluating) :
      Move w p party (.commit p)
        ((w.setShared party.target.id ((w.shared party.target.id).filter (· ≠ p))).setParty p none)
  | abandon (hplace : party.place = .starting) :
      Move w p party (.abandon p) ((w.setExclusive party.target.id none).setParty p none)
  | capture {target : TargetRow} (hplace : party.place = .evaluating)
      (hid : target.id = party.target.id) (hcommitted : w.committed target = true) :
      Move w p party (.capture p target)
        (w.setParty p (some { party with target := target, place := .useWait }))
  | lookupHit {cached : CachedConnection} (hplace : party.place = .locked)
      (hcache : w.cache party.target.id = some cached)
      (hversion : cached.credentialVersion = party.target.credentialVersion)
      (hopen : w.closed cached.conn = false) :
      Move w p party (.lookup p)
        (w.setParty p (some { party with place := .inUse cached.conn }))
  | lookupStale {cached : CachedConnection} (hplace : party.place = .locked)
      (hcache : w.cache party.target.id = some cached) :
      Move w p party (.lookup p)
        ((w.setCache party.target.id none).setParty p
          (some { party with place := .closingStale cached.conn }))
  | lookupMiss (hplace : party.place = .locked) (hcache : w.cache party.target.id = none) :
      Move w p party (.lookup p) (w.setParty p (some { party with place := .dialling }))
  | closeStale {removed : ℕ} (hplace : party.place = .closingStale removed) :
      Move w p party (.close p)
        ((w.closeConnection removed).setParty p (some { party with place := .dialling }))
  | closeOwn {conn removed : ℕ} (hplace : party.place = .closingOwn conn removed) :
      Move w p party (.close p)
        ((w.closeConnection removed).setParty p
          (some { party with place := afterUse ⟨conn, true⟩ party.kind }))
  | closeOther {removed : ℕ} (hplace : party.place = .closingOther removed) :
      Move w p party (.close p)
        ((w.closeConnection removed).setParty p
          (some { party with place := .outcomeWait none }))
  | dialOk {config : DialConfig} (hplace : party.place = .dialling)
      (hconfig : connectionConfig keyring party.target = some config) :
      Move w p party (.dial p true)
        ((({ w with dialled := w.dialled ++ [⟨party.target.id, config⟩] } : World).setCache
          party.target.id (some ⟨party.target.credentialVersion, w.dialled.length⟩)).setParty p
            (some { party with place := .inUse w.dialled.length }))
  | dialFail (hplace : party.place = .dialling) :
      Move w p party (.dial p false)
        ((w.setUseLock party.target.id none).setParty p (some
          { party with place := if party.kind = .trigger then .evaluating else .acquireFailed }))
  | finishInvalidate {conn : ℕ} {cached : CachedConnection} (hplace : party.place = .inUse conn)
      (hcache : w.cache party.target.id = some cached) :
      Move w p party (.finish p true)
        ((w.setCache party.target.id none).setParty p
          (some { party with place := .closingOwn conn cached.conn }))
  | finishInvalidated {conn : ℕ} (hplace : party.place = .inUse conn)
      (hcache : w.cache party.target.id = none) :
      Move w p party (.finish p true)
        (w.setParty p (some { party with place := afterUse ⟨conn, true⟩ party.kind }))
  | finishKeep {conn : ℕ} (hplace : party.place = .inUse conn) :
      Move w p party (.finish p false)
        (w.setParty p (some { party with place := afterUse ⟨conn, false⟩ party.kind }))
  | invalidateCached {cached : CachedConnection} (hplace : party.place = .acquireFailed)
      (hcache : w.cache party.target.id = some cached) :
      Move w p party (.invalidate p)
        ((w.setCache party.target.id none).setParty p
          (some { party with place := .closingOther cached.conn }))
  | invalidateNone (hplace : party.place = .acquireFailed)
      (hcache : w.cache party.target.id = none) :
      Move w p party (.invalidate p)
        (w.setParty p (some { party with place := .outcomeWait none }))
  | keep (hplace : party.place = .acquireFailed) (hkind : party.kind = .capability) :
      Move w p party (.keep p) (w.setParty p (some { party with place := .outcomeWait none }))
  | release {held : Held} (hplace : party.place = .releasing held) :
      Move w p party (.release p)
        ((w.setUseLock party.target.id none).setParty p
          (if party.kind = .trigger then some { party with place := .evaluating } else none))

theorem move_of_grantLock {w w' : World} {p : ℕ} {party : Party}
    (h : grantLock w p party = some w') : Move keyring w p party (.grant p) w' := by
  simp only [grantLock] at h
  split at h
  · rename_i hplace
    split_ifs at h with hg
    exact Option.some.inj h ▸ .grantStart hplace hg.1 hg.2
  · rename_i hplace
    split_ifs at h with hg
    exact Option.some.inj h ▸ .grantOutcome hplace hg.1 hg.2
  · rename_i hplace
    split_ifs at h with hg
    exact Option.some.inj h ▸ .grantShare hplace hg
  · rename_i hplace
    split_ifs at h with hg
    exact Option.some.inj h ▸ .grantUse hplace hg
  · exact absurd h (by simp)

theorem move_of_commitTransaction {w w' : World} {p : ℕ} {party : Party}
    (h : commitTransaction w p party = some w') : Move keyring w p party (.commit p) w' := by
  simp only [commitTransaction] at h
  split at h <;> rename_i hplace
  · exact Option.some.inj h ▸ .commitStart hplace
  · exact Option.some.inj h ▸ .commitHolding hplace
  · exact Option.some.inj h ▸ .commitOutcome hplace
  · exact Option.some.inj h ▸ .commitEvaluation hplace
  · exact absurd h (by simp)

theorem move_of_lookupCache {w w' : World} {p : ℕ} {party : Party}
    (h : lookupCache w p party = some w') : Move keyring w p party (.lookup p) w' := by
  simp only [lookupCache] at h
  split at h
  · rename_i hplace
    split at h
    · rename_i cached hcache
      split_ifs at h with hg
      · exact Option.some.inj h ▸ .lookupHit hplace hcache hg.1 (by simpa using hg.2)
      · exact Option.some.inj h ▸ .lookupStale hplace hcache
    · rename_i hcache
      exact Option.some.inj h ▸ .lookupMiss hplace hcache
  · exact absurd h (by simp)

theorem move_of_closeRemoved {w w' : World} {p : ℕ} {party : Party}
    (h : closeRemoved w p party = some w') : Move keyring w p party (.close p) w' := by
  simp only [closeRemoved] at h
  split at h <;> rename_i hplace
  · exact Option.some.inj h ▸ .closeStale hplace
  · exact Option.some.inj h ▸ .closeOwn hplace
  · exact Option.some.inj h ▸ .closeOther hplace
  · exact absurd h (by simp)

theorem move_of_dialConnection {w w' : World} {p : ℕ} {party : Party} {ok : Bool}
    (h : dialConnection keyring w p party ok = some w') :
    Move keyring w p party (.dial p ok) w' := by
  simp only [dialConnection] at h
  split at h
  · rename_i hplace
    obtain ⟨config, hconfig, rfl⟩ := Option.map_eq_some_iff.mp h
    exact .dialOk hplace hconfig
  · rename_i hplace
    exact Option.some.inj h ▸ .dialFail hplace
  · exact absurd h (by simp)

theorem move_of_finishUse {w w' : World} {p : ℕ} {party : Party} {invalidate : Bool}
    (h : finishUse w p party invalidate = some w') :
    Move keyring w p party (.finish p invalidate) w' := by
  simp only [finishUse] at h
  split at h
  · rename_i hplace hcache
    exact Option.some.inj h ▸ .finishInvalidate hplace hcache
  · rename_i hplace hcache
    exact Option.some.inj h ▸ .finishInvalidated hplace hcache
  · rename_i hplace
    exact Option.some.inj h ▸ .finishKeep hplace
  · exact absurd h (by simp)

theorem move_of_invalidateCached {w w' : World} {p : ℕ} {party : Party}
    (h : invalidateCached w p party = some w') : Move keyring w p party (.invalidate p) w' := by
  simp only [invalidateCached] at h
  split at h
  · rename_i hplace hcache
    exact Option.some.inj h ▸ .invalidateCached hplace hcache
  · rename_i hplace hcache
    exact Option.some.inj h ▸ .invalidateNone hplace hcache
  · exact absurd h (by simp)

theorem move_of_releaseConnection {w w' : World} {p : ℕ} {party : Party}
    (h : releaseConnection w p party = some w') : Move keyring w p party (.release p) w' := by
  simp only [releaseConnection] at h
  split at h <;> rename_i hplace
  · exact Option.some.inj h ▸ .release hplace
  · exact absurd h (by simp)

theorem step_cases {w w' : World} {a : Action} (h : step keyring w a = some w') :
    (∃ p kind target, a = .begin p kind target ∧ w.parties p = none ∧ w.committed target = true
      ∧ w' = w.setParty p (some { kind := kind, target := target, place := firstPlace kind }))
    ∨ (∃ p party, w.parties p = some party ∧ a.party? = some p ∧ Move keyring w p party a w')
    ∨ (∃ conn, a = .drop conn ∧ w' = w.closeConnection conn)
    ∨ (∃ id edit state, a = .edit id edit ∧ applyEdit keyring id (w.states id) edit = some state
      ∧ w' = { w with states := Function.update w.states id (state :: w.states id) }) := by
  cases a
  case begin p kind target =>
    simp only [step] at h
    split_ifs at h with hg
    exact .inl ⟨p, kind, target, rfl, hg.1, hg.2, (Option.some.inj h).symm⟩
  case drop conn => exact .inr (.inr (.inl ⟨conn, rfl, (Option.some.inj h).symm⟩))
  case edit id edit =>
    obtain ⟨state, hstate, rfl⟩ := Option.map_eq_some_iff.mp h
    exact .inr (.inr (.inr ⟨id, edit, state, rfl, hstate, rfl⟩))
  all_goals
    obtain ⟨party, hparty, h⟩ := Option.bind_eq_some_iff.mp h
    refine .inr (.inl ⟨_, party, hparty, rfl, ?_⟩)
  case grant => exact move_of_grantLock keyring h
  case commit => exact move_of_commitTransaction keyring h
  case abandon =>
    split_ifs at h with hg
    exact Option.some.inj h ▸ .abandon hg
  case capture =>
    split_ifs at h with hg
    exact Option.some.inj h ▸ .capture hg.1 hg.2.1 hg.2.2
  case lookup => exact move_of_lookupCache keyring h
  case close => exact move_of_closeRemoved keyring h
  case dial => exact move_of_dialConnection keyring h
  case finish => exact move_of_finishUse keyring h
  case invalidate => exact move_of_invalidateCached keyring h
  case keep =>
    split_ifs at h with hg
    exact Option.some.inj h ▸ .keep hg.1 hg.2
  case release => exact move_of_releaseConnection keyring h

end DbsMonitor.Connections
