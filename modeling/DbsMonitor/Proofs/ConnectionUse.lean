import DbsMonitor.Proofs.LockInv

/-!
# A connection in use

A party that acquired the connection of an instance has the use lock. A party whose acquisition
failed removes the cached connection without the lock, and that may be one another party has
acquired since. This is the only way (`keepsOthers_iff`).
-/

namespace DbsMonitor.Connections

open Machine

def Place.removed : Place → Option ℕ
  | closingStale removed | closingOwn _ removed | closingOther removed => some removed
  | _ => none

def World.owner (w : World) (conn : ℕ) : Option InstanceId :=
  (w.dialled[conn]?).map Dialled.instanceId

/-- The party acquired a connection that it has not removed from the cache itself. -/
def Party.keepsConnection (party : Party) : Bool :=
  party.place.held.any fun held => !held.invalidated

/-- A step of a party neither closes a connection another has acquired nor removes it from the
cache. -/
def KeepsOthers (w : World) (a : Action) (w' : World) : Prop :=
  ∀ p ∈ a.party?, ∀ q party held, q ≠ p → w.parties q = some party →
    party.place.held = some held →
      (w'.closed held.conn = true → w.closed held.conn = true)
      ∧ ∀ cached, w.cache party.target.id = some cached → cached.conn = held.conn →
          w'.cache party.target.id = some cached

/-- No party of the instance other than `p` is between its acquisition and its release with a
connection it has not invalidated itself. -/
def Unused (w : World) (p : ℕ) (id : InstanceId) : Prop :=
  ∀ q, q ≠ p → ¬ Holds Party.keepsConnection w q id

/-- After a failed acquisition the cached connection is invalidated only while no other party
has it. -/
def InvalidatesUnused (w : World) : Action → World → Prop
  | .invalidate p, _ => ∀ party ∈ w.parties p, Unused w p party.target.id
  | _, _ => True

structure PartyOk (w : World) (party : Party) : Prop where
  owner_held : ∀ held ∈ party.place.held, w.owner held.conn = some party.target.id
  cached : ∀ held ∈ party.place.held, held.invalidated = false →
    ∃ cached ∈ w.cache party.target.id, cached.conn = held.conn
  gone : ∀ held ∈ party.place.held, held.invalidated = true →
    ∀ cached ∈ w.cache party.target.id, cached.conn ≠ held.conn
  owner_removed : ∀ conn ∈ party.place.removed, w.owner conn = some party.target.id
  removed : ∀ conn ∈ party.place.removed, ∀ cached ∈ w.cache party.target.id, cached.conn ≠ conn

structure ConnInv (w : World) : Prop where
  locks : LockInv w
  owner_cached : ∀ id, ∀ cached ∈ w.cache id, w.owner cached.conn = some id
  parties : ∀ p party, w.parties p = some party → PartyOk w party
  free : ∀ p q party party', p ≠ q → w.parties p = some party → w.parties q = some party' →
    ∀ conn ∈ party.place.removed, ∀ held ∈ party'.place.held, held.conn ≠ conn

theorem connInv_init : ConnInv World.init :=
  ⟨lockInv_init, fun _ _ h => by simp [World.init] at h, fun _ _ h => by simp [World.init] at h,
    fun _ _ _ _ _ h => by simp [World.init] at h⟩

theorem afterUse_removed (held : Held) (kind : PartyKind) :
    (afterUse held kind).removed = none := by
  cases kind <;> rfl

section Locks

variable {w : World} {p q : ℕ} {party party' : Party}

theorem holdsUse_of_held {held : Held} (h : party.place.held = some held) :
    party.holdsUse = true := by
  unfold Party.holdsUse
  split
  · rfl
  · rfl
  · rfl
  · simp [h]

theorem held_eq_none (hinv : LockInv w) (hp : w.parties p = some party)
    (huse : party.holdsUse = true) (hq : w.parties q = some party') (hne : q ≠ p)
    (hid : party'.target.id = party.target.id) : party'.place.held = none := by
  rcases hheld : party'.place.held with _ | held
  · rfl
  · exact absurd (hinv.use.unique (i := party.target.id) ⟨party', hq, hid, holdsUse_of_held hheld⟩
      ⟨party, hp, rfl, huse⟩) hne

theorem unused_of_holdsUse (hinv : LockInv w) (hp : w.parties p = some party)
    (huse : party.holdsUse = true) : Unused w p party.target.id := by
  rintro q hne ⟨other, hq, hid, hkeeps⟩
  simp [Party.keepsConnection, held_eq_none hinv hp huse hq hne hid] at hkeeps

theorem Unused.invalidated (h : Unused w p party.target.id) (hq : w.parties q = some party')
    (hne : q ≠ p) (hid : party'.target.id = party.target.id) {held : Held}
    (hheld : party'.place.held = some held) : held.invalidated = true := by
  by_contra hkeeps
  exact h q hne ⟨party', hq, hid, by simpa [Party.keepsConnection, hheld] using hkeeps⟩

theorem conn_ne {w : World} {c d : ℕ} {i j : InstanceId} (hc : w.owner c = some i)
    (hd : w.owner d = some j) (hij : i ≠ j) : c ≠ d := by
  rintro rfl
  exact hij (Option.some.inj (hc.symm.trans hd))

theorem owner_lt {c : ℕ} {i : InstanceId} (h : w.owner c = some i) : c < w.dialled.length := by
  obtain ⟨d, hd, -⟩ := Option.map_eq_some_iff.mp h
  exact (List.getElem?_eq_some_iff.mp hd).1

end Locks

section Update

variable {w w' : World} {p : ℕ} {party : Party} {new : Option Party}

theorem owner_eq (hdialled : w'.dialled = w.dialled) (conn : ℕ) : w'.owner conn = w.owner conn := by
  rw [World.owner, hdialled]
  rfl

theorem PartyOk.congr (hok : PartyOk w party) (hdialled : w'.dialled = w.dialled)
    (hcache : w'.cache party.target.id = w.cache party.target.id) : PartyOk w' party := by
  have howner := owner_eq hdialled
  constructor
  · exact fun held hheld => (howner _).trans (hok.owner_held held hheld)
  · exact fun held hheld hinv => hcache ▸ hok.cached held hheld hinv
  · exact fun held hheld hinv => hcache ▸ hok.gone held hheld hinv
  · exact fun conn hconn => (howner _).trans (hok.owner_removed conn hconn)
  · exact fun conn hconn => hcache ▸ hok.removed conn hconn

variable (hinv : ConnInv w) (hlocks : LockInv w')
  (hparties : w'.parties = Function.update w.parties p new)
include hinv hlocks hparties

theorem ConnInv.update (hcached : ∀ id, ∀ cached ∈ w'.cache id, w'.owner cached.conn = some id)
    (hnew : ∀ party' ∈ new, PartyOk w' party')
    (hothers : ∀ q party', q ≠ p → w.parties q = some party' → PartyOk w' party')
    (hremoved : ∀ party' ∈ new, ∀ conn ∈ party'.place.removed, ∀ q other, q ≠ p →
      w.parties q = some other → ∀ held ∈ other.place.held, held.conn ≠ conn)
    (hheld : ∀ party' ∈ new, ∀ held ∈ party'.place.held, ∀ q other, q ≠ p →
      w.parties q = some other → ∀ conn ∈ other.place.removed, held.conn ≠ conn) : ConnInv w' := by
  refine ⟨hlocks, hcached, fun q party' hq => ?_, fun q r party' other hne hq hr => ?_⟩
  · rw [hparties] at hq
    by_cases hqp : q = p
    · subst hqp
      exact hnew party' (by simpa using hq)
    · exact hothers q party' hqp (by simpa [hqp] using hq)
  · rw [hparties] at hq hr
    by_cases hqp : q = p
    · subst hqp
      rw [Function.update_of_ne hne.symm] at hr
      exact fun conn hconn => hremoved party' (by simpa using hq) conn hconn r other hne.symm hr
    · rw [Function.update_of_ne hqp] at hq
      by_cases hrp : r = p
      · subst hrp
        exact fun conn hconn held hh => hheld other (by simpa using hr) held hh q party' hqp hq
          conn hconn
      · rw [Function.update_of_ne hrp] at hr
        exact hinv.free q r party' other hne hq hr

theorem ConnInv.quiet (hdialled : w'.dialled = w.dialled) (hcache : w'.cache = w.cache)
    (hp : w.parties p = some party)
    (hnew : ∀ party' ∈ new, party'.target.id = party.target.id
      ∧ (∀ held ∈ party'.place.held, party.place.held = some held)
      ∧ party'.place.removed = none) : ConnInv w' := by
  have hok := hinv.parties p party hp
  have howner := owner_eq hdialled
  refine hinv.update hlocks hparties ?_ ?_ ?_ ?_ ?_
  · exact fun id cached hc => (howner _).trans (hinv.owner_cached id cached (hcache ▸ hc))
  · intro party' hparty'
    obtain ⟨hid, hheld, hremoved⟩ := hnew party' hparty'
    refine ⟨?_, ?_, ?_, ?_, ?_⟩
    · exact fun held h => (howner _).trans (hid ▸ hok.owner_held held (hheld held h))
    · exact fun held h => by rw [hcache, hid]; exact hok.cached held (hheld held h)
    · exact fun held h => by rw [hcache, hid]; exact hok.gone held (hheld held h)
    · simp [hremoved]
    · simp [hremoved]
  · exact fun q other _ hq => (hinv.parties q other hq).congr hdialled (by rw [hcache])
  · intro party' hparty' conn hconn
    rw [(hnew party' hparty').2.2] at hconn
    cases hconn
  · intro party' hparty' held h q other hne hq conn hconn
    exact hinv.free q p other party hne hq hp conn hconn held ((hnew party' hparty').2.1 held h)

theorem ConnInv.remove {cached : CachedConnection} {party' : Party} (hsome : new = some party')
    (hdialled : w'.dialled = w.dialled)
    (hcache' : w'.cache = Function.update w.cache party.target.id none)
    (hp : w.parties p = some party) (hcache : w.cache party.target.id = some cached)
    (hunused : Unused w p party.target.id) (hid : party'.target.id = party.target.id)
    (hremoved : party'.place.removed = some cached.conn)
    (hheld : ∀ held ∈ party'.place.held,
      held.invalidated = true ∧ ∃ before ∈ party.place.held, before.conn = held.conn) :
    ConnInv w' := by
  have hok := hinv.parties p party hp
  have howner := owner_eq hdialled
  have hnone : w'.cache party.target.id = none := by rw [hcache', Function.update_self]
  subst hsome
  refine hinv.update hlocks hparties ?_ ?_ ?_ ?_ ?_
  · intro id c hc
    by_cases hid' : id = party.target.id
    · subst hid'
      rw [hnone] at hc
      cases hc
    · rw [hcache', Function.update_of_ne hid'] at hc
      exact (howner _).trans (hinv.owner_cached id c hc)
  · rintro _ ⟨⟩
    refine ⟨fun held h => ?_, fun held h hf => ?_, ?_, fun conn h => ?_, ?_⟩
    · obtain ⟨before, hbefore, hconn⟩ := (hheld held h).2
      rw [howner, hid, ← hconn]
      exact hok.owner_held before hbefore
    · exact absurd (hheld held h).1 (by simp [hf])
    · simp [hid, hnone]
    · rw [hremoved] at h
      cases h
      rw [howner, hid]
      exact hinv.owner_cached _ cached hcache
    · simp [hid, hnone]
  · intro q other hne hq
    have hokq := hinv.parties q other hq
    by_cases hid' : other.target.id = party.target.id
    · have hno : w'.cache other.target.id = none := hid' ▸ hnone
      refine ⟨fun held h => (howner _).trans (hokq.owner_held held h), fun held h hf => ?_,
        by simp [hno], fun conn h => (howner _).trans (hokq.owner_removed conn h), by simp [hno]⟩
      exact absurd (hunused.invalidated hq hne hid' h) (by simp [hf])
    · exact hokq.congr hdialled (by rw [hcache', Function.update_of_ne hid'])
  · rintro _ ⟨⟩ conn hconn q other hne hq held h heq
    rw [hremoved] at hconn
    cases hconn
    have hokq := hinv.parties q other hq
    by_cases hid' : other.target.id = party.target.id
    · exact hokq.gone held h (hunused.invalidated hq hne hid' h) cached (hid' ▸ hcache) heq.symm
    · exact conn_ne (hokq.owner_held held h) (hinv.owner_cached _ cached hcache) hid' heq
  · rintro _ ⟨⟩ held h q other hne hq conn hconn
    obtain ⟨before, hbefore, heq⟩ := (hheld held h).2
    exact heq ▸ hinv.free q p other party hne hq hp conn hconn before hbefore

end Update

section Move

variable {Key : Type} {keyring : Keyring Key} {w w' : World} {p : ℕ} {party : Party} {a : Action}

theorem connInv_dial (hinv : ConnInv w) (hp : w.parties p = some party) {config : DialConfig}
    (hplace : party.place = .dialling) (hlocks : LockInv w')
    (hparties : w'.parties = Function.update w.parties p
      (some { party with place := .inUse w.dialled.length }))
    (hdialled : w'.dialled = w.dialled ++ [⟨party.target.id, config⟩])
    (hcache : w'.cache = Function.update w.cache party.target.id
      (some ⟨party.target.credentialVersion, w.dialled.length⟩)) : ConnInv w' := by
  have hfresh : w'.owner w.dialled.length = some party.target.id := by
    simp [World.owner, hdialled]
  have hmono : ∀ {conn id}, w.owner conn = some id → w'.owner conn = some id := by
    intro conn id howner
    rw [World.owner, hdialled, List.getElem?_append_left (owner_lt howner)]
    exact howner
  have huse : party.holdsUse = true := by simp [Party.holdsUse, hplace]
  refine hinv.update hlocks hparties ?_ ?_ ?_ ?_ ?_
  · intro id cached hc
    by_cases hid : id = party.target.id
    · subst hid
      rw [hcache, Function.update_self] at hc
      cases hc
      exact hfresh
    · rw [hcache, Function.update_of_ne hid] at hc
      exact hmono (hinv.owner_cached id cached hc)
  · rintro _ ⟨⟩
    refine ⟨?_, ?_, ?_, ?_, ?_⟩ <;> simp [Place.held, Place.removed, hfresh, hcache]
  · intro q other hne hq
    have hok := hinv.parties q other hq
    by_cases hid : other.target.id = party.target.id
    · have hnone := held_eq_none hinv.locks hp huse hq hne hid
      refine ⟨by simp [hnone], by simp [hnone], by simp [hnone],
        fun conn h => hmono (hok.owner_removed conn h), fun conn h cached hc => ?_⟩
      rw [hcache, hid, Function.update_self] at hc
      cases hc
      exact (owner_lt (hok.owner_removed conn h)).ne'
    · have hsame : w'.cache other.target.id = w.cache other.target.id := by
        rw [hcache, Function.update_of_ne hid]
      exact ⟨fun held h => hmono (hok.owner_held held h), hsame ▸ hok.cached, hsame ▸ hok.gone,
        fun conn h => hmono (hok.owner_removed conn h), hsame ▸ hok.removed⟩
  · rintro _ ⟨⟩ conn ⟨⟩
  · rintro _ ⟨⟩ held ⟨⟩ q other hne hq conn h
    exact (owner_lt ((hinv.parties q other hq).owner_removed conn h)).ne'

theorem keepsOthers_of (hinv : ConnInv w) (hp : w.parties p = some party) (ha : a.party? = some p)
    (hclosed : ∀ conn, w'.closed conn = true →
      w.closed conn = true ∨ party.place.removed = some conn)
    (hcache : w'.cache = w.cache ∨ Unused w p party.target.id
      ∧ ∃ cached, w'.cache = Function.update w.cache party.target.id cached) :
    KeepsOthers w a w' := by
  rintro p' hp' q other held hne hq hheld
  obtain rfl : p = p' := Option.some.inj (ha.symm.trans hp')
  refine ⟨fun h => ?_, fun cached hc hconn => ?_⟩
  · rcases hclosed _ h with h | h
    · exact h
    · exact absurd rfl (hinv.free p q party other hne.symm hp hq _ h held hheld)
  · rcases hcache with h | ⟨hunused, new, h⟩
    · rw [h, hc]
    · by_cases hid : other.target.id = party.target.id
      · exact absurd hconn ((hinv.parties q other hq).gone held hheld
          (hunused.invalidated hq hne hid hheld) cached hc)
      · rw [h, Function.update_of_ne hid, hc]

theorem connInv_move (hinv : ConnInv w) (hp : w.parties p = some party) (hlocks : LockInv w')
    (hm : Move keyring w p party a w') (hguard : InvalidatesUnused w a w') : ConnInv w' := by
  have hok := hinv.parties p party hp
  have hunused : party.holdsUse = true → Unused w p party.target.id :=
    unused_of_holdsUse hinv.locks hp
  cases hm
  case lookupHit cached hplace hcache _ _ =>
    have howner := hinv.owner_cached _ cached hcache
    refine hinv.update hlocks rfl hinv.owner_cached ?_
      (fun q other _ hq => (hinv.parties q other hq).congr rfl rfl) ?_ ?_
    · rintro _ ⟨⟩
      refine ⟨?_, ?_, ?_, ?_, ?_⟩ <;> simp [Place.held, Place.removed, hcache]
      exact howner
    · rintro _ ⟨⟩ conn ⟨⟩
    · rintro _ ⟨⟩ held ⟨⟩ q other hne hq conn h heq
      have hokq := hinv.parties q other hq
      by_cases hid : other.target.id = party.target.id
      · exact hokq.removed conn h cached (hid ▸ hcache) heq
      · exact conn_ne (hokq.owner_removed conn h) howner hid heq.symm
  case lookupStale cached hplace hcache =>
    exact hinv.remove hlocks rfl rfl rfl rfl hp hcache
      (hunused (by simp [Party.holdsUse, hplace])) rfl rfl (by simp [Place.held])
  case dialOk config hplace hconfig => exact connInv_dial hinv hp hplace hlocks rfl rfl rfl
  case finishInvalidate conn cached hplace hcache =>
    refine hinv.remove hlocks rfl rfl rfl rfl hp hcache
      (hunused (by simp [Party.holdsUse, hplace, Place.held])) rfl rfl ?_
    simp [Place.held, hplace]
  case finishInvalidated conn hplace hcache =>
    have hheld : (afterUse ⟨conn, true⟩ party.kind).held = some ⟨conn, true⟩ := afterUse_held _ _
    have hremoved := afterUse_removed ⟨conn, true⟩ party.kind
    refine hinv.update hlocks rfl hinv.owner_cached ?_
      (fun q other _ hq => (hinv.parties q other hq).congr rfl rfl) ?_ ?_
    · rintro _ ⟨⟩
      refine ⟨?_, ?_, ?_, ?_, ?_⟩ <;> simp [hheld, hremoved, hcache]
      exact hok.owner_held ⟨conn, false⟩ (by simp [hplace, Place.held])
    · rintro _ ⟨⟩ c h
      simp [hremoved] at h
    · rintro _ ⟨⟩ held h q other hne hq c hc
      simp only [hheld, Option.mem_def, Option.some.injEq] at h
      subst h
      exact hinv.free q p other party hne hq hp c hc ⟨conn, false⟩ (by simp [hplace, Place.held])
  case invalidateCached cached hplace hcache =>
    exact hinv.remove hlocks rfl rfl rfl rfl hp hcache (hguard party hp) rfl rfl
      (by simp [Place.held])
  case dialFail hplace =>
    refine hinv.quiet hlocks rfl rfl rfl hp ?_
    rintro _ ⟨⟩
    by_cases hk : party.kind = .trigger <;> simp [hk, Place.held, Place.removed]
  case release hplace =>
    refine hinv.quiet hlocks rfl rfl rfl hp fun party' h => ?_
    split_ifs at h <;> cases h
    simp [Place.held, Place.removed]
  case capture hplace hid _ =>
    refine hinv.quiet hlocks rfl rfl rfl hp ?_
    rintro _ ⟨⟩
    simp [Place.held, Place.removed, hid]
  case closeOwn hplace =>
    refine hinv.quiet hlocks rfl rfl rfl hp ?_
    rintro _ ⟨⟩
    simp only [afterUse_held, afterUse_removed, hplace]
    simp [Place.held]
  case finishKeep hplace =>
    refine hinv.quiet hlocks rfl rfl rfl hp ?_
    rintro _ ⟨⟩
    simp only [afterUse_held, afterUse_removed, hplace]
    simp [Place.held]
  all_goals
    refine hinv.quiet hlocks rfl rfl rfl hp ?_
    rintro _ ⟨⟩
    try simp [Place.held, Place.removed, *]

theorem keepsOthers_move (hinv : ConnInv w) (hp : w.parties p = some party)
    (ha : a.party? = some p) (hm : Move keyring w p party a w')
    (hguard : InvalidatesUnused w a w') : KeepsOthers w a w' := by
  have hunused : party.holdsUse = true → Unused w p party.target.id :=
    unused_of_holdsUse hinv.locks hp
  have hclose : ∀ removed, party.place.removed = some removed → ∀ conn,
      (w.closeConnection removed).closed conn = true →
        w.closed conn = true ∨ party.place.removed = some conn := by
    intro removed hremoved conn h
    by_cases hc : conn = removed
    · exact .inr (hc ▸ hremoved)
    · exact .inl (by simpa [World.closeConnection, hc] using h)
  cases hm
  case lookupStale hplace _ =>
    exact keepsOthers_of hinv hp ha (fun _ h => .inl h)
      (.inr ⟨hunused (by simp [Party.holdsUse, hplace]), _, rfl⟩)
  case dialOk hplace _ =>
    exact keepsOthers_of hinv hp ha (fun _ h => .inl h)
      (.inr ⟨hunused (by simp [Party.holdsUse, hplace]), _, rfl⟩)
  case finishInvalidate hplace _ =>
    exact keepsOthers_of hinv hp ha (fun _ h => .inl h)
      (.inr ⟨hunused (by simp [Party.holdsUse, hplace, Place.held]), _, rfl⟩)
  case invalidateCached =>
    exact keepsOthers_of hinv hp ha (fun _ h => .inl h) (.inr ⟨hguard party hp, _, rfl⟩)
  case closeStale hplace =>
    exact keepsOthers_of hinv hp ha (hclose _ (by simp [hplace, Place.removed])) (.inl rfl)
  case closeOwn hplace =>
    exact keepsOthers_of hinv hp ha (hclose _ (by simp [hplace, Place.removed])) (.inl rfl)
  case closeOther hplace =>
    exact keepsOthers_of hinv hp ha (hclose _ (by simp [hplace, Place.removed])) (.inl rfl)
  all_goals exact keepsOthers_of hinv hp ha (fun _ h => .inl h) (.inl rfl)

end Move

section Run

variable {Key : Type} {keyring : Keyring Key} {w w' : World} {a : Action}

theorem connInv_step (hinv : ConnInv w) (h : step keyring w a = some w')
    (hguard : InvalidatesUnused w a w') : KeepsOthers w a w' ∧ ConnInv w' := by
  have hlocks := lockInv_step hinv.locks h
  obtain ⟨p, kind, target, rfl, hp, -, rfl⟩ | ⟨p, party, hp, ha, hm⟩ | ⟨conn, rfl, rfl⟩ |
    ⟨id, edit, state, rfl, -, rfl⟩ := step_cases keyring h
  · have hplace : (firstPlace kind).held = none ∧ (firstPlace kind).removed = none := by
      cases kind <;> exact ⟨rfl, rfl⟩
    refine ⟨fun _ _ q party held _ _ _ => ⟨id, fun _ hc _ => hc⟩,
      hinv.update hlocks rfl hinv.owner_cached ?_
        (fun q other _ hq => (hinv.parties q other hq).congr rfl rfl) ?_ ?_⟩
    · rintro _ ⟨⟩
      refine ⟨?_, ?_, ?_, ?_, ?_⟩ <;> simp [hplace]
    · rintro _ ⟨⟩
      simp [hplace]
    · rintro _ ⟨⟩
      simp [hplace]
  · exact ⟨keepsOthers_move hinv hp ha hm hguard, connInv_move hinv hp hlocks hm hguard⟩
  · exact ⟨fun _ hp => (nomatch hp), hlocks, hinv.owner_cached,
      fun q other hq => (hinv.parties q other hq).congr rfl rfl, hinv.free⟩
  · exact ⟨fun _ hp => (nomatch hp), hlocks, hinv.owner_cached,
      fun q other hq => (hinv.parties q other hq).congr rfl rfl, hinv.free⟩

theorem invalidatesUnused_of_keepsOthers (hinv : ConnInv w) (h : step keyring w a = some w')
    (hkeeps : KeepsOthers w a w') : InvalidatesUnused w a w' := by
  cases a
  case invalidate p =>
    rintro party hp q hne ⟨other, hq, hid, hother⟩
    rcases hheld : other.place.held with _ | held
    · simp [Party.keepsConnection, hheld] at hother
    obtain ⟨cached, hcache, hconn⟩ := (hinv.parties q other hq).cached held hheld
      (by simpa [Party.keepsConnection, hheld] using hother)
    have hafter := (hkeeps p rfl q other held hne hq hheld).2 cached hcache hconn
    rw [Option.mem_def, hid] at hcache
    obtain ⟨party', hp', h⟩ := Option.bind_eq_some_iff.mp h
    obtain rfl : party = party' := Option.some.inj (hp.symm.trans hp')
    simp only [invalidateCached, hcache] at h
    split at h
    · cases h
      simp [World.setCache, hid] at hafter
    · simp_all
    · cases h
  all_goals trivial

end Run

/-- Exactly the runs where a failed acquisition invalidates while no other party has the
connection. -/
theorem keepsOthers_iff {Key : Type} (keyring : Keyring Key) (actions : List Action) :
    Along (step keyring) KeepsOthers World.init actions ↔
      Along (step keyring) InvalidatesUnused World.init actions := by
  refine along_congr (I := ConnInv) (fun w a w' hinv hstep => ?_) connInv_init
  have hback := invalidatesUnused_of_keepsOthers hinv hstep
  exact ⟨⟨hback, fun h => (connInv_step hinv hstep h).1⟩,
    fun h => (connInv_step hinv hstep (hback h)).2⟩

/-- A collection query (0) fails to dial and has released the use lock when a trigger snapshot (1)
dials and caches a connection. The query then invalidates it. -/
def lateInvalidation : List Action :=
  [ createOrders,
    .begin 0 .query ordersRow, .grant 0, .commit 0, .grant 0, .lookup 0, .dial 0 false,
    .begin 1 .trigger ordersRow, .grant 1, .capture 1 ordersRow, .grant 1, .lookup 1,
    .dial 1 true,
    .invalidate 0, .close 0 ]

theorem failed_acquire_closes_connection_in_use :
    ¬ Along (step plainKeyring) KeepsOthers World.init lateInvalidation := by
  intro h
  have hopen := h.mono (Q := fun w a w' => a.party? = some 0 →
      ∀ party ∈ w.parties 1, ∀ held ∈ party.place.held,
        w'.closed held.conn = true → w.closed held.conn = true)
    fun w a w' hkeeps ha party hparty held hheld =>
      (hkeeps 0 ha 1 party held (by decide) hparty hheld).1
  revert hopen
  decide

end DbsMonitor.Connections
