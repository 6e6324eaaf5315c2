import DbsMonitor.Proofs.ConnectionUse

/-!
# No connection is lost

A party caches what it dialled under the use lock, when the cache is empty, so that it overwrites
no other connection. What was dialled is therefore closed, or cached, or a party is closing it.
-/

namespace DbsMonitor.Connections

open Machine

def Place.replacing : Place → Bool
  | closingStale _ | dialling => true
  | _ => false

def KeepsTrack (w : World) : Prop :=
  ∀ conn id, w.owner conn = some id → w.closed conn = false →
    (w.cache id).map CachedConnection.conn = some conn
    ∨ ∃ p party, w.parties p = some party ∧ party.place.removed = some conn

structure TrackInv (w : World) : Prop where
  locks : LockInv w
  empty : ∀ p party, w.parties p = some party → party.place.replacing = true →
    w.cache party.target.id = none
  tracked : KeepsTrack w

theorem trackInv_init : TrackInv World.init :=
  ⟨lockInv_init, fun _ _ h => by simp [World.init] at h,
    fun _ _ h => by simp [World.init, World.owner] at h⟩

theorem holdsUse_of_replacing {party : Party} (h : party.place.replacing = true) :
    party.holdsUse = true := by
  unfold Place.replacing at h
  split at h <;> simp_all [Party.holdsUse]

theorem afterUse_replacing (held : Held) (kind : PartyKind) :
    (afterUse held kind).replacing = false := by
  cases kind <;> rfl

section Move

variable {Key : Type} {keyring : Keyring Key} {w w' : World} {p : ℕ} {party : Party} {a : Action}
  {new : Option Party}

theorem TrackInv.update (hinv : TrackInv w) (hlocks : LockInv w')
    (hparties : w'.parties = Function.update w.parties p new)
    (howner : ∀ conn id, w'.owner conn = some id →
      w.owner conn = some id ∨ (w'.cache id).map CachedConnection.conn = some conn)
    (hopen : ∀ conn, w'.closed conn = false → w.closed conn = false)
    (hremoved : ∀ party ∈ w.parties p, ∀ conn ∈ party.place.removed, w'.closed conn = true)
    (hothers : ∀ q other, q ≠ p → w.parties q = some other → other.place.replacing = true →
      w'.cache other.target.id = w.cache other.target.id ∨ w'.cache other.target.id = none)
    (hnew : ∀ party' ∈ new, party'.place.replacing = true → w'.cache party'.target.id = none)
    (hcache : ∀ id, ∀ cached ∈ w.cache id, w'.cache id = w.cache id
      ∨ ∃ party' ∈ new, party'.place.removed = some cached.conn) : TrackInv w' := by
  refine ⟨hlocks, fun q other hq hrep => ?_, fun conn id hid hconn => ?_⟩
  · rw [hparties] at hq
    by_cases hqp : q = p
    · subst hqp
      exact hnew other (by simpa using hq) hrep
    · rw [Function.update_of_ne hqp] at hq
      exact (hothers q other hqp hq hrep).elim (·.trans (hinv.empty q other hq hrep)) id
  · rcases howner conn id hid with hold | hcached
    · rcases hinv.tracked conn id hold (hopen conn hconn) with h | ⟨q, other, hq, hother⟩
      · obtain ⟨cached, hcached, rfl⟩ := Option.map_eq_some_iff.mp h
        rcases hcache id cached hcached with heq | ⟨party', hparty', hrem⟩
        · exact .inl (heq ▸ h)
        · exact .inr ⟨p, party', by simpa [hparties] using hparty', hrem⟩
      · have hne : q ≠ p := by
          rintro rfl
          simp [hremoved other hq conn hother] at hconn
        exact .inr ⟨q, other, by simpa [hparties, hne] using hq, hother⟩
    · exact .inl hcached

theorem trackInv_move (hinv : TrackInv w) (hlocks : LockInv w') (hp : w.parties p = some party)
    (hm : Move keyring w p party a w') : TrackInv w' := by
  cases hm
  case lookupStale cached hplace hcache | finishInvalidate conn cached hplace hcache |
      invalidateCached cached hplace hcache =>
    refine hinv.update hlocks rfl (fun _ _ => .inl) (fun _ => id)
      (by simp [hp, hplace, Place.removed]) (fun q other _ _ _ => ?_) ?_ (fun id c hc => ?_)
    · by_cases hid : other.target.id = party.target.id <;> simp [World.setCache, hid]
    · rintro _ ⟨⟩ -
      simp [World.setCache]
    · by_cases hid : id = party.target.id
      · subst hid
        cases hcache.symm.trans hc
        exact .inr ⟨_, rfl, rfl⟩
      · exact .inl (by simp [World.setCache, hid])
  case closeStale removed hplace | closeOwn conn removed hplace | closeOther removed hplace =>
    refine hinv.update hlocks rfl (fun _ _ => .inl) (fun c h => ?_)
      (by simp [hp, hplace, Place.removed, World.closeConnection, World.setParty])
      (fun _ _ _ _ _ => .inl rfl) ?_ (fun _ _ _ => .inl rfl)
    · by_cases hc : c = removed <;> simp_all [World.closeConnection, World.setParty]
    · rintro _ ⟨⟩ hrep
      first
        | exact hinv.empty p party hp (by rw [hplace]; rfl)
        | cases hrep
        | simp [afterUse_replacing] at hrep
  case dialOk config hplace _ =>
    have hrep : party.place.replacing = true := by rw [hplace]; rfl
    refine hinv.update hlocks rfl (fun conn id h => ?_) (fun _ => id)
      (by simp [hp, hplace, Place.removed]) (fun q other hne hq hother => .inl ?_) ?_
      (fun id c hc => .inl ?_)
    · rcases Nat.lt_or_ge conn w.dialled.length with hlt | hge
      · exact .inl ((congrArg (Option.map _) (List.getElem?_append_left hlt)).symm.trans h)
      · have hlt := owner_lt h
        obtain rfl : conn = w.dialled.length := by
          simp [World.setCache] at hlt
          omega
        obtain rfl : party.target.id = id := by simpa [World.owner, World.setCache] using h
        exact .inr (by simp [World.setCache])
    -- both parties would have the use lock
    · have hid : other.target.id ≠ party.target.id := fun hid =>
        hne (hinv.locks.use.unique ⟨other, hq, hid, holdsUse_of_replacing hother⟩
          ⟨party, hp, rfl, holdsUse_of_replacing hrep⟩)
      simp [World.setCache, hid]
    · rintro _ ⟨⟩ ⟨⟩
    · have hid : id ≠ party.target.id := by
        rintro rfl
        simp [hinv.empty p party hp hrep] at hc
      simp [World.setCache, hid]
  all_goals
    refine hinv.update hlocks rfl (fun _ _ => .inl) (fun _ => id) (by simp [*, Place.removed])
      (fun _ _ _ _ _ => .inl rfl) (fun party' h hrep => ?_) (fun _ _ _ => .inl rfl)
  case lookupMiss hcache =>
    cases h
    exact hcache
  case dialFail =>
    cases h
    split_ifs at hrep <;> cases hrep
  case release =>
    split_ifs at h <;> cases h
    cases hrep
  case finishInvalidated | finishKeep =>
    cases h
    simp [afterUse_replacing] at hrep
  all_goals cases h
  all_goals cases hrep

end Move

theorem trackInv_step {Key : Type} {keyring : Keyring Key} {w w' : World} {a : Action}
    (hinv : TrackInv w) (h : step keyring w a = some w') : TrackInv w' := by
  have hlocks := lockInv_step hinv.locks h
  obtain ⟨p, kind, target, rfl, hp, -, rfl⟩ | ⟨p, party, hp, -, hm⟩ | ⟨conn, rfl, rfl⟩ |
    ⟨id, edit, state, rfl, -, rfl⟩ := step_cases keyring h
  · refine hinv.update hlocks rfl (fun _ _ => .inl) (fun _ => id) (by simp [hp])
      (fun _ _ _ _ _ => .inl rfl) ?_ (fun _ _ _ => .inl rfl)
    rintro _ ⟨⟩ hrep
    cases kind <;> cases hrep
  · exact trackInv_move hinv hlocks hp hm
  · refine ⟨hlocks, hinv.empty, fun c id howner hc => hinv.tracked c id howner ?_⟩
    by_cases heq : c = conn <;> simp_all [World.closeConnection]
  · exact ⟨hlocks, hinv.empty, hinv.tracked⟩

/-- However the parties interleave and fail, an instance has one open connection at most, besides
those that a party is about to close. -/
theorem open_connection_tracked {Key : Type} (keyring : Keyring Key) (actions : List Action) :
    Along (step keyring) (fun _ _ w => KeepsTrack w) World.init actions :=
  Along.of_invariant (fun _ _ _ hinv h => ⟨(trackInv_step hinv h).tracked, trackInv_step hinv h⟩)
    trackInv_init

end DbsMonitor.Connections
