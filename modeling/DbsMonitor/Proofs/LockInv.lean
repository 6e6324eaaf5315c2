import DbsMonitor.Locks
import DbsMonitor.Machine
import DbsMonitor.Proofs.ConnectionMoves

/-!
# Who holds which lock

The place of a party says which locks it holds, and the three lock tables agree with it in every
reachable state (`lockInv_run`).
-/

namespace DbsMonitor.Connections

open Locks

def Party.holdsUse (party : Party) : Bool :=
  match party.place with
  | .locked | .closingStale _ | .dialling => true
  | place => place.held.isSome

def Party.holdsRow (party : Party) : Bool :=
  match party.place with
  | .starting | .recording _ => true
  | _ => false

def Party.sharesRow (party : Party) : Bool :=
  party.kind = .trigger && party.place ≠ .shareWait

def Party.fits (party : Party) : Bool :=
  match party.place with
  | .startWait | .starting => party.kind = .query
  | .shareWait | .evaluating => party.kind = .trigger
  | .acquireFailed | .closingOther _ | .outcomeWait _ | .recording _ => party.kind ≠ .trigger
  | _ => true

def Holds (has : Party → Bool) (w : World) (p : ℕ) (id : InstanceId) : Prop :=
  ∃ party, w.parties p = some party ∧ party.target.id = id ∧ has party = true

structure LockInv (w : World) : Prop where
  use : Tracks w.useLock (Holds Party.holdsUse w)
  row : Tracks w.exclusive (Holds Party.holdsRow w)
  share : ∀ id p, p ∈ w.shared id ↔ Holds Party.sharesRow w p id
  fits : ∀ p party, w.parties p = some party → party.fits = true

theorem lockInv_init : LockInv World.init :=
  ⟨fun _ _ => by simp [World.init, Holds], fun _ _ => by simp [World.init, Holds],
    fun _ _ => by simp [World.init, Holds], fun _ _ h => by simp [World.init] at h⟩

section Holds

variable {has : Party → Bool} {w w' : World} {p : ℕ} {party : Party} {new : Option Party}
  (hparties : w'.parties = Function.update w.parties p new)
include hparties

theorem holds_of_ne {q : ℕ} (hq : q ≠ p) (id : InstanceId) :
    Holds has w' q id ↔ Holds has w q id := by
  simp [Holds, hparties, hq]

theorem holds_self (id : InstanceId) :
    Holds has w' p id ↔ ∃ party' ∈ new, party'.target.id = id ∧ has party' = true := by
  simp [Holds, hparties]

variable (hp : w.parties p = some party)
include hp

theorem holds_keep (hid : ∀ party' ∈ new, party'.target.id = party.target.id)
    (hhas : new.any has = has party) (q : ℕ) (id : InstanceId) :
    Holds has w' q id ↔ Holds has w q id := by
  by_cases hq : q = p
  · subst hq
    rw [holds_self hparties, Holds, hp]
    rcases new with _ | party'
    · simp only [Option.any_none] at hhas
      simp [← hhas]
    · simp only [Option.any_some] at hhas
      have := hid party' rfl
      simp [hhas, this]
  · exact holds_of_ne hparties hq id

theorem holds_take (hid : ∀ party' ∈ new, party'.target.id = party.target.id)
    (hnew : new.any has = true) (q : ℕ) (id : InstanceId) :
    Holds has w' q id ↔ Holds has w q id ∨ q = p ∧ id = party.target.id := by
  by_cases hq : q = p
  · subst hq
    rw [holds_self hparties, Holds, hp]
    rcases new with _ | party'
    · simp at hnew
    · simp only [Option.any_some] at hnew
      have := hid party' rfl
      simp only [Option.mem_def, Option.some.injEq, exists_eq_left', this, hnew, and_true, true_and]
      exact ⟨fun h => .inr h.symm, fun h => h.elim And.left Eq.symm⟩
  · rw [holds_of_ne hparties hq]
    simp [hq]

theorem holds_drop (hnew : new.any has = false) (q : ℕ) (id : InstanceId) :
    Holds has w' q id ↔ Holds has w q id ∧ ¬ (q = p ∧ id = party.target.id) := by
  by_cases hq : q = p
  · subst hq
    rw [holds_self hparties, Holds, hp]
    constructor
    · rintro ⟨party', rfl, -, hhas⟩
      exact absurd hhas (by simpa using hnew)
    · rintro ⟨⟨_, hsome, rfl, -⟩, hne⟩
      cases hsome
      exact absurd ⟨rfl, rfl⟩ hne
  · rw [holds_of_ne hparties hq]
    simp [hq]

end Holds

section Move

variable {Key : Type} {keyring : Keyring Key} {w w' : World} {p : ℕ} {party : Party} {a : Action}

theorem use_move (hinv : LockInv w) (hp : w.parties p = some party)
    (hm : Move keyring w p party a w') : Tracks w'.useLock (Holds Party.holdsUse w') := by
  have held : party.holdsUse = true → w.useLock party.target.id = some p := fun h =>
    (hinv.use _ _).mpr ⟨party, hp, rfl, h⟩
  cases hm
  case grantUse hplace huse =>
    exact hinv.use.take huse (holds_take rfl hp (by simp) rfl)
  case dialFail hplace =>
    refine hinv.use.drop (held (by simp [Party.holdsUse, hplace])) (holds_drop rfl hp ?_)
    by_cases hk : party.kind = .trigger <;> simp [Party.holdsUse, hk, Place.held]
  case release hplace =>
    refine hinv.use.drop (held (by simp [Party.holdsUse, hplace, Place.held]))
      (holds_drop rfl hp ?_)
    split_ifs <;> simp [Party.holdsUse, Place.held]
  case capture hplace hid _ =>
    refine hinv.use.congr (holds_keep rfl hp (by simpa using hid) ?_)
    simp [Party.holdsUse, hplace, Place.held]
  all_goals
    refine hinv.use.congr (holds_keep rfl hp (by simp) ?_)
    simp [Party.holdsUse, *, Place.held]
    try cases party.kind <;> rfl

theorem row_move (hinv : LockInv w) (hp : w.parties p = some party)
    (hm : Move keyring w p party a w') : Tracks w'.exclusive (Holds Party.holdsRow w') := by
  have held : party.holdsRow = true → w.exclusive party.target.id = some p := fun h =>
    (hinv.row _ _).mpr ⟨party, hp, rfl, h⟩
  cases hm
  case grantStart hplace hexcl _ =>
    exact hinv.row.take hexcl (holds_take rfl hp (by simp) rfl)
  case grantOutcome hplace hexcl _ =>
    exact hinv.row.take hexcl (holds_take rfl hp (by simp) rfl)
  case commitStart hplace =>
    exact hinv.row.drop (held (by simp [Party.holdsRow, hplace])) (holds_drop rfl hp rfl)
  case commitHolding hplace =>
    exact hinv.row.drop (held (by simp [Party.holdsRow, hplace])) (holds_drop rfl hp rfl)
  case commitOutcome hplace =>
    exact hinv.row.drop (held (by simp [Party.holdsRow, hplace])) (holds_drop rfl hp rfl)
  case abandon hplace =>
    exact hinv.row.drop (held (by simp [Party.holdsRow, hplace])) (holds_drop rfl hp rfl)
  case capture hplace hid _ =>
    exact hinv.row.congr (holds_keep rfl hp (by simpa using hid)
      (by simp [Party.holdsRow, hplace]))
  case dialFail hplace =>
    refine hinv.row.congr (holds_keep rfl hp (by simp) ?_)
    by_cases hk : party.kind = .trigger <;> simp [Party.holdsRow, hplace, hk]
  case release hplace =>
    refine hinv.row.congr (holds_keep rfl hp (by split_ifs <;> simp) ?_)
    by_cases hk : party.kind = .trigger <;> simp [Party.holdsRow, hplace, hk]
  all_goals
    refine hinv.row.congr (holds_keep rfl hp (by simp) ?_)
    simp [Party.holdsRow, *]
    try cases party.kind <;> rfl

theorem move_parties (hfits : party.fits = true) (hm : Move keyring w p party a w') :
    ∃ new, w'.parties = Function.update w.parties p new
      ∧ ∀ party' ∈ new, party'.target.id = party.target.id ∧ party'.kind = party.kind
        ∧ party'.fits = true := by
  cases hm
  case release hplace =>
    refine ⟨_, rfl, fun party' hparty' => ?_⟩
    split_ifs at hparty' with hk <;> cases hparty'
    exact ⟨rfl, rfl, by simp [Party.fits, hk]⟩
  case dialFail hplace =>
    refine ⟨_, rfl, fun party' hparty' => ?_⟩
    cases hparty'
    by_cases hk : party.kind = .trigger <;> simp [Party.fits, hk]
  case capture hplace hid hcommitted =>
    refine ⟨_, rfl, fun party' hparty' => ?_⟩
    cases hparty'
    exact ⟨hid, rfl, rfl⟩
  all_goals
    refine ⟨_, rfl, fun party' hparty' => ?_⟩
    cases hparty' <;> refine ⟨rfl, rfl, ?_⟩ <;> simp only [Party.fits, *] at hfits ⊢ <;>
      first
      | exact hfits
      | cases party.kind <;> rfl

theorem share_move (hinv : LockInv w) (hp : w.parties p = some party)
    (hm : Move keyring w p party a w') (id : InstanceId) (q : ℕ) :
    q ∈ w'.shared id ↔ Holds Party.sharesRow w' q id := by
  have hfits := hinv.fits p party hp
  cases hm
  case grantShare hplace _ =>
    have hk : party.kind = .trigger := by simpa [Party.fits, hplace] using hfits
    rw [holds_take rfl hp (by simp) (by simp [Party.sharesRow, hk]) q id, ← hinv.share]
    by_cases hid : id = party.target.id
    · subst hid
      simp [World.setShared, or_comm]
    · simp [World.setShared, hid]
  case commitEvaluation hplace =>
    rw [holds_drop rfl hp rfl q id, ← hinv.share]
    by_cases hid : id = party.target.id
    · subst hid
      simp [World.setShared]
    · simp [World.setShared, hid]
  case capture hplace hid _ =>
    rw [holds_keep rfl hp (by simpa using hid) (by simp [Party.sharesRow, hplace]) q id,
      ← hinv.share]
    rfl
  case dialFail hplace =>
    rw [holds_keep rfl hp (by simp) ?_ q id, ← hinv.share]
    · rfl
    · by_cases hk : party.kind = .trigger <;> simp [Party.sharesRow, hplace, hk]
  case release hplace =>
    rw [holds_keep rfl hp (by split_ifs <;> simp) ?_ q id, ← hinv.share]
    · rfl
    · by_cases hk : party.kind = .trigger <;> simp [Party.sharesRow, hplace, hk]
  all_goals
    rw [holds_keep rfl hp (by simp) ?_ q id, ← hinv.share]
    · rfl
    simp only [Party.fits, *] at hfits
    simp [Party.sharesRow, *]
    try cases hk : party.kind <;> simp_all [afterUse]

end Move

section Run

variable {Key : Type} {keyring : Keyring Key} {w w' : World} {a : Action}

theorem holds_begin {has : Party → Bool} {p : ℕ} {party : Party} (hp : w.parties p = none)
    (hhas : has party = false) (q : ℕ) (id : InstanceId) :
    Holds has (w.setParty p (some party)) q id ↔ Holds has w q id := by
  by_cases hq : q = p
  · subst hq
    simp [Holds, hp, hhas]
  · exact holds_of_ne rfl hq id

theorem lockInv_step (hinv : LockInv w) (h : step keyring w a = some w') : LockInv w' := by
  obtain ⟨p, kind, target, -, hp, -, rfl⟩ | ⟨p, party, hp, -, hm⟩ | ⟨conn, -, rfl⟩ |
    ⟨id, edit, state, -, -, rfl⟩ := step_cases keyring h
  · refine ⟨hinv.use.congr (holds_begin hp ?_), hinv.row.congr (holds_begin hp ?_),
      fun id q => (hinv.share id q).trans (holds_begin hp ?_ q id).symm, fun q party hq => ?_⟩
    · cases kind <;> rfl
    · cases kind <;> rfl
    · cases kind <;> rfl
    · by_cases hqp : q = p
      · subst hqp
        simp only [setParty_parties, Function.update_self, Option.some.injEq] at hq
        subst hq
        cases kind <;> rfl
      · exact hinv.fits q party (by simpa [hqp] using hq)
  · refine ⟨use_move hinv hp hm, row_move hinv hp hm, share_move hinv hp hm, fun q party' hq => ?_⟩
    obtain ⟨new, hnew, hfits⟩ := move_parties (hinv.fits p party hp) hm
    rw [hnew] at hq
    by_cases hqp : q = p
    · subst hqp
      exact (hfits party' (by simpa using hq)).2.2
    · exact hinv.fits q party' (by simpa [hqp] using hq)
  · exact ⟨hinv.use, hinv.row, hinv.share, hinv.fits⟩
  · exact ⟨hinv.use, hinv.row, hinv.share, hinv.fits⟩

end Run

end DbsMonitor.Connections
