import DbsMonitor.Proofs.LockInv

/-!
# Circular waits over the use lock and the instance row

An evaluator pass holds the instance row `FOR SHARE` while it waits for the use lock; a collection
run holds the use lock while it waits for the same row `FOR UPDATE`. The two wait for each other
(`evaluator_collector_circularWait`). There is no other circle (`no_circularWait`).
-/

namespace DbsMonitor.Connections

open Locks Machine

def WaitsFor (w : World) (p q : ℕ) : Prop :=
  match w.parties p with
  | none => False
  | some party =>
    match party.place with
    | .useWait => w.useLock party.target.id = some q
    | .startWait | .outcomeWait _ =>
      w.exclusive party.target.id = some q ∨ q ∈ w.shared party.target.id
    | .shareWait => w.exclusive party.target.id = some q
    | _ => False

instance (w : World) (p q : ℕ) : Decidable (WaitsFor w p q) :=
  match h : w.parties p with
  | none => .isFalse (by simp [WaitsFor, h])
  | some party =>
    match hplace : party.place with
    | .useWait => decidable_of_iff (w.useLock party.target.id = some q)
        (by simp [WaitsFor, h, hplace])
    | .startWait => decidable_of_iff
        (w.exclusive party.target.id = some q ∨ q ∈ w.shared party.target.id)
        (by simp [WaitsFor, h, hplace])
    | .outcomeWait _ => decidable_of_iff
        (w.exclusive party.target.id = some q ∨ q ∈ w.shared party.target.id)
        (by simp [WaitsFor, h, hplace])
    | .shareWait => decidable_of_iff (w.exclusive party.target.id = some q)
        (by simp [WaitsFor, h, hplace])
    | .starting | .evaluating | .locked | .closingStale _ | .dialling | .inUse _
    | .closingOwn _ _ | .acquireFailed | .closingOther _ | .recording _ | .releasing _ =>
      .isFalse (by simp [WaitsFor, h, hplace])

/-- A collection run that has the connection and is not past the recording of its outcome. -/
def Party.owesRecord (party : Party) : Bool :=
  party.kind ≠ .trigger &&
    match party.place with
    | .releasing _ => false
    | place => place.held.isSome

def Party.awaitsUse (party : Party) : Bool :=
  party.kind = .trigger && party.place = .useWait

/-- An evaluator asks for the use lock only while no collection run of the instance has the
connection and its outcome to record, and a collection run acquires it only while no evaluator
waits. -/
def OrderedAcquisition (w : World) : Action → World → Prop
  | .capture _ target, _ => ∀ q, ¬ Holds Party.owesRecord w q target.id
  | .lookup p, w' | .dial p _, w' => ∀ party' ∈ w'.parties p, party'.owesRecord = true →
      ∀ q, ¬ Holds Party.awaitsUse w q party'.target.id
  | _, _ => True

def NoMeeting (w : World) : Prop :=
  ∀ p q id, Holds Party.awaitsUse w p id → ¬ Holds Party.owesRecord w q id

section Step

variable {Key : Type} {keyring : Keyring Key} {w w' : World} {p : ℕ} {party : Party} {a : Action}

theorem owesRecord_kind (h : party.owesRecord = true) : party.kind ≠ .trigger := by
  simp only [Party.owesRecord, Bool.and_eq_true, decide_eq_true_eq] at h
  exact h.1

theorem owesRecord_afterUse (held : Held) (target : TargetRow) (kind : PartyKind) :
    Party.owesRecord { kind := kind, target := target, place := afterUse held kind }
      = decide (kind ≠ .trigger) := by
  cases kind <;> rfl

theorem move_awaitsUse (hfits : party.fits = true) (hm : Move keyring w p party a w')
    {q : ℕ} {id : InstanceId} (h : Holds Party.awaitsUse w' q id) :
    Holds Party.awaitsUse w q id ∨ ∃ target, a = .capture p target ∧ target.id = id := by
  by_cases hq : q = p
  · subst hq
    obtain ⟨party', hparty', hid, hawaits⟩ := h
    simp only [Party.awaitsUse, Bool.and_eq_true, decide_eq_true_eq] at hawaits
    obtain ⟨hkind, hplace'⟩ := hawaits
    right
    cases hm <;> simp only [setParty_parties, Function.update_self, Option.some.injEq] at hparty'
    case capture target _ _ _ => exact ⟨target, rfl, by rw [← hid, ← hparty']⟩
    all_goals exfalso
    case release =>
      split_ifs at hparty' with hk
      rw [Option.some.injEq] at hparty'
      subst hparty'
      simp at hplace'
    case dialFail =>
      subst hparty'
      split_ifs at hplace'
    all_goals
      first
      | exact absurd hparty' (by simp)
      | subst hparty'
        simp_all [Party.fits, afterUse]
  · left
    obtain ⟨new, hnew, -⟩ := move_parties hfits hm
    exact (holds_of_ne hnew hq id).mp h

theorem move_owesRecord (hp : w.parties p = some party) (hfits : party.fits = true)
    (hm : Move keyring w p party a w') {q : ℕ} {id : InstanceId}
    (h : Holds Party.owesRecord w' q id) :
    Holds Party.owesRecord w q id
      ∨ (a = .lookup p ∨ a = .dial p true)
        ∧ ∃ party' ∈ w'.parties p, party'.owesRecord = true ∧ party'.target.id = id := by
  by_cases hq : q = p
  · subst hq
    obtain ⟨party', hparty', hid, howes⟩ := h
    have hpost : ∃ party' ∈ w'.parties q, party'.owesRecord = true ∧ party'.target.id = id :=
      ⟨party', hparty', howes, hid⟩
    cases hm
    case lookupHit => exact .inr ⟨.inl rfl, hpost⟩
    case dialOk => exact .inr ⟨.inr rfl, hpost⟩
    case release hplace =>
      simp only [setParty_parties, Function.update_self] at hparty'
      split_ifs at hparty' with hk
      cases hparty'
      simp [Party.owesRecord, Place.held] at howes
    case dialFail hplace =>
      simp only [setParty_parties, Function.update_self, Option.some.injEq] at hparty'
      subst hparty'
      by_cases hk : party.kind = .trigger <;> simp [Party.owesRecord, hk, Place.held] at howes
    case capture hplace _ _ =>
      simp only [setParty_parties, Function.update_self, Option.some.injEq] at hparty'
      subst hparty'
      simp [Party.owesRecord, Place.held] at howes
    all_goals
      simp only [setParty_parties, Function.update_self, Option.some.injEq, reduceCtorEq] at hparty'
    all_goals
      left
      subst hparty'
      refine ⟨party, hp, hid, ?_⟩
      first
      | simp [Party.owesRecord, Place.held] at howes; done
      | rw [owesRecord_afterUse] at howes
        simp only [Party.owesRecord, *]
        rfl
      | simpa [Party.owesRecord, Place.held, *] using howes
  · left
    obtain ⟨new, hnew, -⟩ := move_parties hfits hm
    exact (holds_of_ne hnew hq id).mp h

theorem noMeeting_step (hinv : LockInv w) (hno : NoMeeting w) (hstep : step keyring w a = some w')
    (hord : OrderedAcquisition w a w') : NoMeeting w' := by
  obtain ⟨p, kind, target, -, hp, -, rfl⟩ | ⟨p, party, hp, -, hm⟩ | ⟨conn, -, rfl⟩ |
    ⟨id, edit, state, -, -, rfl⟩ := step_cases keyring hstep
  · intro q r id hq hr
    have hfirst : Party.awaitsUse ⟨kind, target, firstPlace kind⟩ = false
        ∧ Party.owesRecord ⟨kind, target, firstPlace kind⟩ = false := by
      cases kind <;> exact ⟨rfl, rfl⟩
    exact hno q r id ((holds_begin hp hfirst.1 q id).mp hq) ((holds_begin hp hfirst.2 r id).mp hr)
  · intro q r id hq hr
    have hfits := hinv.fits p party hp
    rcases move_awaitsUse hfits hm hq with hq | ⟨target, rfl, rfl⟩
    · rcases move_owesRecord hp hfits hm hr with hr | ⟨rfl | rfl, party', hparty', howes, rfl⟩
      · exact hno q r id hq hr
      · exact hord party' hparty' howes q hq
      · exact hord party' hparty' howes q hq
    · rcases move_owesRecord hp hfits hm hr with hr | ⟨hact | hact, -⟩
      · exact hord r hr
      · cases hact
      · cases hact
  · exact hno
  · exact hno

end Step

section Rank

def rank (w : World) (p : ℕ) : ℕ :=
  match w.parties p with
  | none => 0
  | some party =>
    match party.place with
    | .useWait => if party.kind = .trigger then 1 else 3
    | .outcomeWait (some _) => 2
    | .outcomeWait none | .startWait | .shareWait => 3
    | _ => 0

variable {w : World} {p q : ℕ} {id : InstanceId}

theorem rank_of_holdsRow (h : Holds Party.holdsRow w q id) : rank w q = 0 := by
  obtain ⟨party, hq, -, hrow⟩ := h
  unfold Party.holdsRow at hrow
  split at hrow <;> simp_all [rank]

theorem rank_of_sharesRow (hinv : LockInv w) (h : Holds Party.sharesRow w q id) :
    rank w q ≤ 1 := by
  obtain ⟨party, hq, -, hshare⟩ := h
  have hfits := hinv.fits q party hq
  simp only [Party.sharesRow, Bool.and_eq_true, decide_eq_true_eq] at hshare
  rcases hplace : party.place <;> simp_all [rank, Party.fits]

theorem rank_of_holdsUse (hinv : LockInv w) (h : Holds Party.holdsUse w q id) :
    rank w q = 0 ∨ rank w q = 2 ∧ Holds Party.owesRecord w q id := by
  obtain ⟨party, hq, hid, huse⟩ := h
  have hfits := hinv.fits q party hq
  rcases hplace : party.place with _ | _ | _ | _ | _ | _ | _ | _ | _ | _ | _ | _ | held | _ | _
  case outcomeWait =>
    rcases held with _ | held
    · simp [Party.holdsUse, hplace, Place.held] at huse
    · refine .inr ⟨by simp [rank, hq, hplace], party, hq, hid, ?_⟩
      simpa [Party.owesRecord, Party.fits, hplace, Place.held] using hfits
  all_goals simp_all [rank, Party.holdsUse, Place.held]

theorem rank_waitsFor (hinv : LockInv w) (hno : NoMeeting w) (h : WaitsFor w p q) :
    rank w q < rank w p := by
  unfold WaitsFor at h
  rcases hp : w.parties p with _ | party
  · simp [hp] at h
  simp only [hp] at h
  split at h
  · rename_i hplace
    have huse := (hinv.use _ _).mp h
    by_cases hk : party.kind = .trigger
    · have hrank : rank w p = 1 := by simp [rank, hp, hplace, hk]
      rcases rank_of_holdsUse hinv huse with hq | ⟨-, howes⟩
      · omega
      · exact absurd howes (hno p q _ ⟨party, hp, rfl, by simp [Party.awaitsUse, hk, hplace]⟩)
    · have hrank : rank w p = 3 := by simp [rank, hp, hplace, hk]
      rcases rank_of_holdsUse hinv huse with hq | ⟨hq, -⟩ <;> omega
  · rename_i hplace
    have hrank : rank w p = 3 := by simp [rank, hp, hplace]
    rcases h with h | h
    · have := rank_of_holdsRow ((hinv.row _ _).mp h)
      omega
    · have := rank_of_sharesRow hinv ((hinv.share _ _).mp h)
      omega
  · rename_i held hplace
    have hrank : 2 ≤ rank w p := by
      rcases held with _ | held <;> simp [rank, hp, hplace]
    rcases h with h | h
    · have := rank_of_holdsRow ((hinv.row _ _).mp h)
      omega
    · have := rank_of_sharesRow hinv ((hinv.share _ _).mp h)
      omega
  · rename_i hplace
    have hrank : rank w p = 3 := by simp [rank, hp, hplace]
    have := rank_of_holdsRow ((hinv.row _ _).mp h)
    omega
  · exact h.elim

end Rank

/-- A collection query (0) has dialled the connection when an evaluator pass (1) takes the row
and captures a trigger snapshot; the query then ends and records its outcome. -/
def crossedWaits : List Action :=
  [ createOrders,
    .begin 0 .query ordersRow, .grant 0, .commit 0, .grant 0, .lookup 0, .dial 0 true,
    .begin 1 .trigger ordersRow, .grant 1, .capture 1 ordersRow,
    .finish 0 false ]

end DbsMonitor.Connections
