import DbsMonitor.Proofs.AccountLocks

/-!
# An enabled platform administrator remains

A transaction that takes an administrator away has locked at least two that were enabled, and it
holds them to its end. One of them is not its target, and nothing can have changed that one
meanwhile, so it is enabled when the transaction commits.
-/

namespace DbsMonitor.Accounts

variable {Hash : Type} {config : Config Hash} {s t : Accounts Hash}

structure Idle (s : Accounts Hash) : Prop where
  transactions : s.transactions = ∅
  locks : ∀ id, s.locks id = []
  sessions : ∀ login ∈ s.sessions, login < s.next
  log : s.log = []

theorem Idle.holdInv (h : s.Idle) : HoldInv config s where
  locks := ⟨fun id user _ => h.locks id ▸ .nil, fun id _ => h.locks id⟩
  holding := by simp [h.transactions]

def HasEnabledPlatformAdmin (users : AList fun _ : UserId => User Hash) : Prop :=
  ∃ id user, users.lookup id = some user ∧ user.enabledPlatformAdmin = true

theorem exists_other {rows : List (Row Hash)} (hnodup : (rows.map Prod.fst).Nodup)
    (hlength : 1 < rows.length) (target : UserId) : ∃ row ∈ rows, row.1 ≠ target := by
  match rows, hnodup, hlength with
  | row :: other :: rest, hnodup, _ =>
    by_cases hrow : row.1 = target
    · refine ⟨other, by simp, fun hother => ?_⟩
      simp [hrow, hother] at hnodup
    · exact ⟨row, by simp, hrow⟩

section Update

variable {tx : TransactionId} {target : UserId} {user : User Hash}

theorem updateUser_keeps_admin (hlocks : LockInv s.users s.locks)
    (hholds : Holds s.locks tx .update (target, user)) (f : User Hash → User Hash)
    (hothers : user.enabledPlatformAdmin = true → (f user).enabledPlatformAdmin = false →
      ∃ admins, Returned s.locks tx .enabledPlatformAdmins admins ∧ 1 < admins.length)
    (h : HasEnabledPlatformAdmin s.users) : HasEnabledPlatformAdmin (s.updateUser target f) := by
  have htarget := hlocks.lookup_of_holds hholds
  rw [updateUser_of_lookup htarget]
  have hkeep : ∀ id admin, id ≠ target → s.users.lookup id = some admin →
      admin.enabledPlatformAdmin = true →
      HasEnabledPlatformAdmin (s.users.insert target (f user)) := by
    intro id admin hid hlookup hadmin
    exact ⟨id, admin, by rwa [AList.lookup_insert_ne hid], hadmin⟩
  obtain ⟨id, admin, hlookup, hadmin⟩ := h
  by_cases hid : id = target
  · subst hid
    obtain rfl : user = admin := Option.some.inj (htarget.symm.trans hlookup)
    by_cases hstays : (f user).enabledPlatformAdmin = true
    · exact ⟨id, f user, AList.lookup_insert _, hstays⟩
    · obtain ⟨admins, hadmins, hlength⟩ := hothers hadmin (Bool.eq_false_iff.mpr hstays)
      obtain ⟨row, hrow, hne⟩ := exists_other hadmins.nodup hlength id
      exact hkeep row.1 row.2 hne (hlocks.lookup_of_holds (hadmins.holds row hrow))
        (hadmins.selected row hrow)
  · exact hkeep id admin hid hlookup hadmin

theorem Decision.keeps_admin {request : Request Hash} {write : Write Hash}
    {applied : Accounts Hash} (hlocks : LockInv s.users s.locks)
    (hdecision : Decision config s.locks tx request write)
    (happly : s.apply tx write = some applied) (h : HasEnabledPlatformAdmin s.users) :
    HasEnabledPlatformAdmin applied.users := by
  cases hdecision with
  | createSession _ _ =>
    simp only [apply] at happly
    split_ifs at happly
    cases happly
    exact h
  | createUser =>
    simp only [apply] at happly
    split_ifs at happly with hunique
    cases happly
    obtain ⟨id, user, hlookup, hadmin⟩ := h
    refine ⟨id, user, ?_, hadmin⟩
    rw [AList.lookup_insert_ne, hlookup]
    rintro rfl
    have hmem : (⟨id, user⟩ : Sigma fun _ : UserId => User Hash) ∈ s.users.entries :=
      AList.mem_lookup_iff.mp hlookup
    exact hunique (List.any_eq_true.mpr ⟨_, hmem, by simp⟩)
  | setUserEnabled hadmins hholds hothers =>
    cases happly
    refine updateUser_keeps_admin hlocks hholds _ (fun hadmin hgone => ⟨_, hadmins, ?_⟩) h
    refine hothers (Bool.eq_false_iff.mpr fun henabled => ?_) hadmin
    simp only [User.enabledPlatformAdmin, Bool.and_eq_true] at hadmin
    simp [User.enabledPlatformAdmin, henabled, hadmin.2] at hgone
  | setUserRole hadmins hholds hothers =>
    cases happly
    refine updateUser_keeps_admin hlocks hholds _ (fun hadmin hgone => ⟨_, hadmins, ?_⟩) h
    refine hothers (fun hrole => ?_) hadmin
    simp only [User.enabledPlatformAdmin, Bool.and_eq_true] at hadmin
    simp [User.enabledPlatformAdmin, hrole, hadmin.1] at hgone
  | resetUserPassword hholds =>
    cases happly
    refine updateUser_keeps_admin hlocks hholds _ (fun hadmin hgone => ?_) h
    exact absurd (hadmin.symm.trans hgone) (by decide)
  | changeOwnPassword hholds =>
    cases happly
    refine updateUser_keeps_admin hlocks hholds _ (fun hadmin hgone => ?_) h
    exact absurd (hadmin.symm.trans hgone) (by decide)

end Update

theorem Move.keeps_admin (hinv : HoldInv config s) (hmove : Move config s t)
    (h : HasEnabledPlatformAdmin s.users) : HasEnabledPlatformAdmin t.users := by
  cases hmove with
  | commit hlookup happly =>
    have hkept := Decision.keeps_admin hinv.locks (hinv.holding _ _ hlookup) happly h
    exact hkept
  | _ => exact h

/-- However the statements of any requests interleave, an enabled platform administrator remains. -/
theorem enabledPlatformAdmin_remains (config : Config Hash) (hidle : s.Idle)
    (hadmin : HasEnabledPlatformAdmin s.users) (actions : List (Action Hash))
    (hrun : Machine.run (step config) s actions = some t) :
    HasEnabledPlatformAdmin t.users := by
  refine (Machine.run_invariant (step config)
    (I := fun s => HoldInv config s ∧ HasEnabledPlatformAdmin s.users) ?_ actions
    ⟨hidle.holdInv, hadmin⟩ hrun).2
  intro s a t ⟨hinv, hadmin⟩ hstep
  have hmove := step_move hstep
  exact ⟨hinv.move hmove, hmove.keeps_admin hinv hadmin⟩

/-- Two administrators disable each other at once. The second waits for the first, and is refused
when it finds itself disabled. -/
theorem enabledPlatformAdmin_remains_duel :
    ∃ s t : Accounts String, ∃ config actions, s.Idle ∧ HasEnabledPlatformAdmin s.users
      ∧ Machine.run (step config) s actions = some t ∧ HasEnabledPlatformAdmin t.users
      ∧ (t.users.lookup 2).map User.enabled = some false := by
  let config : Config String := { compare := (· = ·), absoluteTTL := 100, idleTTL := 10 }
  let s : Accounts String :=
    { users := (AList.singleton 1 ⟨"ada", "a", .platformAdmin, true⟩).insert 2
        ⟨"eve", "e", .platformAdmin, true⟩ }
  let actions : List (Action String) :=
    [.begin (.setUserEnabled 1 2 false), .begin (.setUserEnabled 2 1 false), .select 0, .select 1,
      .lock 0, .lock 0, .lock 0, .select 0, .lock 0, .lock 0, .write 0, .selectSessions 0,
      .commit 0, .lock 1, .lock 1, .lock 1, .select 1, .lock 1, .lock 1, .write 1]
  have hidle : s.Idle := ⟨rfl, fun _ => rfl, by simp [s], rfl⟩
  have hadmin : HasEnabledPlatformAdmin s.users := ⟨1, _, rfl, rfl⟩
  obtain ⟨t, hrun, hdisabled⟩ : ∃ t, Machine.run (step config) s actions = some t
      ∧ (t.users.lookup 2).map User.enabled = some false := ⟨_, rfl, rfl⟩
  exact ⟨s, t, config, actions, hidle, hadmin, hrun,
    enabledPlatformAdmin_remains config hidle hadmin actions hrun, hdisabled⟩

end DbsMonitor.Accounts
