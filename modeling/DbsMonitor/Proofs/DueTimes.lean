import Mathlib.Algebra.Order.Ring.Int
import Mathlib.Data.Int.ModEq
import DbsMonitor.Timing

/-!
# Due instants and backoffs are those of the formulas

The next due instant is the first one past now on the grid of its interval, and the loop of the
backoff stops at a minute. Both are computed in 64 bits, and what they compute stays within them.
-/

namespace DbsMonitor

section Grid

variable {now phase interval : ℤ}

theorem initialPhase_nonneg (instanceId : InstanceId) (taskId : TaskId) (interval : ℤ) :
    0 ≤ initialPhase instanceId taskId interval := by
  unfold initialPhase
  split_ifs with h
  · exact le_rfl
  · exact Int.emod_nonneg _ (by omega)

theorem initialPhase_lt (instanceId : InstanceId) (taskId : TaskId) (h : 0 < interval) :
    initialPhase instanceId taskId interval < interval := by
  unfold initialPhase
  rw [if_neg (by omega)]
  exact Int.emod_lt_of_pos _ h

theorem modEq_phase_iff {t : ℤ} :
    t ≡ phase [ZMOD interval] ↔ ∃ k, t = phase + interval * k := by
  rw [Int.modEq_comm, Int.modEq_iff_dvd]
  constructor
  · rintro ⟨k, hk⟩
    exact ⟨k, by omega⟩
  · rintro ⟨k, rfl⟩
    exact ⟨k, by omega⟩

theorem nextDueAfter_le (hinterval : 0 < interval) (hphase : phase < interval) (hnow : 0 ≤ now) :
    nextDueAfter now phase interval ≤ now + interval := by
  unfold nextDueAfter
  split_ifs with h
  · omega
  · have hle := Int.ediv_mul_le (now - phase) (ne_of_gt hinterval)
    rw [Int.add_mul, one_mul]
    omega

theorem isLeast_nextDueAfter (hinterval : 0 < interval) (hphase : phase < interval)
    (hnow : 0 ≤ now) :
    IsLeast {t | now < t ∧ t ≡ phase [ZMOD interval]} (nextDueAfter now phase interval) := by
  refine ⟨⟨lt_nextDueAfter hinterval, modEq_phase_iff.mpr ?_⟩, ?_⟩
  · unfold nextDueAfter
    split_ifs
    · exact ⟨0, by simp⟩
    · exact ⟨(now - phase) / interval + 1, by rw [mul_comm]⟩
  · rintro t ⟨hlt, ht⟩
    obtain ⟨k, rfl⟩ := modEq_phase_iff.mp ht
    unfold nextDueAfter
    split_ifs with h
    · -- a smaller instant of the grid would be before the epoch
      have hk : 0 ≤ k := by
        by_contra hneg
        have hle : interval * k ≤ interval * (-1) :=
          Int.mul_le_mul_of_nonneg_left (by omega) hinterval.le
        omega
      have hmul : 0 ≤ interval * k := Int.mul_nonneg hinterval.le hk
      omega
    · have hk : (now - phase) / interval < k :=
        Int.ediv_lt_of_lt_mul hinterval (by rw [mul_comm]; omega)
      have hmul := Int.mul_le_mul_of_nonneg_right (Int.add_one_le_of_lt hk) hinterval.le
      rw [mul_comm interval k]
      omega

theorem nextDueAfter_eq_of_between (hinterval : 0 < interval) (hphase : phase < interval)
    (hnow : 0 ≤ now) {later : ℤ} (hlater : now ≤ later)
    (hbefore : later < nextDueAfter now phase interval) :
    nextDueAfter later phase interval = nextDueAfter now phase interval := by
  have hfirst := isLeast_nextDueAfter hinterval hphase hnow
  have hnext := isLeast_nextDueAfter hinterval hphase (hnow.trans hlater)
  apply le_antisymm
  · exact hnext.2 ⟨hbefore, hfirst.1.2⟩
  · exact hfirst.2 ⟨hlater.trans_lt hnext.1.1, hnext.1.2⟩

theorem nextDueAfter64_eq (hinterval : 0 < interval) (hphase : 0 ≤ phase) (hnow : now < 2 ^ 63)
    (hdue : nextDueAfter now phase interval < 2 ^ 63) :
    nextDueAfter64 now phase interval = nextDueAfter now phase interval := by
  unfold nextDueAfter at hdue ⊢
  unfold nextDueAfter64
  split_ifs at hdue ⊢ with h
  · rfl
  · have hquotient : 0 ≤ (now - phase) / interval := Int.ediv_nonneg (by omega) hinterval.le
    have hturns : ((now - phase) / interval + 1) * 1 ≤ ((now - phase) / interval + 1) * interval :=
      Int.mul_le_mul_of_nonneg_left (by omega) (by omega)
    have hsum : int64 ((now - phase) / interval + 1) = (now - phase) / interval + 1 :=
      int64_eq (by omega) (by omega)
    dsimp only
    rw [min_eq_right (by omega), max_eq_right (by omega), hsum, int64_eq (by omega) (by omega)]

/-- The next due instant is the first one past now that is congruent to the phase. -/
theorem due_instants_on_grid (instanceId : InstanceId) (taskId : TaskId) {interval now : ℤ}
    (hinterval : 0 < interval) (hnow : 0 ≤ now) (hrange : now + interval < 2 ^ 63) :
    let phase := initialPhase instanceId taskId interval
    (0 ≤ phase ∧ phase < interval)
      ∧ IsLeast {t | now < t ∧ t ≡ phase [ZMOD interval]} (nextDueAfter64 now phase interval)
      ∧ (now < phase → nextDueAfter64 now phase interval = phase)
      ∧ nextDueAfter64 now phase interval ≤ now + interval
      ∧ ∀ later, now ≤ later → later < nextDueAfter64 now phase interval →
        nextDueAfter64 later phase interval = nextDueAfter64 now phase interval := by
  intro phase
  have hphase : 0 ≤ phase := initialPhase_nonneg instanceId taskId interval
  have hphase' : phase < interval := initialPhase_lt instanceId taskId hinterval
  have hle := nextDueAfter_le hinterval hphase' hnow
  rw [nextDueAfter64_eq hinterval hphase (by omega) (by omega)]
  refine ⟨⟨hphase, hphase'⟩, isLeast_nextDueAfter hinterval hphase' hnow, fun h => if_pos h, hle,
    fun later hlater hbefore => ?_⟩
  have hsame := nextDueAfter_eq_of_between hinterval hphase' hnow hlater hbefore
  rw [nextDueAfter64_eq hinterval hphase (by omega) (by omega), hsame]

theorem due_instants_on_grid_orders :
    nextDueAfter64 (12 * second) (initialPhase "orders" "pg.probe" (5 * second)) (5 * second)
      ≤ 12 * second + 5 * second :=
  have hinterval : 0 < 5 * second := by decide
  have hnow : 0 ≤ 12 * second := by decide
  (due_instants_on_grid "orders" "pg.probe" hinterval hnow (by decide)).2.2.2.1

end Grid

section Backoff

variable {kind : TaskKind} {interval failures : ℤ}

theorem min_doubleBackoff : ∀ (rounds : ℕ) {backoff : ℤ}, 0 < backoff →
    min (60 * second) (doubleBackoff rounds backoff)
      = min (60 * second) (backoff * 2 ^ rounds)
  | 0, backoff, _ => by rw [doubleBackoff, pow_zero, mul_one]
  | rounds + 1, backoff, hpos => by
    rw [doubleBackoff]
    split_ifs with h
    · rw [min_doubleBackoff rounds (by omega), pow_succ', mul_assoc]
    · -- past a minute nothing is doubled any more, and what would be is past it too
      have hpow : (1 : ℤ) ≤ 2 ^ (rounds + 1) := Int.add_one_le_of_lt (pow_pos (by decide) _)
      have hle := Int.mul_le_mul_of_nonneg_left hpow hpos.le
      rw [min_eq_left (by omega), min_eq_left (by omega)]

theorem fst_doubleBackoff64 : ∀ (rounds : ℕ) {backoff : ℤ}, 0 < backoff →
    (doubleBackoff64 rounds backoff).1 = doubleBackoff rounds backoff
  | 0, _, _ => rfl
  | rounds + 1, backoff, hpos => by
    rw [doubleBackoff64, doubleBackoff]
    split_ifs with h
    · have hsmall : backoff < 60 * 1000000000 := h
      rw [int64_eq (by omega) (by omega)]
      exact fst_doubleBackoff64 rounds (by omega)
    · rfl

theorem snd_doubleBackoff64_le : ∀ (rounds : ℕ) {backoff : ℤ} {doublings : ℕ}, 0 < backoff →
    60 * second ≤ backoff * 2 ^ doublings → (doubleBackoff64 rounds backoff).2 ≤ doublings
  | 0, _, _, _, _ => Nat.zero_le _
  | rounds + 1, backoff, doublings, hpos, hreach => by
    rw [doubleBackoff64]
    split_ifs with h
    · have hsmall : backoff < 60 * 1000000000 := h
      rw [int64_eq (by omega) (by omega)]
      cases doublings with
      | zero =>
        rw [pow_zero, mul_one] at hreach
        omega
      | succ doublings =>
        rw [pow_succ', ← mul_assoc] at hreach
        exact Nat.succ_le_succ (snd_doubleBackoff64_le rounds (by omega) hreach)
    · exact Nat.zero_le _

theorem failureBackoff_eq (hkind : kind ≠ .probe) (hinterval : 0 < interval)
    (hfailures : 1 ≤ failures) :
    failureBackoff kind interval failures
      = min (60 * second) (interval * 2 ^ (failures - 1).toNat) := by
  rw [failureBackoff, if_neg (by simp [hkind]; omega), ← min_doubleBackoff _ hinterval, min_def]
  dsimp only
  split_ifs <;> omega

theorem failureBackoff64_eq (hinterval : 0 < interval) :
    failureBackoff64 kind interval failures = failureBackoff kind interval failures := by
  rw [failureBackoff64, failureBackoff, fst_doubleBackoff64 _ hinterval]

/-- The interval doubled for each failure but the first, and a minute at most. -/
theorem failureBackoff_closed_form (hkind : kind ≠ .probe) (hinterval : 0 < interval)
    (hfailures : 1 ≤ failures) :
    failureBackoff64 kind interval failures
        = min (60 * second) (interval * 2 ^ (failures - 1).toNat)
      ∧ (∀ more, failures ≤ more →
        failureBackoff64 kind interval failures ≤ failureBackoff64 kind interval more)
      ∧ (∀ longer, interval ≤ longer →
        failureBackoff64 kind interval failures ≤ failureBackoff64 kind longer failures)
      ∧ ∀ doublings : ℕ, 60 * second ≤ interval * 2 ^ doublings →
        (doubleBackoff64 (failures - 1).toNat interval).2 ≤ doublings := by
  have hclosed : ∀ {interval failures : ℤ}, 0 < interval → 1 ≤ failures →
      failureBackoff64 kind interval failures
        = min (60 * second) (interval * 2 ^ (failures - 1).toNat) :=
    fun h h' => (failureBackoff64_eq h).trans (failureBackoff_eq hkind h h')
  refine ⟨hclosed hinterval hfailures, fun more hmore => ?_, fun longer hlonger => ?_,
    fun doublings => snd_doubleBackoff64_le _ hinterval⟩
  · rw [hclosed hinterval hfailures, hclosed hinterval (hfailures.trans hmore)]
    have hpow : (2 : ℤ) ^ (failures - 1).toNat ≤ 2 ^ (more - 1).toNat :=
      pow_le_pow_right₀ (by decide) (by omega)
    exact min_le_min_left _ (Int.mul_le_mul_of_nonneg_left hpow hinterval.le)
  · rw [hclosed hinterval hfailures, hclosed (hinterval.trans_le hlonger) hfailures]
    exact min_le_min_left _
      (Int.mul_le_mul_of_nonneg_right hlonger (pow_nonneg (by decide) _))

theorem failureBackoff_closed_form_fourth : failureBackoff64 .sql (5 * second) 4 = 40 * second :=
  have hkind : TaskKind.sql ≠ .probe := by decide
  have hinterval : 0 < 5 * second := by decide
  have hfailures : (1 : ℤ) ≤ 4 := by decide
  (failureBackoff_closed_form hkind hinterval hfailures).1.trans (by decide)

end Backoff

end DbsMonitor
