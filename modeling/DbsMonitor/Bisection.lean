import Mathlib.Order.Basic

/-!
# Bisection

The loop of a search for the last number that passes a test. It keeps the last number it has seen
pass, and the numbers from `start` up to `stop` are the candidates.
-/

namespace DbsMonitor.Bisection

def last (passes : ℕ → Bool) (start stop best : ℕ) : ℕ :=
  if start < stop then
    let middle := start + (stop - 1 - start) / 2
    if passes middle then last passes (middle + 1) stop middle
    else last passes start middle best
  else best
termination_by stop - start

variable {passes : ℕ → Bool} {n start stop best : ℕ}

theorem last_passes (hbest : passes best = true) (hle : best ≤ n) (hstop : stop ≤ n + 1) :
    passes (last passes start stop best) = true ∧ last passes start stop best ≤ n := by
  fun_induction last passes start stop best with
  | case1 start stop best hlt middle hmiddle ih => exact ih hmiddle (by omega) hstop
  | case2 start stop best hlt middle hmiddle ih => exact ih hbest hle (by omega)
  | case3 => exact ⟨hbest, hle⟩

/-- Where the numbers that pass come before those that do not, none that passes is larger. -/
theorem le_last (hpasses : ∀ k k', k ≤ k' → k' ≤ n → passes k' = true → passes k = true)
    (hbest : start ≤ best + 1) (hle : best ≤ n) (hstop : stop ≤ n + 1)
    (habove : ∀ k, stop ≤ k → k ≤ n → passes k = false) {k : ℕ} (hk : k ≤ n)
    (hpass : passes k = true) : k ≤ last passes start stop best := by
  fun_induction last passes start stop best with
  | case1 start stop best hlt middle hmiddle ih =>
    exact ih (Nat.le_refl _) (by omega) hstop habove
  | case2 start stop best hlt middle hmiddle ih =>
    refine ih hbest hle (by omega) fun k' hmid hk' => ?_
    rw [← Bool.not_eq_true]
    exact fun hpass' => hmiddle (hpasses middle k' hmid hk' hpass')
  | case3 start stop best hlt =>
    by_contra hnot
    rw [habove k (by omega) hk] at hpass
    cases hpass

end DbsMonitor.Bisection
