import Mathlib.Order.WellFounded

/-!
# Locks and waiting

A map from locks to their holders `Tracks` a relation that says who holds what, and keeps
tracking it when a free lock is taken and a held one released. A state in which parties wait for
each other in a circle is excluded by a rank that falls along every wait.
-/

namespace DbsMonitor.Locks

variable {ι π : Type*}

def Tracks (holder : ι → Option π) (holds : π → ι → Prop) : Prop :=
  ∀ i p, holder i = some p ↔ holds p i

namespace Tracks

variable {holder : ι → Option π} {holds holds' : π → ι → Prop}

theorem congr (h : Tracks holder holds) (hiff : ∀ p i, holds' p i ↔ holds p i) :
    Tracks holder holds' :=
  fun i p => (h i p).trans (hiff p i).symm

theorem unique (h : Tracks holder holds) {i : ι} {p q : π} (hp : holds p i) (hq : holds q i) :
    p = q :=
  Option.some.inj (((h i p).mpr hp).symm.trans ((h i q).mpr hq))

variable [DecidableEq ι]

theorem take (h : Tracks holder holds) {i : ι} {p : π} (hfree : holder i = none)
    (hiff : ∀ q j, holds' q j ↔ holds q j ∨ q = p ∧ j = i) :
    Tracks (Function.update holder i (some p)) holds' := by
  intro j q
  rw [hiff, ← h j q]
  by_cases hj : j = i
  · subst hj
    simp [hfree, eq_comm]
  · simp [hj]

theorem drop (h : Tracks holder holds) {i : ι} {p : π} (hheld : holder i = some p)
    (hiff : ∀ q j, holds' q j ↔ holds q j ∧ ¬ (q = p ∧ j = i)) :
    Tracks (Function.update holder i none) holds' := by
  intro j q
  rw [hiff, ← h j q]
  by_cases hj : j = i
  · subst hj
    simp only [Function.update_self, reduceCtorEq, hheld, Option.some.injEq, and_true, false_iff,
      not_and, not_not]
    exact fun hpq => hpq.symm
  · simp [hj]

end Tracks

def CircularWait (waitsFor : π → π → Prop) : Prop :=
  ∃ p, Relation.TransGen waitsFor p p

theorem not_circularWait_of_rank {waitsFor : π → π → Prop} (rank : π → ℕ)
    (h : ∀ p q, waitsFor p q → rank q < rank p) : ¬ CircularWait waitsFor := by
  rintro ⟨p, hp⟩
  have hlt : ∀ q r, Relation.TransGen waitsFor q r → rank r < rank q := by
    intro q r hqr
    induction hqr with
    | single hw => exact h _ _ hw
    | tail _ hw ih => exact (h _ _ hw).trans ih
  exact lt_irrefl _ (hlt p p hp)

end DbsMonitor.Locks
