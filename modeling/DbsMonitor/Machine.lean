import Mathlib.Data.List.Basic
import Mathlib.Data.Option.Basic

/-!
# Machines and their runs

A machine is a partial step function: `step s a = none` when the action `a` is not enabled in
the state `s`. A safety property of every run is an `Along` for every list of actions, proved from
an invariant and one fact about a single step (`Along.of_invariant`).
-/

namespace DbsMonitor.Machine

variable {σ α : Type*} (step : σ → α → Option σ)

/-- Performs the actions in order; `none` as soon as one of them is not enabled. -/
def run : σ → List α → Option σ
  | s, [] => some s
  | s, a :: as => (step s a).bind fun t => run t as

@[simp] theorem run_nil (s : σ) : run step s [] = some s := rfl

theorem run_cons {s t : σ} {a : α} {as : List α} :
    run step s (a :: as) = some t ↔ ∃ u, step s a = some u ∧ run step u as = some t := by
  simp [run, Option.bind_eq_some_iff]

theorem run_invariant {I : σ → Prop} (hI : ∀ s a t, I s → step s a = some t → I t) :
    ∀ {s t : σ} (as : List α), I s → run step s as = some t → I t
  | s, t, [], hs, h => by
    simp only [run_nil, Option.some.injEq] at h
    exact h ▸ hs
  | s, t, a :: as, hs, h => by
    obtain ⟨u, hu, h⟩ := (run_cons step).mp h
    exact run_invariant hI as (hI s a u hs hu) h

theorem of_guard {p : Prop} [Decidable p] {u : Unit} (h : (guard p : Option Unit) = some u) :
    p := by
  unfold guard at h
  split_ifs at h with hp
  exact hp

def Along (Q : σ → α → σ → Prop) : σ → List α → Prop
  | _, [] => True
  | s, a :: as => ∀ t, step s a = some t → Q s a t ∧ Along Q t as

instance Along.decidable (Q : σ → α → σ → Prop) [∀ s a t, Decidable (Q s a t)] :
    ∀ s as, Decidable (Along step Q s as)
  | _, [] => .isTrue trivial
  | s, a :: as =>
    match h : step s a with
    | none => .isTrue fun _ ht => by simp [h] at ht
    | some t =>
      have := Along.decidable Q t as
      decidable_of_iff (Q s a t ∧ Along step Q t as) (by simp [Along, h])

variable {step} {P Q : σ → α → σ → Prop} {I : σ → Prop}

theorem Along.mono (h : ∀ s a t, P s a t → Q s a t) :
    ∀ {s : σ} {as : List α}, Along step P s as → Along step Q s as
  | _, [], _ => trivial
  | _, _ :: _, hP => fun t ht => ⟨h _ _ _ (hP t ht).1, Along.mono h (hP t ht).2⟩

/-- What an invariant gives for single steps holds along the runs whose steps meet its condition. -/
theorem Along.of_guarded
    (h : ∀ s a t, I s → step s a = some t → P s a t → Q s a t ∧ I t) :
    ∀ {s : σ} {as : List α}, I s → Along step P s as → Along step Q s as
  | _, [], _, _ => trivial
  | s, a :: as, hs, hP => fun t ht => by
    obtain ⟨hp, hrest⟩ := hP t ht
    obtain ⟨hq, hi⟩ := h s a t hs ht hp
    exact ⟨hq, Along.of_guarded h hi hrest⟩

/-- An invariant of the steps that meet a condition is one of the runs whose steps all meet it. -/
theorem Along.run_invariant (h : ∀ s a t, I s → step s a = some t → P s a t → I t) :
    ∀ {s t : σ} {as : List α}, I s → Along step P s as → run step s as = some t → I t
  | s, t, [], hs, _, hrun => by
    simp only [run_nil, Option.some.injEq] at hrun
    exact hrun ▸ hs
  | s, t, a :: as, hs, hP, hrun => by
    obtain ⟨u, hu, hrun⟩ := (run_cons step).mp hrun
    obtain ⟨hp, hrest⟩ := hP u hu
    exact Along.run_invariant h (h s a u hs hu hp) hrest hrun

theorem along_true : ∀ {s : σ} {as : List α}, Along step (fun _ _ _ => True) s as
  | _, [] => trivial
  | _, _ :: _ => fun _ _ => ⟨trivial, along_true⟩

theorem along_of_forall_mem {R : α → Prop} :
    ∀ {s : σ} {as : List α}, (∀ a ∈ as, R a) → Along step (fun _ a _ => R a) s as
  | _, [], _ => trivial
  | _, a :: _, h => fun _ _ =>
    ⟨h a (by simp), along_of_forall_mem fun b hb => h b (List.mem_cons_of_mem _ hb)⟩

theorem Along.of_invariant (h : ∀ s a t, I s → step s a = some t → Q s a t ∧ I t)
    {s : σ} {as : List α} (hs : I s) : Along step Q s as :=
  Along.of_guarded (P := fun _ _ _ => True) (fun s a t hi hst _ => h s a t hi hst) hs along_true

def tally (step : σ → α → Option σ) (f : σ → α → σ → ℕ) : σ → List α → ℕ
  | _, [] => 0
  | s, a :: as =>
    match step s a with
    | none => 0
    | some t => f s a t + tally step f t as

theorem run_tally {f : σ → α → σ → ℕ} {m : σ → ℕ}
    (h : ∀ s a t, I s → step s a = some t → P s a t → m t = m s + f s a t ∧ I t) :
    ∀ {s t : σ} {as : List α}, I s → Along step P s as → run step s as = some t →
      m t = m s + tally step f s as
  | s, t, [], _, _, hrun => by
    simp only [run_nil, Option.some.injEq] at hrun
    simp [hrun, tally]
  | s, t, a :: as, hs, hP, hrun => by
    obtain ⟨u, hu, hrun⟩ := (run_cons step).mp hrun
    obtain ⟨hp, hrest⟩ := hP u hu
    obtain ⟨hm, hi⟩ := h s a u hs hu hp
    have ih := run_tally h hi hrest hrun
    simp only [tally, hu]
    omega

/-- Two properties of steps that agree under an invariant which they maintain hold of the same
runs. -/
theorem along_congr
    (h : ∀ s a t, I s → step s a = some t → (P s a t ↔ Q s a t) ∧ (P s a t → I t))
    {s : σ} {as : List α} (hs : I s) : Along step P s as ↔ Along step Q s as := by
  constructor
  · refine Along.of_guarded (fun s a t hi hst hp => ?_) hs
    exact ⟨(h s a t hi hst).1.mp hp, (h s a t hi hst).2 hp⟩
  · refine Along.of_guarded (fun s a t hi hst hq => ?_) hs
    have hp := (h s a t hi hst).1.mpr hq
    exact ⟨hp, (h s a t hi hst).2 hp⟩

end DbsMonitor.Machine
