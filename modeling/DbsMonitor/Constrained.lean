import Mathlib.Data.Subtype
import Mathlib.Tactic.SplitIfs

/-!
# Statements under constraints

A database whose constraints are checked by each statement: a state of it meets them, and a
statement that would leave another state fails. A transaction runs its statements one after another
and ends with the first that fails.
-/

namespace DbsMonitor.Constrained

variable {σ ε ι : Type} (C : σ → Prop) (statement : ι → σ → σ)

def Passes : List ι → σ → Prop
  | [], _ => True
  | item :: items, s => C (statement item s) ∧ Passes items (statement item s)

def after (items : List ι) (s : σ) : σ := items.foldl (fun s item => statement item s) s

section Runs

variable {C statement} {items : List ι} {s : σ} {I : σ → Prop}

theorem passes_of_invariant (hI : I s)
    (step : ∀ item ∈ items, ∀ s, I s → C (statement item s) ∧ I (statement item s)) :
    Passes C statement items s := by
  induction items generalizing s with
  | nil => trivial
  | cons item items ih =>
    obtain ⟨hC, hnext⟩ := step item List.mem_cons_self s hI
    exact ⟨hC, ih hnext fun item' hitem' => step item' (List.mem_cons_of_mem _ hitem')⟩

theorem Passes.after (hs : C s) (h : Passes C statement items s) :
    C (after statement items s) := by
  induction items generalizing s with
  | nil => exact hs
  | cons item items ih => exact ih h.1 h.2

end Runs

section Exec

variable {C statement} [DecidablePred C] {items : List ι}

def exec (error : ε) (f : σ → σ) (s : Subtype C) : Except ε (Subtype C) :=
  if h : C (f s) then .ok ⟨f s, h⟩ else .error error

variable (statement) in
def execEach (error : ι → ε) (items : List ι) (s : Subtype C) : Except ε (Subtype C) :=
  items.foldlM (fun s item => exec (error item) (statement item) s) s

theorem execEach_eq_ok {error : ι → ε} {s s' : Subtype C} :
    execEach statement error items s = .ok s'
      ↔ Passes C statement items s ∧ (s' : σ) = after statement items s := by
  induction items generalizing s with
  | nil =>
    simp only [execEach, List.foldlM_nil, pure, Except.pure, Except.ok.injEq, Passes, true_and,
      Subtype.ext_iff]
    exact eq_comm
  | cons item items ih =>
    have hcons : execEach statement error (item :: items) s
        = exec (error item) (statement item) s >>= execEach statement error items := rfl
    rw [hcons]
    unfold exec
    split_ifs with h
    · exact ih.trans ⟨fun h' => ⟨⟨h, h'.1⟩, h'.2⟩, fun h' => ⟨h'.1.2, h'.2⟩⟩
    · exact iff_of_false (by rintro ⟨⟩) fun h' => h h'.1.1

theorem bind_eq_ok {α β : Type} {x : Except ε α} {rest : α → Except ε β} {b : β} :
    x >>= rest = .ok b ↔ ∃ a, x = .ok a ∧ rest a = .ok b := by
  cases x with
  | error e => exact iff_of_false (by rintro ⟨⟩) (by rintro ⟨_, ⟨⟩, _⟩)
  | ok a =>
    refine ⟨fun h => ⟨a, rfl, h⟩, ?_⟩
    rintro ⟨_, ⟨⟩, h⟩
    exact h

theorem bind_execEach_eq_ok {error : ι → ε} {s s' : Subtype C}
    {rest : Subtype C → Except ε (Subtype C)} :
    (execEach statement error items s >>= rest) = .ok s'
      ↔ ∃ h : Passes C statement items s, rest ⟨after statement items s, h.after s.2⟩ = .ok s' := by
  rw [bind_eq_ok]
  constructor
  · rintro ⟨t, hexec, h⟩
    obtain ⟨hpasses, ht⟩ := execEach_eq_ok.mp hexec
    obtain rfl : t = ⟨after statement items s, hpasses.after s.2⟩ := Subtype.ext ht
    exact ⟨hpasses, h⟩
  · rintro ⟨hpasses, h⟩
    exact ⟨_, execEach_eq_ok.mpr ⟨hpasses, rfl⟩, h⟩

end Exec

end DbsMonitor.Constrained
