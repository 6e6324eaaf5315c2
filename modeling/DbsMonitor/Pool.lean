import Mathlib.Data.List.AList

/-!
# What holds of everything under way

A pool holds what is under way, each under its key: requests, transactions, workers. `Each P` says
that `P` holds of all of it, `Any P` that it holds of some of it.
-/

namespace DbsMonitor.Pool

variable {κ α : Type*} [DecidableEq κ] {P Q : κ → α → Prop} {pool : AList fun _ : κ => α}
  {key : κ} {value : α}

def Each (P : κ → α → Prop) (pool : AList fun _ : κ => α) : Prop :=
  ∀ key value, pool.lookup key = some value → P key value

theorem each_empty : Each P ∅ := by
  intro key value h
  simp at h

theorem Each.mono (h : Each P pool) (hPQ : ∀ key value, P key value → Q key value) :
    Each Q pool :=
  fun key value hlookup => hPQ key value (h key value hlookup)

theorem Each.insert (h : Each P pool) (hvalue : P key value) : Each P (pool.insert key value) := by
  intro key' value' hlookup
  by_cases hkey : key' = key
  · subst hkey
    rw [AList.lookup_insert, Option.some.injEq] at hlookup
    exact hlookup ▸ hvalue
  · rw [AList.lookup_insert_ne hkey] at hlookup
    exact h key' value' hlookup

theorem Each.erase (h : Each P pool) : Each P (pool.erase key) := by
  intro key' value' hlookup
  by_cases hkey : key' = key
  · subst hkey
    rw [AList.lookup_erase] at hlookup
    cases hlookup
  · rw [AList.lookup_erase_ne hkey] at hlookup
    exact h key' value' hlookup

def Any (P : κ → α → Prop) (pool : AList fun _ : κ => α) : Prop :=
  ∃ key value, pool.lookup key = some value ∧ P key value

theorem Any.mem_keys : Any P pool → ∃ key, key ∈ pool.keys := by
  rintro ⟨key, value, hlookup, -⟩
  exact ⟨key, AList.lookup_isSome.mp (by rw [hlookup]; rfl)⟩

theorem any_insert (h : P key value) : Any P (pool.insert key value) :=
  ⟨key, value, AList.lookup_insert pool, h⟩

theorem Any.insert_of (h : Any P pool) (hkey : ∀ old, pool.lookup key = some old → ¬ P key old) :
    Any P (pool.insert key value) := by
  obtain ⟨key', value', hlookup, hP⟩ := h
  have hne : key' ≠ key := by
    rintro rfl
    exact hkey value' hlookup hP
  exact ⟨key', value', (AList.lookup_insert_ne hne).trans hlookup, hP⟩

theorem Any.erase_of (h : Any P pool) (hkey : ∀ old, pool.lookup key = some old → ¬ P key old) :
    Any P (pool.erase key) := by
  obtain ⟨key', value', hlookup, hP⟩ := h
  have hne : key' ≠ key := by
    rintro rfl
    exact hkey value' hlookup hP
  exact ⟨key', value', (AList.lookup_erase_ne hne).trans hlookup, hP⟩

end DbsMonitor.Pool
