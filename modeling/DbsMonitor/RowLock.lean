import Mathlib.Data.List.Pairwise
import Mathlib.Tactic.SplitIfs

/-!
# The locks on a row

A list of holders is `Consistent` with the committed value of the row when each of them still reads
that value and no two of them exclude each other. Granting and releasing a lock keep it so, and so
does the end of a transaction that updates the row.
-/

namespace DbsMonitor.RowLock

variable {τ α : Type*}

inductive Mode
  | share
  | update
  deriving DecidableEq, Repr

def Mode.compatible (mode mode' : Mode) : Bool := mode = .share && mode' = .share

structure Holder (τ α : Type*) where
  tx : τ
  mode : Mode
  read : α

def grant (holders : List (Holder τ α)) (tx : τ) (mode : Mode) (value : α) :
    Option (List (Holder τ α)) :=
  if holders.all fun holder => mode.compatible holder.mode then
    some ({ tx := tx, mode := mode, read := value } :: holders)
  else none

def release [DecidableEq τ] (holders : List (Holder τ α)) (tx : τ) : List (Holder τ α) :=
  holders.filter fun holder => holder.tx ≠ tx

def holder? [DecidableEq τ] (holders : List (Holder τ α)) (tx : τ) : Option (Holder τ α) :=
  holders.find? fun holder => holder.tx = tx

structure Consistent (value : α) (holders : List (Holder τ α)) : Prop where
  read : ∀ holder ∈ holders, holder.read = value
  exclusive : holders.Pairwise fun holder holder' => holder.mode.compatible holder'.mode = true

namespace Consistent

variable {value : α} {holders holders' : List (Holder τ α)}

theorem nil : Consistent value ([] : List (Holder τ α)) := ⟨by simp, .nil⟩

theorem grant (h : Consistent value holders) {tx : τ} {mode : Mode}
    (hgrant : RowLock.grant holders tx mode value = some holders') :
    Consistent value holders' := by
  unfold RowLock.grant at hgrant
  split_ifs at hgrant with hall
  cases hgrant
  refine ⟨?_, List.pairwise_cons.mpr ⟨fun holder hholder => ?_, h.exclusive⟩⟩
  · intro holder hholder
    rcases List.mem_cons.mp hholder with rfl | hholder
    · rfl
    · exact h.read holder hholder
  · exact List.all_eq_true.mp hall holder hholder

theorem eq_singleton (h : Consistent value holders) {holder : Holder τ α}
    (hholder : holder ∈ holders) (hmode : holder.mode = .update) : holders = [holder] := by
  have hnone : ∀ mode : Mode, mode.compatible .update = false
      ∧ Mode.compatible .update mode = false := by
    intro mode
    cases mode <;> decide
  obtain ⟨before, after, rfl⟩ := List.append_of_mem hholder
  obtain ⟨-, hafter, hcross⟩ := List.pairwise_append.mp h.exclusive
  have hnil : before = [] := by
    refine List.eq_nil_iff_forall_not_mem.mpr fun other hother => ?_
    have hcompatible := hcross other hother holder List.mem_cons_self
    rw [hmode, (hnone _).1] at hcompatible
    exact Bool.noConfusion hcompatible
  have hnil' : after = [] := by
    refine List.eq_nil_iff_forall_not_mem.mpr fun other hother => ?_
    have hcompatible := (List.pairwise_cons.mp hafter).1 other hother
    rw [hmode, (hnone _).2] at hcompatible
    exact Bool.noConfusion hcompatible
  rw [hnil, hnil']
  rfl

variable [DecidableEq τ]

theorem release (h : Consistent value holders) (tx : τ) :
    Consistent value (RowLock.release holders tx) :=
  ⟨fun holder hholder => h.read holder (List.mem_filter.mp hholder).1, h.exclusive.filter _⟩

theorem holder_read (h : Consistent value holders) {tx : τ} {holder : Holder τ α}
    (hholder : RowLock.holder? holders tx = some holder) : holder.read = value :=
  h.read holder (List.mem_of_find?_eq_some hholder)

/-- When a transaction that updates the row ends, no lock is left, and the row may have any
value. -/
theorem release_eq_nil (h : Consistent value holders) {tx : τ} {holder : Holder τ α}
    (hholder : RowLock.holder? holders tx = some holder) (hmode : holder.mode = .update) :
    RowLock.release holders tx = [] := by
  have htx := List.find?_some hholder
  rw [h.eq_singleton (List.mem_of_find?_eq_some hholder) hmode]
  simpa [RowLock.release] using of_decide_eq_true htx

end Consistent

end DbsMonitor.RowLock
