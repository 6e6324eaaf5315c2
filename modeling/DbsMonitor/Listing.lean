import Mathlib.Data.List.Sort

/-!
# Rows in a strict order, page by page

A listing of some rows has each of them once, in a strict order. There is at most one, so it does
not depend on the order in which the rows are supplied, and sorting by a key that separates them
gives it. Its pages of one size, put end to end, are the listing.
-/

namespace DbsMonitor.Listing

variable {α : Type*}

def Listed (lt : α → α → Prop) (rows listed : List α) : Prop :=
  listed.Perm rows ∧ listed.Pairwise lt

section Listed

variable {lt : α → α → Prop} {rows rows' listed listed' : List α}

theorem Listed.of_perm (h : Listed lt rows listed) (hperm : rows.Perm rows') :
    Listed lt rows' listed :=
  ⟨h.1.trans hperm, h.2⟩

theorem Listed.length (h : Listed lt rows listed) : listed.length = rows.length := h.1.length_eq

theorem Listed.unique (hasymm : ∀ a b, lt a b → ¬ lt b a) (h : Listed lt rows listed)
    (h' : Listed lt rows listed') : listed = listed' :=
  List.Perm.eq_of_pairwise (fun a b _ _ hab hba => absurd hba (hasymm a b hab)) h.2 h'.2
    (h.1.trans h'.1.symm)

theorem Listed.nodup (hasymm : ∀ a b, lt a b → ¬ lt b a) (h : Listed lt rows listed) :
    listed.Nodup :=
  h.2.imp fun {a b} hab heq => by
    subst heq
    exact hasymm a a hab hab

end Listed

section sort

variable {κ : Type*} [LinearOrder κ] (key : α → κ) {lt : α → α → Prop} {le : α → α → Prop}
  [DecidableRel le]

theorem listed_insertionSort (hlt : ∀ a b, lt a b ↔ key a < key b)
    (hle : ∀ a b, le a b ↔ ¬ lt b a) {rows : List α} (hnodup : (rows.map key).Nodup) :
    Listed lt rows (rows.insertionSort le) := by
  have hkey : ∀ a b, le a b ↔ key a ≤ key b := fun a b => by rw [hle, hlt, not_lt]
  have : Std.Total le := ⟨fun a b => by rw [hkey, hkey]; exact le_total _ _⟩
  have : IsTrans α le := ⟨fun a b c => by rw [hkey, hkey, hkey]; exact le_trans⟩
  have hperm := List.perm_insertionSort le rows
  refine ⟨hperm, ?_⟩
  have hne : (rows.insertionSort le).Pairwise fun a b => key a ≠ key b :=
    List.pairwise_map.mp ((hperm.map key).nodup_iff.mpr hnodup)
  refine ((List.pairwise_insertionSort le rows).and hne).imp fun {a b} h => ?_
  exact (hlt a b).mpr (lt_of_le_of_ne ((hkey a b).mp h.1) h.2)

end sort

def page (listed : List α) (size k : ℕ) : List α := (listed.drop (k * size)).take size

section page

variable {listed : List α} {size k : ℕ}

theorem page_eq_nil (h : listed.length ≤ k * size) : page listed size k = [] := by
  rw [page, List.drop_eq_nil_of_le h, List.take_nil]

theorem flatMap_page (listed : List α) (size n : ℕ) :
    (List.range n).flatMap (page listed size) = listed.take (n * size) := by
  induction n with
  | zero => simp
  | succ n ih =>
    rw [List.range_succ, List.flatMap_append, ih, Nat.succ_mul, List.take_add,
      List.flatMap_singleton]
    rfl

theorem flatMap_page_eq {n : ℕ} (h : listed.length ≤ n * size) :
    (List.range n).flatMap (page listed size) = listed := by
  rw [flatMap_page, List.take_of_length_le h]

theorem drop_take_ne_page (hnodup : listed.Nodup) (hsize : 0 < size) {start : ℕ}
    (hstart : start < listed.length) (hlt : start < k * size) :
    (listed.drop start).take size ≠ page listed size k := by
  intro h
  have hmem : listed[start] ∈ (listed.drop start).take size := by
    rw [List.mem_take_iff_getElem]
    exact ⟨0, by rw [List.length_drop]; omega, by simp⟩
  rw [h, page] at hmem
  obtain ⟨i, hi, hget⟩ := List.mem_iff_getElem.mp (List.mem_of_mem_take hmem)
  rw [List.getElem_drop] at hget
  have := (hnodup.getElem_inj_iff).mp hget
  omega

end page

end DbsMonitor.Listing
