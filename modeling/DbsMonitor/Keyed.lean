import Mathlib.Data.List.Nodup

/-!
# Tables with a key

The rows of a table are a list in which no two have the same key. An upsert puts a row in the place
of the one that has its key, or at the end.
-/

namespace DbsMonitor.Keyed

variable {α κ : Type*} [DecidableEq κ] (key : α → κ)

def upsert (row : α) : List α → List α
  | [] => [row]
  | row' :: rows => if key row' = key row then row :: rows else row' :: upsert row rows

variable {key} {row row' : α} {rows : List α}

theorem mem_map_upsert {k : κ} :
    k ∈ (upsert key row rows).map key ↔ k = key row ∨ k ∈ rows.map key := by
  induction rows with
  | nil => simp [upsert]
  | cons row' rows ih =>
    unfold upsert
    split_ifs with h
    · simp [h]
    · rw [List.map_cons, List.mem_cons, ih, List.map_cons, List.mem_cons]
      exact or_left_comm

theorem nodup_upsert (hnodup : (rows.map key).Nodup) : ((upsert key row rows).map key).Nodup := by
  induction rows with
  | nil => simp [upsert]
  | cons row' rows ih =>
    rw [List.map_cons, List.nodup_cons] at hnodup
    unfold upsert
    split_ifs with h
    · rw [List.map_cons, List.nodup_cons, ← h]
      exact hnodup
    · rw [List.map_cons, List.nodup_cons, mem_map_upsert]
      exact ⟨not_or.mpr ⟨h, hnodup.1⟩, ih hnodup.2⟩

theorem mem_upsert (hnodup : (rows.map key).Nodup) :
    row' ∈ upsert key row rows ↔ row' = row ∨ row' ∈ rows ∧ key row' ≠ key row := by
  induction rows with
  | nil => simp [upsert]
  | cons first rows ih =>
    rw [List.map_cons, List.nodup_cons] at hnodup
    unfold upsert
    split_ifs with h
    · -- no other row has the key of the one that is replaced
      have hne : row' ∈ rows → key row' ≠ key row := fun hrow hkey =>
        hnodup.1 (h ▸ hkey ▸ List.mem_map_of_mem hrow)
      rw [List.mem_cons, List.mem_cons]
      refine or_congr_right ⟨fun hrow => ⟨.inr hrow, hne hrow⟩, ?_⟩
      rintro ⟨rfl | hrow, hkey⟩
      · exact absurd h hkey
      · exact hrow
    · rw [List.mem_cons, ih hnodup.2, List.mem_cons]
      constructor
      · rintro (rfl | rfl | ⟨hrow, hkey⟩)
        · exact .inr ⟨.inl rfl, h⟩
        · exact .inl rfl
        · exact .inr ⟨.inr hrow, hkey⟩
      · rintro (rfl | ⟨rfl | hrow, hkey⟩)
        · exact .inr (.inl rfl)
        · exact .inl rfl
        · exact .inr (.inr ⟨hrow, hkey⟩)

theorem upsert_eq_self (hnodup : (rows.map key).Nodup) (hrow : row ∈ rows) :
    upsert key row rows = rows := by
  induction rows with
  | nil => cases hrow
  | cons first rows ih =>
    rw [List.map_cons, List.nodup_cons] at hnodup
    unfold upsert
    obtain rfl | hrow := List.mem_cons.mp hrow
    · rw [if_pos rfl]
    · have hkey : key first ≠ key row := fun h => hnodup.1 (h ▸ List.mem_map_of_mem hrow)
      rw [if_neg hkey, ih hnodup.2 hrow]

def upsertAll (key : α → κ) (items rows : List α) : List α :=
  items.foldl (fun rows row => upsert key row rows) rows

theorem mem_upsertAll {items : List α} (hnodup : (rows.map key).Nodup)
    (hitems : (items.map key).Nodup) :
    row' ∈ upsertAll key items rows ↔ row' ∈ items ∨ row' ∈ rows ∧ key row' ∉ items.map key := by
  induction items generalizing rows with
  | nil => simp [upsertAll]
  | cons item items ih =>
    rw [List.map_cons, List.nodup_cons] at hitems
    have hstep : upsertAll key (item :: items) rows
        = upsertAll key items (upsert key item rows) := rfl
    rw [hstep, ih (nodup_upsert hnodup) hitems.2, mem_upsert hnodup, List.mem_cons, List.map_cons,
      List.mem_cons, not_or]
    constructor
    · rintro (hrow | ⟨rfl | ⟨hrow, hkey⟩, hrest⟩)
      · exact .inl (.inr hrow)
      · exact .inl (.inl rfl)
      · exact .inr ⟨hrow, hkey, hrest⟩
    · rintro ((rfl | hrow) | ⟨hrow, hkey, hrest⟩)
      · exact .inr ⟨.inl rfl, hitems.1⟩
      · exact .inl hrow
      · exact .inr ⟨.inr ⟨hrow, hkey⟩, hrest⟩

theorem upsertAll_eq_self {items : List α} (hnodup : (rows.map key).Nodup)
    (hitems : ∀ item ∈ items, item ∈ rows) : upsertAll key items rows = rows := by
  induction items with
  | nil => rfl
  | cons item items ih =>
    have hstep : upsertAll key (item :: items) rows
        = upsertAll key items (upsert key item rows) := rfl
    rw [hstep, upsert_eq_self hnodup (hitems item List.mem_cons_self)]
    exact ih fun item' hitem' => hitems item' (List.mem_cons_of_mem _ hitem')

theorem filter_ne_filter_notMem (key : α → κ) (k : κ) (ks : List κ) (rows : List α) :
    (rows.filter fun row => key row ≠ k).filter (fun row => key row ∉ ks)
      = rows.filter fun row => key row ∉ k :: ks := by
  rw [List.filter_filter]
  refine List.filter_congr fun row _ => ?_
  simp [Bool.and_comm]

end DbsMonitor.Keyed
