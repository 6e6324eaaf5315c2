import Mathlib.Data.Finset.Card
import Mathlib.Data.Finset.Union

/-!
# Filling up to a limit with whole groups

Groups that may overlap are taken one after the other. A group is taken as a whole when what is
selected together with it stays within the limit, and skipped otherwise. What was skipped cannot be
taken later: the selection only grows.
-/

namespace DbsMonitor.Filling

variable {α : Type*} [DecidableEq α] (limit : ℕ)

def take (selected group : Finset α) : Finset α :=
  if limit < (selected ∪ group).card then selected else selected ∪ group

def fill (selected : Finset α) (groups : List (Finset α)) : Finset α :=
  groups.foldl (take limit) selected

variable {limit}

theorem subset_take (selected group : Finset α) : selected ⊆ take limit selected group := by
  unfold take
  split_ifs
  · exact subset_rfl
  · exact Finset.subset_union_left

theorem subset_fill : ∀ (groups : List (Finset α)) (selected : Finset α),
    selected ⊆ fill limit selected groups
  | [], _ => subset_rfl
  | group :: groups, selected =>
    (subset_take selected group).trans (subset_fill groups (take limit selected group))

theorem card_fill_le : ∀ (groups : List (Finset α)) {selected : Finset α},
    selected.card ≤ limit → (fill limit selected groups).card ≤ limit
  | [], _, h => h
  | group :: groups, selected, h => by
    refine card_fill_le groups ?_
    unfold take
    split_ifs with hover
    · exact h
    · exact not_lt.mp hover

theorem subset_fill_or_lt_card : ∀ {groups : List (Finset α)} (selected : Finset α)
    {group : Finset α}, group ∈ groups →
      group ⊆ fill limit selected groups ∨ limit < (fill limit selected groups ∪ group).card
  | first :: groups, selected, group, h => by
    rcases List.mem_cons.mp h with rfl | h
    · have hsubset : take limit selected group ⊆ fill limit (take limit selected group) groups :=
        subset_fill groups _
      by_cases hover : limit < (selected ∪ group).card
      · rw [take, if_pos hover] at hsubset
        refine .inr (hover.trans_le (Finset.card_le_card ?_))
        simp only [fill, List.foldl_cons, take, if_pos hover]
        exact Finset.union_subset_union_left hsubset
      · rw [take, if_neg hover] at hsubset
        refine .inl ?_
        simp only [fill, List.foldl_cons, take, if_neg hover]
        exact Finset.subset_union_right.trans hsubset
    · exact subset_fill_or_lt_card (take limit selected first) h

theorem exists_taken : ∀ (groups : List (Finset α)) (selected : Finset α),
    ∃ taken : List (Finset α), taken.Sublist groups
      ∧ ∀ a, a ∈ fill limit selected groups ↔ a ∈ selected ∨ ∃ group ∈ taken, a ∈ group
  | [], selected => ⟨[], List.Sublist.refl _, by simp [fill]⟩
  | group :: groups, selected => by
    obtain ⟨taken, hsublist, hmem⟩ := exists_taken groups (take limit selected group)
    by_cases hover : limit < (selected ∪ group).card
    · refine ⟨taken, hsublist.cons group, fun a => ?_⟩
      rw [take, if_pos hover] at hmem
      simp only [fill, List.foldl_cons, take, if_pos hover]
      exact hmem a
    · refine ⟨group :: taken, hsublist.cons_cons group, fun a => ?_⟩
      rw [take, if_neg hover] at hmem
      simp only [fill, List.foldl_cons, take, if_neg hover]
      rw [← fill, hmem a]
      simp [or_assoc]

end DbsMonitor.Filling
