import Mathlib.Data.List.Dedup
import Mathlib.Data.List.Perm.Lattice

/-!
# Grouping and assigning by a key

Rows grouped by a key are the rows again, in another order. A map filled by assignments keeps the
last value of each key; where no key is assigned twice it has the pairs that were assigned.
-/

namespace DbsMonitor.Grouping

variable {α κ β : Type*} [DecidableEq κ]

theorem filter_eq_singleton [DecidableEq α] {l : List α} {p : α → Bool} {a : α}
    (hnodup : l.Nodup) (ha : a ∈ l) (hp : ∀ b ∈ l, p b = true ↔ b = a) : l.filter p = [a] := by
  have hfilter : l.filter p = l.filter (· = a) :=
    List.filter_congr fun b hb => Bool.eq_iff_iff.mpr (by simpa using hp b hb)
  rw [hfilter, List.filter_eq, List.count_eq_one_of_mem hnodup ha]
  rfl

theorem perm_flatMap_filter (key : α → κ) :
    ∀ {keys : List κ} {l : List α}, keys.Nodup → (∀ a ∈ l, key a ∈ keys) →
      (keys.flatMap fun k => l.filter fun a => key a = k).Perm l := by
  intro keys
  induction keys with
  | nil =>
    intro l _ hmem
    obtain rfl : l = [] := List.eq_nil_iff_forall_not_mem.mpr fun a ha => by simpa using hmem a ha
    exact .nil
  | cons k keys ih =>
    intro l hnodup hmem
    obtain ⟨hk, hnodup⟩ := List.nodup_cons.mp hnodup
    -- the groups of the other keys are those of the rows that are left
    have hrest : (keys.flatMap fun k' => l.filter fun a => key a = k')
        = keys.flatMap fun k' => (l.filter fun a => !decide (key a = k)).filter
            fun a => key a = k' := by
      refine List.flatMap_congr fun k' hk' => ?_
      rw [List.filter_filter]
      refine List.filter_congr fun a _ => ?_
      by_cases ha : key a = k'
      · have hne : k' ≠ k := fun h => hk (h ▸ hk')
        simp [ha, hne]
      · simp [ha]
    rw [List.flatMap_cons, hrest]
    refine ((ih hnodup fun a ha => ?_).append_left _).trans (List.filter_append_perm _ l)
    obtain ⟨ha, hne⟩ := List.mem_filter.mp ha
    exact (List.mem_cons.mp (hmem a ha)).resolve_left (by simpa using hne)

def assigned (pairs : List (κ × β)) (k : κ) : Option β :=
  (pairs.reverse.find? fun pair => pair.1 = k).map Prod.snd

theorem assigned_eq_some {pairs : List (κ × β)} (hnodup : (pairs.map Prod.fst).Nodup) {k : κ}
    {b : β} : assigned pairs k = some b ↔ (k, b) ∈ pairs := by
  unfold assigned
  constructor
  · intro h
    obtain ⟨pair, hfind, rfl⟩ := Option.map_eq_some_iff.mp h
    obtain rfl : pair.1 = k := by simpa using List.find?_some hfind
    exact List.mem_reverse.mp (List.mem_of_find?_eq_some hfind)
  · intro hmem
    cases hfind : pairs.reverse.find? fun pair => pair.1 = k with
    | none =>
      have hnone := List.find?_eq_none.mp hfind (k, b) (List.mem_reverse.mpr hmem)
      simp at hnone
    | some pair =>
      have hpair := List.mem_reverse.mp (List.mem_of_find?_eq_some hfind)
      have hkey : pair.1 = (k, b).1 := by simpa using List.find?_some hfind
      rw [List.inj_on_of_nodup_map hnodup hpair hmem hkey]
      rfl

end DbsMonitor.Grouping
