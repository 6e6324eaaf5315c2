import Mathlib.Algebra.Order.BigOperators.Group.Finset

/-!
# Searching a graph with a queue

The search takes an element from the queue, drops it when it was visited or is not a node, and puts
its successors at the end otherwise. It ends on every graph. What it returns is what the node
reaches through nodes (`mem_search`).
-/

namespace DbsMonitor.GraphSearch

variable {α : Type*} [DecidableEq α]

structure Graph (α : Type*) where
  nodes : Finset α
  successors : α → Option (List α)
  mem_nodes : ∀ a, (successors a).isSome → a ∈ nodes

namespace Graph

variable (graph : Graph α)

def work (visited queue : List α) : ℕ :=
  ∑ a ∈ graph.nodes \ visited.toFinset, (((graph.successors a).getD []).length + 1)
    + queue.length

variable {graph}

theorem work_visit {visited queue next : List α} {a : α} (hvisited : a ∉ visited)
    (hnext : graph.successors a = some next) :
    graph.work (visited ++ [a]) (queue ++ next) < graph.work visited (a :: queue) := by
  have hmem : a ∈ graph.nodes \ visited.toFinset :=
    Finset.mem_sdiff.mpr ⟨graph.mem_nodes a (by simp [hnext]), by simpa using hvisited⟩
  have hsum := Finset.add_sum_erase (graph.nodes \ visited.toFinset)
    (fun a => ((graph.successors a).getD []).length + 1) hmem
  have herase : graph.nodes \ (visited ++ [a]).toFinset
      = (graph.nodes \ visited.toFinset).erase a := by
    rw [← Finset.sdiff_insert]
    congr 1
    ext
    simp
  simp only [hnext, Option.getD_some] at hsum
  simp only [work, herase, List.length_append, List.length_cons]
  omega

variable (graph)

def search (visited queue : List α) : List α :=
  match queue with
  | [] => visited
  | a :: queue =>
    if _hvisited : a ∈ visited then search visited queue
    else
      match _hnext : graph.successors a with
      | none => search visited queue
      | some next => search (visited ++ [a]) (queue ++ next)
termination_by graph.work visited queue
decreasing_by
  · simp [work]
  · simp [work]
  · exact work_visit _hvisited _hnext

def Edge (a b : α) : Prop :=
  (∃ next, graph.successors a = some next ∧ b ∈ next) ∧ (graph.successors b).isSome

def Covered (visited queue : List α) : Prop :=
  ∀ a ∈ visited, ∀ b, graph.Edge a b → b ∈ visited ∨ b ∈ queue

variable {graph}

omit [DecidableEq α] in
theorem Covered.drop {visited queue : List α} {a : α} (h : graph.Covered visited (a :: queue))
    (ha : a ∈ visited ∨ graph.successors a = none) : graph.Covered visited queue := by
  intro c hc b hedge
  rcases h c hc b hedge with hb | hb
  · exact .inl hb
  · rcases List.mem_cons.mp hb with rfl | hb
    · rcases ha with ha | ha
      · exact .inl ha
      · exact absurd hedge.2 (by simp [ha])
    · exact .inr hb

omit [DecidableEq α] in
theorem Covered.visit {visited queue next : List α} {a : α}
    (h : graph.Covered visited (a :: queue)) (hnext : graph.successors a = some next) :
    graph.Covered (visited ++ [a]) (queue ++ next) := by
  intro c hc b hedge
  rcases List.mem_append.mp hc with hc | hc
  · rcases h c hc b hedge with hb | hb
    · exact .inl (List.mem_append_left _ hb)
    · rcases List.mem_cons.mp hb with rfl | hb
      · exact .inl (by simp)
      · exact .inr (List.mem_append_left _ hb)
  · obtain rfl := List.mem_singleton.mp hc
    obtain ⟨⟨next', hnext', hb⟩, -⟩ := hedge
    rw [hnext, Option.some.injEq] at hnext'
    exact .inr (List.mem_append_right _ (hnext' ▸ hb))

theorem nodup_search (visited queue : List α) (h : visited.Nodup) :
    (graph.search visited queue).Nodup := by
  fun_induction search graph visited queue with
  | case1 visited => exact h
  | case2 visited a queue _ ih => exact ih h
  | case3 visited a queue _ _ ih => exact ih h
  | case4 visited a queue hvisited next _ ih =>
    exact ih (h.append (List.nodup_singleton a) (by simpa using hvisited))

/-- The search keeps what was visited, takes the nodes of the queue, and ends closed. -/
theorem search_closed (visited queue : List α) (hcovered : graph.Covered visited queue) :
    visited ⊆ graph.search visited queue
      ∧ (∀ a ∈ queue, (graph.successors a).isSome → a ∈ graph.search visited queue)
      ∧ ∀ a ∈ graph.search visited queue, ∀ b, graph.Edge a b →
        b ∈ graph.search visited queue := by
  fun_induction search graph visited queue with
  | case1 visited =>
    refine ⟨List.Subset.refl _, by simp, fun a ha b hedge => ?_⟩
    simpa using hcovered a ha b hedge
  | case2 visited a queue hvisited ih =>
    obtain ⟨hsubset, hqueue, hclosed⟩ := ih (hcovered.drop (.inl hvisited))
    refine ⟨hsubset, fun b hb hnode => ?_, hclosed⟩
    rcases List.mem_cons.mp hb with rfl | hb
    · exact hsubset hvisited
    · exact hqueue b hb hnode
  | case3 visited a queue hvisited hnext ih =>
    obtain ⟨hsubset, hqueue, hclosed⟩ := ih (hcovered.drop (.inr hnext))
    refine ⟨hsubset, fun b hb hnode => ?_, hclosed⟩
    rcases List.mem_cons.mp hb with rfl | hb
    · exact absurd hnode (by simp [hnext])
    · exact hqueue b hb hnode
  | case4 visited a queue hvisited next hnext ih =>
    obtain ⟨hsubset, hqueue, hclosed⟩ := ih (hcovered.visit hnext)
    refine ⟨fun b hb => hsubset (List.mem_append_left _ hb), fun b hb hnode => ?_, hclosed⟩
    rcases List.mem_cons.mp hb with rfl | hb
    · exact hsubset (by simp)
    · exact hqueue b (List.mem_append_left _ hb) hnode

/-- What the search returns has a property that the visited and the queued nodes have and edges
keep. -/
theorem search_induction {P : α → Prop} (hedge : ∀ a b, P a → graph.Edge a b → P b)
    (visited queue : List α) (hvisited : ∀ a ∈ visited, P a)
    (hqueue : ∀ a ∈ queue, (graph.successors a).isSome → P a) :
    ∀ a ∈ graph.search visited queue, P a := by
  fun_induction search graph visited queue with
  | case1 visited => exact hvisited
  | case2 visited a queue _ ih =>
    exact ih hvisited fun b hb => hqueue b (List.mem_cons_of_mem _ hb)
  | case3 visited a queue _ _ ih =>
    exact ih hvisited fun b hb => hqueue b (List.mem_cons_of_mem _ hb)
  | case4 visited a queue _ next hnext ih =>
    have ha : P a := hqueue a (by simp) (by simp [hnext])
    refine ih (fun b hb => ?_) fun b hb hnode => ?_
    · rcases List.mem_append.mp hb with hb | hb
      · exact hvisited b hb
      · exact List.mem_singleton.mp hb ▸ ha
    · rcases List.mem_append.mp hb with hb | hb
      · exact hqueue b (List.mem_cons_of_mem _ hb) hnode
      · exact hedge a b ha ⟨⟨next, hnext, hb⟩, hnode⟩

/-- From one node the search finds what the node reaches. -/
theorem mem_search (root a : α) :
    a ∈ graph.search [] [root]
      ↔ (graph.successors root).isSome ∧ Relation.ReflTransGen graph.Edge root a := by
  constructor
  · refine search_induction (P := fun a => (graph.successors root).isSome
      ∧ Relation.ReflTransGen graph.Edge root a) (fun a b ha hedge => ⟨ha.1, ha.2.tail hedge⟩)
      [] [root] (by simp) (fun b hb hnode => ?_) a
    rw [List.mem_singleton] at hb
    subst hb
    exact ⟨hnode, .refl⟩
  · rintro ⟨hnode, hreach⟩
    have hcovered : graph.Covered [] [root] := by simp [Covered]
    obtain ⟨-, hqueue, hclosed⟩ := search_closed [] [root] hcovered
    induction hreach with
    | refl => exact hqueue root (by simp) hnode
    | tail _ hedge ih => exact hclosed _ ih _ hedge

end Graph

end DbsMonitor.GraphSearch
