/-!
# Level by level through a finite graph

A directed graph in which every node lists its successors in an order, and only finitely many nodes
have any.  Nodes are visited level by level: first the start, then the successors of the start, then
the successors of those, each node once, in the order in which the level before lists them.

* `Digraph` — the graph; its nodes may have successors that are not among its own nodes.
* `levelsFrom` — the levels after a level whose nodes, and others, have been seen.
* `breadthFirst` — the nodes in the order of the visit.

The visit ends because every level but the last two has a node of the graph that was not seen
before.
-/

set_option autoImplicit false

namespace VariableNaming

/-- A directed graph with ordered successors, finitely many of them. -/
structure Digraph (α : Type) where
  /-- The nodes that may have successors. -/
  nodes : List α
  /-- The successors of a node, in order. -/
  next : α → List α
  /-- Only the nodes of the graph have successors. -/
  next_eq_nil : ∀ a, a ∉ nodes → next a = []

namespace Digraph

variable {α : Type} [DecidableEq α] (g : Digraph α)

/-! ## Nodes still to be seen -/

/-- How many nodes of the graph are not among those seen. -/
def unseen (seen : List α) : Nat :=
  (g.nodes.filter (· ∉ seen)).length

theorem unseen_le {seen seen' : List α} (h : seen ⊆ seen') : g.unseen seen' ≤ g.unseen seen := by
  have hsub : (g.nodes.filter (· ∉ seen')) = (g.nodes.filter (· ∉ seen)).filter (· ∉ seen') := by
    rw [List.filter_filter]
    refine List.filter_congr fun a _ => ?_
    by_cases ha : a ∈ seen' <;> simp [ha]
    exact fun hs => ha (h hs)
  rw [unseen, unseen, hsub]
  exact List.length_filter_le _ _

/-- Seeing a node of the graph for the first time leaves fewer to be seen. -/
theorem unseen_lt {seen seen' : List α} (h : seen ⊆ seen') {a : α} (hnode : a ∈ g.nodes)
    (hold : a ∉ seen) (hnew : a ∈ seen') : g.unseen seen' < g.unseen seen := by
  have hsub : (g.nodes.filter (· ∉ seen')) = (g.nodes.filter (· ∉ seen)).filter (· ∉ seen') := by
    rw [List.filter_filter]
    refine List.filter_congr fun b _ => ?_
    by_cases hb : b ∈ seen' <;> simp [hb]
    exact fun hs => hb (h hs)
  rw [unseen, unseen, hsub, List.length_filter_lt_length_iff_exists]
  exact ⟨a, by simp [hnode, hold], by simp [hnew]⟩

/-! ## Levels -/

/-- The successors of a level that have not been seen, each once, in order. -/
def fresh (seen level : List α) : List α :=
  (level.flatMap g.next).eraseDups.filter (· ∉ seen)

theorem mem_fresh {seen level : List α} {a : α} :
    a ∈ g.fresh seen level ↔ (∃ b ∈ level, a ∈ g.next b) ∧ a ∉ seen := by
  simp [fresh, List.mem_eraseDups]

/-- The level, and those after it, when the nodes in `seen` have been seen. -/
def levelsFrom (seen level : List α) : List (List α) :=
  if g.fresh seen level = [] then [level]
  else level :: levelsFrom (g.fresh seen level ++ seen) (g.fresh seen level)
termination_by (g.unseen seen, (level.flatMap g.next).length)
decreasing_by
  rename_i hne
  have hsub : seen ⊆ g.fresh seen level ++ seen := List.subset_append_right _ _
  by_cases hknown : ∃ a ∈ g.fresh seen level, a ∈ g.nodes
  · obtain ⟨a, hfresh, hnode⟩ := hknown
    exact Prod.Lex.left _ _
      (g.unseen_lt hsub hnode (g.mem_fresh.1 hfresh).2 (List.mem_append_left _ hfresh))
  · have hnil : (g.fresh seen level).flatMap g.next = [] := by
      rw [List.flatMap_eq_nil_iff]
      exact fun a ha => g.next_eq_nil a fun hnode => hknown ⟨a, ha, hnode⟩
    have hpos : 0 < (level.flatMap g.next).length := by
      rw [List.length_pos_iff]
      intro h
      exact hne (by simp [fresh, h])
    rcases Nat.lt_or_eq_of_le (g.unseen_le hsub) with hlt | heq
    · exact Prod.Lex.left _ _ hlt
    · rw [heq, hnil]
      exact Prod.Lex.right _ hpos

/-- The nodes that can be reached from `a`, in the order of a visit level by level. -/
def breadthFirst (a : α) : List α :=
  (g.levelsFrom [a] [a]).flatten

end Digraph
end VariableNaming
