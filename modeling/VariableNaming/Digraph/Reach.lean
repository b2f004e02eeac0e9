import VariableNaming.Digraph.Traversal

/-!
# What a visit level by level comes by

The visit of `VariableNaming.Digraph.Traversal` is exact: it comes by every node that can be reached
from the start, and by no other node.

* `Reaches` — there is a path, of any length, from one node to another.
* `mem_breadthFirst` — the visit comes by what can be reached.
* `nodup_fresh` — what is new in a level is in it once.
* `breadthFirst_congr` — the visit depends on nothing but what can be reached.
* `levelsWithin?` — the levels, if there are no more of them than expected.  This is a recursion on
  their number, so that a visit can be computed: `breadthFirst_eq_of_levelsWithin?`.
-/

set_option autoImplicit false

namespace VariableNaming
namespace Digraph

variable {α : Type}

/-! ## Reachable nodes -/

/-- There is a path from `a`. -/
inductive Reaches (g : Digraph α) (a : α) : α → Prop
  /-- The path without edges. -/
  | refl : Reaches g a a
  /-- A path with one edge more. -/
  | step {b c : α} (path : Reaches g a b) (edge : c ∈ g.next b) : Reaches g a c

theorem Reaches.trans {g : Digraph α} {a b c : α} (hab : g.Reaches a b) (hbc : g.Reaches b c) :
    g.Reaches a c := by
  induction hbc with
  | refl => exact hab
  | step _ edge ih => exact ih.step edge

theorem Reaches.of_edge {g : Digraph α} {a b : α} (h : b ∈ g.next a) : g.Reaches a b :=
  Reaches.refl.step h

/-- A set that holds every successor of its members holds everything that can be reached from them.
-/
theorem Reaches.mem_of_closed {g : Digraph α} {p : α → Prop}
    (hclosed : ∀ a, p a → ∀ b ∈ g.next a, p b) {a b : α} (h : g.Reaches a b) (ha : p a) : p b := by
  induction h with
  | refl => exact ha
  | step _ edge ih => exact hclosed _ ih _ edge

variable [DecidableEq α] (g : Digraph α)

/-! ## The visit is exact -/

theorem level_subset_levelsFrom (seen level : List α) :
    level ⊆ (g.levelsFrom seen level).flatten := by
  intro a ha
  rw [levelsFrom]
  split <;> simp [ha]

/-- What the levels hold can be reached from the first of them. -/
theorem reaches_of_mem_levelsFrom {seen level : List α} {b : α}
    (h : b ∈ (g.levelsFrom seen level).flatten) : ∃ a ∈ level, g.Reaches a b := by
  fun_induction levelsFrom g seen level with
  | case1 seen level _ => exact ⟨b, by simpa using h, .refl⟩
  | case2 seen level _ ih =>
    rw [List.flatten_cons, List.mem_append] at h
    rcases h with h | h
    · exact ⟨b, h, .refl⟩
    · obtain ⟨c, hc, hcb⟩ := ih h
      obtain ⟨⟨a, ha, hac⟩, -⟩ := g.mem_fresh.1 hc
      exact ⟨a, ha, (Reaches.of_edge hac).trans hcb⟩

/-- The levels, with what was seen before them, hold everything that can be reached, if the
successors of what was seen before the first level have been seen. -/
theorem mem_levelsFrom_of_reaches {seen level : List α}
    (hclosed : ∀ a ∈ seen, a ∉ level → ∀ b ∈ g.next a, b ∈ seen) {a b : α} (ha : a ∈ seen)
    (h : g.Reaches a b) : b ∈ seen ∨ b ∈ (g.levelsFrom seen level).flatten := by
  fun_induction levelsFrom g seen level with
  | case1 seen level hnil =>
    refine Or.inl (h.mem_of_closed (p := (· ∈ seen)) (fun c hc d hd => ?_) ha)
    by_cases hlevel : c ∈ level
    · by_cases hseen : d ∈ seen
      · exact hseen
      · have hfresh : d ∈ g.fresh seen level := g.mem_fresh.2 ⟨⟨c, hlevel, hd⟩, hseen⟩
        rw [hnil] at hfresh
        exact absurd hfresh List.not_mem_nil
    · exact hclosed c hc hlevel d hd
  | case2 seen level _ ih =>
    have hstep : ∀ c ∈ g.fresh seen level ++ seen, c ∉ g.fresh seen level → ∀ d ∈ g.next c,
        d ∈ g.fresh seen level ++ seen := by
      intro c hc hfresh d hd
      have hc : c ∈ seen := (List.mem_append.1 hc).resolve_left hfresh
      by_cases hseen : d ∈ seen
      · exact List.mem_append_right _ hseen
      · by_cases hlevel : c ∈ level
        · exact List.mem_append_left _ (g.mem_fresh.2 ⟨⟨c, hlevel, hd⟩, hseen⟩)
        · exact absurd (hclosed c hc hlevel d hd) hseen
    rw [List.flatten_cons, List.mem_append]
    rcases ih hstep (List.mem_append_right _ ha) with hb | hb
    · rcases List.mem_append.1 hb with hb | hb
      · exact Or.inr (Or.inr (g.level_subset_levelsFrom _ _ hb))
      · exact Or.inl hb
    · exact Or.inr (Or.inr hb)

/-- **The visit comes by exactly what can be reached.** -/
theorem mem_breadthFirst {a b : α} : b ∈ g.breadthFirst a ↔ g.Reaches a b := by
  constructor
  · intro h
    obtain ⟨c, hc, hcb⟩ := g.reaches_of_mem_levelsFrom h
    rw [List.mem_singleton] at hc
    exact hc ▸ hcb
  · intro h
    have hclosed : ∀ c ∈ [a], c ∉ [a] → ∀ d ∈ g.next c, d ∈ [a] := fun c hc hn => absurd hc hn
    rcases g.mem_levelsFrom_of_reaches hclosed (List.mem_singleton_self a) h with hb | hb
    · exact g.level_subset_levelsFrom [a] [a] hb
    · exact hb

/-! ## What is new in a level -/

theorem nodup_eraseDups (l : List α) : l.eraseDups.Nodup := by
  induction hn : l.length using Nat.strongRecOn generalizing l with
  | _ n ih =>
    cases l with
    | nil => simp
    | cons a l =>
      rw [List.eraseDups_cons, List.nodup_cons]
      refine ⟨by simp [List.mem_eraseDups], ih _ ?_ _ rfl⟩
      have := List.length_filter_le (fun b => !b == a) l
      simp only [List.length_cons] at hn
      omega

theorem nodup_fresh (seen level : List α) : (g.fresh seen level).Nodup :=
  (nodup_eraseDups _).filter _

/-- The visit begins at the start. -/
theorem exists_breadthFirst_eq_cons (a : α) : ∃ rest, g.breadthFirst a = a :: rest := by
  rw [breadthFirst, levelsFrom]
  split <;> exact ⟨_, rfl⟩

/-! ## Nothing else is looked at -/

/-- Two graphs that agree on a set which no edge leaves have the same levels after a level in it. -/
theorem levelsFrom_congr {g' : Digraph α} {p : α → Prop}
    (hclosed : ∀ a, p a → ∀ b ∈ g.next a, p b) (hnext : ∀ a, p a → g'.next a = g.next a)
    {seen level : List α} (hlevel : ∀ a ∈ level, p a) :
    g'.levelsFrom seen level = g.levelsFrom seen level := by
  have hfresh : ∀ seen level, (∀ a ∈ level, p a) → g'.fresh seen level = g.fresh seen level := by
    intro seen level hlevel
    rw [fresh, fresh, List.flatMap_def, List.flatMap_def,
      List.map_congr_left fun a ha => hnext a (hlevel a ha)]
  fun_induction levelsFrom g seen level with
  | case1 seen level hnil => rw [levelsFrom, if_pos ((hfresh seen level hlevel).trans hnil)]
  | case2 seen level hne ih =>
    rw [levelsFrom, hfresh seen level hlevel, if_neg hne, ih]
    intro b hb
    obtain ⟨⟨a, ha, hab⟩, -⟩ := g.mem_fresh.1 hb
    exact hclosed a (hlevel a ha) b hab

/-- **The visit depends on nothing but what can be reached.** -/
theorem breadthFirst_congr {g' : Digraph α} {a : α}
    (h : ∀ b, g.Reaches a b → g'.next b = g.next b) : g'.breadthFirst a = g.breadthFirst a := by
  rw [breadthFirst, breadthFirst, g.levelsFrom_congr (fun b hb c hc => hb.step hc) h]
  intro b hb
  rw [List.mem_singleton] at hb
  exact hb ▸ .refl

/-! ## Computing a visit -/

/-- The levels of `levelsFrom`, if there are no more than `n` of them. -/
def levelsWithin? : Nat → List α → List α → Option (List (List α))
  | 0, _, _ => none
  | n + 1, seen, level =>
    if g.fresh seen level = [] then some [level]
    else (levelsWithin? n (g.fresh seen level ++ seen) (g.fresh seen level)).map (level :: ·)

theorem levelsFrom_eq_of_levelsWithin? {n : Nat} {seen level : List α} {levels : List (List α)}
    (h : g.levelsWithin? n seen level = some levels) : g.levelsFrom seen level = levels := by
  induction n generalizing seen level levels with
  | zero => cases h
  | succ n ih =>
    rw [levelsWithin?] at h
    rw [levelsFrom]
    split at h
    · rename_i hlast
      rw [if_pos hlast, Option.some.inj h]
    · rename_i hnext
      obtain ⟨rest, hrest, rfl⟩ := Option.map_eq_some_iff.1 h
      rw [if_neg hnext, ih hrest]

/-- The visit is what the levels make, if they are all there. -/
theorem breadthFirst_eq_of_levelsWithin? (n : Nat) {a : α} {visit : List α}
    (h : (g.levelsWithin? n [a] [a]).map List.flatten = some visit) : g.breadthFirst a = visit := by
  obtain ⟨levels, hlevels, rfl⟩ := Option.map_eq_some_iff.1 h
  rw [breadthFirst, g.levelsFrom_eq_of_levelsWithin? hlevels]

end Digraph
end VariableNaming
