import Mathlib.Data.List.Induction
import VariableNaming.Digraph.Reach
import VariableNaming.Proofs.Walk

/-!
# The order of a visit level by level

The visit of `VariableNaming.Digraph.Traversal` comes by the nodes in the order of the first walks
to them: the nodes that are nearer come before the others, and of nodes that are equally far the one
whose walk is lexicographically less comes before the other.

* `Level` — what is true of the levels: they hold the nodes at one distance, in order.
* `pairwise_breadthFirst` — the order of the whole visit.
* `findSome?_breadthFirst_eq_some_iff` — searching the visit for a goal gives the goal at the end of
  the first walk to any.
-/

set_option autoImplicit false

namespace VariableNaming
namespace Digraph

variable {α : Type} {g : Digraph α} {a : α}

/-! ## Walks and reachable nodes -/

theorem exists_follow_iff_reaches {b : α} :
    (∃ path, follow g.next a path = some b) ↔ g.Reaches a b := by
  constructor
  · rintro ⟨path, h⟩
    induction hn : path.length generalizing path b with
    | zero =>
      rw [List.length_eq_zero_iff] at hn
      subst hn
      cases h
      exact .refl
    | succ n ih =>
      obtain ⟨path', i, c, rfl, hlen, hc, hi⟩ := exists_snoc_of_follow h hn
      exact .step (ih path' hc hlen) (List.mem_of_getElem? hi)
  · intro h
    induction h with
    | refl => exact ⟨[], rfl⟩
    | step _ edge ih =>
      obtain ⟨path, hpath⟩ := ih
      obtain ⟨i, hi⟩ := List.getElem?_of_mem edge
      exact ⟨path ++ [i], follow_snoc hpath hi⟩

/-! ## Lists without repetitions, and of successors -/

variable [DecidableEq α]

/-- Dropping repetitions keeps the first of each: what is kept before an item is there before the
item is. -/
theorem pairwise_eraseDups (l : List α) :
    l.eraseDups.Pairwise fun b c => ∃ l₁ l₂, l = l₁ ++ b :: l₂ ∧ c ∉ l₁ ∧ c ≠ b := by
  induction l using List.reverseRecOn with
  | nil => simp
  | append_singleton l c ih =>
    rw [List.eraseDups_append, List.pairwise_append]
    refine ⟨ih.imp ?_, ?_, ?_⟩
    · rintro b d ⟨l₁, l₂, rfl, hd, hne⟩
      exact ⟨l₁, l₂ ++ [c], by simp, hd, hne⟩
    · by_cases hc : c ∈ l <;> simp [List.removeAll, hc, List.eraseDups_cons]
    · intro b hb d hd
      obtain ⟨l₁, l₂, rfl⟩ := List.append_of_mem (List.mem_eraseDups.1 hb)
      rw [List.mem_eraseDups, List.removeAll, List.mem_filter, List.mem_singleton] at hd
      obtain ⟨rfl, hd⟩ := hd
      simp only [List.elem_eq_mem, List.mem_append, List.mem_cons, Bool.not_eq_true',
        decide_eq_false_iff_not, not_or] at hd
      exact ⟨l₁, l₂ ++ [d], by simp, hd.1, hd.2.1⟩

omit [DecidableEq α] in
/-- An item of the successors of a list of nodes comes from one of them. -/
theorem exists_of_flatMap_eq {f : α → List α} {level l₁ l₂ : List α} {b : α}
    (h : level.flatMap f = l₁ ++ b :: l₂) :
    ∃ (as cs : List α) (c : α) (i : Nat), level = as ++ c :: cs ∧ (f c)[i]? = some b ∧
      l₁ = as.flatMap f ++ (f c).take i := by
  induction level generalizing l₁ with
  | nil => simp at h
  | cons d level ih =>
    rw [List.flatMap_cons, List.append_eq_append_iff] at h
    rcases h with ⟨m, rfl, h⟩ | ⟨m, hm, h⟩
    · obtain ⟨as, cs, c, i, rfl, hi, rfl⟩ := ih h
      exact ⟨d :: as, cs, c, i, rfl, hi, by simp⟩
    · cases m with
      | nil =>
        have hnil : level.flatMap f = [] ++ b :: l₂ := h.symm
        obtain ⟨as, cs, c, i, rfl, hi, hl⟩ := ih hnil
        refine ⟨d :: as, cs, c, i, rfl, hi, ?_⟩
        rw [List.flatMap_cons, List.append_assoc, ← hl, hm]
        simp
      | cons e m =>
        rw [List.cons_append, List.cons.injEq] at h
        obtain ⟨rfl, -⟩ := h
        exact ⟨[], level, d, l₁.length, rfl, by simp [hm], by simp [hm]⟩

/-! ## The levels in order -/

variable (g a) in
/-- A walk to `b` is sooner than every walk to `c`. -/
def Before (b c : α) : Prop :=
  ∃ path, follow g.next a path = some b ∧
    ∀ path', follow g.next a path' = some c → Sooner path path'

variable (g a) in
/-- What has been seen when the visit is at the nodes with a distance of `n` edges. -/
structure Level (n : Nat) (seen level : List α) : Prop where
  mem_seen {b : α} : b ∈ seen ↔ ∃ path, follow g.next a path = some b ∧ path.length ≤ n
  mem_level {b : α} : b ∈ level ↔ (∃ path, follow g.next a path = some b ∧ path.length = n) ∧
    ∀ path, follow g.next a path = some b → n ≤ path.length
  ordered : level.Pairwise (g.Before a)

omit [DecidableEq α] in
theorem level_start : g.Level a 0 [a] [a] where
  mem_seen {b} := by
    constructor
    · rintro hb
      rw [List.mem_singleton] at hb
      subst hb
      exact ⟨[], rfl, Nat.le_refl 0⟩
    · rintro ⟨path, hpath, hlen⟩
      obtain rfl : path = [] := by simpa using hlen
      cases hpath
      exact List.mem_singleton_self a
  mem_level {b} := by
    constructor
    · rintro hb
      rw [List.mem_singleton] at hb
      subst hb
      exact ⟨⟨[], rfl, rfl⟩, fun path _ => Nat.zero_le _⟩
    · rintro ⟨⟨path, hpath, hlen⟩, -⟩
      obtain rfl : path = [] := by simpa using hlen
      cases hpath
      exact List.mem_singleton_self a
  ordered := List.pairwise_singleton _ _

omit [DecidableEq α] in
/-- A successor that was not seen before comes from the level. -/
theorem Level.mem_level_of_edge {n : Nat} {seen level : List α} (h : g.Level a n seen level)
    {b c : α} {path : List Nat} (hpath : follow g.next a path = some b) (hlen : path.length = n)
    (hc : c ∈ g.next b) (hseen : c ∉ seen) : b ∈ level := by
  obtain ⟨i, hi⟩ := List.getElem?_of_mem hc
  refine h.mem_level.2 ⟨⟨path, hpath, hlen⟩, fun path' hpath' => ?_⟩
  by_contra hlt
  exact hseen (h.mem_seen.2 ⟨path' ++ [i], follow_snoc hpath' hi, by simp; omega⟩)

/-- What is seen after the next level: the nodes at a distance of one edge more. -/
theorem Level.mem_fresh_append {n : Nat} {seen level : List α} (h : g.Level a n seen level)
    {b : α} : b ∈ g.fresh seen level ++ seen ↔
      ∃ path, follow g.next a path = some b ∧ path.length ≤ n + 1 := by
  rw [List.mem_append, g.mem_fresh]
  constructor
  · rintro (⟨⟨c, hc, hb⟩, -⟩ | hb)
    · obtain ⟨⟨path, hpath, hlen⟩, -⟩ := h.mem_level.1 hc
      obtain ⟨i, hi⟩ := List.getElem?_of_mem hb
      exact ⟨path ++ [i], follow_snoc hpath hi, by simp [hlen]⟩
    · obtain ⟨path, hpath, hlen⟩ := h.mem_seen.1 hb
      exact ⟨path, hpath, by omega⟩
  · rintro ⟨path, hpath, hlen⟩
    by_cases hseen : b ∈ seen
    · exact Or.inr hseen
    · have hlong : path.length = n + 1 := by
        by_contra hne
        exact hseen (h.mem_seen.2 ⟨path, hpath, by omega⟩)
      obtain ⟨path', i, c, rfl, hlen', hc, hi⟩ := exists_snoc_of_follow hpath hlong
      have hb : b ∈ g.next c := List.mem_of_getElem? hi
      exact Or.inl ⟨⟨c, h.mem_level_of_edge hc hlen' hb hseen, hb⟩, hseen⟩

theorem Level.mem_fresh_iff {n : Nat} {seen level : List α} (h : g.Level a n seen level) {b : α} :
    b ∈ g.fresh seen level ↔ (∃ path, follow g.next a path = some b ∧ path.length = n + 1) ∧
      ∀ path, follow g.next a path = some b → n + 1 ≤ path.length := by
  constructor
  · intro hb
    have hfar : ∀ path, follow g.next a path = some b → n + 1 ≤ path.length := by
      intro path hpath
      by_contra hlt
      exact (g.mem_fresh.1 hb).2 (h.mem_seen.2 ⟨path, hpath, by omega⟩)
    obtain ⟨path, hpath, hlen⟩ := h.mem_fresh_append.1 (List.mem_append_left _ hb)
    exact ⟨⟨path, hpath, Nat.le_antisymm hlen (hfar path hpath)⟩, hfar⟩
  · rintro ⟨⟨path, hpath, hlen⟩, hfar⟩
    have hmem := h.mem_fresh_append.2 ⟨path, hpath, hlen.le⟩
    refine (List.mem_append.1 hmem).resolve_right fun hseen => ?_
    obtain ⟨path', hpath', hlen'⟩ := h.mem_seen.1 hseen
    have := hfar path' hpath'
    omega

/-- Of the successors of a level that come up in turn, the first walk to the one is sooner than
every walk to the other: their last edges leave the level in this order. -/
theorem Level.before_of_fresh {n : Nat} {seen level : List α} (h : g.Level a n seen level)
    {b c : α} (hc : c ∈ g.fresh seen level) {l₁ l₂ : List α}
    (hl : level.flatMap g.next = l₁ ++ b :: l₂) (hcl : c ∉ l₁) (hne : c ≠ b) :
    g.Before a b c := by
  obtain ⟨as, cs, d, i, rfl, hi, rfl⟩ := exists_of_flatMap_eq hl
  have hfar := (h.mem_fresh_iff.1 hc).2
  obtain ⟨⟨path, hpath, hlen⟩, -⟩ := h.mem_level.1 (List.mem_append_right as List.mem_cons_self)
  -- `b` is reached along the first walk to its predecessor `d`, and then the edge `i`
  obtain ⟨first, d', hfirst⟩ := exists_isFirst (· = d) hpath rfl
  obtain rfl := hfirst.goal_end
  have hflen : first.length = n := by
    have hnear := (h.mem_level.1 (List.mem_append_right as List.mem_cons_self)).2 first
      hfirst.follow_eq
    rcases hfirst.le hpath rfl with rfl | hlt
    · exact hlen
    · rcases List.shortlex_def.1 hlt with hlt | ⟨heq, -⟩ <;> omega
  refine ⟨first ++ [i], follow_snoc hfirst.follow_eq hi, fun path' hpath' => ?_⟩
  rcases Nat.lt_or_ge (n + 1) path'.length with hlong | hshort
  · exact .of_length_lt (by simpa [hflen] using hlong)
  obtain ⟨q, j, e, rfl, hqlen, hq, hj⟩ :=
    exists_snoc_of_follow hpath' (Nat.le_antisymm hshort (hfar path' hpath'))
  have hce : c ∈ g.next e := List.mem_of_getElem? hj
  simp only [List.mem_append, List.mem_flatMap, not_or, not_exists, not_and] at hcl
  rcases eq_or_ne e d' with rfl | hed
  · -- the same predecessor: the edges are in order
    have hij : i < j := by
      rcases Nat.lt_trichotomy i j with hlt | rfl | hgt
      · exact hlt
      · rw [hi] at hj
        exact absurd (Option.some.inj hj).symm hne
      · exact absurd (List.mem_of_getElem? ((List.getElem?_take_of_lt hgt).trans hj)) hcl.2
    have hlast : Sooner (first ++ [i]) (first ++ [j]) :=
      List.Shortlex.append_left ((List.shortlex_singleton_iff i j).2 hij) first
    rcases hfirst.le hq rfl with rfl | hlt
    · exact hlast
    · exact hlt.snoc (by omega) i j
  · -- another one: it comes later in the level
    have hlevel := h.mem_level_of_edge hq hqlen hce (g.mem_fresh.1 hc).2
    have hcs : e ∈ cs := by
      rcases List.mem_append.1 hlevel with he | he
      · exact absurd hce (hcl.1 e he)
      · exact (List.mem_cons.1 he).resolve_left hed
    obtain ⟨p, hp, hbefore⟩ :=
      (List.pairwise_cons.1 (List.pairwise_append.1 h.ordered).2.1).1 e hcs
    have hpq : Sooner first q := by
      rcases hfirst.le hp rfl with rfl | hlt
      · exact hbefore q hq
      · exact hlt.trans (hbefore q hq)
    exact hpq.snoc (by omega) i j

theorem Level.fresh {n : Nat} {seen level : List α} (h : g.Level a n seen level) :
    g.Level a (n + 1) (g.fresh seen level ++ seen) (g.fresh seen level) where
  mem_seen := h.mem_fresh_append
  mem_level := h.mem_fresh_iff
  ordered := by
    have hpair := (pairwise_eraseDups (level.flatMap g.next)).filter (· ∉ seen)
    refine hpair.imp_of_mem fun _ hc hbc => ?_
    obtain ⟨l₁, l₂, hl, hcl, hne⟩ := hbc
    exact h.before_of_fresh hc hl hcl hne

/-! ## The whole visit in order -/

theorem Level.pairwise_levelsFrom {n : Nat} {seen level : List α} (h : g.Level a n seen level) :
    (g.levelsFrom seen level).flatten.Pairwise (g.Before a) ∧
      ∀ b ∈ (g.levelsFrom seen level).flatten, ∀ path, follow g.next a path = some b →
        n ≤ path.length := by
  fun_induction levelsFrom g seen level generalizing n with
  | case1 seen level _ =>
    simp only [List.flatten_cons, List.flatten_nil, List.append_nil]
    exact ⟨h.ordered, fun b hb => (h.mem_level.1 hb).2⟩
  | case2 seen level _ ih =>
    obtain ⟨hpair, hfar⟩ := ih h.fresh
    rw [List.flatten_cons]
    refine ⟨List.pairwise_append.2 ⟨h.ordered, hpair, fun b hb c hc => ?_⟩,
      fun b hb path hpath => ?_⟩
    · obtain ⟨⟨path, hpath, hlen⟩, -⟩ := h.mem_level.1 hb
      refine ⟨path, hpath, fun path' hpath' => .of_length_lt ?_⟩
      have := hfar c hc path' hpath'
      omega
    · rcases List.mem_append.1 hb with hb | hb
      · exact (h.mem_level.1 hb).2 path hpath
      · have := hfar b hb path hpath
        omega

/-- **The visit goes by first walks.**  Of two nodes the one that is visited earlier has a walk that
is sooner than every walk to the other. -/
theorem pairwise_breadthFirst : (g.breadthFirst a).Pairwise (g.Before a) :=
  level_start.pairwise_levelsFrom.1

/-- **A search of the visit ends at the first goal.** -/
theorem findSome?_breadthFirst_eq_some_iff {β : Type} {f : α → Option β} {x : β} :
    (g.breadthFirst a).findSome? f = some x ↔
      ∃ path b, IsFirst g.next a (fun c => (f c).isSome) path b ∧ f b = some x := by
  have hmp : ∀ {y}, (g.breadthFirst a).findSome? f = some y →
      ∃ path b, IsFirst g.next a (fun c => (f c).isSome) path b ∧ f b = some y := by
    intro y h
    obtain ⟨l₁, b, l₂, hl, hb, hnone⟩ := List.findSome?_eq_some_iff.1 h
    have hmem : b ∈ g.breadthFirst a := by simp [hl]
    obtain ⟨path, hpath⟩ := exists_follow_iff_reaches.2 (g.mem_breadthFirst.1 hmem)
    obtain ⟨first, c, hfirst⟩ := exists_isFirst (· = b) hpath rfl
    obtain rfl := hfirst.goal_end
    refine ⟨first, c, ⟨hfirst.follow_eq, by simp [hb], fun {path' b'} hpath' hb' => ?_⟩, hb⟩
    have hvisit : b' ∈ l₁ ++ c :: l₂ :=
      hl ▸ g.mem_breadthFirst.2 (exists_follow_iff_reaches.1 ⟨path', hpath'⟩)
    rcases List.mem_append.1 hvisit with hl₁ | hl₂
    · simp [hnone b' hl₁] at hb'
    · rcases List.mem_cons.1 hl₂ with rfl | hl₂
      · exact hfirst.le hpath' rfl
      · have hord := g.pairwise_breadthFirst (a := a)
        rw [hl] at hord
        obtain ⟨p, hp, hbefore⟩ :=
          (List.pairwise_cons.1 (List.pairwise_append.1 hord).2.1).1 b' hl₂
        rcases hfirst.le hp rfl with rfl | hlt
        · exact Or.inr (hbefore path' hpath')
        · exact Or.inr (hlt.trans (hbefore path' hpath'))
  refine ⟨hmp, ?_⟩
  rintro ⟨path, b, hfirst, hb⟩
  have hmem := g.mem_breadthFirst.2 (exists_follow_iff_reaches.1 ⟨path, hfirst.follow_eq⟩)
  obtain ⟨y, hy⟩ := Option.isSome_iff_exists.1
    (List.findSome?_isSome_iff.2 ⟨b, hmem, hfirst.goal_end⟩)
  obtain ⟨path', b', hfirst', hb'⟩ := hmp hy
  rw [hfirst.unique hfirst', hb'] at hb
  rw [hy, hb]

end Digraph
end VariableNaming
