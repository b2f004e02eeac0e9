import Mathlib.Data.List.Induction
import VariableNaming.Proofs.Digraph.Reading

/-!
# What a search level by level reads

A search level by level reads the nodes of one level after the other.  It tries a node when it sees
the node for the first time, and before it reads anything more; what it has tried in vain makes the
next level.  It is the visit of `VariableNaming.Digraph.Traversal`, cut off at the first node that
is to be found.

* `levelSearch?` — the search, with a bound on what it reads.
* `Waiting` — what is true of the nodes that wait to be read.
* `exists_levelSearch?` — the search comes to an end.
* `ahead` — the nodes that the visit has yet to come by when it is in the middle of a level.
* `found_levelSearch?_eq_findSome?_breadthFirst` — the search finds what the visit comes by first.
-/

set_option autoImplicit false

namespace VariableNaming
namespace Digraph

variable {α β : Type} [DecidableEq α] (g : Digraph α)

/-- The search for what `f` finds, level by level.  The nodes of `level` are those of a level that
are still to be read, and those of `next` make the level after it.  A node is tried when it is seen
for the first time.  Only the nodes of the graph count among the reads: the others have no
successors. -/
def levelSearch? (f : α → Option β) (reads : Nat) (seen next : List α) :
    List α → Option (Search α β)
  | [] => if next = [] then some ⟨none, []⟩ else levelSearch? f reads seen [] next
  | a :: level =>
    if a ∈ g.nodes then
      match reads with
      | 0 => none
      | reads + 1 =>
        match (g.fresh seen [a]).findSome? f with
        | some b => some (Search.after a ⟨some b, []⟩)
        | none =>
          (levelSearch? f reads (g.fresh seen [a] ++ seen) (next ++ g.fresh seen [a]) level).map
            (·.after a)
    else (levelSearch? f reads seen next level).map (·.after a)
termination_by level => (reads, level.length + next.length, next.length)
decreasing_by
  · rename_i hnext
    have hlen : 0 < next.length := List.length_pos_iff.2 hnext
    simp [Prod.lex_def, hlen]
  · simp [Prod.lex_def]
  · simp [Prod.lex_def]

variable {g} {f : α → Option β} {reads : Nat} {seen next level : List α}

/-! ## It comes to an end -/

/-- What waits to be read has been seen, waits once, and has not been read before. -/
structure Waiting (done seen waiting : List α) : Prop where
  done_subset : done ⊆ seen
  subset : waiting ⊆ seen
  apart {a : α} (h : a ∈ waiting) : a ∉ done
  nodup : waiting.Nodup

omit [DecidableEq α] in
/-- What is new when the first is read waits behind the others. -/
theorem Waiting.read {done seen waiting new : List α} {a : α}
    (h : Waiting done seen (a :: waiting)) (hnodup : new.Nodup) (hnew : ∀ b ∈ new, b ∉ seen) :
    Waiting (a :: done) (new ++ seen) (waiting ++ new) := by
  obtain ⟨ha, hwaiting⟩ := List.nodup_cons.1 h.nodup
  have hseen : waiting ⊆ seen := fun b hb => h.subset (List.mem_cons_of_mem _ hb)
  refine ⟨?_, ?_, fun {b} hb => ?_, ?_⟩
  · refine fun b hb => List.mem_append_right _ ?_
    rcases List.mem_cons.1 hb with rfl | hb
    · exact h.subset List.mem_cons_self
    · exact h.done_subset hb
  · intro b hb
    rcases List.mem_append.1 hb with hb | hb
    · exact List.mem_append_right _ (hseen hb)
    · exact List.mem_append_left _ hb
  · rw [List.mem_cons, not_or]
    rcases List.mem_append.1 hb with hb | hb
    · exact ⟨fun heq => ha (heq ▸ hb), h.apart (List.mem_cons_of_mem _ hb)⟩
    · exact ⟨fun heq => hnew b hb (heq ▸ h.subset List.mem_cons_self),
        fun hdone => hnew b hb (h.done_subset hdone)⟩
  · refine List.nodup_append.2 ⟨hwaiting, hnodup, ?_⟩
    rintro b hb _ hb' rfl
    exact hnew b hb' (hseen hb)

/-- **The search comes to an end.**  It is enough that it may read as many nodes of the graph as
have not been read before, and it reads no node twice. -/
theorem exists_levelSearch? {done : List α} (hwaiting : Waiting done seen (level ++ next))
    (hreads : g.unseen done ≤ reads) :
    ∃ x, g.levelSearch? f reads seen next level = some x ∧ x.Fresh done := by
  fun_induction levelSearch? g f reads seen next level generalizing done with
  | case1 reads seen => exact ⟨_, rfl, Search.fresh_nil _ _⟩
  | case2 reads seen next hnext ih => exact ih (by simpa using hwaiting) hreads
  | case3 seen next a level hnode =>
    have hlt := g.unseen_lt (List.subset_cons_self a done) hnode
      (hwaiting.apart List.mem_cons_self) List.mem_cons_self
    omega
  | case4 seen next a level hnode reads b hb =>
    exact ⟨_, rfl, (Search.fresh_nil _ _).after (hwaiting.apart List.mem_cons_self)⟩
  | case5 seen next a level hnode reads hnone ih =>
    have hold : a ∉ done := hwaiting.apart List.mem_cons_self
    have hlt := g.unseen_lt (List.subset_cons_self a done) hnode hold List.mem_cons_self
    have hnext := hwaiting.read (g.nodup_fresh seen [a]) fun b hb => (g.mem_fresh.1 hb).2
    obtain ⟨x, hx, hfresh⟩ := ih (by simpa using hnext) (by omega)
    exact ⟨x.after a, by rw [hx, Option.map_some], hfresh.after hold⟩
  | case6 reads seen next a level hnode ih =>
    have hold : a ∉ done := hwaiting.apart List.mem_cons_self
    have hnext := hwaiting.read List.nodup_nil fun b hb => absurd hb List.not_mem_nil
    have hunread := g.unseen_le (List.subset_cons_self a done)
    obtain ⟨x, hx, hfresh⟩ := ih (by simpa using hnext) (Nat.le_trans hunread hreads)
    exact ⟨x.after a, by rw [hx, Option.map_some], hfresh.after hold⟩

/-- What is found within a bound is found within every other that is not less. -/
theorem levelSearch?_mono {x : Search α β} (hx : g.levelSearch? f reads seen next level = some x)
    {reads' : Nat} (hle : reads ≤ reads') :
    g.levelSearch? f reads' seen next level = some x := by
  fun_induction levelSearch? g f reads seen next level generalizing x reads' with
  | case1 reads seen => rwa [levelSearch?, if_pos rfl]
  | case2 reads seen next hnext ih =>
    rw [levelSearch?, if_neg hnext]
    exact ih hx hle
  | case3 seen next a level hnode => cases hx
  | case4 seen next a level hnode reads b hb =>
    cases reads' with
    | zero => exact absurd hle (Nat.not_succ_le_zero reads)
    | succ reads' => simpa only [levelSearch?, if_pos hnode, hb] using hx
  | case5 seen next a level hnode reads hnone ih =>
    obtain ⟨y, hy, rfl⟩ := Option.map_eq_some_iff.1 hx
    cases reads' with
    | zero => exact absurd hle (Nat.not_succ_le_zero reads)
    | succ reads' =>
      simp only [levelSearch?, if_pos hnode, hnone]
      rw [ih hy (Nat.le_of_succ_le_succ hle), Option.map_some]
  | case6 reads seen next a level hnode ih =>
    obtain ⟨y, hy, rfl⟩ := Option.map_eq_some_iff.1 hx
    rw [levelSearch?.eq_def]
    simp only [if_neg hnode]
    rw [ih hy hle, Option.map_some]

/-! ## It comes by the nodes in the order of the visit -/

theorem filter_eraseDups (p : α → Bool) (l : List α) :
    (l.filter p).eraseDups = l.eraseDups.filter p := by
  induction l using List.reverseRecOn with
  | nil => rfl
  | append_singleton l c ih =>
    rw [List.filter_append, List.eraseDups_append, List.eraseDups_append, List.filter_append, ih]
    by_cases hp : p c = true <;> by_cases hc : c ∈ l <;>
      simp [List.removeAll, hp, hc, List.eraseDups_cons]

/-- What is new in a level: what is new next to the first of its nodes, then what is new next to the
others when this has been seen. -/
theorem fresh_cons (seen level : List α) (a : α) :
    g.fresh seen (a :: level) =
      g.fresh seen [a] ++ g.fresh (g.fresh seen [a] ++ seen) level := by
  rw [fresh, List.flatMap_cons, List.eraseDups_append, List.filter_append, List.removeAll,
    filter_eraseDups, List.filter_filter]
  congr 1
  · simp [fresh]
  · refine List.filter_congr fun b _ => ?_
    simp only [List.elem_eq_mem, List.mem_append, mem_fresh, List.mem_singleton, exists_eq_left]
    by_cases hb : b ∈ g.next a <;> by_cases hseen : b ∈ seen <;> simp [hb, hseen]

/-- The order in which nodes were seen makes no difference. -/
theorem levelsFrom_congr_seen {seen' : List α} (h : ∀ a, a ∈ seen ↔ a ∈ seen') :
    g.levelsFrom seen level = g.levelsFrom seen' level := by
  have hfresh (level : List α) : g.fresh seen level = g.fresh seen' level :=
    List.filter_congr fun a _ => by simp [h]
  fun_induction levelsFrom g seen level generalizing seen' with
  | case1 seen level hnil => rw [levelsFrom, if_pos (hfresh level ▸ hnil)]
  | case2 seen level hne ih =>
    have hnext : ∀ a, a ∈ g.fresh seen level ++ seen ↔ a ∈ g.fresh seen' level ++ seen' := by
      simp [hfresh, h]
    rw [levelsFrom.eq_def g seen', if_neg (hfresh level ▸ hne)]
    rw [ih hnext fun level => List.filter_congr fun a _ => by simp [hnext], hfresh]

variable (g) in
/-- The nodes that the visit comes by after a level. -/
def later (seen level : List α) : List α := (g.levelsFrom seen level).tail.flatten

theorem flatten_levelsFrom (seen level : List α) :
    (g.levelsFrom seen level).flatten = level ++ g.later seen level := by
  rw [later, levelsFrom]
  split <;> simp

theorem later_of_fresh_eq_nil (h : g.fresh seen level = []) : g.later seen level = [] := by
  rw [later, levelsFrom, if_pos h]
  rfl

theorem later_nil (seen : List α) : g.later seen [] = [] := later_of_fresh_eq_nil rfl

/-- After a level come the nodes that are new in it, and those after them. -/
theorem later_eq (seen level : List α) :
    g.later seen level =
      g.fresh seen level ++ g.later (g.fresh seen level ++ seen) (g.fresh seen level) := by
  by_cases h : g.fresh seen level = []
  · rw [later_of_fresh_eq_nil h, h, later_nil, List.append_nil]
  · rw [← flatten_levelsFrom, later, levelsFrom, if_neg h, List.tail_cons]

theorem later_congr_seen {seen' : List α} (h : ∀ a, a ∈ seen ↔ a ∈ seen') :
    g.later seen level = g.later seen' level := by
  rw [later, later, levelsFrom_congr_seen h]

variable (g) in
/-- The nodes that are going to be seen, in order, when the nodes of `level` are still to be read
and those of `next` come after them. -/
def ahead (seen next level : List α) : List α :=
  g.fresh seen level ++ g.later (g.fresh seen level ++ seen) (next ++ g.fresh seen level)

theorem ahead_nil (seen next : List α) : g.ahead seen next [] = g.ahead seen [] next := by
  have hfresh : g.fresh seen [] = [] := rfl
  rw [ahead, ahead, hfresh]
  simpa using later_eq seen next

theorem ahead_cons (seen next level : List α) (a : α) :
    g.ahead seen next (a :: level) = g.fresh seen [a] ++
      g.ahead (g.fresh seen [a] ++ seen) (next ++ g.fresh seen [a]) level := by
  rw [ahead, ahead, fresh_cons, List.append_assoc, List.append_assoc, List.append_assoc]
  refine congrArg _ (congrArg _ (later_congr_seen fun b => ?_))
  simp [or_left_comm]

/-- The search finds the first that there is to find among the nodes that are going to be seen. -/
theorem found_levelSearch? {x : Search α β}
    (hx : g.levelSearch? f reads seen next level = some x) :
    x.found = (g.ahead seen next level).findSome? f := by
  fun_induction levelSearch? g f reads seen next level generalizing x with
  | case1 reads seen =>
    obtain rfl := Option.some.inj hx
    simp [ahead, fresh, later_nil]
  | case2 reads seen next hnext ih => rw [ahead_nil, ih hx]
  | case3 seen next a level hnode => cases hx
  | case4 seen next a level hnode reads b hb =>
    obtain rfl := Option.some.inj hx
    rw [ahead_cons, List.findSome?_append, hb]
    rfl
  | case5 seen next a level hnode reads hnone ih =>
    obtain ⟨y, hy, rfl⟩ := Option.map_eq_some_iff.1 hx
    rw [ahead_cons, List.findSome?_append, hnone, ← ih hy]
    rfl
  | case6 reads seen next a level hnode ih =>
    obtain ⟨y, hy, rfl⟩ := Option.map_eq_some_iff.1 hx
    have hfresh : g.fresh seen [a] = [] := by simp [fresh, g.next_eq_nil a hnode]
    rw [ahead_cons, hfresh, List.nil_append, List.nil_append, List.append_nil, ← ih hy]
    rfl

/-- **What is found is what the visit comes by first**, if it is not the start. -/
theorem found_levelSearch?_eq_findSome?_breadthFirst {x : Search α β} {a : α}
    (hx : g.levelSearch? f reads [a] [] [a] = some x) (ha : f a = none) :
    x.found = (g.breadthFirst a).findSome? f := by
  have hahead : g.ahead [a] [] [a] = g.later [a] [a] := (later_eq [a] [a]).symm
  rw [found_levelSearch? hx, hahead, breadthFirst, flatten_levelsFrom, List.singleton_append,
    List.findSome?_cons, ha]

end Digraph
end VariableNaming
