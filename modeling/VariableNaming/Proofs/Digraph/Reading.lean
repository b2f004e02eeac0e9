import VariableNaming.Digraph.Reach

/-!
# What a search reads

A search through a graph reads the successors of some nodes.  Here a search is written out step by
step, with a record of what it reads.  Nothing but a bound on the reading makes it end: a search
that comes to one node of the graph more than it may read gives nothing.  That it need not read more
nodes than the graph has, and reads none of them twice, is what is proved of it.

* `Search` — what a search found, and what it read.
* `Visitor.search?` — one item after the other, with what is above an item before all that waits.
* `Visitor.exists_search?` — it comes to an end.
* `Visitor.isSome_found_search?_iff` — it finds something if there is something to be found.

The search level by level is in `VariableNaming.Proofs.Digraph.LevelReading`.
-/

set_option autoImplicit false

namespace VariableNaming

/-- What a search found, and the nodes whose successors it read, in order. -/
structure Search (α β : Type) where
  found : Option β
  read : List α

namespace Search

variable {α β : Type} {a : α} {done done' : List α} {x : Search α β}

/-- A search that read the successors of one node before. -/
def after (a : α) (x : Search α β) : Search α β := ⟨x.found, a :: x.read⟩

/-- The search read no node twice, and none that was done before. -/
structure Fresh (x : Search α β) (done : List α) : Prop where
  nodup : x.read.Nodup
  notMem {a : α} (h : a ∈ x.read) : a ∉ done

theorem fresh_nil (found : Option β) (done : List α) : Fresh ⟨found, []⟩ done :=
  ⟨List.nodup_nil, fun h => absurd h List.not_mem_nil⟩

theorem Fresh.mono (h : x.Fresh done') (hsub : done ⊆ done') : x.Fresh done :=
  ⟨h.nodup, fun ha hdone => h.notMem ha (hsub hdone)⟩

theorem Fresh.after (h : x.Fresh (a :: done)) (ha : a ∉ done) : (x.after a).Fresh done where
  nodup := List.nodup_cons.2 ⟨fun hread => h.notMem hread List.mem_cons_self, h.nodup⟩
  notMem {c} hc := by
    rcases List.mem_cons.1 hc with rfl | hc
    · exact ha
    · exact fun hdone => h.notMem hc (List.mem_cons_of_mem _ hdone)

end Search

variable {α ι β : Type} [DecidableEq α]

/-! ## One item after the other -/

/-- What a search does with an item. -/
structure Visitor (α ι β : Type) where
  /-- The node that the item stands for, if it stands for any. -/
  node? : ι → Option α
  /-- What the item tells by itself.  This ends the search. -/
  told? : ι → Option β
  /-- The items for the successors of the node, if they are read. -/
  above? : ι → Option (List ι)

namespace Visitor

/-- The search through the items of a list, when the nodes in `seen` have been looked at.  It may
read the successors of so many nodes and no more. -/
def search? (v : Visitor α ι β) (reads : Nat) (seen : List α) : List ι → Option (Search α β)
  | [] => some ⟨none, []⟩
  | i :: rest =>
    match v.node? i with
    | none => search? v reads seen rest
    | some a =>
      if a ∈ seen then search? v reads seen rest
      else
        match v.told? i with
        | some b => some ⟨some b, []⟩
        | none =>
          match v.above? i with
          | none => search? v reads (a :: seen) rest
          | some above =>
            match reads with
            | 0 => none
            | reads + 1 => (search? v reads (a :: seen) (above ++ rest)).map (·.after a)
termination_by pending => (reads, pending.length)

variable {v : Visitor α ι β} {reads : Nat} {seen : List α}

/-- **The search comes to an end.**  It is enough that it may read as many nodes of a graph as have
not been looked at, if it reads no others; and it reads none of them twice. -/
theorem exists_search? (g : Digraph α)
    (hnode : ∀ {i a above}, v.node? i = some a → v.above? i = some above → a ∈ g.nodes)
    (hreads : g.unseen seen ≤ reads) (pending : List ι) :
    ∃ x, v.search? reads seen pending = some x ∧ x.Fresh seen := by
  fun_induction search? v reads seen pending with
  | case1 reads seen => exact ⟨_, rfl, Search.fresh_nil _ _⟩
  | case2 reads seen i rest hi ih => exact ih hreads
  | case3 reads seen i rest a hi hseen ih => exact ih hreads
  | case4 reads seen i rest a hi hseen b hb => exact ⟨_, rfl, Search.fresh_nil _ _⟩
  | case5 reads seen i rest a hi hseen hb habove ih =>
    have hsub : seen ⊆ a :: seen := List.subset_cons_self a seen
    obtain ⟨x, hx, hfresh⟩ := ih (Nat.le_trans (g.unseen_le hsub) hreads)
    exact ⟨x, hx, hfresh.mono hsub⟩
  | case6 seen i rest a hi hseen hb above habove =>
    have hlt := g.unseen_lt (List.subset_cons_self a seen) (hnode hi habove) hseen
      List.mem_cons_self
    omega
  | case7 seen i rest a hi hseen hb above habove reads ih =>
    have hlt := g.unseen_lt (List.subset_cons_self a seen) (hnode hi habove) hseen
      List.mem_cons_self
    obtain ⟨x, hx, hfresh⟩ := ih (by omega)
    exact ⟨x.after a, by rw [hx, Option.map_some], hfresh.after hseen⟩

/-- What is found within a bound is found within every other that is not less. -/
theorem search?_mono {pending : List ι} {x : Search α β}
    (hx : v.search? reads seen pending = some x) {reads' : Nat} (hle : reads ≤ reads') :
    v.search? reads' seen pending = some x := by
  fun_induction search? v reads seen pending generalizing x reads' with
  | case1 reads seen => rwa [search?]
  | case2 reads seen i rest hi ih =>
    rw [search?, hi]
    exact ih hx hle
  | case3 reads seen i rest a hi hseen ih =>
    simp only [search?, hi, if_pos hseen]
    exact ih hx hle
  | case4 reads seen i rest a hi hseen b hb => simpa only [search?, hi, if_neg hseen, hb] using hx
  | case5 reads seen i rest a hi hseen hb habove ih =>
    simp only [search?, hi, if_neg hseen, hb, habove]
    exact ih hx hle
  | case6 seen i rest a hi hseen hb above habove => cases hx
  | case7 seen i rest a hi hseen hb above habove reads ih =>
    obtain ⟨y, hy, rfl⟩ := Option.map_eq_some_iff.1 hx
    cases reads' with
    | zero => exact absurd hle (Nat.not_succ_le_zero reads)
    | succ reads' =>
      simp only [search?, hi, if_neg hseen, hb, habove]
      rw [ih hy (Nat.le_of_succ_le_succ hle), Option.map_some]

/-! ### Searching nodes for a test -/

/-- The visitor of the nodes of a graph.  The successors of a node are put before all that waits,
the last of them first. -/
def ofDigraph (g : Digraph α) (test : α → Option β) : Visitor α α β where
  node? := some
  told? := test
  above? a := if a ∈ g.nodes then some (g.next a).reverse else none

variable {g : Digraph α} {test : α → Option β} {pending : List α} {x : Search α β}

theorem mem_nodes_of_above? {a : α} {above : List α}
    (h : (ofDigraph g test).above? a = some above) : a ∈ g.nodes ∧ above = (g.next a).reverse := by
  simpa [ofDigraph, eq_comm] using h

theorem next_eq_nil_of_above? {a : α} (h : (ofDigraph g test).above? a = none) : g.next a = [] :=
  g.next_eq_nil a (by simpa [ofDigraph] using h)

/-- What is found can be reached from one of the nodes. -/
theorem exists_reaches_of_found {b : β}
    (hx : (ofDigraph g test).search? reads seen pending = some x) (hb : x.found = some b) :
    ∃ a ∈ pending, ∃ c, g.Reaches a c ∧ test c = some b := by
  fun_induction search? (ofDigraph g test) reads seen pending generalizing x with
  | case1 reads seen =>
    obtain rfl := Option.some.inj hx
    cases hb
  | case2 reads seen i rest hi ih => cases hi
  | case3 reads seen i rest a hi hseen ih =>
    obtain ⟨d, hd, hreach⟩ := ih hx hb
    exact ⟨d, List.mem_cons_of_mem _ hd, hreach⟩
  | case4 reads seen i rest a hi hseen c hc =>
    obtain rfl := Option.some.inj hx
    obtain rfl := Option.some.inj hb
    exact ⟨i, List.mem_cons_self, i, .refl, hc⟩
  | case5 reads seen i rest a hi hseen hnone habove ih =>
    obtain ⟨d, hd, hreach⟩ := ih hx hb
    exact ⟨d, List.mem_cons_of_mem _ hd, hreach⟩
  | case6 seen i rest a hi hseen hnone above habove => cases hx
  | case7 seen i rest a hi hseen hnone above habove reads ih =>
    obtain ⟨y, hy, rfl⟩ := Option.map_eq_some_iff.1 hx
    obtain ⟨d, hd, c, hreach, hc⟩ := ih hy hb
    obtain ⟨-, rfl⟩ := mem_nodes_of_above? habove
    rcases List.mem_append.1 hd with hd | hd
    · have hedge : g.Reaches i d := .of_edge (List.mem_reverse.1 hd)
      exact ⟨i, List.mem_cons_self, c, hedge.trans hreach, hc⟩
    · exact ⟨d, List.mem_cons_of_mem _ hd, c, hreach, hc⟩

/-- What has been looked at was looked at in vain, and what is next to it has been looked at too or
is going to be. -/
def InVain (g : Digraph α) (test : α → Option β) (seen pending : List α) : Prop :=
  ∀ a ∈ seen, test a = none ∧ ∀ b ∈ g.next a, b ∈ seen ∨ b ∈ pending

omit [DecidableEq α] in
theorem InVain.skip {a : α} {rest : List α} (h : InVain g test seen (a :: rest)) (ha : a ∈ seen) :
    InVain g test seen rest := by
  refine fun c hc => ⟨(h c hc).1, fun b hb => ?_⟩
  rcases (h c hc).2 b hb with hb | hb
  · exact Or.inl hb
  · rcases List.mem_cons.1 hb with rfl | hb
    · exact Or.inl ha
    · exact Or.inr hb

omit [DecidableEq α] in
theorem InVain.visit {a : α} {rest above : List α} (h : InVain g test seen (a :: rest))
    (htest : test a = none) (habove : g.next a ⊆ above) :
    InVain g test (a :: seen) (above ++ rest) := by
  intro c hc
  rcases List.mem_cons.1 hc with rfl | hc
  · exact ⟨htest, fun b hb => Or.inr (List.mem_append_left _ (habove hb))⟩
  · refine ⟨(h c hc).1, fun b hb => ?_⟩
    rcases (h c hc).2 b hb with hb | hb
    · exact Or.inl (List.mem_cons_of_mem _ hb)
    · rcases List.mem_cons.1 hb with rfl | hb
      · exact Or.inl List.mem_cons_self
      · exact Or.inr (List.mem_append_right _ hb)

/-- Where nothing is found, nothing can be reached that would have been found. -/
theorem test_eq_none_of_found_eq_none
    (hx : (ofDigraph g test).search? reads seen pending = some x) (hnone : x.found = none)
    (hseen : InVain g test seen pending) {a c : α} (ha : a ∈ seen ∨ a ∈ pending)
    (hac : g.Reaches a c) : test c = none := by
  fun_induction search? (ofDigraph g test) reads seen pending generalizing x with
  | case1 reads seen =>
    have hclosed : ∀ a ∈ seen, ∀ b ∈ g.next a, b ∈ seen := fun a ha b hb =>
      ((hseen a ha).2 b hb).resolve_right List.not_mem_nil
    exact (hseen c (hac.mem_of_closed hclosed (ha.resolve_right List.not_mem_nil))).1
  | case2 reads seen i rest hi ih => cases hi
  | case3 reads seen i rest d hi hold ih =>
    obtain rfl := Option.some.inj hi
    refine ih hx hnone (hseen.skip hold) (ha.elim Or.inl fun ha => ?_)
    rcases List.mem_cons.1 ha with rfl | ha
    · exact Or.inl hold
    · exact Or.inr ha
  | case4 reads seen i rest d hi hold b hb =>
    obtain rfl := Option.some.inj hx
    cases hnone
  | case5 reads seen i rest d hi hold htest habove ih =>
    obtain rfl := Option.some.inj hi
    have hnext : g.next i ⊆ [] := by rw [next_eq_nil_of_above? habove]; exact List.Subset.refl _
    refine ih hx hnone (hseen.visit htest hnext) ?_
    simpa [or_comm, or_left_comm, or_assoc] using ha
  | case6 seen i rest d hi hold htest above habove => cases hx
  | case7 seen i rest d hi hold htest above habove reads ih =>
    obtain rfl := Option.some.inj hi
    obtain ⟨y, hy, rfl⟩ := Option.map_eq_some_iff.1 hx
    obtain ⟨-, rfl⟩ := mem_nodes_of_above? habove
    refine ih hy hnone (hseen.visit htest fun b hb => List.mem_reverse.2 hb) ?_
    rcases ha with ha | ha
    · exact Or.inl (List.mem_cons_of_mem _ ha)
    · rcases List.mem_cons.1 ha with rfl | ha
      · exact Or.inl List.mem_cons_self
      · exact Or.inr (List.mem_append_right _ ha)

/-- **Something is found exactly when something can be reached that is to be found.** -/
theorem isSome_found_search?_iff {a : α}
    (hx : (ofDigraph g test).search? reads [] [a] = some x) :
    x.found.isSome ↔ ∃ c, g.Reaches a c ∧ (test c).isSome := by
  constructor
  · intro hsome
    obtain ⟨b, hb⟩ := Option.isSome_iff_exists.1 hsome
    obtain ⟨d, hd, c, hreach, hc⟩ := exists_reaches_of_found hx hb
    obtain rfl := List.mem_singleton.1 hd
    exact ⟨c, hreach, by rw [hc]; rfl⟩
  · rintro ⟨c, hreach, hc⟩
    cases hfound : x.found with
    | some b => rfl
    | none =>
      have hnone := test_eq_none_of_found_eq_none hx hfound
        (fun d hd => absurd hd List.not_mem_nil) (Or.inr (List.mem_singleton_self a)) hreach
      rw [hnone] at hc
      exact hc

end Visitor

end VariableNaming
