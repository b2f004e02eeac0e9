import Mathlib.Data.List.Shortlex

/-!
# Walks told by numbers

Where every node lists its successors in an order, a walk from a node is told by the numbers of the
edges that it takes, counted from 0.

* `follow` — the node at the end of a walk, if every number on the way belongs to an edge.
* `trail` — the nodes that it comes by.
* `IsFirst` — a walk to some goal that comes before every other one: it is shorter, or as long and
  lexicographically less.  `exists_isFirst` says that there is one whenever the goal can be reached.
-/

set_option autoImplicit false

namespace VariableNaming

variable {α : Type} {next : α → List α}

/-- The node at the end of the walk from `a` along the edges with these numbers. -/
def follow (next : α → List α) (a : α) (path : List Nat) : Option α :=
  path.foldlM (fun b i => (next b)[i]?) a

@[simp] theorem follow_nil (a : α) : follow next a [] = some a := rfl

@[simp] theorem follow_cons (a : α) (i : Nat) (path : List Nat) :
    follow next a (i :: path) = (next a)[i]?.bind fun b => follow next b path := rfl

@[simp] theorem follow_append (a : α) (path path' : List Nat) :
    follow next a (path ++ path') =
      (follow next a path).bind fun b => follow next b path' := by
  simp [follow]

/-- Where every numbered edge stays, every walk does. -/
theorem follow_mono {next' : α → List α}
    (h : ∀ {a b : α} {i : Nat}, (next a)[i]? = some b → (next' a)[i]? = some b) {a b : α}
    {path : List Nat} (hpath : follow next a path = some b) : follow next' a path = some b := by
  induction path generalizing a with
  | nil => exact hpath
  | cons i path ih =>
    rw [follow_cons] at hpath ⊢
    obtain ⟨c, hc, hpath⟩ := Option.bind_eq_some_iff.1 hpath
    rw [h hc]
    exact ih hpath

/-- A walk with one edge more. -/
theorem follow_snoc {a b c : α} {path : List Nat} {i : Nat} (h : follow next a path = some b)
    (hi : (next b)[i]? = some c) : follow next a (path ++ [i]) = some c := by
  simp [h, hi]

/-- A walk that has edges has a last one. -/
theorem exists_snoc_of_follow {a c : α} {path : List Nat} {n : Nat}
    (h : follow next a path = some c) (hn : path.length = n + 1) :
    ∃ (path' : List Nat) (i : Nat) (b : α), path = path' ++ [i] ∧ path'.length = n ∧
      follow next a path' = some b ∧ (next b)[i]? = some c := by
  rcases List.eq_nil_or_concat' path with rfl | ⟨path', i, rfl⟩
  · simp at hn
  · rw [follow_append] at h
    obtain ⟨b, hb, hi⟩ := Option.bind_eq_some_iff.1 h
    exact ⟨path', i, b, rfl, by simpa using hn, hb, by simpa using hi⟩

/-- The nodes that a walk comes by, its start among them. -/
def trail (next : α → List α) (a : α) : List Nat → List α
  | [] => [a]
  | i :: path => a :: (next a)[i]?.elim [] fun b => trail next b path

@[simp] theorem trail_nil (a : α) : trail next a [] = [a] := rfl

theorem trail_cons {a b : α} {i : Nat} (hi : (next a)[i]? = some b) (path : List Nat) :
    trail next a (i :: path) = a :: trail next b path := by
  simp [trail, hi]

theorem start_mem_trail (a : α) (path : List Nat) : a ∈ trail next a path := by
  cases path <;> simp [trail]

/-! ## Which walk comes first -/

/-- The walk is shorter, or as long and lexicographically less. -/
abbrev Sooner (path path' : List Nat) : Prop := List.Shortlex (· < ·) path path'

theorem Sooner.trans {p q r : List Nat} (hpq : Sooner p q) (hqr : Sooner q r) : Sooner p r := by
  rw [Sooner, List.shortlex_def] at *
  rcases hpq with hpq | ⟨hpq, hpq'⟩
  · exact Or.inl (by omega)
  · rcases hqr with hqr | ⟨hqr, hqr'⟩
    · exact Or.inl (by omega)
    · exact Or.inr ⟨hpq.trans hqr, lt_trans (a := p) hpq' hqr'⟩

/-- What follows two lists of one length does not change which one is less. -/
theorem lex_append_of_length_eq {p q : List Nat} (h : List.Lex (· < ·) p q)
    (hlen : p.length = q.length) (p' q' : List Nat) : List.Lex (· < ·) (p ++ p') (q ++ q') := by
  induction h with
  | nil => simp at hlen
  | cons _ ih => exact .cons (ih (by simpa using hlen))
  | rel h => exact .rel h

/-- Of two walks of one length the sooner stays the sooner with one edge more on each. -/
theorem Sooner.snoc {p q : List Nat} (h : Sooner p q) (hlen : p.length = q.length) (i j : Nat) :
    Sooner (p ++ [i]) (q ++ [j]) := by
  rw [Sooner, List.shortlex_iff_lex hlen] at h
  exact .of_lex (by simp [hlen]) (lex_append_of_length_eq h hlen [i] [j])

/-- The walk leads from `a` to a goal, and is sooner than every other one that does. -/
structure IsFirst (next : α → List α) (a : α) (goal : α → Prop) (path : List Nat) (b : α) :
    Prop where
  follow_eq : follow next a path = some b
  goal_end : goal b
  le {path' : List Nat} {b' : α} (h : follow next a path' = some b') (hb' : goal b') :
    path = path' ∨ Sooner path path'

/-- If a goal can be reached at all, one of the walks to a goal is the first. -/
theorem exists_isFirst {a b : α} (goal : α → Prop) {path : List Nat}
    (h : follow next a path = some b) (hb : goal b) :
    ∃ (first : List Nat) (c : α), IsFirst next a goal first c := by
  have hwf : WellFounded Sooner := List.Shortlex.wf Nat.lt_wfRel.wf
  obtain ⟨first, ⟨c, hc, hgoal⟩, hmin⟩ :=
    hwf.has_min {p | ∃ c, follow next a p = some c ∧ goal c} ⟨path, b, h, hb⟩
  refine ⟨first, c, hc, hgoal, fun {path' b'} h' hb' => ?_⟩
  exact (Std.Trichotomous.rel_or_eq_or_rel_swap (r := Sooner)).elim Or.inr fun h => h.elim Or.inl
    fun hlt => absurd hlt (hmin path' ⟨b', h', hb'⟩)

/-- There is no other first walk. -/
theorem IsFirst.unique {a b b' : α} {goal : α → Prop} {path path' : List Nat}
    (h : IsFirst next a goal path b) (h' : IsFirst next a goal path' b') : b = b' := by
  have hpath : path = path' := by
    rcases h.le h'.follow_eq h'.goal_end with heq | hlt
    · exact heq
    · rcases h'.le h.follow_eq h.goal_end with heq | hgt
      · exact heq.symm
      · exact absurd hgt (Std.Asymm.asymm _ _ hlt)
  have hend := h.follow_eq
  rw [hpath, h'.follow_eq] at hend
  exact (Option.some.inj hend).symm

end VariableNaming
