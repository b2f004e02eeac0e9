import VariableNaming.Proofs.ElementType.Visits
import VariableNaming.Proofs.TypeRef.Substitution
import VariableNaming.Proofs.TypeStore.Growth

/-!
# Type parameters on the way up

A type parameter is a bare position, which means nothing without the type that declares it.  The
clauses of a type mention the parameters of this type, and the search for an element type goes from
a reference to its clauses with the arguments of the reference in their place.  So the only
parameters that it ever comes by are those of the declaration that it began with.

* `offered` — every reference that the search takes up, be it to visit it or to pass it over.
* `mentions_of_superRef`, `mentions_of_follow` — the parameters of one step, and of a walk.
* `follow_substitute` — the walk from an instance of a declaration leads to an instance.
* `parameters_of_offered` — no parameter of a clause is taken for one of another type.
-/

set_option autoImplicit false

namespace VariableNaming
namespace TypeStore

open TypeRef (Mentions)

variable {s : TypeStore} {declared q r : TypeRef} {i k : Nat} {path : List Nat}

/-! ## One step up -/

/-- A supertype is a clause with the arguments of the reference in it. -/
theorem exists_clause_of_superRef (hr : r ∈ s.superRefs q) :
    ∃ t info clause, q.raw? = some t ∧ s.get? t = some info ∧ clause ∈ info.supertypes ∧
      r = clause.substitute q.args := by
  cases hq : q.raw? with
  | none => simp [superRefs, hq] at hr
  | some t =>
    cases hinfo : s.get? t with
    | none => simp [superRefs, hq, hinfo] at hr
    | some info =>
      cases hroot : info.marks.collection with
      | true => simp [superRefs, hq, hinfo, hroot] at hr
      | false =>
        have hmap : r ∈ info.supertypes.map (TypeRef.substitute q.args) := by
          simpa [superRefs, hq, hinfo, hroot] using hr
        obtain ⟨clause, hclause, rfl⟩ := List.mem_map.1 hmap
        exact ⟨t, info, clause, rfl, hinfo, hclause, rfl⟩

/-- A supertype mentions no parameter that the reference does not mention. -/
theorem mentions_of_superRef (hr : r ∈ s.superRefs q) (hk : Mentions k r) : Mentions k q := by
  obtain ⟨t, info, clause, hq, -, -, rfl⟩ := exists_clause_of_superRef hr
  obtain ⟨i, a, -, ha, hk⟩ := TypeRef.mentions_substitute_iff.1 hk
  rw [TypeRef.raw?_eq_some_iff.1 hq]
  exact .inside (List.mem_of_getElem? ha) hk

/-- The supertypes of an instance are instances of the supertypes, in the same order. -/
theorem superRef_substitute (hr : (s.superRefs q)[i]? = some r) (as : List TypeRef) :
    (s.superRefs (q.substitute as))[i]? = some (r.substitute as) := by
  obtain ⟨t, -, -, hq, -⟩ := exists_clause_of_superRef (List.mem_of_getElem? hr)
  rw [TypeRef.raw?_eq_some_iff.1 hq] at hr ⊢
  rw [superRefs_substitute, List.getElem?_map, hr, Option.map_some]

/-! ## A walk -/

theorem mentions_of_follow (h : follow s.superRefs q path = some r) (hk : Mentions k r) :
    Mentions k q := by
  induction path generalizing q with
  | nil =>
    obtain rfl := Option.some.inj h
    exact hk
  | cons i path ih =>
    obtain ⟨p, hp, h⟩ := Option.bind_eq_some_iff.1 (follow_cons q i path ▸ h)
    exact mentions_of_superRef (List.mem_of_getElem? hp) (ih h)

/-- **The walk from an instance leads to an instance**, whatever is put in place of the parameters.
-/
theorem follow_substitute (h : follow s.superRefs q path = some r) (as : List TypeRef) :
    follow s.superRefs (q.substitute as) path = some (r.substitute as) := by
  induction path generalizing q with
  | nil =>
    obtain rfl := Option.some.inj h
    rfl
  | cons i path ih =>
    obtain ⟨p, hp, h⟩ := Option.bind_eq_some_iff.1 (follow_cons q i path ▸ h)
    rw [follow_cons, superRef_substitute hp as]
    exact ih h

/-! ## The search -/

/-- The references that the search from a declaration takes up, be it to visit them or to pass them
over: the declaration, and what is above a visited reference. -/
def offered (s : TypeStore) (declared : TypeRef) : List TypeRef :=
  declared :: (s.visits declared).flatMap s.superRefs

/-- What is visited was to be visited, or is above another visited reference. -/
theorem mem_pending_or_superRef_of_mem_visitsFrom {seen : List TypeId} {pending : List TypeRef}
    (hr : r ∈ s.visitsFrom seen pending) :
    r ∈ pending ∨ ∃ q ∈ s.visitsFrom seen pending, r ∈ s.superRefs q := by
  induction seen, pending using visits_induct s with
  | nil seen => simp at hr
  | skip seen q rest hq ih =>
    rw [visitsFrom_cons_of_skipped hq] at hr ⊢
    exact (ih hr).imp_left (List.mem_cons_of_mem _)
  | visit seen raw args rest hraw ihabove ihrest =>
    rw [visitsFrom_cons_of_notMem hraw] at hr ⊢
    rcases List.mem_cons.1 hr with rfl | hr
    · exact Or.inl List.mem_cons_self
    · refine (List.mem_append.1 hr).elim (fun hr => ?_) fun hr => ?_
      · rcases ihabove hr with hr | ⟨q, hq, hr⟩
        · exact Or.inr ⟨_, List.mem_cons_self, hr⟩
        · exact Or.inr ⟨q, List.mem_cons_of_mem _ (List.mem_append_left _ hq), hr⟩
      · rcases ihrest hr with hr | ⟨q, hq, hr⟩
        · exact Or.inl (List.mem_cons_of_mem _ hr)
        · exact Or.inr ⟨q, List.mem_cons_of_mem _ (List.mem_append_right _ hq), hr⟩

theorem visits_subset_offered (s : TypeStore) (declared : TypeRef) :
    s.visits declared ⊆ s.offered declared := by
  intro r hr
  rcases mem_pending_or_superRef_of_mem_visitsFrom hr with hr | ⟨q, hq, hr⟩
  · exact List.mem_cons.2 (Or.inl (List.mem_singleton.1 hr))
  · exact List.mem_cons_of_mem _ (List.mem_flatMap.2 ⟨q, hq, hr⟩)

/-- What is taken up is at the end of a walk. -/
theorem exists_follow_of_mem_offered (hr : r ∈ s.offered declared) :
    ∃ path, follow s.superRefs declared path = some r := by
  rcases List.mem_cons.1 hr with rfl | hr
  · exact ⟨[], rfl⟩
  · obtain ⟨q, hq, habove⟩ := List.mem_flatMap.1 hr
    obtain ⟨p, hp, path, hpath, -⟩ := exists_trail_subset_visitsFrom hq
    obtain rfl := List.mem_singleton.1 hp
    obtain ⟨i, hi⟩ := List.getElem?_of_mem habove
    exact ⟨path ++ [i], follow_snoc hpath hi⟩

/-- **No parameter is captured.**  Whatever the search visits, it has taken up; and what it takes up
mentions only parameters that the declaration mentions itself.  It mentions none at all, and no
arguments change it, if the declaration mentions none.  In general it is reached on a walk that
leads from an instance of the declaration to the same instance of it: its parameters are those of
the declaration, and no clause on the way has added one of its own. -/
theorem parameters_of_offered (s : TypeStore) (declared : TypeRef) :
    s.visits declared ⊆ s.offered declared ∧
      ∀ r ∈ s.offered declared,
        (∀ k, Mentions k r → Mentions k declared) ∧
        ((∀ k, ¬ Mentions k declared) →
          (∀ k, ¬ Mentions k r) ∧ ∀ as, r.substitute as = r) ∧
        ∃ path, follow s.superRefs declared path = some r ∧
          ∀ as, follow s.superRefs (declared.substitute as) path = some (r.substitute as) := by
  refine ⟨s.visits_subset_offered declared, fun r hr => ?_⟩
  obtain ⟨path, hpath⟩ := exists_follow_of_mem_offered hr
  have hmentions : ∀ k, Mentions k r → Mentions k declared := fun k => mentions_of_follow hpath
  refine ⟨hmentions, fun hnone => ?_, path, hpath, follow_substitute hpath⟩
  have hfree : ∀ k, ¬ Mentions k r := fun k hk => hnone k (hmentions k hk)
  exact ⟨hfree, TypeRef.substitute_eq_self hfree⟩

/-- An index from words to things is a collection of entries, with its parameters the other way
round, and extends one of them besides; it asks for a parameter that it does not have. -/
def indexStore : TypeStore :=
  initial.run [
    .register { TypeInfo.ofInterface "Collection" with
      marks := { collection := true }, paramCount := 1 },
    .register { TypeInfo.ofInterface "Entry" with paramCount := 2 },
    .register { TypeInfo.ofClass "Table" with
      superclass := some (.param 1), paramCount := 2
      interfaces := [.concrete ⟨2⟩ [.concrete ⟨3⟩ [.param 1, .param 0, .param 2]]] },
    .register { TypeInfo.ofClass "Index" with
      superclass := some (.concrete ⟨4⟩ [.erased .object, .param 0]), paramCount := 1 }]

/-- The index of the things that the parameter 7 of some other type stands for. -/
def indexOfThings : TypeRef := .concrete ⟨5⟩ [.param 7]

/-- The entries of the index. -/
def entriesOfThings : TypeRef :=
  .concrete ⟨2⟩ [.concrete ⟨3⟩ [.param 7, .erased .object, .unbound]]

theorem offered_indexOfThings :
    indexStore.offered indexOfThings =
      [indexOfThings, .concrete ⟨4⟩ [.erased .object, .param 7], .param 7, entriesOfThings] := by
  have hindex : indexStore.superRefs (.concrete ⟨5⟩ [.param 7]) =
      [.concrete ⟨4⟩ [.erased .object, .param 7]] := by decide
  have htable : indexStore.superRefs (.concrete ⟨4⟩ [.erased .object, .param 7]) =
      [.param 7, .concrete ⟨2⟩ [.concrete ⟨3⟩ [.param 7, .erased .object, .unbound]]] := by decide
  have hentries : indexStore.superRefs
      (.concrete ⟨2⟩ [.concrete ⟨3⟩ [.param 7, .erased .object, .unbound]]) = [] := by decide
  simp [offered, visits, visitsFrom, indexOfThings, entriesOfThings, hindex, htable, hentries]

/-- The parameter 7 is not taken for one of the table, nor are those of the table for one of the
other type. -/
theorem parameters_of_indexOfThings :
    entriesOfThings ∈ indexStore.offered indexOfThings ∧
      (∀ k, Mentions k entriesOfThings → k = 7) ∧
      ∃ path, follow indexStore.superRefs (.concrete ⟨5⟩ [.erased ⟨3⟩]) path =
        some (.concrete ⟨2⟩ [.concrete ⟨3⟩ [.erased ⟨3⟩, .erased .object, .unbound]]) := by
  have hmem : entriesOfThings ∈ indexStore.offered indexOfThings := by
    rw [offered_indexOfThings]
    simp
  obtain ⟨-, hoffered⟩ := parameters_of_offered indexStore indexOfThings
  obtain ⟨hmentions, -, path, -, hwalk⟩ := hoffered _ hmem
  refine ⟨hmem, fun k hk => by simpa [indexOfThings] using hmentions k hk, path, ?_⟩
  simpa [indexOfThings, entriesOfThings, TypeRef.erased] using
    hwalk (.replicate 8 (.erased ⟨3⟩))

end TypeStore
end VariableNaming
