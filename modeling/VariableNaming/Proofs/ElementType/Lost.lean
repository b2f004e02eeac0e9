import VariableNaming.Proofs.ElementType.Path
import VariableNaming.Proofs.TypeStore.Growth

/-!
# When an element type is lost

The search visits no type twice, whatever its arguments are.  So an element type is lost if every
way to it comes by a type that the search came by before, on another way and with other arguments:
the second time the type is not followed.

* `Displaced` — the type of a reference was visited with other arguments.
* `elementType?_eq_none_iff_displaced` — nothing is found just when every way to an element type
  comes by such a reference.
* `elementType?_erasedBranchStore` — an erased branch that hides the branch beside it.
-/

set_option autoImplicit false

namespace VariableNaming
namespace TypeStore

/-- The search from a declaration visits the type of the reference with other arguments. -/
def Displaced (s : TypeStore) (declared r : TypeRef) : Prop :=
  ∃ q ∈ s.visits declared, q.raw? = r.raw? ∧ q ≠ r

variable {s : TypeStore} {declared : TypeRef}

/-- What the search visits is not displaced. -/
theorem not_displaced_of_mem_visits {r : TypeRef} (hr : r ∈ s.visits declared) :
    ¬ s.Displaced declared r := by
  rintro ⟨q, hq, hraw, hne⟩
  obtain ⟨t, ht⟩ := exists_raw_of_mem_visitsFrom hr
  exact hne (eq_of_mem_visitsFrom hq hr (hraw.trans ht) ht)

/-- What is above a visited reference is visited or displaced. -/
theorem mem_visits_or_displaced {q r : TypeRef} (hq : q ∈ s.visits declared)
    (hr : r ∈ s.superRefs q) {t : TypeId} (ht : r.raw? = some t) :
    r ∈ s.visits declared ∨ s.Displaced declared r := by
  obtain ⟨p, hp, hpt⟩ := (mem_seenAfter.1 (mem_seenAfter_of_superRef hq hr ht)).resolve_right
    List.not_mem_nil
  rcases eq_or_ne p r with rfl | hne
  · exact Or.inl hp
  · exact Or.inr ⟨p, hp, hpt.trans ht.symm, hne⟩

/-- A way that comes by no displaced reference ends at a visited root. -/
theorem exists_displaced_of_forall_rootElement? {q : TypeRef} (hq : q ∈ s.visits declared)
    (hnone : ∀ r ∈ s.visits declared, s.rootElement? r = none) {path : List Nat} {e : TypeId}
    (he : s.ElementAt q path e) : ∃ r ∈ trail s.superRefs q path, s.Displaced declared r := by
  induction path generalizing q with
  | nil =>
    rw [elementAt_nil, hnone q hq] at he
    cases he
  | cons i path ih =>
    obtain ⟨r, hr, he⟩ := elementAt_cons.1 he
    rw [trail_cons hr]
    obtain ⟨t, ht⟩ := he.exists_raw
    rcases mem_visits_or_displaced hq (List.mem_of_getElem? hr) ht with hvisit | hdisplaced
    · obtain ⟨p, hp, hdisplaced⟩ := ih hvisit he
      exact ⟨p, List.mem_cons_of_mem _ hp, hdisplaced⟩
    · exact ⟨r, List.mem_cons_of_mem _ (start_mem_trail r path), hdisplaced⟩

theorem mem_visits_declared {t : TypeId} (ht : declared.raw? = some t) :
    declared ∈ s.visits declared := by
  rw [TypeRef.raw?_eq_some_iff.1 ht, visits, visitsFrom_cons_of_notMem List.not_mem_nil]
  exact List.mem_cons_self

/-- **When an element type is lost.**  The search finds nothing exactly when every way to an element
type comes by a type that was visited with other arguments. -/
theorem elementType?_eq_none_iff_displaced (s : TypeStore) (declared : TypeRef) :
    s.elementType? declared = none ↔ ∀ path e, s.ElementAt declared path e →
      ∃ r ∈ trail s.superRefs declared path, s.Displaced declared r := by
  rw [elementType?, List.findSome?_eq_none_iff]
  constructor
  · intro hnone path e he
    obtain ⟨t, ht⟩ := he.exists_raw
    exact exists_displaced_of_forall_rootElement? (mem_visits_declared ht) hnone he
  · intro hlost root hroot
    obtain ⟨p, hp, path, hpath, hsub⟩ := exists_trail_subset_visitsFrom hroot
    obtain rfl := List.mem_singleton.1 hp
    cases he : s.rootElement? root with
    | none => rfl
    | some e =>
      obtain ⟨r, hr, hdisplaced⟩ := hlost path e ⟨root, hpath, he⟩
      exact absurd hdisplaced (not_displaced_of_mem_visits (hsub hr))

/-- A class of products whose superclass implements the same collection without saying of what. -/
def erasedBranchStore : TypeStore :=
  initial.run [
    .register { TypeInfo.ofInterface "Collection" with
      marks := { collection := true }, paramCount := 1 },
    .register (.ofClass "Product"),
    .register { TypeInfo.ofClass "Base" with interfaces := [.erased ⟨2⟩] },
    .register { TypeInfo.ofClass "Items" with
      superclass := some (.erased ⟨4⟩), interfaces := [.concrete ⟨2⟩ [.erased ⟨3⟩]] }]

theorem visits_erasedBranchStore :
    erasedBranchStore.visits (.erased ⟨5⟩) =
      [.erased ⟨5⟩, .erased ⟨4⟩, .erased ⟨1⟩, .erased ⟨2⟩] := by
  have hitems : erasedBranchStore.superRefs (.concrete ⟨5⟩ []) =
      [.concrete ⟨4⟩ [], .concrete ⟨2⟩ [.erased ⟨3⟩]] := by decide
  have hbase : erasedBranchStore.superRefs (.concrete ⟨4⟩ []) =
      [.concrete ⟨1⟩ [], .concrete ⟨2⟩ []] := by decide
  have hobject : erasedBranchStore.superRefs (.concrete ⟨1⟩ []) = [] := by decide
  have hcollection : erasedBranchStore.superRefs (.concrete ⟨2⟩ []) = [] := by decide
  simp [visits, visitsFrom, TypeRef.erased, hitems, hbase, hobject, hcollection]

/-- The products are lost: the collection is visited through the superclass, where it is erased. -/
theorem elementType?_erasedBranchStore :
    erasedBranchStore.elementType? (.erased ⟨5⟩) = none ∧
      erasedBranchStore.ElementAt (.erased ⟨5⟩) [1] ⟨3⟩ := by
  refine ⟨?_, .concrete ⟨2⟩ [.erased ⟨3⟩], ?_, ?_⟩
  · rw [elementType?, visits_erasedBranchStore]
    decide
  · decide
  · decide

end TypeStore
end VariableNaming
