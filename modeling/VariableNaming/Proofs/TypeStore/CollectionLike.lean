import Mathlib.Logic.Relation
import VariableNaming.Digraph.Reach
import VariableNaming.Proofs.TypeStore.Growth
import VariableNaming.TypeStore.Hierarchy

/-!
# What is like a collection

A type is like a collection if a root of the collections is above it, at any distance.  Only which
clauses a type has matters for this, not their order or how often one is written, and nothing is
assumed about the hierarchy: it may have circles, several ways to one type, and clauses that mention
types which are not known.

* `Extends` — one of the clauses of a known type mentions the other type.
* `isCollectionLike_iff_reaches_root` — the search finds a root exactly when there is one above.
-/

set_option autoImplicit false

namespace VariableNaming
namespace TypeStore

/-- The superclass clause of a known type, or one of its interface clauses, is a reference to the
other type. -/
def Extends (s : TypeStore) (t u : TypeId) : Prop :=
  ∃ info args, s.get? t = some info ∧
    (info.superclass = some (.concrete u args) ∨ .concrete u args ∈ info.interfaces)

variable {s : TypeStore} {t u : TypeId}

theorem mem_supertypes_iff_extends : u ∈ s.supertypes t ↔ s.Extends t u := by
  cases h : s.get? t with
  | none => simp [supertypes, Extends, h]
  | some info =>
    have hmem : u ∈ s.supertypes t ↔ ∃ r ∈ info.supertypes, r.raw? = some u := by
      simp [supertypes, h]
    rw [hmem]
    constructor
    · rintro ⟨r, hr, hraw⟩
      rw [TypeRef.raw?_eq_some_iff] at hraw
      rw [TypeInfo.supertypes, List.mem_append, Option.mem_toList] at hr
      exact ⟨info, r.args, h, by rwa [← hraw]⟩
    · rintro ⟨info', args, hinfo, hclause⟩
      obtain rfl : info = info' := Option.some.inj (h.symm.trans hinfo)
      refine ⟨.concrete u args, ?_, rfl⟩
      rwa [TypeInfo.supertypes, List.mem_append, Option.mem_toList]

/-- The paths of the hierarchy go along the clauses. -/
theorem reaches_hierarchy_iff : s.hierarchy.Reaches t u ↔ Relation.ReflTransGen s.Extends t u := by
  constructor
  · intro h
    induction h with
    | refl => exact .refl
    | step _ edge ih => exact ih.tail (mem_supertypes_iff_extends.1 edge)
  · intro h
    induction h with
    | refl => exact .refl
    | tail _ edge ih => exact ih.step (mem_supertypes_iff_extends.2 edge)

theorem marks_collection_iff :
    (s.marks t).collection = true ↔
      ∃ info, s.get? t = some info ∧ info.marks.collection = true := by
  cases h : s.get? t <;> simp [marks, h]

theorem isCollectionLike_iff : s.isCollectionLike t = true ↔
    ∃ root, Relation.ReflTransGen s.Extends t root ∧ (s.marks root).collection = true := by
  simp [isCollectionLike, Digraph.mem_breadthFirst, reaches_hierarchy_iff]

/-- **A type is like a collection exactly when a known root of the collections can be reached over
its clauses, in any number of steps.**  Two stores with the same roots and the same clauses, in
whatever order and however often each is written, agree on it. -/
theorem isCollectionLike_iff_reaches_root (s : TypeStore) (t : TypeId) :
    (s.isCollectionLike t = true ↔ ∃ root info, Relation.ReflTransGen s.Extends t root ∧
      s.get? root = some info ∧ info.marks.collection = true) ∧
    ∀ s' : TypeStore, (∀ u, (s'.marks u).collection = (s.marks u).collection) →
      (∀ u v, s'.Extends u v ↔ s.Extends u v) → s'.isCollectionLike t = s.isCollectionLike t := by
  constructor
  · rw [isCollectionLike_iff]
    constructor
    · rintro ⟨root, hpath, hroot⟩
      obtain ⟨info, hinfo, hmark⟩ := marks_collection_iff.1 hroot
      exact ⟨root, info, hpath, hinfo, hmark⟩
    · rintro ⟨root, info, hpath, hinfo, hmark⟩
      exact ⟨root, hpath, marks_collection_iff.2 ⟨info, hinfo, hmark⟩⟩
  · intro s' hmarks hclauses
    have hextends : s'.Extends = s.Extends := by
      funext u v
      exact propext (hclauses u v)
    rw [Bool.eq_iff_iff, isCollectionLike_iff, isCollectionLike_iff, hextends]
    simp only [hmarks]

/-- A bag and its subclass extend each other, and the bag mentions a type that is not known before
it mentions a root of the collections. -/
def bagStore : TypeStore :=
  initial.run [
    .register { TypeInfo.ofInterface "Collection" with marks := { collection := true } },
    .register { TypeInfo.ofClass "Bag" with
      superclass := some (.erased ⟨4⟩), interfaces := [.erased ⟨9⟩, .erased ⟨2⟩] },
    .register { TypeInfo.ofClass "Pouch" with superclass := some (.erased ⟨3⟩) }]

/-- The same types, with the clauses of the bag in another order and one of them written twice. -/
def shuffledBagStore : TypeStore :=
  initial.run [
    .register { TypeInfo.ofInterface "Collection" with marks := { collection := true } },
    .register { TypeInfo.ofClass "Bag" with
      superclass := some (.erased ⟨2⟩),
      interfaces := [.erased ⟨4⟩, .concrete ⟨2⟩ [.unbound], .erased ⟨9⟩] },
    .register { TypeInfo.ofClass "Pouch" with superclass := some (.erased ⟨3⟩) }]

/-- Both stores take the subclass of the bag for a collection. -/
theorem isCollectionLike_bagStore :
    bagStore.isCollectionLike ⟨4⟩ = true ∧
      shuffledBagStore.isCollectionLike ⟨4⟩ = bagStore.isCollectionLike ⟨4⟩ := by
  have hknown : shuffledBagStore.known = bagStore.known := by decide
  have hsame : ∀ t ∈ bagStore.known,
      (shuffledBagStore.marks t).collection = (bagStore.marks t).collection ∧
        shuffledBagStore.supertypes t ⊆ bagStore.supertypes t ∧
        bagStore.supertypes t ⊆ shuffledBagStore.supertypes t := by decide
  have hnone : ∀ t ∉ bagStore.known, shuffledBagStore.get? t = none ∧ bagStore.get? t = none :=
    fun t ht => ⟨get?_eq_none_of_notMem_known (hknown ▸ ht), get?_eq_none_of_notMem_known ht⟩
  obtain ⟨hreaches, hshuffled⟩ := isCollectionLike_iff_reaches_root bagStore ⟨4⟩
  refine ⟨hreaches.2 ⟨⟨2⟩, _, ?_, rfl, rfl⟩, hshuffled _ (fun t => ?_) fun t u => ?_⟩
  · have hbag : bagStore.Extends ⟨4⟩ ⟨3⟩ := mem_supertypes_iff_extends.1 (by decide)
    exact .head hbag (.single (mem_supertypes_iff_extends.1 (by decide)))
  · by_cases ht : t ∈ bagStore.known
    · exact (hsame t ht).1
    · rw [marks, marks, (hnone t ht).1, (hnone t ht).2]
  · rw [← mem_supertypes_iff_extends, ← mem_supertypes_iff_extends]
    by_cases ht : t ∈ bagStore.known
    · exact ⟨fun h => (hsame t ht).2.1 h, fun h => (hsame t ht).2.2 h⟩
    · rw [supertypes, supertypes, (hnone t ht).1, (hnone t ht).2]

end TypeStore
end VariableNaming
