import VariableNaming.Adapter.Registry
import VariableNaming.Proofs.Digraph.VisitOrder

/-!
# The nearest adapter

The adapter of a type is that of the nearest wrapper above it.  The supertypes of a type are
numbered, the superclass before the interfaces and these in the order of declaration, and of two
wrappers that are equally near the one counts whose way has the lexicographically least numbers.
Nothing is assumed about the hierarchy: it may have circles, several ways to one type, and types
that are not known.
-/

set_option autoImplicit false

namespace VariableNaming
namespace AdapterRegistry

theorem isSome_get? (r : AdapterRegistry) (t : TypeId) : (r.get? t).isSome = r.contains t := by
  rw [get?, contains, Option.isSome_map, Std.TreeMap.isSome_getElem?_eq_contains]

theorem nearest?_eq_none_iff (r : AdapterRegistry) (s : TypeStore) (t : TypeId) :
    r.nearest? s t = none ↔ ∀ w, s.hierarchy.Reaches t w → r.contains w = false := by
  simp [nearest?, List.findSome?_eq_none_iff, Digraph.mem_breadthFirst, ← isSome_get?]

theorem nearest?_eq_some_iff (r : AdapterRegistry) (s : TypeStore) (t : TypeId) (a : Adapter) :
    r.nearest? s t = some a ↔ r.get? a.wrapper = some a ∧
      ∃ path, IsFirst s.supertypes t (fun w => r.contains w = true) path a.wrapper := by
  rw [nearest?, Digraph.findSome?_breadthFirst_eq_some_iff]
  simp only [isSome_get?, TypeStore.next_hierarchy]
  constructor
  · rintro ⟨path, w, hfirst, hw⟩
    obtain rfl := wrapper_of_get? hw
    exact ⟨hw, path, hfirst⟩
  · rintro ⟨ha, path, hfirst⟩
    exact ⟨path, a.wrapper, hfirst, ha⟩

/-- No adapter is nearer than that of the type itself. -/
theorem nearest?_of_get? {r : AdapterRegistry} {s : TypeStore} {t : TypeId} {a : Adapter}
    (h : r.get? t = some a) : r.nearest? s t = some a := by
  obtain ⟨rest, hvisit⟩ := s.hierarchy.exists_breadthFirst_eq_cons t
  rw [nearest?, hvisit, List.findSome?_cons, h]

/-- **The nearest adapter is exact.**  There is none if no wrapper is a supertype, direct or not,
and otherwise it is the adapter of the wrapper at the end of the first walk to any: the shortest,
and among the shortest the lexicographically least by the numbers of its edges. -/
theorem nearest?_exact (r : AdapterRegistry) (s : TypeStore) (t : TypeId) :
    (r.nearest? s t = none ↔ ∀ w, s.hierarchy.Reaches t w → r.contains w = false) ∧
      ∀ a, r.nearest? s t = some a ↔ r.get? a.wrapper = some a ∧
        ∃ path, IsFirst s.supertypes t (fun w => r.contains w = true) path a.wrapper :=
  ⟨r.nearest?_eq_none_iff s t, r.nearest?_eq_some_iff s t⟩

end AdapterRegistry
end VariableNaming
