import VariableNaming.Digraph.Traversal
import VariableNaming.TypeStore.Basic

/-!
# The hierarchy of supertypes

The known types and their supertypes, arguments aside, form a directed graph: from a type, first an
edge to the class it extends, then one to each interface in the order of declaration.  The graph may
have circles, and edges to types that are not known.

* `supertypes` — the supertypes of one type.
* `hierarchy` — the graph.
* `isCollectionLike` — whether a root of the collections is among the supertypes, direct or not.
-/

set_option autoImplicit false

namespace VariableNaming
namespace TypeStore

/-- The supertypes of a type without their arguments; those that are no type at all are left out. -/
def supertypes (s : TypeStore) (t : TypeId) : List TypeId :=
  ((s.get? t).map fun info => info.supertypes.filterMap TypeRef.raw?).getD []

/-- First the superclass, then the interfaces. -/
theorem supertypes_eq (s : TypeStore) (t : TypeId) :
    s.supertypes t = (s.superclass? t).toList ++ s.interfaces t := by
  cases h : s.get? t with
  | none => simp [supertypes, superclass?, interfaces, h]
  | some info =>
    cases hs : info.superclass with
    | none => simp [supertypes, superclass?, interfaces, h, TypeInfo.supertypes, hs]
    | some r => cases hr : r.raw? <;>
        simp [supertypes, superclass?, interfaces, h, TypeInfo.supertypes, hs, hr]

theorem supertypes_eq_nil_of_get?_eq_none {s : TypeStore} {t : TypeId} (h : s.get? t = none) :
    s.supertypes t = [] := by
  simp [supertypes, h]

theorem get?_eq_none_of_notMem_known {s : TypeStore} {t : TypeId} (h : t ∉ s.known) :
    s.get? t = none := by
  simpa [mem_known] using h

/-- The graph of the known types and their supertypes. -/
def hierarchy (s : TypeStore) : Digraph TypeId where
  nodes := s.known
  next := s.supertypes
  next_eq_nil _ h := supertypes_eq_nil_of_get?_eq_none (get?_eq_none_of_notMem_known h)

@[simp] theorem next_hierarchy (s : TypeStore) : s.hierarchy.next = s.supertypes := rfl

/-- Whether a type is a root of the collections, or has one among its supertypes. -/
def isCollectionLike (s : TypeStore) (t : TypeId) : Bool :=
  (s.hierarchy.breadthFirst t).any fun u => (s.marks u).collection

end TypeStore
end VariableNaming
