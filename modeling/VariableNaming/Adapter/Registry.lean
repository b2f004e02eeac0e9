import VariableNaming.TypeStore.Hierarchy

/-!
# Wrapper types and their adapters

A wrapper type, such as a promise or a stream, is declared with the type of the values that it will
produce, and a variable for it is called after both.  Which types are wrappers is kept in a
registry.

* `AdapterKind` — how many values a wrapper produces.
* `AdapterRegistry` — the wrappers with their kinds.  Registering a wrapper again replaces its kind.
* `AdapterRegistry.nearest?` — the adapter of a type: its own, or that of the nearest supertype that
  has one.
-/

set_option autoImplicit false

namespace VariableNaming

/-- How many values a wrapper produces. -/
inductive AdapterKind where
  /-- At most one. -/
  | singleValue
  /-- Any number. -/
  | multiValue
  /-- None: it only tells when it is done. -/
  | noValue
deriving DecidableEq, Repr, Inhabited

/-- A wrapper type and its kind. -/
structure Adapter where
  wrapper : TypeId
  kind : AdapterKind
deriving DecidableEq, Repr

namespace Adapter

/-- Whether the wrapper produces no value. -/
def isNoValue (a : Adapter) : Bool := a.kind = .noValue

/-- Whether the wrapper may produce more than one value. -/
def isMultiValue (a : Adapter) : Bool := a.kind = .multiValue

end Adapter

/-- The wrapper types with their kinds. -/
structure AdapterRegistry where
  kinds : Std.TreeMap TypeId AdapterKind

namespace AdapterRegistry

/-- The registry without wrappers. -/
def empty : AdapterRegistry := ⟨∅⟩

instance : Inhabited AdapterRegistry := ⟨empty⟩

/-- The registry with a wrapper of a kind, in place of what it was registered as before. -/
def register (r : AdapterRegistry) (wrapper : TypeId) (kind : AdapterKind) : AdapterRegistry :=
  ⟨r.kinds.insert wrapper kind⟩

/-- The adapter of exactly this type. -/
def get? (r : AdapterRegistry) (t : TypeId) : Option Adapter := (r.kinds[t]?).map fun k => ⟨t, k⟩

/-- Whether exactly this type is a wrapper. -/
def contains (r : AdapterRegistry) (t : TypeId) : Bool := r.kinds.contains t

/-- How many wrappers there are. -/
def size (r : AdapterRegistry) : Nat := r.kinds.size

/-- Whether there is no wrapper. -/
def isEmpty (r : AdapterRegistry) : Bool := r.kinds.isEmpty

/-- The adapter of a type, or of the nearest of its supertypes that has one; of two that are equally
near, of the one whose way is declared first. -/
def nearest? (r : AdapterRegistry) (s : TypeStore) (t : TypeId) : Option Adapter :=
  (s.hierarchy.breadthFirst t).findSome? r.get?

@[simp] theorem get?_empty (t : TypeId) : empty.get? t = none := by
  simp [get?, empty]

theorem get?_register (r : AdapterRegistry) (w : TypeId) (k : AdapterKind) (t : TypeId) :
    (r.register w k).get? t = if t = w then some ⟨w, k⟩ else r.get? t := by
  simp only [register, get?, Std.TreeMap.getElem?_insert, Std.LawfulEqOrd.compare_eq_iff_eq,
    @eq_comm _ t]
  split <;> simp_all

theorem wrapper_of_get? {r : AdapterRegistry} {t : TypeId} {a : Adapter} (h : r.get? t = some a) :
    a.wrapper = t := by
  obtain ⟨k, -, rfl⟩ := Option.map_eq_some_iff.1 h
  rfl

end AdapterRegistry
end VariableNaming
