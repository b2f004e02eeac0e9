import Std.Data.TreeMap

/-!
# Type ids

A type is known by a number of 32 bits.  Number 0 stands for no type, number 1 is the top type
`Object`, and the types that users register start at 2.  Any number may be mentioned before (or
without) a type being registered under it.
-/

set_option autoImplicit false

namespace VariableNaming

/-- The number by which a type is known. -/
structure TypeId where
  index : UInt32
deriving DecidableEq, Repr, Inhabited, Hashable

namespace TypeId

/-- The top type. -/
def object : TypeId := ⟨1⟩

/-- The first number for a registered type. -/
def firstFree : TypeId := ⟨2⟩

/-- The number after this one; after the last one it starts again at 0. -/
def succ (t : TypeId) : TypeId := ⟨t.index + 1⟩

/-- Whether the number can belong to a type. -/
def isValid (t : TypeId) : Bool := t.index ≠ 0

/-- The id in a text: `#7`. -/
def label (t : TypeId) : String := "#" ++ t.index.toNat.repr

/-! ## Order

Ids are compared by number, so that they can be the keys of a sorted map. -/

instance : Ord TypeId := ⟨compareOn TypeId.index⟩

instance : Std.TransOrd TypeId :=
  inferInstanceAs (Std.TransCmp (compareOn TypeId.index))

instance : Std.LawfulEqOrd TypeId where
  eq_of_compare {a b} h := by
    cases a
    cases b
    exact congrArg TypeId.mk (Std.LawfulEqOrd.eq_of_compare h)

end TypeId
end VariableNaming
