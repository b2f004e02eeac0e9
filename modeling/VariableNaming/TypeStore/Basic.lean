import VariableNaming.TypeInfo

/-!
# The store of types

A store holds the descriptions of types under their ids.  It starts with the top type alone and only
grows, in two ways:

* `register` — a description goes in under the next free id and becomes the type of its name, also
  when another type had that name before.
* `arrayOf` — the array type over a component.  It goes in the first time it is asked for, without
  becoming the type of its name, and is the same type ever after.

The other functions look up one type: what is not known about an id is empty, absent or false.
-/

set_option autoImplicit false

namespace VariableNaming

/-- Descriptions of types under their ids. -/
structure TypeStore where
  /-- The description of each known type. -/
  types : Std.TreeMap TypeId TypeInfo
  /-- The type registered last under each name. -/
  names : Std.TreeMap String TypeId
  /-- The array type over each component for which there is one. -/
  arrays : Std.TreeMap TypeId TypeId
  /-- The id for the next type. -/
  next : TypeId

namespace TypeStore

/-- The store that knows the top type and nothing else. -/
def initial : TypeStore where
  types := (∅ : Std.TreeMap TypeId TypeInfo).insert .object .object
  names := (∅ : Std.TreeMap String TypeId).insert objectName .object
  arrays := ∅
  next := .firstFree

instance : Inhabited TypeStore := ⟨initial⟩

/-! ## Growth -/

/-- Puts a description in under the next free id, which is the answer. -/
def register (s : TypeStore) (info : TypeInfo) : TypeId × TypeStore :=
  (s.next,
    { s with
      types := s.types.insert s.next info
      names := s.names.insert info.name s.next
      next := s.next.succ })

/-- The qualified name of a type, if it is known. -/
def name? (s : TypeStore) (t : TypeId) : Option String := (s.types[t]?).map (·.name)

/-- The qualified name of a type; empty if it is not known. -/
def qualifiedName (s : TypeStore) (t : TypeId) : String := (s.name? t).getD ""

/-- The array type over a component, which is put in if there is none yet. -/
def arrayOf (s : TypeStore) (component : TypeId) : TypeId × TypeStore :=
  match s.arrays[component]? with
  | some array => (array, s)
  | none =>
    (s.next,
      { s with
        types := s.types.insert s.next (.ofArray component (s.qualifiedName component))
        arrays := s.arrays.insert component s.next
        next := s.next.succ })

/-! ## Questions about one type -/

/-- The description of a type. -/
def get? (s : TypeStore) (t : TypeId) : Option TypeInfo := s.types[t]?

/-- Whether a type is known. -/
def contains (s : TypeStore) (t : TypeId) : Bool := s.types.contains t

/-- The type of a qualified name. -/
def find? (s : TypeStore) (name : String) : Option TypeId := s.names[name]?

/-- How many types are known. -/
def size (s : TypeStore) : Nat := s.types.size

/-- Whether no type is known. -/
def isEmpty (s : TypeStore) : Bool := s.types.isEmpty

/-- The known types, by increasing id. -/
def known (s : TypeStore) : List TypeId := s.types.keys

/-- The name of a type without its package; empty if it is not known. -/
def simpleName (s : TypeStore) (t : TypeId) : String := ((s.get? t).map (·.simpleName)).getD ""

/-- The marks of a type; none if it is not known. -/
def marks (s : TypeStore) (t : TypeId) : Marks := ((s.get? t).map (·.marks)).getD {}

/-- The component of an array type. -/
def component? (s : TypeStore) (t : TypeId) : Option TypeId := (s.get? t).bind (·.component?)

/-- Whether a type is an array type. -/
def isArray (s : TypeStore) (t : TypeId) : Bool := (s.component? t).isSome

/-- The class that a type extends, without its arguments. -/
def superclass? (s : TypeStore) (t : TypeId) : Option TypeId :=
  (s.get? t).bind fun info => info.superclass.bind TypeRef.raw?

/-- The interfaces of a type, without their arguments, in the order of declaration. -/
def interfaces (s : TypeStore) (t : TypeId) : List TypeId :=
  ((s.get? t).map fun info => info.interfaces.filterMap TypeRef.raw?).getD []

/-- The type around a nested type. -/
def declaring? (s : TypeStore) (t : TypeId) : Option TypeId := (s.get? t).bind (·.declaring)

/-! ## What the questions see -/

theorem mem_known {s : TypeStore} {t : TypeId} : t ∈ s.known ↔ (s.get? t).isSome := by
  rw [known, Std.TreeMap.mem_keys, Std.TreeMap.mem_iff_isSome_getElem?, get?]

theorem qualifiedName_of_contains_eq_false {s : TypeStore} {t : TypeId}
    (h : s.contains t = false) : s.qualifiedName t = "" := by
  have hnone : s.types[t]? = none := Std.TreeMap.getElem?_eq_none_of_contains_eq_false h
  rw [qualifiedName, name?, hnone]
  rfl

/-- The simple name is cut from the qualified name, also where there is none. -/
theorem simpleName_eq (s : TypeStore) (t : TypeId) :
    s.simpleName t = QualifiedName.simple (s.qualifiedName t) := by
  rw [simpleName, qualifiedName, name?, ← get?]
  cases s.get? t with
  | none => rfl
  | some info => rfl

@[simp] theorem fst_register (s : TypeStore) (info : TypeInfo) : (s.register info).1 = s.next := rfl

theorem get?_register (s : TypeStore) (info : TypeInfo) (t : TypeId) :
    (s.register info).2.get? t = if t = s.next then some info else s.get? t := by
  simp [register, get?, Std.TreeMap.getElem?_insert, @eq_comm _ t]

theorem find?_register (s : TypeStore) (info : TypeInfo) (n : String) :
    (s.register info).2.find? n = if n = info.name then some s.next else s.find? n := by
  simp [register, find?, Std.TreeMap.getElem?_insert, @eq_comm _ n]

/-- A type that is already there is handed out again, and nothing changes. -/
theorem arrayOf_of_some {s : TypeStore} {c a : TypeId} (h : s.arrays[c]? = some a) :
    s.arrayOf c = (a, s) := by
  simp [arrayOf, h]

theorem fst_arrayOf_of_none {s : TypeStore} {c : TypeId} (h : s.arrays[c]? = none) :
    (s.arrayOf c).1 = s.next := by
  simp [arrayOf, h]

theorem get?_arrayOf_of_none {s : TypeStore} {c : TypeId} (h : s.arrays[c]? = none) (t : TypeId) :
    (s.arrayOf c).2.get? t =
      if t = s.next then some (.ofArray c (s.qualifiedName c)) else s.get? t := by
  simp [arrayOf, h, get?, Std.TreeMap.getElem?_insert, @eq_comm _ t]

theorem arrays_arrayOf (s : TypeStore) (c d : TypeId) :
    (s.arrayOf c).2.arrays[d]? = if d = c then some (s.arrayOf c).1 else s.arrays[d]? := by
  cases h : s.arrays[c]? with
  | none => simp [arrayOf, h, Std.TreeMap.getElem?_insert, @eq_comm _ d]
  | some a =>
    simp only [arrayOf_of_some h]
    split <;> simp_all

/-- Asking for an array type leaves the names alone. -/
@[simp] theorem names_arrayOf (s : TypeStore) (c : TypeId) : (s.arrayOf c).2.names = s.names := by
  unfold arrayOf
  split <;> rfl

end TypeStore
end VariableNaming
