import VariableNaming.QualifiedName
import VariableNaming.TypeRef

/-!
# Descriptions of types

What is known about one type: its qualified name, its kind, three marks, its supertypes and the type
it is nested in.  A description says nothing about the id it is registered under.

* `TypeInfo.ofClass`, `TypeInfo.ofInterface`, `TypeInfo.ofArray` — descriptions to start from.
* `TypeInfo.supertypes` — the superclass, then the interfaces in the order of declaration.
* `TypeInfo.simpleName` — the name without its package.
-/

set_option autoImplicit false

namespace VariableNaming

/-- The marks that a type can carry. -/
structure Marks where
  /-- The type is a root of the collections: its first argument is the element type, and whatever
  has it among its supertypes is a collection too. -/
  collection : Bool := false
  /-- The type is an interface that belongs to the language, and says nothing about its subtypes. -/
  languageInterface : Bool := false
  /-- The type is a proxy made at run time. -/
  dynamicProxy : Bool := false
deriving DecidableEq, Repr, Inhabited

namespace Marks

/-- The marks of either. -/
def union (m n : Marks) : Marks :=
  ⟨m.collection || n.collection, m.languageInterface || n.languageInterface,
    m.dynamicProxy || n.dynamicProxy⟩

/-- One number for the three marks: 1, 2 and 4, added up. -/
def bits (m : Marks) : Nat :=
  m.collection.toNat + 2 * m.languageInterface.toNat + 4 * m.dynamicProxy.toNat

/-- The number tells the marks apart. -/
theorem bits_inj {m n : Marks} : m.bits = n.bits ↔ m = n := by
  rcases m with ⟨a, b, c⟩
  rcases n with ⟨a', b', c'⟩
  revert a b c a' b' c'
  decide

end Marks

/-- The kinds of types. -/
inductive TypeKind where
  | ofClass
  | ofInterface
  /-- The type of the arrays over a component type. -/
  | ofArray (component : TypeId)
deriving DecidableEq, Repr, Inhabited

/-- The name under which the top type is registered. -/
def objectName : String := "Object"

/-- What is known about a type. -/
structure TypeInfo where
  /-- The qualified name. -/
  name : String
  kind : TypeKind
  marks : Marks := {}
  /-- How many type parameters the type declares. -/
  paramCount : Nat := 0
  superclass : Option TypeRef := none
  /-- The interfaces, in the order of declaration. -/
  interfaces : List TypeRef := []
  /-- The type around a nested type. -/
  declaring : Option TypeId := none
deriving DecidableEq, Repr, Inhabited

namespace TypeInfo

/-- A class, which extends the top type unless told otherwise. -/
def ofClass (name : String) : TypeInfo :=
  { name, kind := .ofClass, superclass := some (.erased .object) }

/-- An interface, which has no superclass. -/
def ofInterface (name : String) : TypeInfo :=
  { name, kind := .ofInterface }

/-- The arrays over a component, named after the component; they extend the top type. -/
def ofArray (component : TypeId) (componentName : String) : TypeInfo :=
  { name := componentName ++ QualifiedName.arrayEnding, kind := .ofArray component,
    superclass := some (.erased .object) }

/-- The top type, which extends nothing. -/
def object : TypeInfo :=
  { name := objectName, kind := .ofClass }

/-- The component of an array type. -/
def component? (i : TypeInfo) : Option TypeId :=
  match i.kind with
  | .ofArray component => some component
  | _ => none

/-- Whether the type is an array type. -/
def isArray (i : TypeInfo) : Bool := i.component?.isSome

/-- The supertypes: the superclass, then the interfaces. -/
def supertypes (i : TypeInfo) : List TypeRef :=
  i.superclass.toList ++ i.interfaces

/-- The name without the package. -/
def simpleName (i : TypeInfo) : String := QualifiedName.simple i.name

@[simp] theorem component?_ofArray (c : TypeId) (n : String) :
    (ofArray c n).component? = some c := rfl

@[simp] theorem name_ofArray (c : TypeId) (n : String) :
    (ofArray c n).name = n ++ QualifiedName.arrayEnding := rfl

end TypeInfo
end VariableNaming
