import VariableNaming.NamingError
import VariableNaming.TypeStore.RuntimeShape

/-!
# Values at run time

Of a value only three things count: its type, whether it is an array, and of a collection what it
reports about being empty and which element it yields first.

* `Container` — what a collection holds.  `Container.peek` is its first element.
* `Value` — the values.
* `RuntimeClass` — the type of a value, or the arrays over a type.  The store may not have an array
  type yet when a value of it turns up; `TypeStore.typeOfClass` puts it in.
* `TypeStore.namesakeOfClass` — the type that a value is called after.
-/

set_option autoImplicit false

namespace VariableNaming

/-! ## Containers -/

/-- The content of a collection.  What it reports about being empty need not be true. -/
structure Container (α : Type) where
  /-- What the container says when it is asked whether it is empty. -/
  reportsEmpty : Bool
  /-- The elements that it yields, in order. -/
  items : List α
deriving Repr, DecidableEq

namespace Container

variable {α : Type}

/-- A container that tells the truth. -/
def ofList (items : List α) : Container α := ⟨items.isEmpty, items⟩

/-- The container with one element more in front, which it counts. -/
def pushFront (c : Container α) (a : α) : Container α := ⟨false, a :: c.items⟩

@[simp] theorem pushFront_ofList (items : List α) (a : α) :
    (ofList items).pushFront a = ofList (a :: items) := rfl

end Container

/-! ## Values -/

/-- A value at run time. -/
inductive Value where
  | null
  /-- An object of a type. -/
  | object (type : TypeId)
  /-- An array over a component type. -/
  | array (component : TypeId) (elements : List Value)
  /-- A collection of a type. -/
  | collection (type : TypeId) (container : Container Value)
deriving Repr, Inhabited

namespace Value

/-- Whether the value is the null value. -/
def isNull : Value → Bool
  | null => true
  | _ => false

/-- Whether the value is an array. -/
def isArray : Value → Bool
  | array _ _ => true
  | _ => false

/-- The container of a collection. -/
def container? : Value → Option (Container Value)
  | collection _ c => some c
  | _ => none

end Value

/-- The error of a look at a first element.  It is about nothing by itself: who looks tells it of
what the look was for, by `NamingError.within`. -/
def NamingError.ofPeek (d : Diagnostic) : NamingError := ⟨.elementPeek, "", d⟩

/-- The first element of a container that reports elements.  One that yields none, or the null
value, contradicts its report. -/
def Container.peek (c : Container Value) : Except NamingError Value :=
  match c.items with
  | [] => .error (.ofPeek .noFirstElement)
  | .null :: _ => .error (.ofPeek .nullFirstElement)
  | v :: _ => .ok v

/-! ## The class of a value -/

/-- The class of a value: a type, or the arrays over a component type. -/
inductive RuntimeClass where
  | ofType (type : TypeId)
  | arrayOver (component : TypeId)
deriving DecidableEq, Repr

/-- The class of a value; the null value has none. -/
def Value.runtimeClass? : Value → Option RuntimeClass
  | null => none
  | object t => some (.ofType t)
  | array c _ => some (.arrayOver c)
  | collection t _ => some (.ofType t)

theorem Value.runtimeClass?_eq_none_iff {v : Value} : v.runtimeClass? = none ↔ v = .null := by
  cases v <;> simp [runtimeClass?]

/-- The class of the first element of a container that reports elements. -/
def Container.firstClass (c : Container Value) : Except Diagnostic RuntimeClass :=
  match c.items.head? with
  | none => .error .noFirstElement
  | some v =>
    match v.runtimeClass? with
    | none => .error .nullFirstElement
    | some k => .ok k

/-- A first element has a class, and without a first element there is none either. -/
theorem Container.firstClass_eq_ok_iff {c : Container Value} {k : RuntimeClass} :
    c.firstClass = .ok k ↔ ∃ v, c.peek = .ok v ∧ v.runtimeClass? = some k := by
  rcases c with ⟨b, _ | ⟨v, vs⟩⟩
  · simp [firstClass, peek]
  · cases v <;> simp [firstClass, peek, Value.runtimeClass?]

theorem Container.firstClass_eq_error_iff {c : Container Value} {d : Diagnostic} :
    c.firstClass = .error d ↔ ∃ e, c.peek = .error e ∧ e.diagnostic = d := by
  rcases c with ⟨b, _ | ⟨v, vs⟩⟩
  · simp [firstClass, peek, NamingError.ofPeek]
  · cases v <;> simp [firstClass, peek, NamingError.ofPeek, Value.runtimeClass?]

namespace TypeStore

/-- The type of a class.  The array type over a component is put in if there is none yet. -/
def typeOfClass (s : TypeStore) : RuntimeClass → TypeId × TypeStore
  | .ofType t => (t, s)
  | .arrayOver c => s.arrayOf c

/-- The type to call values of a class after. -/
def namesakeOfClass (s : TypeStore) (c : RuntimeClass) : TypeId × TypeStore :=
  let (t, s') := s.typeOfClass c
  (s'.normalize t, s')

end TypeStore
end VariableNaming
