/-!
# Diagnostics

The reasons for which no name can be given.  Each has a stable number, a category and a fixed text;
`Diagnostic.all` lists them by number, and `ofCode?` finds one by its number.
-/

set_option autoImplicit false

namespace VariableNaming

/-- What kind of fault a diagnostic reports. -/
inductive Category where
  /-- The caller gave something that has no name. -/
  | invalidArgument
  /-- A container contradicts itself. -/
  | illegalState
deriving DecidableEq, Repr

/-- The reasons for which no name can be given. -/
inductive Diagnostic where
  /-- The value is the null value. -/
  | nullValue
  /-- The value is a collection that reports no elements. -/
  | emptyCollection
  /-- A parameter is declared as a collection of nothing in particular. -/
  | untypedParameter
  /-- A return type is a collection of nothing in particular, and the value is no collection. -/
  | untypedReturnOtherValue
  /-- A return type is a collection of nothing in particular, and the value reports no elements. -/
  | untypedReturnEmptyValue
  /-- The return type is the top type, and there is no value. -/
  | objectReturnNoValue
  /-- The method has no parameter with that number. -/
  | parameterOutOfRange
  /-- A collection that reports elements yields none. -/
  | noFirstElement
  /-- A collection that reports elements yields the null value first. -/
  | nullFirstElement
deriving DecidableEq, Repr

namespace Diagnostic

/-- Every diagnostic, by increasing number. -/
def all : List Diagnostic :=
  [nullValue, emptyCollection, untypedParameter, untypedReturnOtherValue, untypedReturnEmptyValue,
    objectReturnNoValue, parameterOutOfRange, noFirstElement, nullFirstElement]

/-- The stable number. -/
def code : Diagnostic → Nat
  | nullValue => 1001
  | emptyCollection => 1002
  | untypedParameter => 1003
  | untypedReturnOtherValue => 1004
  | untypedReturnEmptyValue => 1005
  | objectReturnNoValue => 1006
  | parameterOutOfRange => 1007
  | noFirstElement => 2001
  | nullFirstElement => 2002

/-- Only the two faults of a first element are inconsistencies of a container. -/
def category : Diagnostic → Category
  | noFirstElement | nullFirstElement => .illegalState
  | _ => .invalidArgument

/-- The text. -/
def message : Diagnostic → String
  | nullValue => "Value must not be null"
  | emptyCollection => "Cannot generate variable name for an empty collection"
  | untypedParameter =>
    "Cannot generate variable name for non-typed collection parameter type"
  | untypedReturnOtherValue =>
    "Cannot generate variable name for non-typed collection return type and a non-collection value"
  | untypedReturnEmptyValue =>
    "Cannot generate variable name for non-typed collection return type and an empty collection value"
  | objectReturnNoValue =>
    "Cannot generate variable name for an object return type with null value"
  | parameterOutOfRange => "Parameter index is out of range for the declaring method"
  | noFirstElement => "Unable to peek ahead in non-empty collection - no element found"
  | nullFirstElement => "Unable to peek ahead in non-empty collection - only null element found"

/-- The diagnostic with a number. -/
def ofCode? (n : Nat) : Option Diagnostic :=
  all.find? (·.code = n)

theorem mem_all (d : Diagnostic) : d ∈ all := by
  cases d <;> decide

/-- A number belongs to one diagnostic at most, and every diagnostic is found by its number. -/
theorem ofCode?_eq_some_iff {n : Nat} {d : Diagnostic} : ofCode? n = some d ↔ d.code = n := by
  constructor
  · intro h
    simpa using List.find?_some h
  · rintro rfl
    cases d <;> rfl

end Diagnostic
end VariableNaming
