import VariableNaming.Diagnostic

/-!
# Failed derivations

When no name can be given, the answer says on which route the name was looked for, what was looked
at and which diagnostic stopped it.  There is no partial answer.
-/

set_option autoImplicit false

namespace VariableNaming

/-- The ways to a name. -/
inductive Route where
  /-- From a value alone. -/
  | value
  /-- From the declared type of a parameter. -/
  | parameter
  /-- From the return type of a method. -/
  | returnType
  /-- A look at the first element of a container. -/
  | elementPeek
deriving DecidableEq, Repr

/-- The words for a route. -/
def Route.words : Route → String
  | value => "value"
  | parameter => "parameter"
  | returnType => "return type"
  | elementPeek => "element peek"

/-- The words for a category. -/
def Category.words : Category → String
  | invalidArgument => "invalid argument"
  | illegalState => "illegal state"

/-- Why there is no name. -/
structure NamingError where
  route : Route
  /-- What was looked at: the name of a type or a method, or `method#index` for a parameter. -/
  subject : String
  diagnostic : Diagnostic
deriving DecidableEq, Repr

namespace NamingError

/-- The category of the diagnostic. -/
def category (e : NamingError) : Category := e.diagnostic.category

/-- The same diagnostic, told of the derivation in which it came up. -/
def within (e : NamingError) (route : Route) (subject : String) : NamingError :=
  ⟨route, subject, e.diagnostic⟩

/-- The whole text. -/
def message (e : NamingError) : String :=
  e.category.words ++ " in " ++ e.route.words ++ " derivation of `" ++ e.subject ++ "`: "
    ++ e.diagnostic.message

end NamingError
end VariableNaming
