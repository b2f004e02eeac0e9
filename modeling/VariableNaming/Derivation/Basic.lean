import VariableNaming.NamingError
import VariableNaming.TypeStore.ShortName
import VariableNaming.Value

/-!
# How a name is made

A derivation says which type a variable is called after, its *namesake*, and how.  Finding a
derivation leaves the store of types as it is; only to write the name down may an array type have to
be put in, when the namesake is the class of an array that was met at run time.

* `Namesake` — a declared type, or the class of a value.  `TypeStore.typeOfNamesake` is its type.
* `Derivation` — one thing, many things, or a wrapper around a thing.
* `Derivation.write` — the name, and the store after it.  There is no name, `none`, where a type has
  none: then nothing stops the recursion that makes it, and who asked waits for ever.
* `Outcome` — an answer, and the store after it.  A failure leaves the store as it is.
-/

set_option autoImplicit false

namespace VariableNaming

/-- What a variable is called after. -/
inductive Namesake where
  /-- A type that a declaration mentions. -/
  | declared (type : TypeId)
  /-- The class of a value. -/
  | runtime (cls : RuntimeClass)
deriving DecidableEq, Repr

/-- The type of a namesake, and the store that knows it.  The class of a value stands for the type
that values of the class are called after; a declared type stands for itself. -/
def TypeStore.typeOfNamesake (s : TypeStore) : Namesake → TypeId × TypeStore
  | .declared t => (t, s)
  | .runtime c => s.namesakeOfClass c

/-- An answer, and the store of types after the question. -/
structure Outcome (α : Type) where
  answer : Except NamingError α
  store : TypeStore

/-- The type of a namesake that was found. -/
def TypeStore.settle (s : TypeStore) : Except NamingError Namesake → Outcome TypeId
  | .error e => ⟨.error e, s⟩
  | .ok n =>
    let (t, s') := s.typeOfNamesake n
    ⟨.ok t, s'⟩

/-- How a name is made. -/
inductive Derivation where
  /-- The name of one thing. -/
  | single (namesake : Namesake)
  /-- The name of many things. -/
  | plural (namesake : Namesake)
  /-- The name of a thing, then the short name of the wrapper around it. -/
  | wrapped (element wrapper : TypeId)
deriving DecidableEq, Repr

namespace Derivation

/-- The name that a derivation makes, if this ends, and the store after it. -/
def write (s : TypeStore) : Derivation → Option String × TypeStore
  | single n =>
    let (t, s') := s.typeOfNamesake n
    (s'.variableName? t, s')
  | plural n =>
    let (t, s') := s.typeOfNamesake n
    ((s'.variableName? t).map Identifier.pluralize, s')
  | wrapped element wrapper => (s.wrappedName? element wrapper, s)

end Derivation
end VariableNaming
