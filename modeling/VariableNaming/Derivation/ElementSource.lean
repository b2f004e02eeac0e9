import VariableNaming.Derivation.Basic
import VariableNaming.TypeStore.ElementType

/-!
# Where the element type of a collection comes from

The type of the elements of a declared collection can come from the declaration or, if this says
nothing, from a value.  A source either tells the type, or leaves it open for the next source, or
stops the search.

* `Site` — the declaration, with the value there may be and what to say when nothing is found.
* `ElementSource.find` — what one source tells.
* `findElement` — what the first source tells that does not leave it open.
* `ElementSource.resolve`, `resolveElement` — the type that they tell, and the store after it.
-/

set_option autoImplicit false

namespace VariableNaming

/-- A declared type, and the circumstances under which a name is wanted for it. -/
structure Site where
  declared : TypeRef
  /-- A value of the type, if one is at hand. -/
  value : Option Value
  route : Route
  subject : String

/-- The error for a diagnostic at the site. -/
def Site.error (site : Site) (d : Diagnostic) : NamingError := ⟨site.route, site.subject, d⟩

/-- What can tell the type of the elements. -/
inductive ElementSource where
  /-- The arguments in the declaration. -/
  | declaration
  /-- The first element of the value, which has to be a collection with elements. -/
  | value
deriving DecidableEq, Repr

namespace ElementSource

/-- A parameter has a declaration only. -/
def ofParameter : List ElementSource := [declaration]

/-- A return type has a declaration, and then the value that is returned. -/
def ofReturnType : List ElementSource := [declaration, value]

/-- What the value at a site tells about its elements. -/
def classInValue (site : Site) : Except NamingError RuntimeClass :=
  match site.value.bind Value.container? with
  | none => .error (site.error .untypedReturnOtherValue)
  | some c =>
    if c.reportsEmpty then .error (site.error .untypedReturnEmptyValue)
    else c.firstClass.mapError site.error

/-- What a source tells; `none` leaves it to the next source. -/
def find (s : TypeStore) (site : Site) : ElementSource → Except NamingError (Option Namesake)
  | declaration => .ok ((s.elementType? site.declared).map .declared)
  | value => (classInValue site).map fun c => some (.runtime c)

end ElementSource

/-- The first that a source tells.  If every source leaves it open, the diagnostic says so. -/
def findElement (s : TypeStore) (site : Site) (unresolved : Diagnostic) :
    List ElementSource → Except NamingError Namesake
  | [] => .error (site.error unresolved)
  | source :: sources =>
    match source.find s site with
    | .error e => .error e
    | .ok (some n) => .ok n
    | .ok none => findElement s site unresolved sources

/-- The type that one source tells, if it does. -/
def ElementSource.resolve (s : TypeStore) (site : Site) (source : ElementSource) :
    Outcome (Option TypeId) :=
  match source.find s site with
  | .error e => ⟨.error e, s⟩
  | .ok none => ⟨.ok none, s⟩
  | .ok (some n) =>
    let (t, s') := s.typeOfNamesake n
    ⟨.ok (some t), s'⟩

/-- The first type that a source tells. -/
def resolveElement (s : TypeStore) (site : Site) (unresolved : Diagnostic)
    (sources : List ElementSource) : Outcome TypeId :=
  s.settle (findElement s site unresolved sources)

end VariableNaming
