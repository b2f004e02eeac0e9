import VariableNaming.Identifier
import VariableNaming.TypeStore.Hierarchy

/-!
# Short names

The short name of a type is its simple name as a reader writes it: `Outer.Inner`, and
`Outer.Inner[]` for the arrays over it.  A variable is called after the last segment of the short
name, and a variable for a wrapper around a thing after the thing and the short name of the wrapper.

* `shortName?`, `variableName?`, `wrappedName?` — the three names.

The short name of an array type is made from the one of its component.  There is none, `none`, where
this never ends: array types may be their own components, directly or in a circle, and then nothing
stops the recursion.
-/

set_option autoImplicit false

namespace VariableNaming
namespace TypeStore

/-- The simple name as a reader writes it; for an array type, the short name of the component and
the ending of arrays. -/
def shortName? (s : TypeStore) (t : TypeId) : Option String :=
  match s.component? t with
  | none => some (QualifiedName.dotted (s.simpleName t))
  | some c => do
    let name ← s |>.shortName? c
    return name ++ QualifiedName.arrayEnding
partial_fixpoint

/-- What a variable of the type is called: the last segment of the short name, decapitalized. -/
def variableName? (s : TypeStore) (t : TypeId) : Option String :=
  (s.shortName? t).map fun name => Identifier.decapitalize (QualifiedName.simple name)

/-- What a variable is called that holds a wrapper around a thing. -/
def wrappedName? (s : TypeStore) (element wrapper : TypeId) : Option String :=
  (s.variableName? element).bind fun name => (s.shortName? wrapper).map (name ++ ·)

variable {s : TypeStore} {t c : TypeId}

theorem shortName?_of_component?_eq_none (h : s.component? t = none) :
    s.shortName? t = some (QualifiedName.dotted (s.simpleName t)) := by
  rw [shortName?, h]

/-- The recursion: an array type has the name of its component, with brackets, if that has one. -/
theorem shortName?_of_component? (h : s.component? t = some c) :
    s.shortName? t = (s.shortName? c).map (· ++ QualifiedName.arrayEnding) := by
  rw [shortName?, h, Option.map_eq_bind]
  rfl

theorem variableName?_of_component?_eq_none (h : s.component? t = none) :
    s.variableName? t = some
      (Identifier.decapitalize (QualifiedName.simple (QualifiedName.dotted (s.simpleName t)))) := by
  rw [variableName?, shortName?_of_component?_eq_none h, Option.map_some]

theorem wrappedName?_eq_some_iff {element wrapper : TypeId} {name : String} :
    s.wrappedName? element wrapper = some name ↔
      ∃ inner outer, s.variableName? element = some inner ∧ s.shortName? wrapper = some outer ∧
        inner ++ outer = name := by
  simp [wrappedName?, Option.bind_eq_some_iff]

/-- What is said of names that are made from each other in this way is true of every short name. -/
theorem shortName?_induct (s : TypeStore) {motive : TypeId → String → Prop}
    (base : ∀ t, s.component? t = none → motive t (QualifiedName.dotted (s.simpleName t)))
    (wrap : ∀ t c name, s.component? t = some c → motive c name →
      motive t (name ++ QualifiedName.arrayEnding))
    {t : TypeId} {name : String} (h : s.shortName? t = some name) : motive t name := by
  refine shortName?.partial_correctness s motive (fun rec ih t name h => ?_) t name h
  split at h
  · rename_i hc
    obtain rfl := Option.some.inj h
    exact base t hc
  · rename_i c hc
    obtain ⟨inner, hinner, hname⟩ := Option.bind_eq_some_iff.1 h
    obtain rfl := Option.some.inj hname
    exact wrap t c inner hc (ih c inner hinner)

end TypeStore
end VariableNaming
