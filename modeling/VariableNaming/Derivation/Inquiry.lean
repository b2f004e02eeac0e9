import VariableNaming.Adapter.Registry
import VariableNaming.Derivation.ElementSource
import VariableNaming.Method

/-!
# Asking for a name

A name can be asked for a value, for a parameter, and for what a method returns.  What is declared
comes first; a value counts only when the declaration does not say enough, because the return type
is the top type or a collection of nothing in particular.

* `Derivation.ofValue`, `Derivation.ofDeclaration` — the derivation from a value, and from a
  declaration.
* `Inquiry` and `Inquiry.derive` — the questions, and the derivation for each.
* `Inquiry.answer` — the name or the error, and the store of types after the question.  An answer
  without a name, `.ok none`, never comes: the name has no end.
-/

set_option autoImplicit false

namespace VariableNaming

namespace Derivation

/-- A value is called after its class, an array after its component, and a collection after the
class of its first element. -/
def ofValue (s : TypeStore) : Value → Except NamingError Derivation
  | .null => .error ⟨.value, "null", .nullValue⟩
  | .object t => .ok (.single (.runtime (.ofType t)))
  | .array c _ => .ok (.plural (.declared c))
  | .collection t c =>
    if c.reportsEmpty then .error ⟨.value, s.qualifiedName t, .emptyCollection⟩
    else (c.firstClass.mapError (⟨.value, s.qualifiedName t, ·⟩)).map fun k => .plural (.runtime k)

/-- A declaration of an array type is called after the component, one of a collection after the
element type that a source tells, one of a wrapper that produces values after its first argument and
itself, and every other one after its own type. -/
def ofDeclaration (s : TypeStore) (r : AdapterRegistry) (site : Site) (resolved : TypeId)
    (sources : List ElementSource) (unresolved : Diagnostic) : Except NamingError Derivation :=
  match s.component? resolved with
  | some c => .ok (.plural (.declared c))
  | none =>
    if s.isCollectionLike resolved then (findElement s site unresolved sources).map .plural
    else
      match r.nearest? s resolved with
      | none => .ok (.single (.declared resolved))
      | some a =>
        if a.isNoValue then .ok (.single (.declared resolved))
        else .ok (.wrapped (site.declared.argOrObject 0) resolved)

end Derivation

/-! ## The questions -/

/-- A question for a name. -/
inductive Inquiry where
  | value (v : Value)
  | parameter (p : Parameter)
  /-- What a method returns, when its return type is known to be a type, and with the value that it
  returned if one is at hand. -/
  | returned (m : Method) (resolved : TypeId) (v : Option Value)

/-- The declaration of a return type that is known to be a type: what is written, if it is a
reference to that type, and otherwise the type without arguments. -/
def Method.declarationOf (m : Method) (resolved : TypeId) : TypeRef :=
  if m.returnType.raw? = some resolved then m.returnType else .erased resolved

/-- The site of a parameter. -/
def Parameter.site (p : Parameter) : Site := ⟨p.declared, none, .parameter, p.words⟩

/-- The site of a return type.  The null value is as good as none. -/
def Method.returnSite (m : Method) (resolved : TypeId) (v : Option Value) : Site :=
  ⟨m.declarationOf resolved, v.filter (!·.isNull), .returnType, m.name⟩

namespace Inquiry

/-- What a method returns, by its declared return type. -/
def methodReturn (m : Method) (v : Option Value) : Inquiry := .returned m m.rawReturnType v

/-- The derivation of the name that is asked for. -/
def derive (s : TypeStore) (r : AdapterRegistry) : Inquiry → Except NamingError Derivation
  | value v => Derivation.ofValue s v
  | parameter p =>
    Derivation.ofDeclaration s r p.site p.rawType ElementSource.ofParameter .untypedParameter
  | returned m resolved v =>
    let site := m.returnSite resolved v
    if resolved = .object then
      match site.value with
      | none => .error (site.error .objectReturnNoValue)
      | some v => Derivation.ofValue s v
    else
      Derivation.ofDeclaration s r site resolved ElementSource.ofReturnType .untypedReturnOtherValue

end Inquiry

/-! ## The answers -/

/-- Writes the name of a derivation that was found. -/
def Derivation.conclude (s : TypeStore) : Except NamingError Derivation → Outcome (Option String)
  | .error e => ⟨.error e, s⟩
  | .ok d =>
    let (name, s') := d.write s
    ⟨.ok name, s'⟩

/-- The name that is asked for. -/
def Inquiry.answer (q : Inquiry) (s : TypeStore) (r : AdapterRegistry) : Outcome (Option String) :=
  Derivation.conclude s (q.derive s r)

end VariableNaming
