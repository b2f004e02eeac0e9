import VariableNaming.TypeStore.Basic

/-!
# Types made at run time

A framework that enhances or proxies an object gives it a type of its own making, which no variable
should be called after.

* `RuntimeShape` and `runtimeShape` — how a run-time type was made, as far as can be told from it.
* `normalize` — the type to use in its place.
-/

set_option autoImplicit false

namespace VariableNaming

/-- How a run-time type was made. -/
inductive RuntimeShape where
  /-- It was written. -/
  | plain
  /-- It is a proxy for some interfaces. -/
  | proxy (interfaces : List TypeId)
  /-- It was generated below a superclass. -/
  | synthetic (superclass : TypeId)
deriving DecidableEq, Repr

namespace TypeStore

/-- Whether a type looks generated: its simple name holds the separator of nested names, yet it is
nested in no type. -/
def looksGenerated (s : TypeStore) (t : TypeId) : Bool :=
  (s.simpleName t).toList.contains QualifiedName.nestingSeparator && (s.declaring? t).isNone

/-- How a type was made.  A proxy is marked as one; a type that looks generated was generated if it
extends anything. -/
def runtimeShape (s : TypeStore) (t : TypeId) : RuntimeShape :=
  if (s.marks t).dynamicProxy then .proxy (s.interfaces t)
  else if s.looksGenerated t then
    match s.superclass? t with
    | some superclass => .synthetic superclass
    | none => .plain
  else .plain

/-- The type to name things after: for a proxy its first interface that does not belong to the
language, for a generated type its superclass.  A proxy for nothing else than interfaces of the
language stands for itself, and so does every written type. -/
def normalize (s : TypeStore) (t : TypeId) : TypeId :=
  match s.runtimeShape t with
  | .plain => t
  | .proxy interfaces => (interfaces.find? fun i => !(s.marks i).languageInterface).getD t
  | .synthetic superclass => superclass

end TypeStore
end VariableNaming
