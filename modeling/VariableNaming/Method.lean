import VariableNaming.NamingError
import VariableNaming.TypeRef

/-!
# Methods and their parameters

Of a method or a constructor only the declaration counts: its name, the type it belongs to, and the
types of its parameters and of what it returns.  A `Parameter` is known to exist.
-/

set_option autoImplicit false

namespace VariableNaming

inductive MethodKind where
  | method
  | constructor
deriving DecidableEq, Repr

/-- The declaration of a method or a constructor. -/
structure Method where
  name : String
  kind : MethodKind
  /-- The type that the method belongs to. -/
  declaring : TypeId
  parameters : List TypeRef
  returnType : TypeRef
deriving DecidableEq, Repr

namespace Method

/-- The name of every constructor. -/
def constructorName : String := "<init>"

/-- A method; if it is not said what it returns, it returns the top type. -/
def ofMethod (declaring : TypeId) (name : String) (parameters : List TypeRef)
    (returnType : Option TypeRef) : Method where
  name := name
  kind := .method
  declaring := declaring
  parameters := parameters
  returnType := returnType.getD (.erased .object)

/-- A constructor; if it is not said what it returns, it returns the type it belongs to. -/
def ofConstructor (declaring : TypeId) (parameters : List TypeRef)
    (returnType : Option TypeRef) : Method where
  name := constructorName
  kind := .constructor
  declaring := declaring
  parameters := parameters
  returnType := returnType.getD (.erased declaring)

/-- The return type without its arguments; the top type for a type parameter or a wildcard. -/
def rawReturnType (m : Method) : TypeId := m.returnType.rawOrObject

end Method

/-- One of the parameters of a method. -/
structure Parameter where
  method : Method
  index : Nat
  index_lt : index < method.parameters.length

namespace Parameter

/-- The words for a parameter: `add#0`. -/
def label (method : Method) (index : Nat) : String :=
  method.name ++ "#" ++ index.repr

/-- The words for the parameter. -/
def words (p : Parameter) : String := label p.method p.index

/-- The declared type. -/
def declared (p : Parameter) : TypeRef := p.method.parameters.get ⟨p.index, p.index_lt⟩

/-- The declared type without its arguments; the top type for a type parameter or a wildcard. -/
def rawType (p : Parameter) : TypeId := p.declared.rawOrObject

end Parameter

/-- The parameter of a method at an index. -/
def Method.parameter (m : Method) (index : Nat) : Except NamingError Parameter :=
  if h : index < m.parameters.length then .ok ⟨m, index, h⟩
  else .error ⟨.parameter, Parameter.label m index, .parameterOutOfRange⟩

end VariableNaming
