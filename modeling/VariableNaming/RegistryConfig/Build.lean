import VariableNaming.RegistryConfig.Reader

/-!
# The registry for a configuration

The entries of a configuration are registered in order, each under the type that has its name now.
The first name that no type has makes the whole configuration fail.
-/

set_option autoImplicit false

namespace VariableNaming
namespace AdapterRegistry

/-- The registry with the entries of a configuration in addition. -/
def registerEntries (s : TypeStore) : AdapterRegistry → List AdapterEntry →
    Except ConfigError AdapterRegistry
  | r, [] => .ok r
  | r, e :: es =>
    match s.find? e.typeName with
    | none => .error (.unknownType e.typeName)
    | some t => registerEntries s (r.register t e.kind) es

/-- The registry for a configuration. -/
def ofConfig (c : RegistryConfig) (s : TypeStore) : Except ConfigError AdapterRegistry :=
  registerEntries s .empty c.adapters

/-- The registry for the configuration that a text is. -/
def load (text : String) (s : TypeStore) : Except ConfigError AdapterRegistry :=
  match RegistryConfig.read text with
  | .error e => .error e
  | .ok c => ofConfig c s

end AdapterRegistry
end VariableNaming
