/-!
# Texts that are no JSON

A text can fail to be JSON in two ways.
-/

set_option autoImplicit false

namespace VariableNaming
namespace Json

/-- Why a text is no JSON. -/
inductive Fault where
  /-- A character stands where it cannot stand. -/
  | malformed
  /-- The text ends too early. -/
  | truncated
deriving DecidableEq, Repr

end Json
end VariableNaming
