import VariableNaming.Letter.Blank
import VariableNaming.Letter.LowerForm

/-!
# Formats of a trace

A trace of how a name was found is written in one of three formats, which a user asks for by name.
-/

set_option autoImplicit false

namespace VariableNaming

/-- How a trace is written. -/
inductive LogFormat where
  /-- One line for each event. -/
  | text
  /-- Events indented below the step they belong to. -/
  | tree
  /-- One object for each event. -/
  | json
deriving DecidableEq, Repr, Inhabited

namespace LogFormat

/-- The word for a format. -/
def word : LogFormat → String
  | text => "text"
  | tree => "tree"
  | json => "json"

/-- The format that a user asks for: letter case and blanks around the word do not matter, and a
word for no format asks for plain text. -/
def ofRequest (request : String) : LogFormat :=
  let asked := (Letter.trimBlanks request.toList).map Letter.lowerForm
  if asked = tree.word.toList then tree
  else if asked = json.word.toList then json
  else text

end LogFormat
end VariableNaming
