import VariableNaming.Decimal.Shortest
import VariableNaming.Json.Token
import VariableNaming.RegistryConfig.Basic
import VariableNaming.Text.Quoted

/-!
# Texts that are no configuration

A text can fail to be JSON, or be JSON of another shape than a configuration.  A fault of shape says
what was found and what was wanted in its place.

* `ShapeFault` and `ShapeFault.message` — the faults of shape.
* `ConfigError` — every reason for which there is no registry, a type that is not known among them.
-/

set_option autoImplicit false

namespace VariableNaming

/-- What stands in the place of something else. -/
inductive Found where
  | null
  | boolean (b : Bool)
  | number (x : Json.Number)
  | text (s : String)
  | sequence
  | map
deriving DecidableEq, Repr

/-- What is wanted at a place. -/
inductive Wanted where
  | config
  | adapters
  | entry
  | typeName
  /-- The value beside a kind that is written as a member. -/
  | nothing
deriving DecidableEq, Repr

/-- How a configuration departs from its shape. -/
inductive ShapeFault where
  | wrongType (found : Found) (wanted : Wanted)
  /-- A member that is none of those that there are. -/
  | unknownMember (name : String) (known : List String)
  | duplicateMember (name : String)
  | missingMember (name : String)
  | unknownKind (name : String)
  /-- An entry that is a sequence of fewer than two values. -/
  | tooShort (length : Nat)
deriving DecidableEq, Repr

/-! ## Messages -/

/-- How a binary64 number is written in a message: all digits for numbers from `0.00001` up to
sixteen digits before the point, and with an exponent for others. -/
def messageLayout : Decimal.Layout where
  leastPositional := -5
  greatestPositional := 15
  wholeEnding := ".0"
  exponentMark := "e+"
  negativeExponentMark := "e-"

example : Decimal.Scientific.write messageLayout ⟨1, 15⟩ = "1000000000000000.0" ∧
    Decimal.Scientific.write messageLayout ⟨1, 16⟩ = "1e+16" ∧
    Decimal.Scientific.write messageLayout ⟨12, -6⟩ = "0.000012" ∧
    Decimal.Scientific.write messageLayout ⟨12, -7⟩ = "1.2e-6" := by
  decide +kernel

/-- The words for a whole number. -/
def writeWhole (n : Int) : String :=
  (if n < 0 then "-" else "") ++ n.natAbs.repr

/-- The words for what was found. -/
def Found.words : Found → String
  | null => "null"
  | boolean b => "boolean `" ++ (if b then "true" else "false") ++ "`"
  | number (.whole n) => "integer `" ++ writeWhole n ++ "`"
  | number (.binary bits) => "floating point `" ++ Decimal.writeBits messageLayout bits ++ "`"
  | text s => "string " ++ Text.quoted s
  | sequence => "sequence"
  | map => "map"

/-- The words for what is wanted. -/
def Wanted.words : Wanted → String
  | config => "struct RegistryConfig"
  | adapters => "a sequence"
  | entry => "struct AdapterConfig"
  | typeName => "a string"
  | nothing => "unit"

/-- The words for a choice among names. -/
def choiceWords (names : List String) : String :=
  let marked := names.map fun n => "`" ++ n ++ "`"
  match marked with
  | [a] => a
  | [a, b] => a ++ " or " ++ b
  | _ => "one of " ++ ", ".intercalate marked

/-- The text of a fault of shape. -/
def ShapeFault.message : ShapeFault → String
  | wrongType found wanted => "invalid type: " ++ found.words ++ ", expected " ++ wanted.words
  | unknownMember name known => "unknown field `" ++ name ++ "`, expected " ++ choiceWords known
  | duplicateMember name => "duplicate field `" ++ name ++ "`"
  | missingMember name => "missing field `" ++ name ++ "`"
  | unknownKind name =>
    "unknown variant `" ++ name ++ "`, expected " ++ choiceWords (AdapterKind.all.map (·.word))
  | tooShort n => "invalid length " ++ n.repr ++ ", expected struct AdapterConfig with 2 elements"

/-! ## Errors -/

/-- Why there is no registry for a text. -/
inductive ConfigError where
  /-- The text is no JSON. -/
  | broken (fault : Json.Fault)
  /-- The text is no configuration. -/
  | shape (fault : ShapeFault)
  /-- The configuration names a type that is not known. -/
  | unknownType (name : String)
deriving DecidableEq, Repr

/-- The whole text of an error, for those that have more to say than where the text breaks off. -/
def ConfigError.message? : ConfigError → Option String
  | broken _ => none
  | shape f => some ("failed to parse adapter registry config: " ++ f.message)
  | unknownType name => some ("unknown wrapper type `" ++ name ++ "` in adapter registry config")

end VariableNaming
