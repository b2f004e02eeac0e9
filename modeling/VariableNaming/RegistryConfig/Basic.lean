import VariableNaming.Adapter.Registry
import VariableNaming.Json.StringText

/-!
# The configuration of a registry

A configuration lists wrapper types by their qualified names, each with its kind.  It is written as
JSON, without blanks and with the members in a fixed order.

* `AdapterKind.word`, `AdapterKind.ofWord?` — the words for the kinds.
* `AdapterEntry`, `RegistryConfig` — the configuration.
* `RegistryConfig.write` — its written form.
-/

set_option autoImplicit false

namespace VariableNaming

/-! ## The words for kinds -/

namespace AdapterKind

/-- The kinds in the order in which they are listed for a reader. -/
def all : List AdapterKind := [singleValue, multiValue, noValue]

/-- The word for a kind. -/
def word : AdapterKind → String
  | singleValue => "single_value"
  | multiValue => "multi_value"
  | noValue => "no_value"

/-- The kind of a word. -/
def ofWord? (w : String) : Option AdapterKind := all.find? (·.word = w)

theorem ofWord?_eq_some_iff {w : String} {k : AdapterKind} : ofWord? w = some k ↔ k.word = w := by
  constructor
  · intro h
    simpa using List.find?_some h
  · rintro rfl
    cases k <;> decide

end AdapterKind

/-! ## Configurations -/

/-- A wrapper type by its qualified name, and its kind. -/
structure AdapterEntry where
  typeName : String
  kind : AdapterKind
deriving DecidableEq, Repr

/-- The wrappers of a registry, in the order of registration. -/
structure RegistryConfig where
  adapters : List AdapterEntry
deriving DecidableEq, Repr

/-! ## Members -/

/-- The member of a configuration. -/
def adaptersMember : String := "adapters"

/-- The first member of an entry. -/
def typeMember : String := "type"

/-- The second member of an entry. -/
def kindMember : String := "kind"

/-! ## Writing -/

/-- A member of an object whose value is a string. -/
def writeMember (name value : String) : List Char :=
  Json.writeString name.toList ++ ':' :: Json.writeString value.toList

/-- The written form of an entry. -/
def AdapterEntry.write (e : AdapterEntry) : List Char :=
  '{' :: writeMember typeMember e.typeName ++ ',' :: writeMember kindMember e.kind.word ++ ['}']

namespace RegistryConfig

/-- The written form of a list of entries, without the brackets. -/
def writeEntries (entries : List AdapterEntry) : List Char :=
  [','].intercalate (entries.map AdapterEntry.write)

/-- The written form of a configuration. -/
def write (c : RegistryConfig) : String :=
  String.ofList ('{' :: Json.writeString adaptersMember.toList ++ ':' :: '[' ::
    writeEntries c.adapters ++ [']', '}'])

end RegistryConfig
end VariableNaming
