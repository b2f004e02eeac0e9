import VariableNaming.RegistryConfig.Fault

/-!
# Reading a configuration

A configuration is read from the tokens of a text, left to right; the first fault is the answer.

* An object may also be written as a sequence of the values of its members.
* The list of adapters may be left out; an entry has to have both of its members, in either order.
* A kind is a word, or an object whose only member has that word for a name and `null` for a value.

Each reader takes the tokens that are left and gives what it reads with the tokens after it.  Where
a value is wanted and another one begins, the fault names what was found; a token that begins no
value is malformed there.  Where a mark is wanted every other token is malformed, and so is every
token but a string where the name of a member is wanted.
-/

set_option autoImplicit false

namespace VariableNaming
namespace RegistryConfig

open Json

/-! ## Faults -/

/-- The text ends where something is still to come. -/
def truncated {α : Type} : Except ConfigError α := .error (.broken .truncated)

/-- A token stands where it cannot stand. -/
def malformed {α : Type} : Except ConfigError α := .error (.broken .malformed)

/-- The shape of the text is wrong. -/
def misshapen {α : Type} (f : ShapeFault) : Except ConfigError α := .error (.shape f)

/-- The fault when the tokens do not begin with the value that is wanted. -/
def unwanted {α : Type} (wanted : Wanted) : List Token → Except ConfigError α
  | [] => truncated
  | .null :: _ => misshapen (.wrongType .null wanted)
  | .boolean b :: _ => misshapen (.wrongType (.boolean b) wanted)
  | .number x :: _ => misshapen (.wrongType (.number x) wanted)
  | .text s :: _ => misshapen (.wrongType (.text s) wanted)
  | .openBracket :: _ => misshapen (.wrongType .sequence wanted)
  | .openBrace :: _ => misshapen (.wrongType .map wanted)
  | .brokenText f :: _ => .error (.broken f)
  | .brokenScalar f :: _ => .error (.broken f)
  | _ :: _ => malformed

/-- The fault when the tokens do not begin with the mark that is wanted. -/
def noMark {α : Type} : List Token → Except ConfigError α
  | [] => truncated
  | _ :: _ => malformed

/-- The fault when the tokens do not begin with a string where only a string can stand. -/
def noText {α : Type} : List Token → Except ConfigError α
  | [] => truncated
  | .brokenText f :: _ => .error (.broken f)
  | _ :: _ => malformed

/-! ## Marks and names -/

/-- The tokens after a mark. -/
def expectMark (mark : Token) : List Token → Except ConfigError (List Token)
  | [] => truncated
  | t :: ts => if t = mark then .ok ts else malformed

/-- The qualified name of a type. -/
def readTypeName : List Token → Except ConfigError (String × List Token)
  | .text s :: ts => .ok (s, ts)
  | ts => unwanted .typeName ts

/-- The kind of a word. -/
def kindOfWord (w : String) : Except ConfigError AdapterKind :=
  match AdapterKind.ofWord? w with
  | some k => .ok k
  | none => misshapen (.unknownKind w)

/-- A kind that is written as a member, behind the brace. -/
def readKindMember : List Token → Except ConfigError (AdapterKind × List Token)
  | .text w :: ts => do
    let k ← kindOfWord w
    let ts ← expectMark .colon ts
    match ts with
    | .null :: ts => do
      let ts ← expectMark .closeBrace ts
      return (k, ts)
    | ts => unwanted .nothing ts
  | ts => noText ts

/-- A kind. -/
def readKind : List Token → Except ConfigError (AdapterKind × List Token)
  | .text w :: ts => do
    let k ← kindOfWord w
    return (k, ts)
  | .openBrace :: ts => readKindMember ts
  | ts => noText ts

/-! ## Entries -/

/-- The members of an entry that have been read. -/
structure Members where
  typeName : Option String
  kind : Option AdapterKind

namespace Members

/-- Nothing has been read. -/
def empty : Members := ⟨none, none⟩

/-- The entry, if both members have been read. -/
def entry (m : Members) : Except ConfigError AdapterEntry :=
  match m.typeName, m.kind with
  | none, _ => misshapen (.missingMember typeMember)
  | _, none => misshapen (.missingMember kindMember)
  | some t, some k => .ok ⟨t, k⟩

end Members

/-- One member of an entry, in addition to those that have been read. -/
def readMember (m : Members) : List Token → Except ConfigError (Members × List Token)
  | .text name :: ts =>
    if name = typeMember then
      if m.typeName.isSome then misshapen (.duplicateMember name)
      else do
        let ts ← expectMark .colon ts
        let (t, ts) ← readTypeName ts
        return (⟨some t, m.kind⟩, ts)
    else if name = kindMember then
      if m.kind.isSome then misshapen (.duplicateMember name)
      else do
        let ts ← expectMark .colon ts
        let (k, ts) ← readKind ts
        return (⟨m.typeName, some k⟩, ts)
    else misshapen (.unknownMember name [typeMember, kindMember])
  | ts => noText ts

/-- The entry behind the last of its members. -/
def closeMembers (m : Members) (ts : List Token) : Except ConfigError (AdapterEntry × List Token) := do
  let ts ← expectMark .closeBrace ts
  let e ← m.entry
  return (e, ts)

/-- The members of an entry from one member on, up to the closing brace.  There are no more than
`left` members to come, because none may be repeated. -/
def readMembers : Nat → Members → List Token → Except ConfigError (AdapterEntry × List Token)
  | 0, m, ts => do
    let (m, ts) ← readMember m ts
    closeMembers m ts
  | left + 1, m, ts => do
    let (m, ts) ← readMember m ts
    match ts with
    | .comma :: ts => readMembers left m ts
    | ts => closeMembers m ts

/-- An entry that is written as an object, behind the brace. -/
def readEntryObject : List Token → Except ConfigError (AdapterEntry × List Token)
  | .closeBrace :: ts => do
    let e ← Members.empty.entry
    return (e, ts)
  | ts => readMembers 2 .empty ts

/-- An entry that is written as a sequence, behind the bracket. -/
def readEntrySequence : List Token → Except ConfigError (AdapterEntry × List Token)
  | .closeBracket :: _ => misshapen (.tooShort 0)
  | ts => do
    let (t, ts) ← readTypeName ts
    match ts with
    | .closeBracket :: _ => misshapen (.tooShort 1)
    | ts => do
      let ts ← expectMark .comma ts
      let (k, ts) ← readKind ts
      let ts ← expectMark .closeBracket ts
      return (⟨t, k⟩, ts)

/-- An entry. -/
def readEntry : List Token → Except ConfigError (AdapterEntry × List Token)
  | .openBrace :: ts => readEntryObject ts
  | .openBracket :: ts => readEntrySequence ts
  | ts => unwanted .entry ts

/-- The entries from one entry on, up to the closing bracket.  Every entry takes up tokens, so that
there are no more entries than `left` if there are no more tokens. -/
def readEntries : Nat → List Token → Except ConfigError (List AdapterEntry × List Token)
  | 0, ts => do
    let (e, ts) ← readEntry ts
    let ts ← expectMark .closeBracket ts
    return ([e], ts)
  | left + 1, ts => do
    let (e, ts) ← readEntry ts
    match ts with
    | .comma :: ts => do
      let (es, ts) ← readEntries left ts
      return (e :: es, ts)
    | ts => do
      let ts ← expectMark .closeBracket ts
      return ([e], ts)

/-- The list of adapters. -/
def readAdapters : List Token → Except ConfigError (List AdapterEntry × List Token)
  | .openBracket :: .closeBracket :: ts => .ok ([], ts)
  | .openBracket :: ts => readEntries ts.length ts
  | ts => unwanted .adapters ts

/-! ## Configurations -/

/-- The name of a member of a configuration, behind which the tokens are given. -/
def readAdaptersName (seen : Bool) : List Token → Except ConfigError (List Token)
  | .text name :: ts =>
    if name = adaptersMember then
      if seen then misshapen (.duplicateMember name) else .ok ts
    else misshapen (.unknownMember name [adaptersMember])
  | ts => noText ts

/-- A configuration that is written as an object, behind the brace. -/
def readConfigObject : List Token → Except ConfigError (RegistryConfig × List Token)
  | .closeBrace :: ts => .ok (⟨[]⟩, ts)
  | ts => do
    let ts ← readAdaptersName false ts
    let ts ← expectMark .colon ts
    let (es, ts) ← readAdapters ts
    match ts with
    | .closeBrace :: ts => return (⟨es⟩, ts)
    | .comma :: ts => do
      let _ ← readAdaptersName true ts
      malformed
    | ts => noMark ts

/-- A configuration that is written as a sequence, behind the bracket. -/
def readConfigSequence : List Token → Except ConfigError (RegistryConfig × List Token)
  | .closeBracket :: ts => .ok (⟨[]⟩, ts)
  | ts => do
    let (es, ts) ← readAdapters ts
    let ts ← expectMark .closeBracket ts
    return (⟨es⟩, ts)

/-- A configuration. -/
def readConfig : List Token → Except ConfigError (RegistryConfig × List Token)
  | .openBrace :: ts => readConfigObject ts
  | .openBracket :: ts => readConfigSequence ts
  | ts => unwanted .config ts

/-- The configuration that a text is, all of it. -/
def read (text : String) : Except ConfigError RegistryConfig := do
  let (c, ts) ← readConfig (tokens text.toList)
  match ts with
  | [] => return c
  | _ :: _ => malformed

end RegistryConfig
end VariableNaming
