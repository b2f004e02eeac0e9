import VariableNaming.Letter.Printable

/-!
# Quoted texts

A text in a message stands between quotation marks, in a form that a reader can tell from every
other text: characters that would not show, or would join the one before them, are written by their
number.
-/

set_option autoImplicit false

namespace VariableNaming
namespace Text

/-- The digits of a number in base sixteen, in small letters. -/
def hexDigits (n : Nat) : String := String.ofList (Nat.toDigits 16 n)

/-- How a character is written between quotation marks. -/
def quoteChar (c : Char) : String :=
  if c = '\x00' then "\\0"
  else if c = '\t' then "\\t"
  else if c = '\r' then "\\r"
  else if c = '\n' then "\\n"
  else if c = '"' then "\\\""
  else if c = '\\' then "\\\\"
  else if Letter.isJoiningMark c || !Letter.isPrintable c then
    "\\u\x7b" ++ hexDigits c.toNat ++ "\x7d"
  else c.toString

/-- A text between quotation marks. -/
def quoted (s : String) : String :=
  "\"" ++ String.join (s.toList.map quoteChar) ++ "\""

end Text
end VariableNaming
