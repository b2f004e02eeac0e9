import VariableNaming.Letter.Run

/-!
# Blank characters

`isBlank` is the property `White_Space` of Unicode 17; `trimBlanks` cuts the blank characters off
both ends of a text.
-/

set_option autoImplicit false

namespace VariableNaming
namespace Letter

/-- The characters with the property `White_Space`. -/
def blankRuns : List Run := [
  ⟨0x0009, 0x000D, 1⟩, ⟨0x0020, 0x0020, 1⟩, ⟨0x0085, 0x0085, 1⟩, ⟨0x00A0, 0x00A0, 1⟩,
  ⟨0x1680, 0x1680, 1⟩, ⟨0x2000, 0x200A, 1⟩, ⟨0x2028, 0x2029, 1⟩, ⟨0x202F, 0x202F, 1⟩,
  ⟨0x205F, 0x205F, 1⟩, ⟨0x3000, 0x3000, 1⟩]

/-- Whether a character is blank. -/
def isBlank (c : Char) : Bool :=
  anyCovers blankRuns c.toNat

/-- The text between its leading and its trailing blank characters. -/
def trimBlanks (cs : List Char) : List Char :=
  ((cs.dropWhile isBlank).reverse.dropWhile isBlank).reverse

example : isBlank '\u00a0' = true ∧ isBlank '\u3000' = true ∧ isBlank '\u200b' = false := by decide

end Letter
end VariableNaming
