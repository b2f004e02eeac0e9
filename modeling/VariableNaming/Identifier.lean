import VariableNaming.Letter.LowerForm
import VariableNaming.Letter.UpperForm
import VariableNaming.Letter.Uppercase
import VariableNaming.QualifiedName

/-!
# Conventions for identifiers

The conventions that turn the name of a type into the name of a variable, and the name of an
attribute into the name of a property.

* `decapitalize` — the first letter becomes small, unless the text starts with an acronym.
* `pluralize` — a variable for many things is named after one of them.
* `propertyOfAttribute` — a hyphenated name becomes a camel-case one.
* `qualify` — an attribute name inside a scope.

Each convention is a function on characters; the functions on `String` only unpack and pack.
-/

set_option autoImplicit false

namespace VariableNaming
namespace Identifier

open Letter

/-! ## Small first letters -/

/-- The first letter in lower case, unless the first two letters are both upper case: then the text
starts with an acronym and is left as it is. -/
def decapitalizeChars : List Char → List Char
  | [] => []
  | [c] => [lowerForm c]
  | c :: d :: cs =>
    if isUppercase c && isUppercase d then c :: d :: cs else lowerForm c :: d :: cs

/-- `Product` becomes `product`, and `UKProduct` stays. -/
def decapitalize (name : String) : String :=
  String.ofList (decapitalizeChars name.toList)

@[simp] theorem toList_decapitalize (name : String) :
    (decapitalize name).toList = decapitalizeChars name.toList := by
  simp [decapitalize]

@[simp] theorem length_decapitalizeChars (cs : List Char) :
    (decapitalizeChars cs).length = cs.length := by
  fun_cases decapitalizeChars cs <;> simp_all

@[simp] theorem tail_decapitalizeChars (cs : List Char) :
    (decapitalizeChars cs).tail = cs.tail := by
  fun_cases decapitalizeChars cs <;> simp_all

example : decapitalizeChars ['M', 'y', 'X'] = ['m', 'y', 'X'] ∧
    decapitalizeChars ['U', 'K', 'X'] = ['U', 'K', 'X'] ∧ decapitalizeChars ['X'] = ['x'] := by
  decide

/-! ## Plurals -/

/-- The ending of a name for many things. -/
def pluralEnding : String := "List"

/-- `product` becomes `productList`. -/
def pluralize (name : String) : String :=
  name ++ pluralEnding

/-! ## Attributes and properties -/

/-- The character between the words of an attribute name. -/
def wordSeparator : Char := '-'

/-- Drops every separator and puts the character that follows a run of them in upper case.  The flag
says whether a separator stands just before the text. -/
def joinWords (separated : Bool) : List Char → List Char
  | [] => []
  | c :: cs =>
    if c = wordSeparator then joinWords true cs
    else (if separated then upperForm c else c) :: joinWords false cs

/-- A text without a separator is left as it is. -/
theorem joinWords_false_eq_self {cs : List Char} (h : wordSeparator ∉ cs) :
    joinWords false cs = cs := by
  induction cs with
  | nil => rfl
  | cons c cs ih =>
    simp only [List.mem_cons, not_or] at h
    have hc : c ≠ wordSeparator := fun he => h.1 he.symm
    simp [joinWords, hc, ih h.2]

/-- `transaction-manager` becomes `transactionManager`; a separator at the end adds nothing.  The
characters are looked at one by one only if there is a separator among them. -/
def propertyOfAttribute (name : String) : String :=
  if wordSeparator ∈ name.toList then String.ofList (joinWords false name.toList) else name

/-- Nothing would come of looking at the characters of a name without a separator. -/
theorem propertyOfAttribute_eq (name : String) :
    propertyOfAttribute name = String.ofList (joinWords false name.toList) := by
  rw [propertyOfAttribute]
  split
  · rfl
  · rename_i hfree
    rw [joinWords_false_eq_self hfree, String.ofList_toList]

@[simp] theorem toList_propertyOfAttribute (name : String) :
    (propertyOfAttribute name).toList = joinWords false name.toList := by
  rw [propertyOfAttribute_eq, String.toList_ofList]

example : joinWords false ['a', '-', '-', 'b', 'c', '-'] = ['a', 'B', 'c'] := by decide
example : joinWords false ['-', 'a'] = ['A'] ∧ joinWords false ['-', 'ß'] = ['ß'] := by decide

/-! ## Qualified names -/

/-- The name of an attribute inside a scope: neither part is checked. -/
def qualify (scope name : String) : String :=
  scope.push QualifiedName.packageSeparator ++ name

end Identifier
end VariableNaming
