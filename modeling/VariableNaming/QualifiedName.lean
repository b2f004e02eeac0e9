import VariableNaming.Text.Segment

/-!
# Qualified names

A qualified name is written with `.` between packages and `$` before the name of a nested or
generated type: `com.myapp.Outer$Inner`.

* `simple` — the name without its package, `Outer$Inner`.
* `dotted` — a simple name as a reader writes it, `Outer.Inner`.
* `arrayEnding` — what the name of an array type adds to the name of its component.
-/

set_option autoImplicit false

namespace VariableNaming
namespace QualifiedName

/-- The character between the segments of a package. -/
def packageSeparator : Char := '.'

/-- The character before the name of a nested or generated type. -/
def nestingSeparator : Char := '$'

/-- The ending of the name of an array type. -/
def arrayEnding : String := "[]"

/-- The name without its package. -/
def simple (name : String) : String :=
  String.ofList (Text.lastSegment packageSeparator name.toList)

/-- The name with nested types set apart in the way of packages. -/
def dotted (name : String) : String :=
  String.ofList (Text.replaceChar nestingSeparator packageSeparator name.toList)

@[simp] theorem toList_simple (name : String) :
    (simple name).toList = Text.lastSegment packageSeparator name.toList := by
  simp [simple]

@[simp] theorem toList_dotted (name : String) :
    (dotted name).toList = Text.replaceChar nestingSeparator packageSeparator name.toList := by
  simp [dotted]

theorem packageSeparator_notMem_simple (name : String) :
    packageSeparator ∉ (simple name).toList := by
  simpa using Text.not_mem_lastSegment packageSeparator name.toList

theorem nestingSeparator_notMem_dotted (name : String) :
    nestingSeparator ∉ (dotted name).toList := by
  simpa using Text.not_mem_replaceChar (by decide : packageSeparator ≠ nestingSeparator) name.toList

end QualifiedName
end VariableNaming
