/-!
# Runs of code points

A property of characters that a standard defines is kept as a table of runs: arithmetic progressions
of code points, most of step one, some of step two where capital and small letters alternate.

* `Run` and `Run.covers` — a set of code points; `anyCovers` asks a whole table.
* `CaseRun` and `CaseRun.image` — a run whose members all move by the same distance; `mapChar`
  applies the first run of a table that covers a character and leaves every other character alone.
-/

set_option autoImplicit false

namespace VariableNaming
namespace Letter

/-- The code points `first`, `first + step`, `first + 2 * step`, …, up to `last`. -/
structure Run where
  first : Nat
  last : Nat
  step : Nat
deriving DecidableEq, Repr

/-- Whether `n` is one of the code points of the run. -/
def Run.covers (r : Run) (n : Nat) : Bool :=
  r.first ≤ n && n ≤ r.last && (n - r.first) % r.step == 0

/-- Whether some run of the table covers `n`. -/
def anyCovers (table : List Run) (n : Nat) : Bool :=
  table.any (·.covers n)

/-- A run whose first member is mapped to `target`, and every other member by the same distance. -/
structure CaseRun where
  first : Nat
  last : Nat
  step : Nat
  target : Nat
deriving DecidableEq, Repr

namespace CaseRun

/-- The code points that the mapping moves. -/
def domain (r : CaseRun) : Run :=
  ⟨r.first, r.last, r.step⟩

/-- The code point that `n`, a member of the run, is mapped to. -/
def image (r : CaseRun) (n : Nat) : Nat :=
  r.target + (n - r.first)

end CaseRun

/-- The image of `c` under the first run that covers it; `c` itself when none does. -/
def mapChar (table : List CaseRun) (c : Char) : Char :=
  match table.find? (·.domain.covers c.toNat) with
  | some r => Char.ofNat (r.image c.toNat)
  | none => c

theorem mapChar_of_find?_eq_none {table : List CaseRun} {c : Char}
    (h : table.find? (·.domain.covers c.toNat) = none) : mapChar table c = c := by
  simp [mapChar, h]

theorem mapChar_of_find?_eq_some {table : List CaseRun} {c : Char} {r : CaseRun}
    (h : table.find? (·.domain.covers c.toNat) = some r) :
    mapChar table c = Char.ofNat (r.image c.toNat) := by
  simp [mapChar, h]

end Letter
end VariableNaming
