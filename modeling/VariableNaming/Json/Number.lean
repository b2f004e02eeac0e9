import VariableNaming.Json.Fault

/-!
# Numbers in JSON

A number is a whole number if it is written without fraction and exponent and fits into 64 bits,
with or without sign; every other number is read as a binary64 number.  Reading is quick rather than
exact: the first digits that fit into 64 bits are kept and the rest only shift the point, and one
multiplication or division by a power of ten makes the number.

* `Numeral` and `readNumeral` — the parts of a written number.
* `Numeral.value` — the number.
-/

set_option autoImplicit false

namespace VariableNaming
namespace Json

/-- A number. -/
inductive Number where
  | whole (n : Int)
  /-- A binary64 number, by its bits. -/
  | binary (bits : UInt64)
deriving DecidableEq, Repr

/-! ## The parts of a written number -/

/-- The exponent of a written number. -/
structure Exponent where
  negative : Bool
  digits : List Char
deriving DecidableEq, Repr

/-- A written number. -/
structure Numeral where
  negative : Bool
  whole : List Char
  fraction : Option (List Char)
  exponent : Option Exponent
deriving DecidableEq, Repr

/-- One or more digits and what follows them. -/
def readDigits (cs : List Char) : Except Fault (List Char × List Char) :=
  if cs.takeWhile Char.isDigit = [] then .error (if cs.isEmpty then .truncated else .malformed)
  else .ok (cs.takeWhile Char.isDigit, cs.dropWhile Char.isDigit)

/-- The digits before the point: a zero at the front stands alone. -/
def readWhole (cs : List Char) : Except Fault (List Char × List Char) :=
  match readDigits cs with
  | .error f => .error f
  | .ok ('0' :: _ :: _, _) => .error .malformed
  | .ok (ds, rest) => .ok (ds, rest)

/-- The fraction, if there is one, and what follows it. -/
def readFraction : List Char → Except Fault (Option (List Char) × List Char)
  | [] => .ok (none, [])
  | c :: cs =>
    if c = '.' then
      match readDigits cs with
      | .error f => .error f
      | .ok (ds, rest) => .ok (some ds, rest)
    else .ok (none, c :: cs)

/-- Whether there is a minus, and what follows it. -/
def readMinus : List Char → Bool × List Char
  | '-' :: cs => (true, cs)
  | cs => (false, cs)

/-- Whether a sign, if there is one, is a minus, and what follows it. -/
def readSign : List Char → Bool × List Char
  | '-' :: cs => (true, cs)
  | '+' :: cs => (false, cs)
  | cs => (false, cs)

/-- The exponent, if there is one, and what follows it. -/
def readExponent : List Char → Except Fault (Option Exponent × List Char)
  | [] => .ok (none, [])
  | c :: cs =>
    if c = 'e' || c = 'E' then
      match readDigits (readSign cs).2 with
      | .error f => .error f
      | .ok (ds, rest) => .ok (some ⟨(readSign cs).1, ds⟩, rest)
    else .ok (none, c :: cs)

/-- A written number and what follows it. -/
def readNumeral (cs : List Char) : Except Fault (Numeral × List Char) :=
  match readWhole (readMinus cs).2 with
  | .error f => .error f
  | .ok (whole, cs₁) =>
    match readFraction cs₁ with
    | .error f => .error f
    | .ok (fraction, cs₂) =>
      match readExponent cs₂ with
      | .error f => .error f
      | .ok (exponent, cs₃) => .ok (⟨(readMinus cs).1, whole, fraction, exponent⟩, cs₃)

theorem length_of_readDigits {cs ds rest : List Char} (h : readDigits cs = .ok (ds, rest)) :
    rest.length < cs.length := by
  unfold readDigits at h
  split at h
  · simp at h
  · rename_i hne
    simp only [Except.ok.injEq, Prod.mk.injEq] at h
    obtain ⟨-, rfl⟩ := h
    have hsplit := List.takeWhile_append_dropWhile (p := Char.isDigit) (l := cs)
    have hsum := congrArg List.length hsplit
    have hpos := List.length_pos_iff.2 hne
    rw [List.length_append] at hsum
    omega

theorem length_of_readWhole {cs ds rest : List Char} (h : readWhole cs = .ok (ds, rest)) :
    rest.length < cs.length := by
  unfold readWhole at h
  split at h
  · simp at h
  · simp at h
  · rename_i hdigits
    simp only [Except.ok.injEq, Prod.mk.injEq] at h
    obtain ⟨-, rfl⟩ := h
    exact length_of_readDigits hdigits

theorem length_of_readFraction {cs rest : List Char} {f : Option (List Char)}
    (h : readFraction cs = .ok (f, rest)) : rest.length ≤ cs.length := by
  unfold readFraction at h
  split at h
  · simp_all
  · split at h
    · split at h
      · simp at h
      · rename_i hdigits
        simp only [Except.ok.injEq, Prod.mk.injEq] at h
        obtain ⟨-, rfl⟩ := h
        exact Nat.le_succ_of_le (Nat.le_of_lt (length_of_readDigits hdigits))
    · simp_all

theorem length_readMinus (cs : List Char) : (readMinus cs).2.length ≤ cs.length := by
  unfold readMinus
  split <;> simp

theorem length_readSign (cs : List Char) : (readSign cs).2.length ≤ cs.length := by
  unfold readSign
  split <;> simp

theorem length_of_readExponent {cs rest : List Char} {e : Option Exponent}
    (h : readExponent cs = .ok (e, rest)) : rest.length ≤ cs.length := by
  unfold readExponent at h
  split at h
  · simp_all
  · rename_i c cs
    split at h
    · split at h
      · simp at h
      · rename_i hdigits
        simp only [Except.ok.injEq, Prod.mk.injEq] at h
        obtain ⟨-, rfl⟩ := h
        have h1 := length_of_readDigits hdigits
        have h2 := length_readSign cs
        simp only [List.length_cons]
        omega
    · simp_all

/-- A written number takes up some of the text. -/
theorem length_of_readNumeral {cs rest : List Char} {n : Numeral}
    (h : readNumeral cs = .ok (n, rest)) : rest.length < cs.length := by
  unfold readNumeral at h
  split at h
  · simp at h
  · rename_i hwhole
    split at h
    · simp at h
    · rename_i hfraction
      split at h
      · simp at h
      · rename_i hexponent
        simp only [Except.ok.injEq, Prod.mk.injEq] at h
        obtain ⟨-, rfl⟩ := h
        have h1 := length_of_readWhole hwhole
        have h2 := length_of_readFraction hfraction
        have h3 := length_of_readExponent hexponent
        have h4 := length_readMinus cs
        omega

/-! ## The value of a written number -/

/-- The greatest number of 64 bits. -/
def maxWord : Nat := UInt64.size - 1

/-- The digits kept so far, as a number, and the digits that did not fit any more. -/
def keepDigits : Nat → List Char → Nat × List Char
  | kept, [] => (kept, [])
  | kept, d :: ds =>
    let longer := 10 * kept + (d.toNat - '0'.toNat)
    if longer ≤ maxWord then keepDigits longer ds else (kept, d :: ds)

/-- The greatest exponent that is not taken for infinite. -/
def maxExponent : Nat := UInt32.size / 2 - 1

/-- The greatest power of ten that is a binary64 number. -/
def maxPowerOfTen : Nat := 308

/-- The binary64 number nearest to a power of ten, for an exponent up to `maxPowerOfTen`. -/
def powerOfTen (exponent : Nat) : Float := Float.ofScientific 1 false exponent

/-- `f` multiplied by a power of ten, if this is finite. -/
def scaleUp (f : Float) (exponent : Nat) : Option Float :=
  if exponent ≤ maxPowerOfTen then
    let g := f * powerOfTen exponent
    if g.isInf then none else some g
  else if f == 0 then some f
  else none

/-- `f` divided by a power of ten, in steps for a large one. -/
def scaleDown (f : Float) (exponent : Nat) : Float :=
  if exponent ≤ maxPowerOfTen then f / powerOfTen exponent
  else if f == 0 then f
  else scaleDown (f / powerOfTen maxPowerOfTen) (exponent - maxPowerOfTen)
termination_by exponent
decreasing_by
  simp only [maxPowerOfTen] at *
  omega

/-- `f` times ten to an exponent, if this is finite. -/
def scale (f : Float) (exponent : Int) : Option Float :=
  if 0 ≤ exponent then scaleUp f exponent.toNat else some (scaleDown f exponent.natAbs)

namespace Numeral

/-- The binary64 number for the digits kept and the place of their end. -/
def binary (n : Numeral) (kept : Nat) (place : Int) : Option Float :=
  match n.exponent with
  | none => scale kept.toUInt64.toFloat place
  | some e =>
    let size := e.digits.foldl (fun k d => 10 * k + (d.toNat - '0'.toNat)) 0
    if size ≤ maxExponent then
      scale kept.toUInt64.toFloat (if e.negative then place - size else place + size)
    else if kept = 0 || e.negative then some 0
    else none

/-- The number that is written, unless it is too large. -/
def value (n : Numeral) : Option Number :=
  let (kept, dropped) := keepDigits 0 n.whole
  let float (kept : Nat) (place : Int) : Option Number :=
    (n.binary kept place).map fun f => .binary (if n.negative then -f else f).toBits
  match n.fraction, n.exponent, dropped with
  | none, none, [] =>
    if !n.negative then some (.whole kept)
    else if 0 < kept && kept ≤ UInt64.size / 2 then some (.whole (-kept))
    else float kept 0
  | none, _, _ => float kept dropped.length
  | some ds, _, _ =>
    let (kept', dropped') := keepDigits kept ds
    float kept' ((dropped.length : Int) - (ds.length - dropped'.length : Nat))

end Numeral

/-- A number and what follows it. -/
def readNumber (cs : List Char) : Except Fault (Number × List Char) :=
  match readNumeral cs with
  | .error f => .error f
  | .ok (n, rest) =>
    match n.value with
    | some x => .ok (x, rest)
    | none => .error .malformed

theorem length_of_readNumber {cs rest : List Char} {x : Number}
    (h : readNumber cs = .ok (x, rest)) : rest.length < cs.length := by
  unfold readNumber at h
  split at h
  · simp at h
  · rename_i hnumeral
    split at h
    · simp only [Except.ok.injEq, Prod.mk.injEq] at h
      obtain ⟨-, rfl⟩ := h
      exact length_of_readNumeral hnumeral
    · simp at h

end Json
end VariableNaming
