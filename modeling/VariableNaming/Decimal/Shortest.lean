/-!
# The shortest decimal that reads back

A binary64 number stands for every real number that is nearer to it than to any other one.  Of the
decimal numbers among these, the ones with the fewest digits are multiples of the largest power of
ten; of those, the nearest to the number itself is its shortest decimal.

* `Span` — the reals that are read as one number, with exact ends.
* `Span.ofBits` — the span of a positive binary64 number.
* `Span.hit?` — the best multiple of one power of ten in the span.
* `shortest` — the first hit, from the coarsest power of ten to the finest.
-/

set_option autoImplicit false

namespace VariableNaming
namespace Decimal

/-- The reals from `low / den` to `high / den`, which are read as `mid / den`.  The ends belong to
the span if it is closed. -/
structure Span where
  low : Nat
  mid : Nat
  high : Nat
  den : Nat
  closed : Bool
deriving DecidableEq, Repr

namespace Span

/-- The span of `mantissa * 2 ^ exponent`.  Below the least number of a binade the neighbour is half
as far away as above it. -/
def ofBinary (mantissa : Nat) (exponent : Int) (leastOfBinade : Bool) : Span :=
  let up := Nat.pow 2 exponent.toNat
  { low := (4 * mantissa - if leastOfBinade then 1 else 2) * up
    mid := 4 * mantissa * up
    high := (4 * mantissa + 2) * up
    den := 4 * Nat.pow 2 (-exponent).toNat
    closed := mantissa % 2 = 0 }

/-- The span of the positive finite binary64 number with these bits. -/
def ofBits (bits : Nat) : Span :=
  let field : Nat := bits / Nat.pow 2 52 % Nat.pow 2 11
  let fraction : Nat := bits % Nat.pow 2 52
  if field = 0 then ofBinary fraction (-1074) false
  else ofBinary (Nat.pow 2 52 + fraction) ((field : Int) - 1075) (fraction = 0 && 1 < field)

/-- The span in units of `10 ^ exponent`. -/
def inUnits (s : Span) (exponent : Int) : Span :=
  let up := Nat.pow 10 (-exponent).toNat
  { s with low := s.low * up, mid := s.mid * up, high := s.high * up,
           den := s.den * Nat.pow 10 exponent.toNat }

/-- Whether a whole number lies in the span. -/
def contains (s : Span) (n : Nat) : Bool :=
  if s.closed then s.low ≤ n * s.den && n * s.den ≤ s.high
  else s.low < n * s.den && n * s.den < s.high

/-- The whole number in the span that is nearest to the middle; of two that are equally near, the
even one. -/
def hit? (s : Span) : Option Nat :=
  let below := s.mid / s.den
  match s.contains below, s.contains (below + 1) with
  | false, false => none
  | true, false => some below
  | false, true => some (below + 1)
  | true, true =>
    let rest := 2 * (s.mid % s.den)
    if rest < s.den then some below
    else if s.den < rest then some (below + 1)
    else some (if below % 2 = 0 then below else below + 1)

end Span

/-- A decimal number: `digits * 10 ^ exponent`. -/
structure Scientific where
  digits : Nat
  exponent : Int
deriving DecidableEq, Repr

/-- The exponents of ten that are tried, from the coarsest to the finest. -/
def exponents : List Int :=
  (List.range 660).map fun i : Nat => 320 - (i : Int)

/-- The shortest decimal that is read as the positive finite binary64 number with these bits. -/
def shortest (bits : Nat) : Scientific :=
  let span := Span.ofBits bits
  (exponents.findSome? fun e => ((span.inUnits e).hit?).map (⟨·, e⟩)).getD ⟨0, 0⟩

example : shortest 0x3FB999999999999A = ⟨1, -1⟩ ∧
    shortest 0x3FD3333333333334 = ⟨30000000000000004, -17⟩ := by
  decide +kernel
example : shortest 1 = ⟨5, -324⟩ ∧ shortest 0x7FEFFFFFFFFFFFFF = ⟨17976931348623157, 292⟩ := by
  decide +kernel

/-! ## Writing -/

/-- How a decimal number is written. -/
structure Layout where
  /-- The first digit stands for at least this power of ten when all digits are written out. -/
  leastPositional : Int
  /-- The first digit stands for at most this power of ten when all digits are written out. -/
  greatestPositional : Int
  /-- What comes after the digits of a whole number. -/
  wholeEnding : String
  /-- What comes before the digits of an exponent that is not negative. -/
  exponentMark : String
  /-- What comes before the digits of a negative exponent. -/
  negativeExponentMark : String

/-- So many zeros. -/
def zeros (n : Nat) : String := String.ofList (List.replicate n '0')

/-- A positive decimal number in a layout.  Its digits do not end in a zero. -/
def Scientific.write (l : Layout) (d : Scientific) : String :=
  let ds := d.digits.repr.toList
  let lead : Int := d.exponent + ds.length - 1
  if l.leastPositional ≤ lead && lead ≤ l.greatestPositional then
    if 0 ≤ d.exponent then d.digits.repr ++ zeros d.exponent.toNat ++ l.wholeEnding
    else if 0 ≤ lead then
      String.ofList (ds.take (lead.toNat + 1)) ++ "." ++ String.ofList (ds.drop (lead.toNat + 1))
    else "0." ++ zeros (-lead - 1).toNat ++ d.digits.repr
  else
    let fraction := if ds.length ≤ 1 then "" else "." ++ String.ofList (ds.drop 1)
    let mark := if 0 ≤ lead then l.exponentMark else l.negativeExponentMark
    String.ofList (ds.take 1) ++ fraction ++ mark ++ lead.natAbs.repr

/-- A finite binary64 number in a layout, shortest digits. -/
def writeBits (l : Layout) (bits : UInt64) : String :=
  let sign := if bits.toNat / Nat.pow 2 63 = 1 then "-" else ""
  let magnitude := bits.toNat % Nat.pow 2 63
  if magnitude = 0 then sign ++ "0" ++ l.wholeEnding
  else sign ++ (shortest magnitude).write l

end Decimal
end VariableNaming
