import PromptBook.Number.Binary

/-!
# The shortest decimal of a binary number

Of the decimals that read back as a given number, one with the fewest digits is taken, and of those
the nearest to the number.  A decimal reads back if it lies between the two midpoints towards the
neighbouring numbers; the midpoints themselves count when the significand is even.

Lengths and distances are compared exactly, on natural numbers: all values are multiples of one
power of two, the unit of `Span`.
-/

namespace PromptBook
namespace Number

/-- A decimal: `coefficient · 10 ^ exponent`. -/
structure Decimal where
  coefficient : Nat
  exponent : Int
  deriving DecidableEq, Inhabited

namespace Decimal

/-- The digits of the coefficient. -/
def digits (x : Decimal) : List Char :=
  Nat.toDigits 10 x.coefficient

/-- The place of the decimal point, counted from before the first digit. -/
def point (x : Decimal) : Int :=
  x.exponent + x.digits.length

/-- The decimal without the zeros at the end of its coefficient. -/
def strip (x : Decimal) : Decimal :=
  if h : 0 < x.coefficient ∧ x.coefficient % 10 = 0 then
    strip ⟨x.coefficient / 10, x.exponent + 1⟩
  else x
termination_by x.coefficient
decreasing_by exact Nat.div_lt_self h.1 (by decide)

end Decimal

/-- A number with the midpoints around it, in units of `2 ^ unit`. -/
structure Span where
  low : Nat
  value : Nat
  high : Nat
  unit : Int
  /-- Whether the midpoints belong to the number. -/
  closed : Bool

namespace Span

/-- The span of a number of a format.  Below a power of two the numbers lie twice as close. -/
def of (f : Format) (significand : Nat) (exponent : Int) : Span :=
  let atPower := significand = Nat.pow 2 (f.precision - 1) ∧ f.least < exponent
  { low := if atPower then 4 * significand - 1 else 4 * significand - 2
    value := 4 * significand
    high := 4 * significand + 2
    unit := exponent - 2
    closed := significand % 2 = 0 }

/-- `coefficient · 10 ^ exponent` and `amount` units, brought to one scale. -/
def scaled (s : Span) (amount : Nat) (x : Decimal) : Nat × Nat :=
  let (n, d) := shifted 2 amount 1 s.unit
  let (n', d') := shifted 10 x.coefficient 1 x.exponent
  (n * d', n' * d)

/-- Whether a decimal reads back as the number. -/
def holds (s : Span) (x : Decimal) : Bool :=
  let (low, a) := s.scaled s.low x
  let (high, b) := s.scaled s.high x
  if s.closed then low ≤ a && b ≤ high else low < a && b < high

/-- Twice the number does not exceed the sum of a decimal and the next one on its grid. -/
def lowerHalf (s : Span) (x : Decimal) : Bool :=
  let (v, sum) := s.scaled (2 * s.value) ⟨2 * x.coefficient + 1, x.exponent⟩
  v < sum || (v == sum && x.coefficient % 2 == 0)

/-- The exponent `p` with `10 ^ (p - 1) ≤ value < 10 ^ p`. -/
def point (s : Span) : Int :=
  let (num, den) := shifted 2 s.value 1 s.unit
  let guess : Int := magnitude num den * 30103 / 100000
  let reaches (p : Int) : Bool :=
    let (v, ten) := s.scaled s.value ⟨1, p⟩
    ten ≤ v
  if reaches (guess + 1) then guess + 2 else if reaches guess then guess + 1 else guess

/-- The decimal of a given number of digits that reads back, if there is one. -/
def decimalOf (s : Span) (count : Nat) : Option Decimal :=
  let exponent := s.point - count
  let (num, den) := shifted 2 s.value 1 s.unit
  let (n, d) := shifted 10 num den (-exponent)
  let below : Decimal := ⟨n / d, exponent⟩
  let above : Decimal := ⟨n / d + 1, exponent⟩
  if s.holds below && (s.lowerHalf below || !s.holds above) then some below
  else if s.holds above then some above
  else none

end Span

namespace Format

/-- The shortest decimal that reads back as a number of the format.  Seventeen digits always do. -/
def shortest (f : Format) (significand : Nat) (exponent : Int) : Decimal :=
  if significand = 0 then ⟨0, 0⟩
  else
    let s := Span.of f significand exponent
    match ((List.range 17).map (· + 1)).findSome? s.decimalOf with
    | some x => x.strip
    | none => ⟨0, 0⟩

end Format

end Number
end PromptBook
