/-!
# Binary floating-point numbers

A number with a binary significand is kept as what it is: a sign, a significand and an exponent.
All rounding goes through `Format.round`, which takes an exact quotient to the nearest number of a
format, a tie to the even significand.
-/

namespace PromptBook
namespace Number

/-- A number of some binary format: `± significand · 2 ^ exponent`, an infinity, or no number. -/
inductive Binary
  | finite (negative : Bool) (significand : Nat) (exponent : Int)
  | infinite (negative : Bool)
  | nan
  deriving DecidableEq, Inhabited

/-- A binary format: significands below `2 ^ precision`, exponents from `least` to `greatest`. -/
structure Format where
  precision : Nat
  least : Int
  greatest : Int

/-- Double precision. -/
def double : Format := ⟨53, -1074, 971⟩

/-- Single precision. -/
def single : Format := ⟨24, -149, 104⟩

/-- A quotient rounded to the nearest integer, a tie to the even one. -/
def roundHalfEven (num den : Nat) : Nat :=
  let q := num / den
  let r := num % den
  if 2 * r < den then q
  else if den < 2 * r then q + 1
  else if q % 2 = 0 then q else q + 1

/-- A quotient times a power of a base, as a quotient. -/
def shifted (base : Nat) (num den : Nat) (exponent : Int) : Nat × Nat :=
  if 0 ≤ exponent then (num * base.pow exponent.toNat, den)
  else (num, den * base.pow (-exponent).toNat)

/-- The exponent `k` with `2 ^ k ≤ num / den < 2 ^ (k + 1)`. -/
def magnitude (num den : Nat) : Int :=
  let guess : Int := (num.log2 : Int) - den.log2
  let (n, d) := shifted 2 num den (-guess)
  if n < d then guess - 1 else guess

namespace Format

/-- The number of the format nearest to `± num / den`. -/
def round (f : Format) (negative : Bool) (num den : Nat) : Binary :=
  if num = 0 then .finite negative 0 f.least
  else
    let exponent := max f.least (magnitude num den + 1 - f.precision)
    let (n, d) := shifted 2 num den (-exponent)
    let significand := roundHalfEven n d
    if significand = Nat.pow 2 f.precision then
      if exponent + 1 > f.greatest then .infinite negative
      else .finite negative (Nat.pow 2 (f.precision - 1)) (exponent + 1)
    else if exponent > f.greatest then .infinite negative
    else .finite negative significand exponent

/-- The number of the format nearest to an integer. -/
def ofNat (f : Format) (n : Nat) : Binary :=
  f.round false n 1

/-- The number of the format nearest to a number of another. -/
def convert (f : Format) : Binary → Binary
  | .finite negative m e =>
    let (num, den) := shifted 2 m 1 e
    f.round negative num den
  | x => x

/-- The number nearest to `± coefficient · 10 ^ exponent`.  Beyond four hundred places either way
every coefficient that is not zero is out of the range of both formats. -/
def ofDecimal (f : Format) (negative : Bool) (coefficient : Nat) (exponent : Int) : Binary :=
  let places : Int := exponent + (Nat.toDigits 10 coefficient).length
  if coefficient = 0 ∨ places < -400 then .finite negative 0 f.least
  else if places > 400 then .infinite negative
  else
    let (num, den) := shifted 10 coefficient 1 exponent
    f.round negative num den

/-- The rounded product with an integer power of ten, itself rounded first. -/
def timesPower (f : Format) (x : Binary) (power : Nat) : Binary :=
  match x, f.ofNat (Nat.pow 10 power) with
  | .finite negative m e, .finite _ m' e' =>
    let (num, den) := shifted 2 (m * m') 1 (e + e')
    f.round negative num den
  | .finite negative _ _, _ => .infinite negative
  | y, _ => y

/-- The rounded quotient by an integer power of ten, itself rounded first. -/
def overPower (f : Format) (x : Binary) (power : Nat) : Binary :=
  match x, f.ofNat (Nat.pow 10 power) with
  | .finite negative m e, .finite _ m' e' =>
    let (num, den) := shifted 2 m m' (e - e')
    f.round negative num den
  | .finite negative _ _, _ => .finite negative 0 f.least
  | y, _ => y

/-- The quotient of two integers, each rounded first. -/
def ratio (f : Format) (num den : Nat) : Binary :=
  match f.ofNat num, f.ofNat den with
  | .finite _ m e, .finite _ m' e' =>
    let (n, d) := shifted 2 m m' (e - e')
    f.round false n d
  | _, _ => .nan

end Format

namespace Binary

/-- The number with the opposite sign. -/
def neg : Binary → Binary
  | finite negative m e => finite (!negative) m e
  | infinite negative => infinite (!negative)
  | nan => nan

/-- Neither infinite nor no number. -/
def isFinite : Binary → Bool
  | finite .. => true
  | _ => false

/-- Plus or minus zero. -/
def isZero : Binary → Bool
  | finite _ 0 _ => true
  | _ => false

end Binary

end Number
end PromptBook
