import PromptBook.Number.Shortest

/-!
# Written numbers

Two layouts of a decimal, the positional and the scientific one, and the rule that chooses between
them.  A positional number always has a fraction.
-/

namespace PromptBook
namespace Number

namespace Decimal

/-- `0.001`, `12.5`, `100.0`. -/
def positional (x : Decimal) : List Char :=
  let ds := x.digits
  let point := x.point
  if point ≤ 0 then '0' :: '.' :: List.replicate (-point).toNat '0' ++ ds
  else if ds.length ≤ point.toNat then
    ds ++ List.replicate (point.toNat - ds.length) '0' ++ ['.', '0']
  else ds.take point.toNat ++ '.' :: ds.drop point.toNat

/-- `1e-7`, `1.5e+300`: one digit before the point, and the sign of the exponent always there. -/
def scientific (x : Decimal) : List Char :=
  let e := x.point - 1
  let fraction := match x.digits.drop 1 with
    | [] => []
    | ds => '.' :: ds
  x.digits.take 1 ++ fraction ++ 'e' :: (if e < 0 then '-' else '+')
    :: Nat.toDigits 10 e.natAbs

end Decimal

/-- How far the positional layout reaches, and the words for what is no finite number. -/
structure Layout where
  /-- The least and the greatest place of the point of a number written positionally, if there are
  such bounds. -/
  places : Option (Int × Int)
  infinite : String
  negativeInfinite : String
  nan : String

namespace Layout

/-- The text of a number of a format. -/
def write (layout : Layout) (f : Format) : Binary → String
  | .finite negative m e =>
    let x := f.shortest m e
    let sign := if negative then ['-'] else []
    let near := match layout.places with
      | none => true
      | some (least, greatest) => m = 0 || (least ≤ x.point && x.point ≤ greatest)
    String.ofList (sign ++ if near then x.positional else x.scientific)
  | .infinite negative => if negative then layout.negativeInfinite else layout.infinite
  | .nan => layout.nan

/-- All digits, whatever the size. -/
def plain : Layout := ⟨none, "inf", "-inf", "NaN"⟩

/-- Positional from a hundred-thousandth up to, and without, ten to the sixteenth. -/
def compact : Layout := ⟨some (-4, 16), "null", "null", "null"⟩

end Layout

end Number
end PromptBook
