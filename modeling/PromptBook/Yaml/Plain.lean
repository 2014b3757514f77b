import PromptBook.Number.Binary
import PromptBook.Text.Blank
import PromptBook.Text.Digits

/-!
# Plain scalars

A plain scalar stands for null, a truth value or a number if it has the form of one, and otherwise
for its own text.  A number with a zero before its digits is a text.
-/

namespace PromptBook
namespace Yaml

/-- What a plain scalar stands for. -/
inductive Plain
  | null
  | boolean (value : Bool)
  | natural (value : Nat)
  | negative (value : Nat)
  | float (value : Number.Binary)
  | text
  /-- An integer of more than 64 bits. -/
  | tooLarge
  deriving DecidableEq, Inhabited

namespace Plain

/-- The spellings of null. -/
def isNull (s : String) : Bool :=
  ["null", "Null", "NULL", "~"].contains s

/-- The truth value that a word spells. -/
def boolean? (s : String) : Option Bool :=
  if ["true", "True", "TRUE"].contains s then some true
  else if ["false", "False", "FALSE"].contains s then some false
  else none

section Integers

/-- Digits after a zero. -/
def isPadded (cs : List Char) : Bool :=
  let unsigned := match cs with
    | '-' :: cs | '+' :: cs => cs
    | cs => cs
  match unsigned with
  | '0' :: c :: cs => (c :: cs).all Char.isDigit
  | _ => false

/-- The value of a row of digits of a base, of which there is at least one. -/
def digits? (base : Nat) (cs : List Char) : Option Nat :=
  if cs.isEmpty then none else Text.number? base cs

/-- The magnitude of an integer after its sign: with the mark of a base, or decimal and not
padded. -/
def magnitude? : List Char → Option Nat
  | '0' :: 'x' :: cs => digits? 16 cs
  | '0' :: 'o' :: cs => digits? 8 cs
  | '0' :: 'b' :: cs => digits? 2 cs
  | cs => if isPadded cs || !cs.all Char.isDigit then none else digits? 10 cs

/-- The integer that a text spells.  Beyond 128 bits it is none. -/
def integer? (cs : List Char) : Option Plain :=
  match cs with
  | '-' :: rest =>
    match magnitude? rest with
    | none => none
    | some 0 => some (.natural 0)
    | some n =>
      if n ≤ Nat.pow 2 63 then some (.negative n) else if n ≤ Nat.pow 2 127 then some .tooLarge else none
  | _ =>
    let unsigned := match cs with
      | '+' :: rest => rest
      | cs => cs
    match magnitude? unsigned with
    | none => none
    | some n =>
      if n < Nat.pow 2 64 then some (.natural n) else if n < Nat.pow 2 128 then some .tooLarge else none

end Integers

section Floats

open Number

/-- The exponent of a decimal number, after its mark. -/
def exponent? (cs : List Char) : Option Int :=
  let (down, digits) := match cs with
    | '-' :: cs => (true, cs)
    | '+' :: cs => (false, cs)
    | cs => (false, cs)
  if digits.isEmpty ∨ !digits.all Char.isDigit then none
  else
    let n : Int := Text.decimal digits
    some (if down then -n else n)

/-- A decimal number after its sign: digits, perhaps with a point among them, and perhaps an
exponent. -/
def decimal? (negative : Bool) (cs : List Char) : Option Binary := do
  let whole := cs.takeWhile Char.isDigit
  let rest := cs.dropWhile Char.isDigit
  let (fraction, rest) := match rest with
    | '.' :: rest => (rest.takeWhile Char.isDigit, rest.dropWhile Char.isDigit)
    | rest => ([], rest)
  let exponent ← match rest with
    | [] => some 0
    | c :: rest => if c = 'e' ∨ c = 'E' then exponent? rest else none
  if whole.isEmpty ∧ fraction.isEmpty then none
  else
    let x := double.ofDecimal negative (Text.decimal (whole ++ fraction))
      (exponent - fraction.length)
    if x.isFinite then some x else none

/-- The floating-point number that a text spells. -/
def float? (cs : List Char) : Option Binary :=
  let s := String.ofList cs
  if [".inf", ".Inf", ".INF", "+.inf", "+.Inf", "+.INF"].contains s then some (.infinite false)
  else if ["-.inf", "-.Inf", "-.INF"].contains s then some (.infinite true)
  else if [".nan", ".NaN", ".NAN"].contains s then some .nan
  else match cs with
    | '-' :: rest => decimal? true rest
    | '+' :: rest => decimal? false rest
    | rest => decimal? false rest

end Floats

/-- What a plain scalar stands for. -/
def ofText (s : String) : Plain :=
  let cs := s.toList
  if cs.isEmpty || isNull s then .null
  else match boolean? s with
    | some b => .boolean b
    | none =>
      match integer? cs with
      | some n => n
      | none =>
        match if isPadded cs then none else float? cs with
        | some x => .float x
        | none => .text

end Plain

end Yaml
end PromptBook
