import PromptBook.Json.Basic
import PromptBook.Text.Digits

/-!
# Reading JSON

A reader takes what stands at the start of a text and gives the rest back.  `Json.parse?` takes a
whole text.  Brackets nest at most 127 deep.

An integer that fits neither 64 unsigned nor 64 signed bits is read as a double, as is `-0`.  The
digits of a double are collected as long as they fit 64 unsigned bits; the result is that integer
times or over a power of ten, each step rounded.
-/

namespace PromptBook
namespace Json

section Numbers

open Number

/-- The first number too large for 64 unsigned bits. -/
def wordSize : Nat := Nat.pow 2 64

/-- Takes digits into a coefficient as long as it fits 64 bits, and counts them. -/
def collect : Nat → Nat → List Char → Nat × Nat × List Char
  | coefficient, count, c :: cs =>
    if c.isDigit ∧ coefficient * 10 + Text.digit c < wordSize then
      collect (coefficient * 10 + Text.digit c) (count + 1) cs
    else (coefficient, count, c :: cs)
  | coefficient, count, [] => (coefficient, count, [])

/-- `coefficient · 10 ^ exponent` in doubles.  A power beyond `10 ^ 308` is taken off in steps. -/
def scale (x : Binary) (exponent : Int) : Option Binary :=
  if 0 ≤ exponent then
    if exponent ≤ 308 then
      let y := double.timesPower x exponent.toNat
      if y.isFinite then some y else none
    else if x.isZero then some x else none
  else if -308 ≤ exponent then some (double.overPower x (-exponent).toNat)
  else if x.isZero then some x
  else scale (double.overPower x 308) (exponent + 308)
termination_by (-exponent).toNat

/-- A double from its parts. -/
def float? (negative : Bool) (coefficient : Nat) (exponent : Int) : Option JsonNumber :=
  (scale (double.ofNat coefficient) exponent).map fun x =>
    .float (if negative then x.neg else x)

/-- The value of the digits of an exponent, and whether it is beyond 31 bits. -/
def exponentOf (digits : List Char) : Option Int :=
  let n := Text.decimal digits
  if n < Nat.pow 2 31 then some n else none

/-- The exponent of a number, if one follows. -/
def readExponent (negative : Bool) (coefficient : Nat) (exponent : Int) :
    List Char → Option (JsonNumber × List Char)
  | c :: cs =>
    if c = 'e' ∨ c = 'E' then
      let (down, cs) := match cs with
        | '+' :: cs => (false, cs)
        | '-' :: cs => (true, cs)
        | cs => (false, cs)
      let digits := cs.takeWhile Char.isDigit
      let rest := cs.dropWhile Char.isDigit
      if digits.isEmpty then none
      else match exponentOf digits with
        | some n =>
          (float? negative coefficient (if down then exponent - n else exponent + n)).map (·, rest)
        | none =>
          if coefficient ≠ 0 ∧ !down then none
          else some (.float (.finite negative 0 double.least), rest)
    else (float? negative coefficient exponent).map (·, c :: cs)
  | [] => (float? negative coefficient exponent).map (·, [])

/-- The fraction of a number, after the point. -/
def readFraction (negative : Bool) (coefficient : Nat) (exponent : Int) (cs : List Char) :
    Option (JsonNumber × List Char) :=
  let (coefficient, count, rest) := collect coefficient 0 cs
  if count = 0 ∧ !(rest.head?.any Char.isDigit) then none
  else readExponent negative coefficient (exponent - count) (rest.dropWhile Char.isDigit)

/-- A number after its sign. -/
def readNumber (negative : Bool) (cs : List Char) : Option (JsonNumber × List Char) :=
  match cs with
  | '0' :: c :: _ => if c.isDigit then none else whole
  | c :: _ => if c.isDigit then whole else none
  | [] => none
where
  whole : Option (JsonNumber × List Char) :=
    let (coefficient, _, rest) := collect 0 0 cs
    let skipped := (rest.takeWhile Char.isDigit).length
    match rest.dropWhile Char.isDigit with
    | '.' :: cs => readFraction negative coefficient skipped cs
    | c :: cs =>
      if c = 'e' ∨ c = 'E' ∨ skipped ≠ 0 then
        readExponent negative coefficient skipped (c :: cs)
      else some (integer coefficient, c :: cs)
    | [] =>
      if skipped ≠ 0 then readExponent negative coefficient skipped []
      else some (integer coefficient, [])
  integer (n : Nat) : JsonNumber :=
    if !negative then .natural n
    else if n = 0 ∨ Nat.pow 2 63 < n then .float (double.ofNat n).neg
    else .negative n

end Numbers

section Strings

/-- Four hexadecimal digits. -/
def hex4? : List Char → Option (Nat × List Char)
  | a :: b :: c :: d :: rest => do
    let a ← Text.hexDigit? a
    let b ← Text.hexDigit? b
    let c ← Text.hexDigit? c
    let d ← Text.hexDigit? d
    some (((a * 16 + b) * 16 + c) * 16 + d, rest)
  | _ => none

/-- The character of an escape of code units: one unit, or a pair of surrogates. -/
def readUnits (cs : List Char) : Option (Char × List Char) := do
  let (unit, rest) ← hex4? cs
  if 0xDC00 ≤ unit ∧ unit ≤ 0xDFFF then none
  else if 0xD800 ≤ unit ∧ unit ≤ 0xDBFF then
    match rest with
    | '\\' :: 'u' :: rest =>
      let (second, rest) ← hex4? rest
      if 0xDC00 ≤ second ∧ second ≤ 0xDFFF then
        some (Char.ofNat ((unit - 0xD800) * 0x400 + (second - 0xDC00) + 0x10000), rest)
      else none
    | _ => none
  else some (Char.ofNat unit, rest)

/-- The character an escape stands for, after the backslash. -/
def readEscape : List Char → Option (Char × List Char)
  | '"' :: rest => some ('"', rest)
  | '\\' :: rest => some ('\\', rest)
  | '/' :: rest => some ('/', rest)
  | 'b' :: rest => some (Char.ofNat 8, rest)
  | 'f' :: rest => some (Char.ofNat 12, rest)
  | 'n' :: rest => some ('\n', rest)
  | 'r' :: rest => some ('\r', rest)
  | 't' :: rest => some ('\t', rest)
  | 'u' :: rest => readUnits rest
  | _ => none

/-- A string after its opening quote.  The first argument bounds the number of characters. -/
def readChars : Nat → List Char → Option (List Char × List Char)
  | _, '"' :: rest => some ([], rest)
  | n + 1, '\\' :: rest => do
    let (c, rest) ← readEscape rest
    let (cs, rest) ← readChars n rest
    some (c :: cs, rest)
  | n + 1, c :: rest =>
    if c.toNat < 0x20 then none
    else (readChars n rest).map fun (cs, rest) => (c :: cs, rest)
  | _, _ => none

/-- A string after its opening quote. -/
def readString (cs : List Char) : Option (String × List Char) :=
  (readChars cs.length cs).map fun (s, rest) => (String.ofList s, rest)

end Strings

section Values

/-- The four blank characters of JSON. -/
def isSpace (c : Char) : Bool :=
  c = ' ' || c = '\n' || c = '\t' || c = '\r'

/-- The text from the first character that is not blank. -/
def skip (cs : List Char) : List Char :=
  cs.dropWhile isSpace

/-- What reads one item gives one that reads the items up to a closing character. -/
def readItems {α : Type} (item : List Char → Option (α × List Char)) (close : Char) :
    Nat → List Char → Option (List α × List Char)
  | 0, _ => none
  | n + 1, cs => do
    let (x, rest) ← item cs
    match skip rest with
    | ',' :: rest =>
      let (xs, rest) ← readItems item close n rest
      some (x :: xs, rest)
    | c :: rest => if c = close then some ([x], rest) else none
    | [] => none

/-- What reads a value gives one that reads a member: a name, a colon and a value. -/
def readMember (value : List Char → Option (Json × List Char)) (cs : List Char) :
    Option ((String × Json) × List Char) :=
  match skip cs with
  | '"' :: rest => do
    let (name, rest) ← readString rest
    match skip rest with
    | ':' :: rest =>
      let (x, rest) ← value rest
      some ((name, x), rest)
    | _ => none
  | _ => none

/-- A value.  The first argument is how deep brackets may nest. -/
def readValue : Nat → List Char → Option (Json × List Char)
  | depth, cs =>
    match skip cs, depth with
    | 'n' :: 'u' :: 'l' :: 'l' :: rest, _ => some (null, rest)
    | 't' :: 'r' :: 'u' :: 'e' :: rest, _ => some (bool true, rest)
    | 'f' :: 'a' :: 'l' :: 's' :: 'e' :: rest, _ => some (bool false, rest)
    | '"' :: rest, _ => (readString rest).map fun (s, rest) => (string s, rest)
    | '[' :: rest, depth + 1 =>
      match skip rest with
      | ']' :: rest => some (array [], rest)
      | _ => (readItems (readValue depth) ']' (rest.length + 1) rest).map fun (xs, rest) =>
          (array xs, rest)
    | '\x7b' :: rest, depth + 1 =>
      match skip rest with
      | '\x7d' :: rest => some (object [], rest)
      | _ => (readItems (readMember (readValue depth)) '\x7d' (rest.length + 1) rest).map
          fun (xs, rest) => (ofMembers xs, rest)
    | '-' :: rest, _ => (readNumber true rest).map fun (n, rest) => (number n, rest)
    | rest, _ => (readNumber false rest).map fun (n, rest) => (number n, rest)

/-- The value that a whole text holds. -/
def parse? (s : String) : Option Json := do
  let (x, rest) ← readValue 127 s.toList
  if (skip rest).isEmpty then some x else none

end Values

end Json
end PromptBook
