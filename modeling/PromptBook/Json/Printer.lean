import PromptBook.Json.Basic

/-!
# Written JSON

Two layouts: all on one line without spaces, and one member a line with an indent of two spaces.
A floating-point number always has a fraction or an exponent; infinities and what is no number are
written as null.
-/

namespace PromptBook
namespace Json

/-- The four hexadecimal digits of an escape. -/
def hex4 (n : Nat) : List Char :=
  let ds := Nat.toDigits 16 n
  List.replicate (4 - ds.length) '0' ++ ds

/-- A character as it stands in a written string. -/
def escapeChar (c : Char) : List Char :=
  if c = '"' then ['\\', '"']
  else if c = '\\' then ['\\', '\\']
  else if c = '\n' then ['\\', 'n']
  else if c = '\r' then ['\\', 'r']
  else if c = '\t' then ['\\', 't']
  else if c = Char.ofNat 8 then ['\\', 'b']
  else if c = Char.ofNat 12 then ['\\', 'f']
  else if c.toNat < 0x20 then '\\' :: 'u' :: hex4 c.toNat
  else [c]

/-- A written string. -/
def writeString (s : String) : String :=
  String.ofList (['"'] ++ s.toList.flatMap escapeChar ++ ['"'])

/-- A written number. -/
def writeNumber : JsonNumber → String
  | .natural n => toString n
  | .negative n => "-" ++ toString n
  | .float x => Number.Layout.compact.write Number.double x
  | .single x => Number.Layout.compact.write Number.single x

mutual

/-- Everything on one line, without spaces. -/
def compact : Json → String
  | null => "null"
  | bool true => "true"
  | bool false => "false"
  | number n => writeNumber n
  | string s => writeString s
  | array items => "[" ++ ",".intercalate (compactItems items) ++ "]"
  | object members => "\x7b" ++ ",".intercalate (compactMembers members) ++ "\x7d"

/-- The items of an array, each on one line. -/
def compactItems : List Json → List String
  | [] => []
  | x :: rest => compact x :: compactItems rest

/-- The members of an object, each on one line. -/
def compactMembers : List (String × Json) → List String
  | [] => []
  | (name, x) :: rest => (writeString name ++ ":" ++ compact x) :: compactMembers rest

end

/-- Lines between brackets, each after the margin of the next level. -/
def bracketed (opening closing : String) (indent : Nat) : List String → String
  | [] => opening ++ closing
  | lines =>
    let margin := "".pushn ' ' (2 * indent)
    opening ++ "\n" ++ ",\n".intercalate (lines.map (margin ++ "  " ++ ·)) ++ "\n" ++ margin
      ++ closing

mutual

/-- One item or member a line, after an indent of two spaces for each level. -/
def pretty (indent : Nat) : Json → String
  | array items => bracketed "[" "]" indent (prettyItems (indent + 1) items)
  | object members => bracketed "\x7b" "\x7d" indent (prettyMembers (indent + 1) members)
  | null => "null"
  | bool true => "true"
  | bool false => "false"
  | number n => writeNumber n
  | string s => writeString s

/-- The items of an array in the layout of `pretty`. -/
def prettyItems (indent : Nat) : List Json → List String
  | [] => []
  | x :: rest => pretty indent x :: prettyItems indent rest

/-- The members of an object in the layout of `pretty`. -/
def prettyMembers (indent : Nat) : List (String × Json) → List String
  | [] => []
  | (name, x) :: rest =>
    (writeString name ++ ": " ++ pretty indent x) :: prettyMembers indent rest

end

end Json
end PromptBook
