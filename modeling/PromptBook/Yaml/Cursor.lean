/-!
# Places in a YAML text

A cursor is what is left of a text and the place where it begins.  Lines and columns decide what a
YAML text means, so they are counted here and nowhere else.
-/

namespace PromptBook
namespace Yaml

section Classes

/-- A character of which a YAML text may be made. -/
def isAllowed (c : Char) : Bool :=
  let n := c.toNat
  n == 0x09 || n == 0x0A || n == 0x0D || (0x20 ≤ n && n ≤ 0x7E) || n == 0x85
    || (0xA0 ≤ n && n ≤ 0xD7FF) || (0xE000 ≤ n && n ≤ 0xFFFD) || 0x10000 ≤ n

/-- A character that ends a line. -/
def isBreak (c : Char) : Bool :=
  c == '\n' || c == '\r' || c.toNat == 0x85 || c.toNat == 0x2028 || c.toNat == 0x2029

/-- A space or a tab. -/
def isGap (c : Char) : Bool :=
  c == ' ' || c == '\t'

/-- A character of the names of anchors, tag handles and directives. -/
def isNameChar (c : Char) : Bool :=
  c.isAlphanum || c == '_' || c == '-'

/-- The character that may mark the beginning of a text. -/
def byteOrderMark : Char := Char.ofNat 0xFEFF

/-- Whether a word ends here: at white space, at a line break or at the end of the text. -/
def atGap : List Char → Bool
  | [] => true
  | c :: _ => isGap c || isBreak c

/-- Whether a text begins with a character of a class. -/
def startsWith (p : Char → Bool) (cs : List Char) : Bool :=
  cs.head?.any p

/-- Whether a line begins with one of the marks between documents. -/
def atDocumentMark : List Char → Bool
  | '-' :: '-' :: '-' :: cs => atGap cs
  | '.' :: '.' :: '.' :: cs => atGap cs
  | _ => false

end Classes

/-- What is left of a text, and where it begins. -/
structure Cursor where
  rest : List Char
  /-- How many characters the whole text has. -/
  size : Nat
  index : Nat
  line : Nat
  column : Nat
  deriving Inhabited

namespace Cursor

/-- The beginning of a text. -/
def ofText (cs : List Char) : Cursor := ⟨cs, cs.length, 0, 0, 0⟩

/-- Past some characters of the same line. -/
def skip (n : Nat) (c : Cursor) : Cursor :=
  { c with rest := c.rest.drop n, index := c.index + n, column := c.column + n }

/-- Past the characters of a class, none of which ends a line. -/
def skipWhile (p : Char → Bool) (c : Cursor) : Cursor :=
  c.skip (c.rest.takeWhile p).length

/-- Past a part of the line, up to a given rest of the text. -/
def skipTo (rest : List Char) (c : Cursor) : Cursor :=
  c.skip (c.rest.length - rest.length)

/-- Past a line break, if there is one. -/
def skipBreak (c : Cursor) : Cursor :=
  match c.rest with
  | '\r' :: '\n' :: rest => ⟨rest, c.size, c.index + 2, c.line + 1, 0⟩
  | b :: rest => if isBreak b then ⟨rest, c.size, c.index + 1, c.line + 1, 0⟩ else c
  | [] => c

/-- The line break that comes next as it stands in a scalar. -/
def breakText (c : Cursor) : List Char :=
  match c.rest with
  | b :: _ =>
    if b.toNat == 0x2028 || b.toNat == 0x2029 then [b]
    else if isBreak b then ['\n']
    else []
  | [] => []

/-- Whether a line break comes next. -/
def atBreak (c : Cursor) : Bool :=
  startsWith isBreak c.rest

/-- Whether the line ends here. -/
def atLineEnd (c : Cursor) : Bool :=
  c.rest.isEmpty || c.atBreak

/-- Whether a mark between documents comes next. -/
def atDocumentMark (c : Cursor) : Bool :=
  c.column == 0 && Yaml.atDocumentMark c.rest

/-- Past white space and a comment to the end of the line. -/
def skipToLineEnd (c : Cursor) : Option Cursor :=
  let c := c.skipWhile isGap
  let c := if startsWith (· == '#') c.rest then c.skipWhile (!isBreak ·) else c
  if c.atLineEnd then some c else none

end Cursor

end Yaml
end PromptBook
