import PromptBook.Text.Blank
import PromptBook.Yaml.Scalar

/-!
# Tokens

The tokens of a YAML text.  Indentation shows as tokens of its own: `blockMappingStart` and
`blockSequenceStart` where a collection begins, `blockEnd` where it ends.
-/

namespace PromptBook
namespace Yaml

/-- How a scalar is written. -/
inductive Style
  | plain
  | quoted
  /-- As a block whose line breaks stay. -/
  | literal
  /-- As a block whose line breaks are folded. -/
  | folded
  deriving DecidableEq, Inhabited

/-- A token.  The last one is `streamEnd`, or `broken` where the text cannot be cut up any
further. -/
inductive Token
  | versionDirective (major minor : Nat)
  | tagDirective (handle replacement : List Char)
  | documentStart
  | documentEnd
  | blockSequenceStart
  | blockMappingStart
  | blockEnd
  | flowSequenceStart
  | flowSequenceEnd
  | flowMappingStart
  | flowMappingEnd
  | blockEntry
  | flowEntry
  | key
  | value
  | alias (name : List Char)
  | anchor (name : List Char)
  | tag (handle suffix : List Char)
  | scalar (text : List Char) (style : Style)
  | streamEnd
  | broken
  deriving DecidableEq, Inhabited

section Properties

/-- The name of an anchor or alias, after its mark. -/
def readName (cs : List Char) : Option (List Char) :=
  let name := cs.takeWhile isNameChar
  let rest := cs.dropWhile isNameChar
  let ends := atGap rest || startsWith (fun c => "?:,]\x7d%@`".toList.contains c) rest
  if name.isEmpty || !ends then none else some name

/-- How many bytes an encoded character takes, by its first byte. -/
def encodedWidth? (byte : Nat) : Option Nat :=
  if byte < 0x80 then some 1
  else if 0xC0 ≤ byte ∧ byte < 0xE0 then some 2
  else if 0xE0 ≤ byte ∧ byte < 0xF0 then some 3
  else if 0xF0 ≤ byte ∧ byte < 0xF8 then some 4
  else none

/-- One escaped byte. -/
def readByte : List Char → Option (Nat × List Char)
  | '%' :: a :: b :: rest => (Text.number? 16 [a, b]).map (·, rest)
  | _ => none

/-- The bytes of an escaped character after the first. -/
def readTail : Nat → Nat → List Char → Option (Nat × List Char)
  | 0, n, cs => some (n, cs)
  | width + 1, n, cs => do
    let (byte, rest) ← readByte cs
    if 0x80 ≤ byte ∧ byte < 0xC0 then readTail width (n * 64 + byte % 64) rest else none

/-- A character written as escaped bytes. -/
def readEncoded (cs : List Char) : Option (Char × List Char) := do
  let (byte, rest) ← readByte cs
  let width ← encodedWidth? byte
  let lead := if width = 1 then byte else byte % Nat.pow 2 (7 - width)
  let (n, rest) ← readTail (width - 1) lead rest
  some (Char.ofNat n, rest)

/-- A character of a tag. -/
def isTagChar (verbatim : Bool) (c : Char) : Bool :=
  isNameChar c || ";/?:@&=+$.!~*'()%".toList.contains c
    || (verbatim && (c == ',' || c == '[' || c == ']'))

/-- The rest of a tag, with escaped characters read. -/
def readTagText (verbatim : Bool) : Nat → List Char → Option (List Char × List Char)
  | 0, cs => some ([], cs)
  | steps + 1, cs =>
    match cs with
    | c :: rest =>
      if c = '%' then do
        let (x, rest) ← readEncoded cs
        (readTagText verbatim steps rest).map fun (text, rest) => (x :: text, rest)
      else if isTagChar verbatim c then
        (readTagText verbatim steps rest).map fun (text, rest) => (c :: text, rest)
      else some ([], cs)
    | [] => some ([], [])

/-- A handle of tags: an exclamation mark, or a name between two of them. -/
def readHandle : List Char → Option (List Char × List Char)
  | '!' :: cs =>
    let name := cs.takeWhile isNameChar
    match cs.dropWhile isNameChar with
    | '!' :: rest => some ('!' :: name ++ ['!'], rest)
    | rest => some ('!' :: name, rest)
  | _ => none

/-- A tag: written out between angles, with a named handle, or with the plain one. -/
def readTag (cs : List Char) : Option (Token × List Char) :=
  match cs with
  | '!' :: '<' :: cs => do
    let (text, rest) ← readTagText true cs.length cs
    match rest with
    | '>' :: rest => if text.isEmpty then none else some (.tag [] text, rest)
    | _ => none
  | _ => do
    let (handle, rest) ← readHandle cs
    let (text, rest) ← readTagText false rest.length rest
    if 1 < handle.length ∧ handle.getLast? = some '!' then
      if text.isEmpty then none else some (.tag handle text, rest)
    else
      let suffix := handle.drop 1 ++ text
      some (if suffix.isEmpty then .tag [] ['!'] else .tag ['!'] suffix, rest)

end Properties

section Directives

/-- A part of a version number: one to nine digits. -/
def readVersionPart (cs : List Char) : Option (Nat × List Char) :=
  let digits := cs.takeWhile Char.isDigit
  if digits.isEmpty ∨ 9 < digits.length then none
  else some (Text.decimal digits, cs.dropWhile Char.isDigit)

/-- A directive after its percent sign. -/
def readDirective (cs : List Char) : Option (Token × List Char) := do
  let name := cs.takeWhile isNameChar
  let rest := cs.dropWhile isNameChar
  if !atGap rest then none
  else
    let rest := rest.dropWhile isGap
    if name = "YAML".toList then do
      let (major, rest) ← readVersionPart rest
      let rest ← Text.dropBeginning? ['.'] rest
      let (minor, rest) ← readVersionPart rest
      some (.versionDirective major minor, rest)
    else if name = "TAG".toList then do
      let (handle, rest) ← readHandle rest
      if (handle.length = 1 ∨ handle.getLast? = some '!') ∧ startsWith isGap rest then
        let rest := rest.dropWhile isGap
        let (text, rest) ← readTagText true rest.length rest
        if text.isEmpty ∨ !atGap rest then none else some (.tagDirective handle text, rest)
      else none
    else none

end Directives

end Yaml
end PromptBook
