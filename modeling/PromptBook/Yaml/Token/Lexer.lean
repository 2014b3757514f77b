import PromptBook.Yaml.Token

/-!
# Cutting a text into tokens

That a scalar is the key of a mapping shows only at the colon after it, which has to come on the
same line and within 1024 characters.  The lexer therefore remembers, for each collection between
brackets and for the text around them, the token that may turn out to be a key; at the colon the
tokens that begin the key are put before it.

A text that cannot be cut up is still cut up to the first token that may be a key, or else to the
place of the fault: what comes before can be understood without what comes after.
-/

namespace PromptBook
namespace Yaml

/-- A token that may turn out to begin a key. -/
structure KeyCandidate where
  /-- The number of the token. -/
  token : Nat
  /-- Whether nothing else can stand in its place. -/
  required : Bool
  start : Cursor

/-- The state of the lexer. -/
structure Lexer where
  cursor : Cursor
  /-- The tokens so far, the last one first. -/
  tokens : List Token
  /-- How many tokens that are. -/
  count : Nat
  /-- The candidate between the innermost brackets. -/
  candidate : Option KeyCandidate
  /-- The candidates around the brackets, from the inside out. -/
  outer : List (Option KeyCandidate)
  /-- The indentation of the innermost block collection, `-1` if there is none. -/
  indent : Int
  /-- The indentations around it. -/
  indents : List Int
  /-- Whether a key may begin here. -/
  keyAllowed : Bool

namespace Lexer

/-- At the beginning of a text. -/
def ofText (cs : List Char) : Lexer where
  cursor := .ofText cs
  tokens := []
  count := 0
  candidate := none
  outer := []
  indent := -1
  indents := []
  keyAllowed := true

/-- Whether the place is between brackets. -/
def inFlow (x : Lexer) : Bool :=
  !x.outer.isEmpty

/-- One more token. -/
def push (x : Lexer) (t : Token) : Lexer :=
  { x with tokens := t :: x.tokens, count := x.count + 1 }

/-- One more token before the one with a number. -/
def insert (x : Lexer) (number : Nat) (t : Token) : Lexer :=
  let after := x.count - number
  { x with tokens := x.tokens.take after ++ t :: x.tokens.drop after, count := x.count + 1 }

section Candidates

/-- Whether a candidate can still be a key: the colon has to come on its line, and soon. -/
def isStale (c : Cursor) (k : KeyCandidate) : Bool :=
  k.start.line < c.line || k.start.index + 1024 < c.index

/-- The candidate if it can still be a key; a fault if it had to be one. -/
def keepFresh (c : Cursor) : Option KeyCandidate → Option (Option KeyCandidate)
  | none => some none
  | some k => if isStale c k then (if k.required then none else some none) else some (some k)

/-- Gives up the candidates that can no longer be keys. -/
def dropStale (x : Lexer) : Option Lexer := do
  let candidate ← keepFresh x.cursor x.candidate
  let outer ← x.outer.mapM (keepFresh x.cursor)
  some { x with candidate, outer }

/-- Gives up the innermost candidate; a fault if it had to be a key. -/
def dropCandidate (x : Lexer) : Option Lexer :=
  if x.candidate.any (·.required) then none else some { x with candidate := none }

/-- Takes the next token for a candidate, if a key may begin here. -/
def addCandidate (x : Lexer) : Option Lexer :=
  if x.keyAllowed then do
    let x ← x.dropCandidate
    some { x with
      candidate := some {
        token := x.count
        required := !x.inFlow && x.indent == x.cursor.column
        start := x.cursor } }
  else some x

end Candidates

section Indentation

/-- Begins a block collection at a column that is further in, before the token with a number. -/
def indentTo (x : Lexer) (column : Nat) (number : Nat) (t : Token) : Lexer :=
  if x.inFlow ∨ (column : Int) ≤ x.indent then x
  else { x.insert number t with indent := column, indents := x.indent :: x.indents }

/-- The indentation that is not further in than a column, those around it, and how many there were
before it. -/
def unindentTo (column : Int) : Int → List Int → Int × List Int × Nat
  | indent, [] => (indent, [], 0)
  | indent, outer :: rest =>
    if column < indent then
      let (indent, indents, ended) := unindentTo column outer rest
      (indent, indents, ended + 1)
    else (indent, outer :: rest, 0)

/-- Ends the block collections that are further in than a column. -/
def unindent (x : Lexer) (column : Int) : Lexer :=
  if x.inFlow then x
  else
    let (indent, indents, ended) := unindentTo column x.indent x.indents
    { x with
      indent, indents
      tokens := List.replicate ended .blockEnd ++ x.tokens
      count := x.count + ended }

end Indentation

section Blanks

/-- Passes over white space, comments and line breaks.  At a line break outside brackets a key may
begin. -/
def toNextToken : Nat → Lexer → Lexer
  | 0, x => x
  | steps + 1, x =>
    let c := x.cursor
    let c := if c.column = 0 ∧ startsWith (· == byteOrderMark) c.rest then c.skip 1 else c
    let c := c.skipWhile fun d => d == ' ' || (d == '\t' && (x.inFlow || !x.keyAllowed))
    let c := if startsWith (· == '#') c.rest then c.skipWhile (!isBreak ·) else c
    if c.atBreak then
      toNextToken steps
        { x with cursor := c.skipBreak, keyAllowed := x.keyAllowed || !x.inFlow }
    else { x with cursor := c }

end Blanks

section Steps

/-- A token of some characters. -/
def mark (x : Lexer) (length : Nat) (t : Token) : Lexer :=
  { x with cursor := x.cursor.skip length }.push t

/-- The end of the text: every collection ends. -/
def endStream (x : Lexer) : Option Lexer := do
  let x ← (x.unindent (-1)).dropCandidate
  some (x.push .streamEnd)

/-- A directive. -/
def directive (x : Lexer) : Option Lexer := do
  let x ← (x.unindent (-1)).dropCandidate
  let (t, rest) ← readDirective (x.cursor.rest.drop 1)
  let c ← (x.cursor.skipTo rest).skipToLineEnd
  some ({ x with cursor := c.skipBreak, keyAllowed := false }.push t)

/-- A mark between documents. -/
def documentMark (x : Lexer) (t : Token) : Option Lexer := do
  let x ← (x.unindent (-1)).dropCandidate
  some ({ x with keyAllowed := false }.mark 3 t)

/-- An opening bracket. -/
def openFlow (x : Lexer) (t : Token) : Option Lexer := do
  let x ← x.addCandidate
  some ({ x with candidate := none, outer := x.candidate :: x.outer, keyAllowed := true }.mark 1 t)

/-- A closing bracket. -/
def closeFlow (x : Lexer) (t : Token) : Option Lexer := do
  let x ← x.dropCandidate
  let x := { x with keyAllowed := false }
  match x.outer with
  | candidate :: outer => some ({ x with candidate, outer }.mark 1 t)
  | [] => some (x.mark 1 t)

/-- A comma between brackets. -/
def flowEntry (x : Lexer) : Option Lexer := do
  let x ← x.dropCandidate
  some ({ x with keyAllowed := true }.mark 1 .flowEntry)

/-- A dash before an item. -/
def blockEntry (x : Lexer) : Option Lexer := do
  if !x.inFlow && !x.keyAllowed then none
  else
    let x := x.indentTo x.cursor.column x.count .blockSequenceStart
    let x ← x.dropCandidate
    some ({ x with keyAllowed := true }.mark 1 .blockEntry)

/-- A question mark before a key. -/
def explicitKey (x : Lexer) : Option Lexer := do
  if !x.inFlow && !x.keyAllowed then none
  else
    let x := x.indentTo x.cursor.column x.count .blockMappingStart
    let x ← x.dropCandidate
    some ({ x with keyAllowed := !x.inFlow }.mark 1 .key)

/-- A colon before a value.  If there is a candidate, it was a key. -/
def mappingValue (x : Lexer) : Option Lexer :=
  match x.candidate with
  | some k =>
    let x := x.insert k.token .key
    let x := x.indentTo k.start.column k.token .blockMappingStart
    some ({ x with candidate := none, keyAllowed := false }.mark 1 .value)
  | none =>
    if !x.inFlow && !x.keyAllowed then none
    else
      let x := x.indentTo x.cursor.column x.count .blockMappingStart
      some ({ x with keyAllowed := !x.inFlow }.mark 1 .value)

/-- An anchor or alias. -/
def named (x : Lexer) (t : List Char → Token) : Option Lexer := do
  let x ← x.addCandidate
  let name ← readName (x.cursor.rest.drop 1)
  some ({ x with cursor := x.cursor.skip (name.length + 1), keyAllowed := false }.push (t name))

/-- A tag. -/
def tag (x : Lexer) : Option Lexer := do
  let x ← x.addCandidate
  let (t, rest) ← readTag x.cursor.rest
  if atGap rest || (x.inFlow && startsWith (· == ',') rest) then
    some ({ x with cursor := x.cursor.skipTo rest, keyAllowed := false }.push t)
  else none

/-- A scalar written as a block. -/
def blockScalar (x : Lexer) (literal : Bool) : Option Lexer := do
  let x ← x.dropCandidate
  let (text, c) ← readBlock literal x.indent x.cursor
  some ({ x with cursor := c, keyAllowed := true }.push (.scalar text (if literal then .literal else .folded)))

/-- A quoted scalar. -/
def quotedScalar (x : Lexer) (quote : Char) : Option Lexer := do
  let x ← x.addCandidate
  let (text, c) ← readQuoted quote x.cursor
  some ({ x with cursor := c, keyAllowed := false }.push (.scalar text .quoted))

/-- A plain scalar.  After a line break a key may begin. -/
def plainScalar (x : Lexer) : Option Lexer := do
  let x ← x.addCandidate
  let (text, c, broken) ← readPlain x.inFlow (x.indent + 1).toNat x.cursor
  some ({ x with cursor := c, keyAllowed := broken }.push (.scalar text .plain))

/-- Whether a plain scalar can begin here. -/
def beginsPlain (flow : Bool) : List Char → Bool
  | [] => false
  | c :: cs =>
    if isGap c || isBreak c then false
    else if c == '-' then !startsWith isGap cs
    else if c == '?' || c == ':' then !flow && !atGap cs
    else !(",[]\x7b\x7d#&*!|>'\"%@`".toList.contains c)

/-- The next token, where the cursor is at its first character. -/
def next (x : Lexer) : Option Lexer :=
  let c := x.cursor
  match c.rest with
  | [] => x.endStream
  | d :: cs =>
    if c.column = 0 ∧ d = '%' then x.directive
    else if c.atDocumentMark then
      x.documentMark (if d = '-' then .documentStart else .documentEnd)
    else if d = '[' then x.openFlow .flowSequenceStart
    else if d = '\x7b' then x.openFlow .flowMappingStart
    else if d = ']' then x.closeFlow .flowSequenceEnd
    else if d = '\x7d' then x.closeFlow .flowMappingEnd
    else if d = ',' then x.flowEntry
    else if d = '-' ∧ atGap cs then x.blockEntry
    else if d = '?' ∧ (x.inFlow ∨ atGap cs) then x.explicitKey
    else if d = ':' ∧ (x.inFlow ∨ atGap cs) then x.mappingValue
    else if d = '*' then x.named .alias
    else if d = '&' then x.named .anchor
    else if d = '!' then x.tag
    else if d = '|' ∧ !x.inFlow then x.blockScalar true
    else if d = '>' ∧ !x.inFlow then x.blockScalar false
    else if d = '\'' ∨ d = '"' then x.quotedScalar d
    else if beginsPlain x.inFlow c.rest then x.plainScalar
    else none

/-- Passes over what is between tokens and takes the next one. -/
def step (x : Lexer) : Option Lexer := do
  let x := toNextToken x.cursor.steps x
  let x ← x.dropStale
  (x.unindent x.cursor.column).next

end Steps

/-- The tokens that can be told although the text cannot be cut up any further. -/
def settled (x : Lexer) : List Token :=
  let candidates := (x.candidate :: x.outer).filterMap id
  let numbers := (candidates.filter fun k => k.required || !isStale x.cursor k).map (·.token)
  let count := numbers.foldl min x.count
  x.tokens.reverse.take count ++ [.broken]

/-- All tokens from a state on. -/
def run : Nat → Lexer → List Token
  | 0, x => x.settled
  | steps + 1, x =>
    match x.step with
    | none => x.settled
    | some x' => if x'.tokens.head? = some .streamEnd then x'.tokens.reverse else run steps x'

end Lexer

/-- The tokens of a text. -/
def tokens (s : String) : List Token :=
  let cs := s.toList
  if cs.all isAllowed then Lexer.run (cs.length + 1) (.ofText cs) else [.broken]

end Yaml
end PromptBook
