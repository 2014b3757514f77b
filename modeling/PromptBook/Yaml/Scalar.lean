import PromptBook.Text.Digits
import PromptBook.Yaml.Cursor

/-!
# Scalars

The text of a scalar in each of its styles: plain, quoted, or as a block.  A line break inside a
plain or quoted scalar becomes a space, several become one less; in a block they stay, or are folded
where no line involved is indented further.

The readers take the number of steps that they may make; as each step moves on in the text, the
length of the text is enough.
-/

namespace PromptBook
namespace Yaml

section Gaps

/-- What stands between two lines or words of a scalar. -/
structure Gap where
  /-- Whether there is a line break, which takes the place of the blanks. -/
  broken : Bool
  blanks : List Char
  /-- The first line break. -/
  first : List Char
  /-- The line breaks after it. -/
  more : List Char
  deriving Inhabited

namespace Gap

/-- Nothing. -/
def none : Gap := ⟨false, [], [], []⟩

/-- The start of a line whose break was escaped. -/
def escaped : Gap := ⟨true, [], [], []⟩

/-- What the gap becomes. -/
def text (g : Gap) : List Char :=
  if !g.broken then g.blanks
  else if g.first = ['\n'] then (if g.more.isEmpty then [' '] else g.more)
  else g.first ++ g.more

/-- The gap with one more line break. -/
def addBreak (g : Gap) (text : List Char) : Gap :=
  if g.broken then { g with more := g.more ++ text } else ⟨true, [], text, []⟩

/-- The gap with one more blank; at the start of a line it is passed over. -/
def addBlank (g : Gap) (c : Char) : Gap :=
  if g.broken then g else { g with blanks := g.blanks ++ [c] }

end Gap

/-- Reads a gap.  A tab may not stand before a column at the start of a line. -/
def readGap (column : Nat) : Nat → Gap → Cursor → Option (Gap × Cursor)
  | 0, _, _ => Option.none
  | steps + 1, g, c =>
    match c.rest with
    | b :: _ =>
      if isGap b then
        if g.broken ∧ b = '\t' ∧ c.column < column then Option.none
        else readGap column steps (g.addBlank b) (c.skip 1)
      else if isBreak b then readGap column steps (g.addBreak c.breakText) c.skipBreak
      else some (g, c)
    | [] => some (g, c)

/-- A number of steps that no reader uses up. -/
def Cursor.steps (c : Cursor) : Nat := c.size + 1

end Gaps

section Plain

/-- The characters that are punctuation in a collection between brackets. -/
def isFlowMark (c : Char) : Bool :=
  c == ',' || c == '[' || c == ']' || c == '\x7b' || c == '\x7d'

/-- The word of a plain scalar that comes next.  A colon before a gap ends it, and between brackets
so does punctuation; a colon before punctuation is refused there. -/
def plainWord (flow : Bool) : List Char → Option (List Char)
  | [] => some []
  | c :: cs =>
    if isGap c || isBreak c || (flow && isFlowMark c) || (c == ':' && atGap cs) then some []
    else if flow && c == ':' && startsWith (fun d => isFlowMark d || d == '?') cs then none
    else (plainWord flow cs).map (c :: ·)

/-- The rest of a plain scalar after a gap, and whether its last gap holds a line break. -/
def plainRest (flow : Bool) (indent : Nat) :
    Nat → Gap → Cursor → Option (List Char × Cursor × Bool)
  | 0, _, _ => none
  | steps + 1, g, c =>
    if c.atDocumentMark || startsWith (· == '#') c.rest then some ([], c, g.broken)
    else do
      let word ← plainWord flow c.rest
      if word.isEmpty then some ([], c, g.broken)
      else
        let text := g.text ++ word
        let c := c.skip word.length
        if startsWith (fun d => isGap d || isBreak d) c.rest then
          let (next, c) ← readGap indent c.steps Gap.none c
          if !flow && c.column < indent then some (text, c, next.broken)
          else (plainRest flow indent steps next c).map fun (more, c) => (text ++ more, c)
        else some (text, c, false)

/-- A plain scalar, the place after it, and whether a line break comes before that place. -/
def readPlain (flow : Bool) (indent : Nat) (c : Cursor) : Option (List Char × Cursor × Bool) :=
  plainRest flow indent c.steps Gap.none c

end Plain

section Quoted

/-- What a character after a backslash stands for. -/
def simpleEscape? : Char → Option Nat
  | '0' => some 0
  | 'a' => some 0x07
  | 'b' => some 0x08
  | 't' | '\t' => some 0x09
  | 'n' => some 0x0A
  | 'v' => some 0x0B
  | 'f' => some 0x0C
  | 'r' => some 0x0D
  | 'e' => some 0x1B
  | ' ' => some 0x20
  | '"' => some 0x22
  | '/' => some 0x2F
  | '\\' => some 0x5C
  | 'N' => some 0x85
  | '_' => some 0xA0
  | 'L' => some 0x2028
  | 'P' => some 0x2029
  | _ => none

/-- How many hexadecimal digits follow a character after a backslash. -/
def hexEscape? : Char → Option Nat
  | 'x' => some 2
  | 'u' => some 4
  | 'U' => some 8
  | _ => none

/-- The character that an escape stands for, and how many characters it has after the backslash. -/
def readEscape (c : Char) (cs : List Char) : Option (Char × Nat) :=
  match simpleEscape? c, hexEscape? c with
  | some n, _ => some (Char.ofNat n, 1)
  | none, some digits => do
    let n ← Text.number? 16 (cs.take digits)
    if (cs.take digits).length = digits ∧ n.isValidChar then some (Char.ofNat n, digits + 1)
    else none
  | none, none => none

/-- The next character of a quoted scalar and the place after it, unless a gap or the closing quote
comes next. -/
def quotedChar? (quote : Char) (c : Cursor) : Option (Option (Char × Cursor)) :=
  match c.rest with
  | [] => some none
  | d :: cs =>
    if isGap d || isBreak d then some none
    else if d = quote then
      if quote = '\'' ∧ startsWith (· == '\'') cs then some (some (d, c.skip 2)) else some none
    else if quote = '"' ∧ d = '\\' then
      match cs with
      | [] => none
      | e :: cs =>
        if isBreak e then some none
        else (readEscape e cs).map fun (x, length) => some (x, c.skip (length + 1))
    else some (some (d, c.skip 1))

/-- The characters of a quoted scalar up to a gap, to an escaped line break or to its end. -/
def quotedWord (quote : Char) : Nat → Cursor → Option (List Char × Cursor)
  | 0, _ => none
  | steps + 1, c => do
    match ← quotedChar? quote c with
    | none => some ([], c)
    | some (x, c) => (quotedWord quote steps c).map fun (word, c) => (x :: word, c)

/-- The rest of a quoted scalar after a gap. -/
def quotedRest (quote : Char) : Nat → Cursor → Option (List Char × Cursor)
  | 0, _ => none
  | steps + 1, c =>
    if c.atDocumentMark || c.rest.isEmpty then none
    else do
      let (word, c) ← quotedWord quote c.steps c
      match c.rest with
      | d :: _ =>
        if d = quote then some (word, c.skip 1)
        else
          let (g, c) ← if d = '\\' then readGap 0 c.steps Gap.escaped (c.skip 1).skipBreak
            else readGap 0 c.steps Gap.none c
          (quotedRest quote steps c).map fun (more, c) => (word ++ g.text ++ more, c)
      | [] => none

/-- A quoted scalar and the place after it. -/
def readQuoted (quote : Char) (c : Cursor) : Option (List Char × Cursor) :=
  quotedRest quote c.steps (c.skip 1)

end Quoted

section Blocks

/-- What happens to the line breaks at the end of a block. -/
inductive Chomping
  | strip
  | clip
  | keep
  deriving DecidableEq, Inhabited

/-- What a mark says about how a block ends. -/
def chompingMark? : List Char → Option Chomping
  | '+' :: _ => some .keep
  | '-' :: _ => some .strip
  | _ => none

/-- How far the digit that comes next says that a block is indented.  It may not be a zero. -/
def indentMark : List Char → Option (Option Nat)
  | d :: _ =>
    if d = '0' then none
    else some (if d.isDigit then some (d.toNat - '0'.toNat) else none)
  | [] => some none

/-- The marks after the character that begins a block: how it ends and how far it is indented, in
either order; and how many marks these are. -/
def blockHeader (cs : List Char) : Option (Chomping × Option Nat × Nat) :=
  match chompingMark? cs with
  | some chomping => do
    let indent ← indentMark (cs.drop 1)
    some (chomping, indent, 1 + indent.toList.length)
  | none => do
    match ← indentMark cs with
    | none => some (.clip, none, 0)
    | some indent =>
      let chomping := chompingMark? (cs.drop 1)
      some (chomping.getD .clip, some indent, 1 + chomping.toList.length)

/-- Reads the indentation of a line of a block and the empty lines before it.  Without an
indentation to go by, the deepest of these lines is found out. -/
def blockGap (indent : Option Nat) :
    Nat → List Char → Nat → Cursor → Option (List Char × Nat × Cursor)
  | 0, _, _, _ => none
  | steps + 1, breaks, deepest, c =>
    let spaces := (c.rest.takeWhile (· == ' ')).length
    let c := c.skip (match indent with
      | some n => min spaces (n - c.column)
      | none => spaces)
    let deepest := max deepest c.column
    if startsWith (· == '\t') c.rest ∧ indent.all (c.column < ·) then none
    else if c.atBreak then blockGap indent steps (breaks ++ c.breakText) deepest c.skipBreak
    else some (breaks, deepest, c)

/-- The lines of a block from a line on.  `before` is the line break before it, `breaks` the empty
lines, and `indented` tells whether the last line began with white space.  Gives the text, the last
line break and the empty lines after it. -/
def blockLines (literal : Bool) (indent : Nat) :
    Nat → List Char → List Char → Bool → Cursor
      → Option (List Char × List Char × List Char × Cursor)
  | 0, _, _, _, _ => none
  | steps + 1, before, breaks, indented, c =>
    if c.column = indent ∧ !c.rest.isEmpty then do
      let blank := startsWith isGap c.rest
      let joint :=
        if !literal ∧ before = ['\n'] ∧ !indented ∧ !blank then
          (if breaks.isEmpty then [' '] else [])
        else before
      let line := c.rest.takeWhile (!isBreak ·)
      let c := c.skip line.length
      let after := c.breakText
      let (next, _, c) ← blockGap (some indent) c.steps [] 0 c.skipBreak
      (blockLines literal indent steps after next blank c).map fun (more, last) =>
        (joint ++ breaks ++ line ++ more, last)
    else some ([], before, breaks, c)

/-- A block and the place after it.  `parent` is the indentation of the collection it is in. -/
def readBlock (literal : Bool) (parent : Int) (c : Cursor) : Option (List Char × Cursor) := do
  let c := c.skip 1
  let (chomping, increment, length) ← blockHeader c.rest
  let c ← (c.skip length).skipToLineEnd
  let c := c.skipBreak
  let given := increment.map fun n => (if 0 ≤ parent then parent.toNat else 0) + n
  let (breaks, deepest, c) ← blockGap given c.steps [] 0 c
  let indent := given.getD (max deepest (max (parent + 1).toNat 1))
  let (text, last, breaks, c) ← blockLines literal indent c.steps [] breaks false c
  some (match chomping with
    | .strip => (text, c)
    | .clip => (text ++ last, c)
    | .keep => (text ++ last ++ breaks, c))

end Blocks

end Yaml
end PromptBook
