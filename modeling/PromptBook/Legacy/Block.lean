import PromptBook.Text.Blank

/-!
# Blocks

A block is a text between two opening and two closing braces.  An opener inside a block begins the
block anew, and an opener that is never closed is plain text, so a block has no opener and no closer
inside.  Cutting a text into its blocks and the characters between them loses nothing:
`render_scan`.
-/

namespace PromptBook
namespace Legacy

/-- A character of a text, or a block with what stands between its braces. -/
inductive Segment
  | char (c : Char)
  | block (inner : List Char)
  deriving DecidableEq, Inhabited

namespace Segment

/-- The text that a segment was cut from. -/
def text : Segment → List Char
  | char c => [c]
  | block inner => '{' :: '{' :: (inner ++ ['}', '}'])

/-- What stands between the braces of a block; of a character, the character. -/
def inner : Segment → List Char
  | char c => [c]
  | block inner => inner

/-- The text that segments were cut from. -/
def render (segments : List Segment) : List Char :=
  segments.flatMap text

end Segment

/-- An opener that began no block, and the text after it. -/
def unopened (inner : List Char) : List Segment :=
  ('{' :: '{' :: inner).map .char

/-- Cuts a text into segments.  Inside a block, `inner` holds in reverse what was read of it. -/
def scanFrom : Option (List Char) → List Char → List Segment
  | none, '{' :: '{' :: cs => scanFrom (some []) cs
  | some inner, '{' :: '{' :: cs => unopened inner.reverse ++ scanFrom (some []) cs
  | some inner, '}' :: '}' :: cs => .block inner.reverse :: scanFrom none cs
  | none, c :: cs => .char c :: scanFrom none cs
  | some inner, c :: cs => scanFrom (some (c :: inner)) cs
  | none, [] => []
  | some inner, [] => unopened inner.reverse

/-- The segments of a text. -/
def scan (cs : List Char) : List Segment :=
  scanFrom none cs

theorem render_append (a b : List Segment) :
    Segment.render (a ++ b) = Segment.render a ++ Segment.render b :=
  List.flatMap_append

theorem render_map_char (cs : List Char) : Segment.render (cs.map .char) = cs := by
  induction cs with
  | nil => rfl
  | cons c cs ih =>
    simp only [Segment.render] at ih
    simp [Segment.render, Segment.text, ih]

theorem render_unopened (inner : List Char) :
    Segment.render (unopened inner) = '{' :: '{' :: inner :=
  render_map_char _

/-- What was read of a text before the rest of it. -/
def opened : Option (List Char) → List Char
  | none => []
  | some inner => '{' :: '{' :: inner.reverse

theorem render_cons (s : Segment) (rest : List Segment) :
    Segment.render (s :: rest) = s.text ++ Segment.render rest :=
  List.flatMap_cons

theorem render_scanFrom (state : Option (List Char)) (cs : List Char) :
    Segment.render (scanFrom state cs) = opened state ++ cs := by
  fun_induction scanFrom state cs <;>
    simp_all [render_append, render_cons, render_unopened, Segment.text, opened]
  rfl

/-- The segments of a text are the text. -/
theorem render_scan (cs : List Char) : Segment.render (scan cs) = cs := by
  simp [scan, render_scanFrom, opened]

section Keywords

/-- The argument of a keyword at the beginning of a block: white space or a quote has to stand
between the two. -/
def argument? (keyword : String) (inner : List Char) : Option (List Char) :=
  match Text.dropBeginning? keyword.toList (Text.trim inner) with
  | some (c :: rest) =>
    if Text.isBlank c || c == '"' then some (Text.trim (c :: rest)) else none
  | _ => none

/-- What the block says about the role of the text after it. -/
def roleArgument? : Segment → Option (List Char)
  | .block inner => argument? "role" inner
  | .char _ => none

end Keywords

end Legacy
end PromptBook
