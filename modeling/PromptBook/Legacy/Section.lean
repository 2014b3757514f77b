import PromptBook.Legacy.Block
import PromptBook.Placeholder
import PromptBook.Template.Error
import PromptBook.Text.Slug

/-!
# Sections

A role marker is a block that names a role.  Each marker begins a section, which goes on to the next
marker; what stands before the first marker belongs to none.
-/

namespace PromptBook
namespace Legacy

/-- Whose text a section holds. -/
inductive Role
  | config
  | system
  | user
  deriving DecidableEq, Inhabited

/-- A role and the text that goes with it. -/
structure Section where
  role : Role
  body : List Char
  deriving DecidableEq, Inhabited

section Cutting

/-- The segments up to the first role marker, and the argument of each marker with the segments
after it. -/
def cut : List Segment → List Segment × List (List Char × List Segment)
  | [] => ([], [])
  | segment :: rest =>
    let (before, marked) := cut rest
    match roleArgument? segment with
    | some argument => ([], (argument, before) :: marked)
    | none => (segment :: before, marked)

/-- The role of a marker. -/
def roleOf (argument : List Char) : Except FormatFault Role :=
  match (Text.dropBeginning? ['"'] argument).bind (Text.dropEnding? '"') with
  | none => .error (.malformedRole argument)
  | some word =>
    if word = "config".toList then .ok .config
    else if word = "system".toList then .ok .system
    else if word = "user".toList then .ok .user
    else .error (.unknownRole word)

/-- The section of a marker: the text after it without white space at the ends. -/
def sectionOf (marked : List Char × List Segment) : Except FormatFault Section :=
  (roleOf marked.1).map (⟨·, Text.trim (Segment.render marked.2)⟩)

/-- Whether there is a role marker in a text. -/
def hasMarker (cs : List Char) : Bool :=
  (scan cs).any fun segment => (roleArgument? segment).isSome

/-- The sections of a text. -/
def sections (cs : List Char) : Except FormatFault (List Section) :=
  (cut (scan cs)).2.mapM sectionOf

end Cutting

section Media

/-- The variable that a media block refers to. -/
def mediaName? (argument : List Char) : Option String :=
  match Text.dropBeginning? "url=".toList argument with
  | some rest =>
    let name := Text.unquote (Text.trim rest)
    if Placeholder.isIdentifier name then some (String.ofList name) else none
  | none => none

/-- What a block of a user section says about media. -/
def mediaArgument? : Segment → Option (List Char)
  | .block inner => argument? "media" inner
  | .char _ => none

/-- Takes the media blocks out of segments and adds the variables they refer to, each once, to those
there are. -/
def liftSegments : List String → List Segment → Except FormatFault (List Char × List String)
  | names, [] => .ok ([], names)
  | names, segment :: rest =>
    match mediaArgument? segment with
    | none => (liftSegments names rest).map fun (text, names) => (segment.text ++ text, names)
    | some argument =>
      match mediaName? argument with
      | some name => liftSegments (Placeholder.addNew names name) rest
      | none => .error (.badReference (Segment.inner segment))

/-- Takes the media blocks out of the text of a user section. -/
def liftMedia (names : List String) (body : List Char) :
    Except FormatFault (List Char × List String) :=
  (liftSegments names (scan body)).map fun (text, names) => (Text.trim text, names)

end Media

section Labels

/-- The value under a key: the first line of a config section that has the key, unless it is
empty. -/
def configValue? (sections : List Section) (key : String) : Option String :=
  let lines := (sections.filter (·.role = .config)).flatMap (Text.lines ·.body)
  let value? := lines.findSome? fun line => do
    let (before, after) ← Text.splitOnce ':' line
    if Text.trim before = key.toList then some (Text.unquote (Text.trim after)) else none
  match value? with
  | some (c :: cs) => some (String.ofList (c :: cs))
  | _ => none

/-- The labels of a line that names a template. -/
def nameLabels : List String := ["name", "title", "template", "prompt"]

/-- The name in a labelled line. -/
def labelled? (line : List Char) : Option (List Char) := do
  let (before, after) ← Text.splitOnce ':' line
  let label := Text.asciiLower (Text.trim before)
  let value := Text.unquote (Text.trim after)
  let slug := Text.slug value
  if nameLabels.any (·.toList = label) ∧ ¬Text.occursIn ['{', '{'] value ∧ slug ≠ [] then some slug
  else none

/-- The name in the first labelled line of a system section. -/
def labelledName? (sections : List Section) : Option String :=
  let lines := (sections.filter (·.role = .system)).flatMap (Text.lines ·.body)
  (lines.findSome? labelled?).map String.ofList

end Labels

end Legacy
end PromptBook
