import PromptBook.Legacy.Section
import PromptBook.Template.Basic

/-!
# Legacy documents

A legacy document is plain text with role markers.  Its sections become the parts of a template in
their order; the media that the user sections refer to become further parts, and a required variable
each.
-/

namespace PromptBook
namespace Legacy

/-- The part of each section, and the variables that media blocks refer to after those there are. -/
def textParts : List String → List Section → Except FormatFault (List Part × List String)
  | names, [] => .ok ([], names)
  | names, s :: rest =>
    match s.role with
    | .user => do
      let (content, names) ← liftMedia names s.body
      let (parts, names) ← textParts names rest
      .ok (Part.user (String.ofList content) :: parts, names)
    | .config | .system =>
      (textParts names rest).map fun (parts, names) =>
        (Part.system (String.ofList s.body) :: parts, names)

/-- The part of a media reference. -/
def mediaPart (name : String) : Part :=
  Part.media (Placeholder.token name)

/-- The variable of a media reference.  Its default is its own name. -/
def mediaVariable (name : String) : Variable where
  name := name
  type := "url"
  required := true
  default := some (.string name)
  description := "media reference"

/-- The name of a template that has none. -/
def untitled : String := "untitled"

/-- The version of a template that states none. -/
def firstVersion : String := "1.0.0"

/-- The name that a document states, or else the name it is kept under. -/
def nameOf (sections : List Section) (stem : Option String) : String :=
  (((configValue? sections "name").or (labelledName? sections)).or stem).getD untitled

/-- The template of some sections. -/
def ofSections (now : Timestamp) (stem : Option String) (sections : List Section) :
    Except FormatFault Template := do
  let (parts, names) ← textParts [] sections
  .ok {
    name := nameOf sections stem
    description := (configValue? sections "description").getD ""
    version := (configValue? sections "version").getD firstVersion
    category := none
    tags := []
    model := configValue? sections "model"
    settings := .empty
    parts := parts ++ names.map mediaPart
    declarations := names.map mediaVariable
    metadata := [("dialect", .string "legacy")]
    createdAt := now
    updatedAt := now }

/-- The template of a text. -/
def read (now : Timestamp) (stem : Option String) (cs : List Char) : Except FormatFault Template :=
  sections cs >>= ofSections now stem

end Legacy
end PromptBook
