import PromptBook.Template.Codec
import PromptBook.Template.Error
import PromptBook.Yaml.Document

/-!
# Structured documents

A structured document is a YAML mapping with the fields of a template, all of which may be missing.
A document that is kept under a name has that name, whatever it states.
-/

namespace PromptBook

open Document

/-- What a structured document states. -/
structure Structured where
  name : Option String
  description : String
  version : String
  category : Option String
  tags : List String
  model : Option String
  settings : Settings
  parts : List Part
  declarations : List Variable
  metadata : Dictionary Json
  createdAt : Option Timestamp
  updatedAt : Option Timestamp
  deriving Inhabited

namespace Structured

section Reading

variable {α : Type} [Document α]

/-- The fields of a structured document. -/
def fields : List (FieldReader α) := [
  field "name" (optional string),
  field "description" string,
  field "version" string,
  field "category" (optional string),
  field "tags" (list string),
  field "model" (optional string),
  field "config" Settings.ofDocument,
  field "parts" (list Part.ofDocument),
  field "variables" (list Variable.ofDocument),
  field "metadata" dictionary,
  field "createdAt" (optional Timestamp.ofDocument),
  field "updatedAt" (optional Timestamp.ofDocument)]

/-- What a document states. -/
def ofDocument (v : α) : Decoded Structured := do
  let r ← record "struct StructuredDocument" false fields v
  .ok {
    name := ← r.optional "name" string
    description := ← r.withDefault "description" "" string
    version := ← r.withDefault "version" "" string
    category := ← r.optional "category" string
    tags := ← r.withDefault "tags" [] (list string)
    model := ← r.optional "model" string
    settings := ← r.withDefault "config" .empty Settings.ofDocument
    parts := ← r.withDefault "parts" [] (list Part.ofDocument)
    declarations := ← r.withDefault "variables" [] (list Variable.ofDocument)
    metadata := ← r.withDefault "metadata" [] dictionary
    createdAt := ← r.optional "createdAt" Timestamp.ofDocument
    updatedAt := ← r.optional "updatedAt" Timestamp.ofDocument }

end Reading

/-- The template that is stated, under the name it is kept under or else the one it states. -/
def template (now : Timestamp) (stem : Option String) (d : Structured) :
    Except FormatFault Template :=
  match stem.or d.name with
  | none => .error .noName
  | some name =>
    if d.parts.isEmpty then .error .noParts
    else
      let createdAt := d.createdAt.getD now
      .ok {
        name
        description := d.description
        version := d.version
        category := d.category
        tags := d.tags
        model := d.model
        settings := d.settings
        parts := d.parts
        declarations := d.declarations
        metadata := d.metadata.putIfAbsent "dialect" (.string "structured")
        createdAt
        updatedAt := d.updatedAt.getD createdAt }

/-- The template of a text from a source. -/
def read (now : Timestamp) (source : String) (stem : Option String) (text : String) :
    Except TemplateError Template := do
  let v ← (Yaml.Value.ofText text).mapError (.yaml source)
  match v.untag with
  | .mapping _ =>
    let d ← (ofDocument v).mapError fun fault =>
      .yaml source (.unfit (fault.message Yaml.wording) false)
    (d.template now stem).mapError (.format source)
  | _ => .error (.format source .neitherDialect)

end Structured

end PromptBook
