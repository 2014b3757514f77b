import PromptBook.Document.Json
import PromptBook.Template.Basic

/-!
# Templates in documents

How the parts of a template are read from a document and written as JSON.  Fields that are not set
are not written.  A record with a closed set of fields is `Settings`; the others pass over the
members they do not know.
-/

namespace PromptBook

open Document

/-- The members that are there. -/
def Json.ofFields (fields : List (String × Option Json)) : Json :=
  .object (fields.filterMap fun (name, value?) => value?.map (name, ·))

variable {α : Type} [Document α]

namespace Timestamp

/-- A timestamp from its written form. -/
def ofDocument (v : α) : Decoded Timestamp :=
  match text? v with
  | none => unexpected v "an RFC 3339 formatted date and time string"
  | some s =>
    match Timestamp.read s with
    | .ok t => .ok t
    | .error e => mismatch (.unreadable e.message)

end Timestamp

namespace Settings

/-- The fields of settings. -/
def fields : List (FieldReader α) := [
  field "maxOutputTokens" (optional word32),
  field "temperature" (optional single),
  field "topP" (optional single),
  field "topK" (optional word32),
  field "stopSequences" (list string)]

/-- Settings from a document. -/
def ofDocument (v : α) : Decoded Settings := do
  let r ← record "struct GenerationConfig" true fields v
  .ok {
    maxOutputTokens := ← r.optional "maxOutputTokens" word32
    temperature := ← r.optional "temperature" single
    topP := ← r.optional "topP" single
    topK := ← r.optional "topK" word32
    stopSequences := ← r.withDefault "stopSequences" [] (list string) }

/-- Settings as JSON. -/
def toJson (s : Settings) : Json :=
  Json.ofFields [
    ("maxOutputTokens", s.maxOutputTokens.map Json.nat),
    ("temperature", s.temperature.map fun x => .number (.single x)),
    ("topP", s.topP.map fun x => .number (.single x)),
    ("topK", s.topK.map Json.nat),
    ("stopSequences",
      if s.stopSequences.isEmpty then none else some (Json.texts s.stopSequences))]

end Settings

namespace Part

/-- The kind of a part. -/
def kindOfDocument (v : α) : Decoded PartKind :=
  (string v).map PartKind.ofWord

/-- The fields of a part. -/
def fields : List (FieldReader α) := [
  field "type" kindOfDocument,
  field "content" string,
  field "url" (optional string)]

/-- A part from a document. -/
def ofDocument (v : α) : Decoded Part := do
  let r ← record "struct Part" false fields v
  .ok {
    kind := ← r.required "type" kindOfDocument
    content := ← r.withDefault "content" "" string
    reference := ← r.optional "url" string }

/-- A part as JSON. -/
def toJson (p : Part) : Json :=
  Json.ofFields [
    ("type", some (.string p.kind.word)),
    ("content", some (.string p.content)),
    ("url", p.reference.map .string)]

end Part

namespace Variable

/-- The fields of a variable. -/
def fields : List (FieldReader α) := [
  field "name" string,
  field "type" string,
  field "required" boolean,
  field "default" (optional Document.json),
  field "description" string]

/-- A variable from a document. -/
def ofDocument (v : α) : Decoded Variable := do
  let r ← record "struct Variable" false fields v
  .ok {
    name := ← r.required "name" string
    type := ← r.withDefault "type" defaultType string
    required := ← r.withDefault "required" false boolean
    default := ← r.optional "default" Document.json
    description := ← r.withDefault "description" "" string }

/-- A variable as JSON. -/
def toJson (v : Variable) : Json :=
  Json.ofFields [
    ("name", some (.string v.name)),
    ("type", some (.string v.type)),
    ("required", some (.bool v.required)),
    ("default", v.default),
    ("description", some (.string v.description))]

end Variable

namespace Template

/-- The fields of a template. -/
def fields : List (FieldReader α) := [
  field "name" string,
  field "description" string,
  field "version" string,
  field "category" (optional string),
  field "tags" (list string),
  field "model" (optional string),
  field "config" Settings.ofDocument,
  field "parts" (list Part.ofDocument),
  field "variables" (list Variable.ofDocument),
  field "metadata" dictionary,
  field "createdAt" Timestamp.ofDocument,
  field "updatedAt" Timestamp.ofDocument]

/-- A template from a document. -/
def ofDocument (v : α) : Decoded Template := do
  let r ← record "struct Template" false fields v
  .ok {
    name := ← r.required "name" string
    description := ← r.withDefault "description" "" string
    version := ← r.withDefault "version" "" string
    category := ← r.optional "category" string
    tags := ← r.withDefault "tags" [] (list string)
    model := ← r.optional "model" string
    settings := ← r.withDefault "config" .empty Settings.ofDocument
    parts := ← r.required "parts" (list Part.ofDocument)
    declarations := ← r.withDefault "variables" [] (list Variable.ofDocument)
    metadata := ← r.withDefault "metadata" [] dictionary
    createdAt := ← r.required "createdAt" Timestamp.ofDocument
    updatedAt := ← r.required "updatedAt" Timestamp.ofDocument }

/-- A template as JSON. -/
def toJson (t : Template) : Json :=
  Json.ofFields [
    ("name", some (.string t.name)),
    ("description", some (.string t.description)),
    ("version", some (.string t.version)),
    ("category", t.category.map .string),
    ("tags", some (Json.texts t.tags)),
    ("model", t.model.map .string),
    ("config", some t.settings.toJson),
    ("parts", some (.array (t.parts.map Part.toJson))),
    ("variables", some (.array (t.declarations.map Variable.toJson))),
    ("metadata", some (.object t.metadata)),
    ("createdAt", some (.string t.createdAt.write)),
    ("updatedAt", some (.string t.updatedAt.write))]

end Template

end PromptBook
