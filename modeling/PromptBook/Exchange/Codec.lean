import PromptBook.Document.Variant
import PromptBook.Exchange.Basic
import PromptBook.Template.Codec

/-!
# Requests and responses in documents

How requests and responses are read from a document and written as JSON.
-/

namespace PromptBook

open Document

variable {α : Type} [Document α]

namespace Speaker

/-- The word for a speaker. -/
def word : Speaker → String
  | system => "system"
  | user => "user"
  | model => "model"

/-- A speaker from a document. -/
def ofDocument (v : α) : Decoded Speaker :=
  plainVariant ([.system, .user, .model].map fun s => (word s, s)) v

end Speaker

namespace Block

/-- The kinds of blocks. -/
inductive Kind
  | text
  | media

/-- A block from a document. -/
def ofDocument (v : α) : Decoded Block := do
  let tagged ← taggedVariant "ContentBlock" "type" [("text", Kind.text), ("media", Kind.media)] v
  match tagged.variant with
  | .text => do
    let r ← tagged.record "ContentBlock::Text" false [field "text" string]
    .ok (.text (← r.required "text" string))
  | .media => do
    let r ← tagged.record "ContentBlock::Media" false [field "url" string]
    .ok (.media (← r.required "url" string))

/-- A block as JSON. -/
def toJson : Block → Json
  | text s => .object [("type", .string "text"), ("text", .string s)]
  | media s => .object [("type", .string "media"), ("url", .string s)]

end Block

namespace Message

/-- A message from a document. -/
def ofDocument (v : α) : Decoded Message := do
  let r ← record "struct Message" false
    [field "role" Speaker.ofDocument, field "content" (list Block.ofDocument)] v
  .ok {
    speaker := ← r.required "role" Speaker.ofDocument
    content := ← r.required "content" (list Block.ofDocument) }

/-- A message as JSON. -/
def toJson (m : Message) : Json :=
  .object [("role", .string m.speaker.word), ("content", .array (m.content.map Block.toJson))]

end Message

namespace Trace

/-- A trace from a document. -/
def ofDocument (v : α) : Decoded Trace := do
  let r ← record "struct TraceMetadata" false [
    field "template" string,
    field "version" string,
    field "timestamp" Timestamp.ofDocument,
    field "streaming" boolean] v
  .ok {
    template := ← r.required "template" string
    version := ← r.required "version" string
    timestamp := ← r.required "timestamp" Timestamp.ofDocument
    streaming := ← r.required "streaming" boolean }

/-- A trace as JSON. -/
def toJson (t : Trace) : Json :=
  .object [
    ("template", .string t.template),
    ("version", .string t.version),
    ("timestamp", .string t.timestamp.write),
    ("streaming", .bool t.streaming)]

end Trace

namespace Request

/-- A request from a document. -/
def ofDocument (v : α) : Decoded Request := do
  let r ← record "struct GenerationRequest" false [
    field "model" string,
    field "messages" (list Message.ofDocument),
    field "config" Settings.ofDocument,
    field "trace" Trace.ofDocument] v
  .ok {
    model := ← r.required "model" string
    messages := ← r.required "messages" (list Message.ofDocument)
    settings := ← r.required "config" Settings.ofDocument
    trace := ← r.required "trace" Trace.ofDocument }

/-- A request as JSON. -/
def toJson (r : Request) : Json :=
  .object [
    ("model", .string r.model),
    ("messages", .array (r.messages.map Message.toJson)),
    ("config", r.settings.toJson),
    ("trace", r.trace.toJson)]

end Request

namespace Usage

/-- A usage from a document. -/
def ofDocument (v : α) : Decoded Usage := do
  let r ← record "struct Usage" false [field "inputTokens" word64, field "outputTokens" word64] v
  .ok {
    inputTokens := ← r.required "inputTokens" word64
    outputTokens := ← r.required "outputTokens" word64 }

/-- A usage as JSON. -/
def toJson (u : Usage) : Json :=
  .object [("inputTokens", .nat u.inputTokens), ("outputTokens", .nat u.outputTokens)]

end Usage

namespace Response

/-- A response as JSON. -/
def toJson (r : Response) : Json :=
  Json.ofFields [
    ("model", some (.string r.model)),
    ("message", some r.message.toJson),
    ("usage", some r.usage.toJson),
    ("finishReason", r.finishReason.map .string)]

end Response

namespace Chunk

/-- A chunk from a document. -/
def ofDocument (v : α) : Decoded Chunk := do
  let r ← record "struct GenerationChunk" false [
    field "role" Speaker.ofDocument,
    field "content" (list Block.ofDocument),
    field "usage" (optional Usage.ofDocument),
    field "done" boolean] v
  .ok {
    speaker := ← r.required "role" Speaker.ofDocument
    content := ← r.required "content" (list Block.ofDocument)
    usage := ← r.optional "usage" Usage.ofDocument
    done := ← r.required "done" boolean }

/-- A chunk as JSON. -/
def toJson (c : Chunk) : Json :=
  Json.ofFields [
    ("role", some (.string c.speaker.word)),
    ("content", some (.array (c.content.map Block.toJson))),
    ("usage", c.usage.map Usage.toJson),
    ("done", some (.bool c.done))]

end Chunk

end PromptBook
