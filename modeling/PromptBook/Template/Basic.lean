import PromptBook.Substitution
import PromptBook.Time.Timestamp

/-!
# Templates

A template is a named prompt: parts in order, the variables it declares, and the settings it asks a
model to use.  A part of kind `system` or `user` holds text, one of kind `media` a reference.
Contents and references may hold placeholders.
-/

namespace PromptBook

section Parts

/-- What a part of a template is for. -/
inductive PartKind
  | system
  | user
  | media
  /-- Any other word, kept as it was written. -/
  | other (word : String)
  deriving DecidableEq, Inhabited

namespace PartKind

/-- The kind that a word names, in upper or lower case. -/
def ofWord (word : String) : PartKind :=
  let lowered := Text.asciiLower word.toList
  if lowered = "system".toList then .system
  else if lowered = "user".toList then .user
  else if lowered = "media".toList then .media
  else .other word

/-- The word for a kind. -/
def word : PartKind → String
  | system => "system"
  | user => "user"
  | media => "media"
  | other word => word

/-- Whether a template can be made of parts of the kind. -/
def isRecognized : PartKind → Bool
  | other _ => false
  | _ => true

end PartKind

/-- One segment of a template. -/
structure Part where
  kind : PartKind
  content : String
  reference : Option String
  deriving DecidableEq, Inhabited

namespace Part

/-- A text of the system. -/
def system (content : String) : Part := ⟨.system, content, none⟩

/-- A text of the user. -/
def user (content : String) : Part := ⟨.user, content, none⟩

/-- A reference to media. -/
def media (reference : String) : Part := ⟨.media, "", some reference⟩

/-- The texts of a part that may hold placeholders. -/
def sources (part : Part) : List String :=
  part.content :: part.reference.toList

end Part

end Parts

section Variables

/-- A declared variable. -/
structure Variable where
  name : String
  /-- The type as a word; it is not checked. -/
  type : String
  required : Bool
  default : Option Json
  description : String
  deriving Inhabited

namespace Variable

/-- The type of a variable that states none. -/
def defaultType : String := "string"

end Variable

end Variables

section Settings

/-- What a model is asked to keep to.  A field that is not set is not the same as zero. -/
structure Settings where
  maxOutputTokens : Option Nat
  temperature : Option Number.Binary
  topP : Option Number.Binary
  topK : Option Nat
  stopSequences : List String
  deriving DecidableEq, Inhabited

namespace Settings

/-- No field set. -/
def empty : Settings := ⟨none, none, none, none, []⟩

/-- Whether no field is set. -/
def isEmpty (s : Settings) : Bool :=
  s = empty

/-- The settings with others in place of their own wherever those are given. -/
def mergedWith (s others : Settings) : Settings where
  maxOutputTokens := others.maxOutputTokens.or s.maxOutputTokens
  temperature := others.temperature.or s.temperature
  topP := others.topP.or s.topP
  topK := others.topK.or s.topK
  stopSequences := if others.stopSequences.isEmpty then s.stopSequences else others.stopSequences

end Settings

end Settings

/-- A named prompt. -/
structure Template where
  name : String
  description : String
  version : String
  category : Option String
  tags : List String
  model : Option String
  settings : Settings
  parts : List Part
  declarations : List Variable
  metadata : Dictionary Json
  createdAt : Timestamp
  updatedAt : Timestamp
  deriving Inhabited

namespace Template

/-- The first declaration of a variable. -/
def declaration? (t : Template) (name : String) : Option Variable :=
  t.declarations.find? (·.name == name)

/-- The variables that the parts refer to, in the order of their first occurrences. -/
def referenced (t : Template) : List String :=
  Placeholder.distinct ((t.parts.flatMap Part.sources).flatMap Placeholder.names)

/-- The first required variable without a value.  A default is no value. -/
def missing? (t : Template) (values : Values) : Option String :=
  (t.declarations.find? fun v => v.required && !values.has v.name).map (·.name)

/-- The values, and the default of every declared variable that has no value. -/
def withDefaults (t : Template) (values : Values) : Values :=
  t.declarations.foldl
    (fun values v =>
      match v.default with
      | some value => values.putIfAbsent v.name value
      | none => values)
    values

end Template

end PromptBook
