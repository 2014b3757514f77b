import PromptBook.Legacy.Document
import PromptBook.Structured

/-!
# Sources of templates

A text holds a template in one of two dialects.  A text with a role marker is a legacy document, any
other a structured one.  The current time stands in for what a text does not say about when it was
written.
-/

namespace PromptBook

/-- How a text says what is in a template. -/
inductive Dialect
  | legacy
  | structured
  deriving DecidableEq, Inhabited

namespace Dialect

/-- The word for a dialect. -/
def word : Dialect → String
  | legacy => "legacy"
  | structured => "structured"

/-- The dialect of a text. -/
def ofText (text : String) : Dialect :=
  if Legacy.hasMarker text.toList then .legacy else .structured

end Dialect

namespace Source

/-- The template of a text.  `source` is what errors call it, and `stem` the name it is kept
under. -/
def read (now : Timestamp) (source : String) (stem : Option String) (text : String) :
    Except TemplateError Template :=
  if Text.isBlankText text then .error (.format source .emptyDocument)
  else match Dialect.ofText text with
    | .legacy => (Legacy.read now stem text.toList).mapError (.format source)
    | .structured => Structured.read now source stem text

end Source

end PromptBook
