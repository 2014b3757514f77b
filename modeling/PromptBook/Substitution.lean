import PromptBook.Json.Printer
import PromptBook.Placeholder
import PromptBook.Text.Letters

/-!
# Substitution

Every placeholder token of a text is replaced: a reference to a variable with a value by the
sanitized text of the value, every other token by nothing.  The text that is put in is not looked at
again.

To sanitize a text is to write the characters that open markup as character references, and to drop
it altogether if it is a link of an unsafe scheme.
-/

namespace PromptBook

/-- The values of variables by name. -/
abbrev Values := Dictionary Json

namespace Substitution

/-- The text of a value: a string as it is, nothing for null, all else as compact JSON. -/
def valueText : Json → String
  | .string s => s
  | .null => ""
  | other => other.compact

/-- Character references for the characters that open markup. -/
def escapeChar : Char → List Char
  | '<' => ['&', 'l', 't', ';']
  | '>' => ['&', 'g', 't', ';']
  | '"' => ['&', 'q', 'u', 'o', 't', ';']
  | '\'' => ['&', '#', '3', '9', ';']
  | c => [c]

/-- The text with character references. -/
def escape (cs : List Char) : List Char :=
  cs.flatMap escapeChar

/-- The beginnings of links that are not let through. -/
def unsafeSchemes : List String := ["javascript:", "vbscript:", "data:text/html"]

/-- The text as a reader of links sees it: without white space and control characters, in lower
case. -/
def normalized (cs : List Char) : List Char :=
  (cs.filter fun c => !Text.isBlank c && !Text.isControl c).flatMap Text.lower

/-- Whether a text is a link of an unsafe scheme. -/
def isUnsafeLink (cs : List Char) : Bool :=
  unsafeSchemes.any fun scheme => scheme.toList.isPrefixOf (normalized cs)

/-- The text of a value in the form in which it is put in. -/
def sanitized (value : Json) : List Char :=
  let escaped := escape (valueText value).toList
  if isUnsafeLink escaped then [] else escaped

/-- What a piece of a text becomes. -/
def replacement (values : Values) (piece : Placeholder.Piece) : List Char :=
  match piece with
  | .char c => [c]
  | .token _ =>
    match (Placeholder.reference? piece).bind (Dictionary.get? values) with
    | some value => sanitized value
    | none => []

/-- The text with every token replaced. -/
def substitute (values : Values) (text : String) : String :=
  String.ofList ((Placeholder.pieces text.toList).flatMap (replacement values))

end Substitution
end PromptBook
