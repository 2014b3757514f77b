import PromptBook.Document.Mismatch

/-!
# Failures of YAML documents

A text that is no YAML document is told apart from one that is but does not fit the type it is read
as.
-/

namespace PromptBook
namespace Yaml

/-- Why a text cannot be read as a document of some type. -/
inductive Failure
  /-- The text is no YAML document. -/
  | unreadable
  /-- The text holds more than one document. -/
  | severalDocuments
  /-- The document does not fit, as a whole or at a place inside it. -/
  | unfit (why : String) (inside : Bool)
  deriving DecidableEq, Inhabited

namespace Failure

/-- The failure in words. -/
def message : Failure → String
  | unreadable => "not a YAML document"
  | severalDocuments =>
    "deserializing from YAML containing more than one document is not supported"
  | unfit why _ => why

/-- Whether it is about a place inside the text rather than the document as a whole. -/
def isInside : Failure → Bool
  | unreadable => true
  | severalDocuments => false
  | unfit _ inside => inside

end Failure

end Yaml
end PromptBook
