import PromptBook.Number.Layout
import PromptBook.Text.Quoted

/-!
# Mismatches

Why a document does not fit the type it is read as, and where.  The causes are the same for every
kind of document; the words for a null value and the layout of a floating-point number are not, and
come from a `Wording`.
-/

namespace PromptBook
namespace Document

/-- What stands in a document where something else was expected. -/
inductive Found
  | null
  | boolean (value : Bool)
  | natural (value : Nat)
  | negative (value : Nat)
  | float (value : Number.Binary)
  | string (value : String)
  | sequence
  | mapping
  | tagged
  deriving Inhabited

/-- Why a document does not fit a type. -/
inductive Mismatch
  /-- A value of another kind than the expected one. -/
  | kind (found : Found) (expected : String)
  /-- A value of the right kind out of the expected range. -/
  | range (found : Found) (expected : String)
  /-- A sequence of another length than the expected one. -/
  | length (length : Nat) (expected : String)
  | missingField (name : String)
  | duplicateField (name : String)
  | unknownField (name : String) (known : List String)
  | unknownVariant (name : String) (known : List String)
  /-- A text that does not read as what it should be. -/
  | unreadable (why : String)
  deriving Inhabited

/-- How a kind of document speaks of its values. -/
structure Wording where
  null : String
  layout : Number.Layout

namespace Found

/-- What was found, in words. -/
def describe (w : Wording) : Found → String
  | null => w.null
  | boolean true => "boolean `true`"
  | boolean false => "boolean `false`"
  | natural n => "integer `" ++ toString n ++ "`"
  | negative n => "integer `-" ++ toString n ++ "`"
  | float x => "floating point `" ++ w.layout.write Number.double x ++ "`"
  | string s => "string " ++ Text.quoted s
  | sequence => "sequence"
  | mapping => "map"
  | tagged => "enum"

end Found

/-- A name between backquotes. -/
def ticked (name : String) : String := "`" ++ name ++ "`"

/-- The names that would have been right. -/
def oneOf (what : String) : List String → String
  | [] => "there are no " ++ what
  | [a] => "expected " ++ ticked a
  | [a, b] => "expected " ++ ticked a ++ " or " ++ ticked b
  | names => "expected one of " ++ ", ".intercalate (names.map ticked)

namespace Mismatch

/-- A mismatch in words. -/
def message (w : Wording) : Mismatch → String
  | kind found expected => "invalid type: " ++ found.describe w ++ ", expected " ++ expected
  | range found expected => "invalid value: " ++ found.describe w ++ ", expected " ++ expected
  | length n expected => "invalid length " ++ toString n ++ ", expected " ++ expected
  | missingField name => "missing field " ++ ticked name
  | duplicateField name => "duplicate field " ++ ticked name
  | unknownField name known => "unknown field " ++ ticked name ++ ", " ++ oneOf "fields" known
  | unknownVariant name known => "unknown variant " ++ ticked name ++ ", " ++ oneOf "variants" known
  | unreadable why => why

end Mismatch

/-- One step into a document. -/
inductive Step
  | member (name : String)
  | item (index : Nat)
  /-- To a member whose key is not written as a name. -/
  | unnamed

/-- A mismatch and the steps to the place where it is. -/
structure Fault where
  path : List Step
  cause : Mismatch

/-- What reading a value of a document gives. -/
abbrev Decoded (β : Type) := Except Fault β

/-- A mismatch of the value itself. -/
def mismatch {β : Type} (cause : Mismatch) : Decoded β :=
  .error ⟨[], cause⟩

/-- What was read one step inside a document. -/
def inside {β : Type} (step : Step) : Decoded β → Decoded β
  | .ok x => .ok x
  | .error fault => .error { fault with path := step :: fault.path }

/-- The written form of a path: names with a point between them, indices in brackets, and a question
mark where there is no name. -/
def writePath : List Step → String
  | [] => "."
  | step :: steps => steps.foldl join (first step)
where
  /-- The first step of a path. -/
  first : Step → String
    | .member name => name
    | .item index => ".[" ++ toString index ++ "]"
    | .unnamed => "?"
  /-- A path and one more step. -/
  join (path : String) : Step → String
    | .member name => path ++ "." ++ name
    | .item index => path ++ "[" ++ toString index ++ "]"
    | .unnamed => path ++ ".?"

namespace Fault

/-- The fault in words, without its place. -/
def message (w : Wording) (fault : Fault) : String :=
  fault.cause.message w

/-- The fault in words after its place. -/
def placed (w : Wording) (fault : Fault) : String :=
  match fault.path with
  | [] => fault.message w
  | path => writePath path ++ ": " ++ fault.message w

end Fault

end Document
end PromptBook
