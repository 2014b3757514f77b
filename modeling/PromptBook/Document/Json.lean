import PromptBook.Document.Record

/-!
# JSON values as documents

A record may also be written as an array of its fields; a null is a value of its own and stands for
no empty array or object.
-/

namespace PromptBook
namespace Json

open Document (Found Wording)

/-- What a JSON value is. -/
def found : Json → Found
  | null => .null
  | bool b => .boolean b
  | number (.natural n) => .natural n
  | number (.negative n) => .negative n
  | number (.float x) => .float x
  | number (.single x) => .float x
  | string s => .string s
  | array _ => .sequence
  | object _ => .mapping

instance : Document Json where
  found := found
  spelled := found
  text?
    | string s => some s
    | _ => none
  isNull
    | null => .ok true
    | _ => .ok false
  items?
    | array items => some items
    | _ => none
  members?
    | object members => some (members.map fun (name, x) => (string name, x))
    | _ => none
  stepTo _ name := .member name
  positional := true
  json := .ok

/-- How messages speak of JSON values. -/
def wording : Wording := ⟨"null", Number.Layout.compact⟩

end Json
end PromptBook
