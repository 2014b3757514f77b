import PromptBook.Dictionary
import PromptBook.Number.Layout

/-!
# JSON values

An object is a list of members in some order.  `Json.ofMembers` builds the members that reading
gives: in increasing order of their names, the later of two with one name taking the place of the
earlier.
-/

namespace PromptBook

/-- A number as it is held: integers apart from floating-point numbers. -/
inductive JsonNumber
  /-- An integer from zero to `2 ^ 64 - 1`. -/
  | natural (value : Nat)
  /-- The negative of an integer from one to `2 ^ 63`. -/
  | negative (value : Nat)
  /-- A double. -/
  | float (value : Number.Binary)
  /-- A single; it is written with the digits of its own width. -/
  | single (value : Number.Binary)
  deriving DecidableEq, Inhabited

/-- A JSON value. -/
inductive Json
  | null
  | bool (value : Bool)
  | number (value : JsonNumber)
  | string (value : String)
  | array (items : List Json)
  | object (members : List (String × Json))
  deriving Inhabited

namespace Json

/-- A natural number. -/
def nat (n : Nat) : Json := number (.natural n)

/-- An object in the order of its names. -/
def ofMembers (members : List (String × Json)) : Json :=
  object (Dictionary.ofEntries members)

/-- The value of a member. -/
def get? (name : String) : Json → Option Json
  | object members => Dictionary.get? members name
  | _ => none

/-- A list of texts. -/
def texts (items : List String) : Json := array (items.map string)

/-- A text, or null for none. -/
def ofText? : Option String → Json
  | some s => string s
  | none => null

end Json

end PromptBook
