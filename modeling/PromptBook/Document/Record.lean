import PromptBook.Document.Mismatch
import PromptBook.Json.Basic

/-!
# Reading documents

`Document` is what the kinds of documents have in common: each value can be looked at as a text, a
sequence, a mapping or a plain value.  The readers below are written once for all of them.

A record is read in two passes.  The first goes through the members in the order of the document
and reads each of them, so that of two faults the earlier one is reported; the second looks the
members up by name and reports the missing ones in the order of the fields.
-/

namespace PromptBook
namespace Document

end Document

/-- A kind of document. -/
class Document (α : Type) where
  /-- What a value is, for a message about it. -/
  found : α → Document.Found
  /-- What a value is where a truth value or a number is wanted. -/
  spelled : α → Document.Found
  /-- The text a value stands for. -/
  text? : α → Option String
  /-- Whether a value stands for nothing. -/
  isNull : α → Document.Decoded Bool
  /-- The items of a value that can be taken for a sequence. -/
  items? : α → Option (List α)
  /-- The members of a value that can be taken for a mapping. -/
  members? : α → Option (List (α × α))
  /-- The step to the member with a key that stands for a name. -/
  stepTo : α → String → Document.Step
  /-- Whether a record may be written as the sequence of its fields. -/
  positional : Bool
  /-- The JSON value it stands for. -/
  json : α → Document.Decoded Json

namespace Document

variable {α : Type} [Document α]

section Values

/-- Something else was expected. -/
def unexpected {β : Type} (v : α) (expected : String) : Decoded β :=
  mismatch (.kind (found v) expected)

/-- A text. -/
def string (v : α) : Decoded String :=
  match text? v with
  | some s => .ok s
  | none => unexpected v "a string"

/-- A truth value. -/
def boolean (v : α) : Decoded Bool :=
  match spelled v with
  | .boolean b => .ok b
  | _ => unexpected v "a boolean"

/-- An integer below a bound. -/
def word (bound : Nat) (expected : String) (v : α) : Decoded Nat :=
  match spelled v with
  | .natural n => if n < bound then .ok n else mismatch (.range (.natural n) expected)
  | .negative n => mismatch (.range (.negative n) expected)
  | _ => unexpected v expected

/-- An integer of 32 bits. -/
def word32 : α → Decoded Nat := word (Nat.pow 2 32) "u32"

/-- An integer of 64 bits. -/
def word64 : α → Decoded Nat := word (Nat.pow 2 64) "u64"

/-- A number rounded to single precision. -/
def single (v : α) : Decoded Number.Binary :=
  match spelled v with
  | .natural n => .ok (Number.single.ofNat n)
  | .negative n => .ok (Number.single.ofNat n).neg
  | .float x => .ok (Number.single.convert x)
  | _ => unexpected v "f32"

/-- Nothing, or a value. -/
def optional {β : Type} (read : α → Decoded β) (v : α) : Decoded (Option β) :=
  do if ← isNull v then .ok none else (read v).map some

/-- The items of a list, counted from a given index. -/
def itemsFrom {β : Type} (read : α → Decoded β) : Nat → List α → Decoded (List β)
  | _, [] => .ok []
  | index, v :: rest => do
    let x ← inside (.item index) (read v)
    let xs ← itemsFrom read (index + 1) rest
    .ok (x :: xs)

/-- A sequence. -/
def list {β : Type} (read : α → Decoded β) (v : α) : Decoded (List β) :=
  match items? v with
  | some items => itemsFrom read 0 items
  | none => unexpected v "a sequence"

/-- The entries of a mapping from names to JSON values. -/
def entriesOf : List (α × α) → Decoded (List (String × Json))
  | [] => .ok []
  | (key, v) :: rest => do
    let name ← string key
    let x ← inside (.member name) (json v)
    let entries ← entriesOf rest
    .ok ((name, x) :: entries)

/-- A mapping from names to JSON values. -/
def dictionary (v : α) : Decoded (Dictionary Json) :=
  match members? v with
  | some entries => (entriesOf entries).map Dictionary.ofEntries
  | none => unexpected v "a map"

end Values

section Records

/-- A field of a record: its name, and whether a value that some step leads to fits it. -/
abbrev FieldReader (α : Type) := String × (Step → α → Decoded Unit)

/-- The field that a reader reads. -/
def field {β : Type} (name : String) (read : α → Decoded β) : FieldReader α :=
  (name, fun step v => inside step (read v |>.map fun _ => ()))

/-- The members of a record by name, and what is wrong if one is missing. -/
structure Record (α : Type) where
  members : List (String × α)
  missing : String → Mismatch

/-- Reads the members of a record in the order of the document. -/
def checkMembers (closed : Bool) (fields : List (FieldReader α)) :
    List String → List (α × α) → Decoded Unit
  | _, [] => .ok ()
  | seen, (key, v) :: rest =>
    match text? key with
    | none => unexpected key "field identifier"
    | some name =>
      match fields.lookup name with
      | none =>
        if closed then mismatch (.unknownField name (fields.map (·.1)))
        else checkMembers closed fields seen rest
      | some check =>
        if seen.contains name then mismatch (.duplicateField name)
        else do
          check (stepTo key name) v
          checkMembers closed fields (name :: seen) rest

/-- Reads the items of a record that is written as a sequence. -/
def checkItems : List (FieldReader α) → List α → Decoded Unit
  | (name, check) :: fields, v :: rest => do
    check (.member name) v
    checkItems fields rest
  | _, _ => .ok ()

/-- How many elements, in words. -/
def elements (n : Nat) : String :=
  toString n ++ if n = 1 then " element" else " elements"

/-- A record that is written as a mapping. -/
def ofMembers (closed : Bool) (fields : List (FieldReader α)) (entries : List (α × α)) :
    Decoded (Record α) := do
  checkMembers closed fields [] entries
  .ok ⟨entries.filterMap fun (key, v) => (text? key).map (·, v), .missingField⟩

/-- A record that is written as the sequence of its fields. -/
def ofItems (what tooMany : String) (fields : List (FieldReader α)) (items : List α) :
    Decoded (Record α) := do
  checkItems fields items
  if fields.length < items.length then mismatch (.length items.length tooMany)
  else
    let names := fields.map (·.1)
    .ok ⟨names.zip items, fun name =>
      .length (names.idxOf name) (what ++ " with " ++ elements fields.length)⟩

/-- A record.  A closed one has no members beside its fields. -/
def record (what : String) (closed : Bool) (fields : List (FieldReader α)) (v : α) :
    Decoded (Record α) :=
  match members? v with
  | some entries => ofMembers closed fields entries
  | none =>
    match positional α, items? v with
    | true, some items => ofItems what "fewer elements in array" fields items
    | _, _ => unexpected v what

namespace Record

/-- A member that has to be there. -/
def required {β : Type} (r : Record α) (name : String) (read : α → Decoded β) : Decoded β :=
  match r.members.lookup name with
  | some v => inside (.member name) (read v)
  | none => mismatch (r.missing name)

/-- A member with a value that stands for it if it is missing. -/
def withDefault {β : Type} (r : Record α) (name : String) (default : β) (read : α → Decoded β) :
    Decoded β :=
  match r.members.lookup name with
  | some v => inside (.member name) (read v)
  | none => .ok default

/-- A member that may be missing or null. -/
def optional {β : Type} (r : Record α) (name : String) (read : α → Decoded β) :
    Decoded (Option β) :=
  r.withDefault name none (Document.optional read)

end Record

end Records

end Document
end PromptBook
