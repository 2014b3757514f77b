import PromptBook.Yaml.Value

/-!
# YAML documents as documents

A value is looked at without its tags, and null can be taken for an empty sequence or mapping.

A place is looked at as it is written: every scalar is a text, whatever it spells; only a plain
scalar can be null; a plain scalar can be a truth value or a number, and so can a literal block that
a tag says to be one; and an empty plain scalar can be taken for an empty sequence or mapping.
-/

namespace PromptBook
namespace Yaml

open Document

/-- How messages speak of YAML values. -/
def wording : Wording := ⟨"unit value", Number.Layout.plain⟩

namespace Value

/-- The value without its tags. -/
def untag : Value → Value
  | tagged _ v => v.untag
  | v => v

/-- What a value is. -/
def found : Value → Found
  | null => .null
  | boolean b => .boolean b
  | natural n => .natural n
  | negative n => .negative n
  | float x => .float x
  | string s => .string s
  | sequence _ => .sequence
  | mapping _ => .mapping
  | tagged .. => .tagged

/-- The name that a key stands for. -/
def name (expected : String) (key : Value) : Decoded String :=
  match key.untag with
  | string s => .ok s
  | v => mismatch (.kind v.found expected)

mutual

/-- The JSON value that a value stands for.  What is no finite number becomes null. -/
def json : Value → Decoded Json
  | null => .ok .null
  | boolean b => .ok (.bool b)
  | natural n => .ok (.number (.natural n))
  | negative n => .ok (.number (.negative n))
  | float x => .ok (if x.isFinite then .number (.float x) else .null)
  | string s => .ok (.string s)
  | sequence items => (jsonItems items).map .array
  | mapping entries => (jsonEntries "a string key" entries).map .ofMembers
  | tagged .. => mismatch (.kind .tagged "any valid JSON value")

/-- The JSON values of the items of a sequence. -/
def jsonItems : List Value → Decoded (List Json)
  | [] => .ok []
  | item :: items => do
    let x ← item.json
    let xs ← jsonItems items
    .ok (x :: xs)

/-- The members of an object, of which the first key is looked at on its own. -/
def jsonEntries (expected : String) : List (Value × Value) → Decoded (List (String × Json))
  | [] => .ok []
  | (key, value) :: entries => do
    let name ← key.name expected
    let x ← value.json
    let xs ← jsonEntries "a string" entries
    .ok ((name, x) :: xs)

end

instance : PromptBook.Document Value where
  found v := v.untag.found
  spelled v := v.untag.found
  text? v :=
    match v.untag with
    | string s => some s
    | _ => none
  isNull
    | null => .ok true
    | _ => .ok false
  items? v :=
    match v.untag with
    | sequence items => some items
    | null => some []
    | _ => none
  members? v :=
    match v.untag with
    | mapping entries => some entries
    | null => some []
    | _ => none
  stepTo _ name := .member name
  positional := false
  json := json

end Value

namespace Place

/-- Nothing at all is written. -/
def isAbsent (p : Place) : Bool :=
  match p.target with
  | .scalar _ _ .plain "" => true
  | _ => false

/-- What a place holds. -/
def found (p : Place) : Found :=
  match p.target with
  | .scalar _ tag style s =>
    match (Value.ofScalar tag style s).map Value.untag with
    | some v => v.found
    | none => .string s
  | .sequence .. => .sequence
  | .mapping .. => .mapping
  | .alias _ => .null

/-- The truth value or number that a place holds: what a plain scalar spells, whatever its tag, or
what the tag of a literal block says.  A zero with a minus sign is a negative number. -/
def spelled (p : Place) : Found :=
  match p.target with
  | .scalar _ _ style s =>
    let value : Found := match style, Plain.ofText s with
      | .plain, .boolean b => .boolean b
      | .plain, .natural n => .natural n
      | .plain, _ | .literal, _ => p.found
      | _, _ => .string s
    match value with
    | .natural 0 => if s.toList.head? = some '-' then .negative 0 else .natural 0
    | value => value
  | _ => p.found

instance : PromptBook.Document Place where
  found := found
  spelled := spelled
  text? p :=
    match p.target with
    | .scalar _ _ _ s => some s
    | _ => none
  isNull p :=
    match p.target with
    | .scalar _ none .plain s => .ok (s.isEmpty || Plain.isNull s)
    | .scalar _ (some "tag:yaml.org,2002:null") .plain s =>
      if Plain.isNull s then .ok true else mismatch (.range (.string s) "null")
    | _ => .ok false
  items? p :=
    match p.target with
    | .sequence _ _ items => some (items.map p.withNode)
    | _ => if p.isAbsent then some [] else none
  members? p :=
    match p.target with
    | .mapping _ _ entries => some (entries.map fun (key, value) => (p.withNode key, p.withNode value))
    | _ => if p.isAbsent then some [] else none
  stepTo key name :=
    match key.node with
    | .scalar .. => .member name
    | _ => .unnamed
  positional := false
  json p :=
    match p.value? with
    | some v => v.json
    | none => mismatch (.kind p.found "any valid JSON value")

/-- The way to the first tag of an application, in the order of the text.  The first argument is how
deep it may stand. -/
def wayToTag : Nat → Place → Option (List Step)
  | 0, _ => none
  | depth + 1, p =>
    if p.ownTag?.isSome then some []
    else match p.target with
      | .sequence _ _ items =>
        items.zipIdx.findSome? fun (item, index) =>
          (wayToTag depth (p.withNode item)).map (.item index :: ·)
      | .mapping _ _ entries =>
        entries.findSome? fun (key, value) =>
          let key := p.withNode key
          (wayToTag depth key).or
            ((wayToTag depth (p.withNode value)).map (stepTo key ((text? key).getD "") :: ·))
      | _ => none

/-- The value at a place that holds no tags of an application. -/
def untaggedValue (p : Place) : Decoded Value :=
  match p.value?, wayToTag 128 p with
  | none, _ => mismatch (.unreadable "not a YAML value")
  | some _, some way =>
    .error ⟨way, .unreadable "untagged and internally tagged enums do not support enum input"⟩
  | some value, none => .ok value

end Place

end Yaml
end PromptBook
