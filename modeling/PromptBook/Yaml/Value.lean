import PromptBook.Document.Record
import PromptBook.Yaml.Failure
import PromptBook.Yaml.Node
import PromptBook.Yaml.Plain

/-!
# YAML values

The value that a node stands for: aliases are replaced by what they stand for, scalars are taken for
what they spell, and a tag of an application is kept around its value.  Collections nest at most 128
deep, and a mapping has no key twice.
-/

namespace PromptBook
namespace Yaml

/-- A value of a document. -/
inductive Value
  | null
  | boolean (value : Bool)
  | natural (value : Nat)
  | negative (value : Nat)
  | float (value : Number.Binary)
  | string (value : String)
  | sequence (items : List Value)
  | mapping (entries : List (Value × Value))
  | tagged (tag : String) (value : Value)
  deriving Inhabited

namespace Value

section Equality

/-- Whether two numbers are the same key: no number is the same as itself, and so are both
zeros. -/
def sameFloat (x y : Number.Binary) : Bool :=
  (x.isZero && y.isZero) || x = y

mutual

/-- Whether two values are the same key.  The order of a mapping does not count. -/
def same : Value → Value → Bool
  | null, null => true
  | boolean a, boolean b => a == b
  | natural a, natural b => a == b
  | negative a, negative b => a == b
  | float a, float b => sameFloat a b
  | string a, string b => a == b
  | sequence a, sequence b => sameItems a b
  | mapping a, mapping b => a.length == b.length && sameEntries a b
  | tagged tag a, tagged tag' b => tag == tag' && same a b
  | _, _ => false

/-- Whether two sequences are the same. -/
def sameItems : List Value → List Value → Bool
  | [], [] => true
  | a :: as, b :: bs => same a b && sameItems as bs
  | _, _ => false

/-- Whether every entry of a mapping is in another. -/
def sameEntries : List (Value × Value) → List (Value × Value) → Bool
  | [], _ => true
  | (key, value) :: rest, other =>
    other.any (fun entry => same key entry.1 && same value entry.2) && sameEntries rest other

end

end Equality

section Scalars

/-- The value of a plain scalar. -/
def ofPlain (s : String) : Option Value :=
  match Plain.ofText s with
  | .null => some null
  | .boolean b => some (boolean b)
  | .natural n => some (natural n)
  | .negative n => some (negative n)
  | .float x => some (float x)
  | .text => some (string s)
  | .tooLarge => none

/-- The name of a tag of an application, which begins with an exclamation mark. -/
def ownTag? (tag : String) : Option String :=
  match tag.toList with
  | ['!'] => some "!"
  | '!' :: name => some (String.ofList name)
  | _ => none

/-- The value of a scalar with a standard tag. -/
def ofStandard (tag : String) (s : String) : Option Value :=
  if tag = "tag:yaml.org,2002:bool" then (Plain.boolean? s).map boolean
  else if tag = "tag:yaml.org,2002:int" then
    match Plain.integer? s.toList with
    | some (.natural n) => some (natural n)
    | some (.negative n) => some (negative n)
    | _ => none
  else if tag = "tag:yaml.org,2002:float" then (Plain.float? s.toList).map float
  else if tag = "tag:yaml.org,2002:null" then (if Plain.isNull s then some null else none)
  else some (string s)

/-- The value of a scalar. -/
def ofScalar (tag : Option String) (style : Style) (s : String) : Option Value :=
  match tag with
  | none => untagged
  | some tag =>
    match ownTag? tag with
    | some name => untagged.map (tagged name)
    | none => ofStandard tag s
where
  /-- The value without regard to a tag. -/
  untagged : Option Value := if style = .plain then ofPlain s else some (string s)

end Scalars

end Value

namespace Node

section Anchors

mutual

/-- The nodes with anchors, in the order of the text. -/
def anchored (node : Node) : List (Nat × Node) :=
  match node with
  | .alias _ => []
  | scalar anchor .. => anchor.toList.map (·, node)
  | sequence anchor _ items => anchor.toList.map (·, node) ++ anchoredItems items
  | mapping anchor _ entries => anchor.toList.map (·, node) ++ anchoredEntries entries

/-- The nodes with anchors in a sequence. -/
def anchoredItems : List Node → List (Nat × Node)
  | [] => []
  | item :: items => item.anchored ++ anchoredItems items

/-- The nodes with anchors in a mapping. -/
def anchoredEntries : List (Node × Node) → List (Nat × Node)
  | [] => []
  | (key, value) :: entries => key.anchored ++ value.anchored ++ anchoredEntries entries

end

mutual

/-- The size of a node: one for a scalar or an alias, two for a collection, and its items. -/
def size : Node → Nat
  | .alias _ | scalar .. => 1
  | sequence _ _ items => sizeItems items + 2
  | mapping _ _ entries => sizeEntries entries + 2

/-- The size of the items of a sequence. -/
def sizeItems : List Node → Nat
  | [] => 0
  | item :: items => item.size + sizeItems items

/-- The size of the entries of a mapping. -/
def sizeEntries : List (Node × Node) → Nat
  | [] => 0
  | (key, value) :: entries => key.size + value.size + sizeEntries entries

end

end Anchors

end Node

/-- A node of a document, with the anchors of the document. -/
structure Place where
  /-- The nodes with anchors; the later of two under one number counts. -/
  anchors : List (Nat × Node)
  node : Node

namespace Place

/-- The root of a document. -/
def root (node : Node) : Place :=
  ⟨node.anchored.reverse, node⟩

/-- The node, or the one that it is an alias of. -/
def target (p : Place) : Node :=
  match p.node with
  | .alias n => (p.anchors.lookup n).getD .absent
  | node => node

/-- Another node of the same document. -/
def withNode (p : Place) (node : Node) : Place :=
  { p with node }

end Place

namespace Value

/-- Reads a value and counts down the aliases that may still be replaced. -/
abbrev Expanding := StateT Nat Option

/-- Counts a node if it is an alias. -/
def countAlias : Node → Expanding Unit
  | .alias _ => do
    match ← get with
    | 0 => failure
    | left + 1 => set left
  | _ => pure ()

/-- The entries of a mapping, which has no key twice. -/
def distinctEntries (entry : Node × Node → Expanding (Value × Value)) :
    List (Value × Value) → List (Node × Node) → Expanding (List (Value × Value))
  | before, [] => pure before.reverse
  | before, e :: rest => do
    let e ← entry e
    if before.any (same e.1 ·.1) then failure else distinctEntries entry (e :: before) rest

/-- The value with its tag, if it has a tag of an application. -/
def withTag (tag : Option String) (v : Value) : Value :=
  match tag.bind ownTag? with
  | some name => tagged name v
  | none => v

/-- The value of a node of a document.  The first argument is how deep collections may nest. -/
def ofNode (p : Place) : Nat → Node → Expanding Value
  | depth, node => do
    countAlias node
    match (p.withNode node).target, depth with
    | .scalar _ tag style s, _ => ofScalar tag style s
    | .sequence _ tag items, depth + 1 =>
      (withTag tag ∘ sequence) <$> items.mapM (ofNode p depth)
    | .mapping _ tag entries, depth + 1 =>
      let entry := fun (key, value) => do
        pure (← ofNode p depth key, ← ofNode p depth value)
      (withTag tag ∘ mapping) <$> distinctEntries entry [] entries
    | _, _ => failure

/-- The value of a document.  In it, aliases are replaced a hundred times as often as it is large,
and no oftener. -/
def ofRoot? (root : Node) : Option Value :=
  ((ofNode (Place.root root) 128 root).run (100 * root.size)).map (·.1)

end Value

namespace Place

/-- The tag of an application at a place. -/
def ownTag? (p : Place) : Option String :=
  match p.target with
  | .scalar _ tag _ _ | .sequence _ tag _ | .mapping _ tag _ => tag.bind Value.ownTag?
  | .alias _ => none

/-- The value of what is at a place. -/
def value? (p : Place) : Option Value :=
  ((Value.ofNode p 128 p.node).run (100 * p.target.size)).map (·.1)

end Place

namespace Value

/-- The value of the only document of a text. -/
def ofText (s : String) : Except Failure Value :=
  match Stream.ofText? s with
  | none => .error .unreadable
  | some stream =>
    match ofRoot? stream.root with
    | none => .error .unreadable
    | some v => if stream.followed then .error .severalDocuments else .ok v

end Value

end Yaml
end PromptBook
