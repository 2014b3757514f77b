import PromptBook.Document.Record

/-!
# Reading variants

A variant without fields is written as its name, or as a mapping from its name to nothing.  A
variant with fields that is named inside is written as a mapping that has its name under a key of
its own, or as the sequence of its name and its fields.
-/

namespace PromptBook
namespace Document

variable {α : Type} [Document α]

/-- The variant with a name. -/
def variantNamed {β : Type} (variants : List (String × β)) (name : String) : Decoded β :=
  match variants.lookup name with
  | some x => .ok x
  | none => mismatch (.unknownVariant name (variants.map (·.1)))

/-- The variant that a value names. -/
def variantName {β : Type} (variants : List (String × β)) (v : α) : Decoded β :=
  match text? v with
  | some name => variantNamed variants name
  | none => unexpected v "variant identifier"

/-- Nothing. -/
def nothing (v : α) : Decoded Unit :=
  do if ← isNull v then .ok () else unexpected v "unit"

/-- A variant without fields. -/
def plainVariant {β : Type} (variants : List (String × β)) (v : α) : Decoded β :=
  match text? v, members? v with
  | some name, _ => variantNamed variants name
  | none, some [(key, value)] => do
    let x ← variantName variants key
    nothing value
    .ok x
  | none, some _ => mismatch (.range .mapping "map with a single key")
  | none, none => unexpected v "string or map"

/-- A variant with fields, as they are written: the variant, and its members or items. -/
inductive Tagged (α β : Type)
  | members (variant : β) (entries : List (α × α))
  | items (variant : β) (values : List α)

/-- A variant with fields that has its name under a key. -/
def taggedVariant {β : Type} (what key : String) (variants : List (String × β)) (v : α) :
    Decoded (Tagged α β) :=
  match members? v, items? v with
  | some entries, _ =>
    match entries.find? fun entry => text? entry.1 = some key with
    | some (_, name) =>
      (inside (.member key) (variantName variants name)).map fun x =>
        .members x (entries.filter fun entry => text? entry.1 ≠ some key)
    | none => mismatch (.missingField key)
  | none, some (name :: values) => (variantName variants name).map fun x => .items x values
  | none, some [] => mismatch (.missingField key)
  | none, none => unexpected v ("internally tagged enum " ++ what)

namespace Tagged

/-- The fields of a variant. -/
def record {β : Type} (what : String) (closed : Bool) (fields : List (FieldReader α)) :
    Tagged α β → Decoded (Record α)
  | .members _ entries => ofMembers closed fields entries
  | .items _ values =>
    ofItems ("struct variant " ++ what) (elements fields.length ++ " in sequence") fields values

/-- The variant. -/
def variant {β : Type} : Tagged α β → β
  | .members x _ => x
  | .items x _ => x

end Tagged

end Document
end PromptBook
