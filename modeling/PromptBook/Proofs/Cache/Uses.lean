import PromptBook.Cache

/-!
# Runs of a cache

What can be asked of a cache, one use after another.  A use and its answer make an event, and the
past of a cache is the list of its events, the latest first.  The time of an event is the number of
events before it.
-/

namespace PromptBook
namespace Cache

variable {α : Type}

/-- What can be asked of a cache. -/
inductive Use (α : Type)
  | get (name : String)
  | set (name : String) (value : α)
  | insertIfAbsent (name : String) (value : α)
  | invalidate (name : String)
  | contains (name : String)
  | clear

/-- What a cache answers. -/
inductive Answer (α : Type)
  | value (found : Option α)
  | truth (holds : Bool)
  | nothing

/-- One use. -/
def step (c : Cache α) : Use α → Answer α × Cache α
  | .get name => (.value (c.get name).1, (c.get name).2)
  | .set name value => (.nothing, c.set name value)
  | .insertIfAbsent name value =>
      (.truth (c.insertIfAbsent name value).1, (c.insertIfAbsent name value).2)
  | .invalidate name => (.truth (c.invalidate name).1, (c.invalidate name).2)
  | .contains name => (.truth (c.contains name), c)
  | .clear => (.nothing, c.clear)

/-- A use of a cache, and what the cache answered. -/
structure Event (α : Type) where
  use : Use α
  answer : Answer α

namespace Event

/-- The name and the value that an event stores. -/
def stored? : Event α → Option (String × α)
  | ⟨.set name value, _⟩ => some (name, value)
  | ⟨.insertIfAbsent name value, .truth true⟩ => some (name, value)
  | _ => none

/-- The name that an event promotes: of a value that is asked for and found, or that is stored. -/
def promoted? : Event α → Option String
  | ⟨.get name, .value (some _)⟩ => some name
  | event => event.stored?.map (·.1)

/-- Whether a value is asked for and found. -/
def isHit : Event α → Bool
  | ⟨.get _, .value found⟩ => found.isSome
  | _ => false

/-- Whether a value is asked for and not found. -/
def isMiss : Event α → Bool
  | ⟨.get _, .value found⟩ => found.isNone
  | _ => false

end Event

/-- The events of a cache, the latest first. -/
abbrev Past (α : Type) := List (Event α)

namespace Past

/-- When a name was promoted for the last time. -/
def promotedAt? : Past α → String → Option Nat
  | [], _ => none
  | event :: earlier, name =>
      if event.promoted? = some name then some earlier.length else promotedAt? earlier name

/-- One name was promoted after the last promotion of another. -/
def Later (past : Past α) (name other : String) : Prop :=
  ∃ i j, past.promotedAt? name = some i ∧ past.promotedAt? other = some j ∧ j < i

/-- The value that was stored last under a name. -/
def lastStored? : Past α → String → Option α
  | [], _ => none
  | event :: earlier, name =>
      match event.stored? with
      | some (key, value) => if key = name then some value else lastStored? earlier name
      | none => lastStored? earlier name

end Past

/-- The past and the cache after one more use. -/
def live (x : Past α × Cache α) (use : Use α) : Past α × Cache α :=
  (⟨use, (x.2.step use).1⟩ :: x.1, (x.2.step use).2)

/-- The past and the cache after some uses of a new cache. -/
def run (capacity : Nat) (uses : List (Use α)) : Past α × Cache α :=
  uses.foldl live ([], new capacity)

end Cache
end PromptBook
