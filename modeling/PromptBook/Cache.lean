import PromptBook.Number.Binary

/-!
# Caches

A cache keeps the values of the names that were used last, up to its capacity.  Its entries stand in
the order of their last use, the latest first; to store or to find a value is to use its name, to
look whether there is one is not.
-/

namespace PromptBook

/-- A cache of values by name. -/
structure Cache (α : Type) where
  /-- How many entries there may be. -/
  capacity : Nat
  /-- The entries, the one used last first. -/
  entries : List (String × α)
  /-- How often a value was asked for and found. -/
  hits : Nat
  /-- How often a value was asked for and not found. -/
  misses : Nat
  deriving Inhabited

namespace Cache

variable {α : Type}

/-- A cache without entries.  It has room for at least one. -/
def new (capacity : Nat) : Cache α :=
  ⟨max 1 capacity, [], 0, 0⟩

/-- The names, the one used last first. -/
def keys (c : Cache α) : List String :=
  c.entries.map (·.1)

/-- How many entries there are. -/
def size (c : Cache α) : Nat :=
  c.entries.length

/-- Whether there are no entries. -/
def isEmpty (c : Cache α) : Bool :=
  c.entries.isEmpty

/-- Whether there is a value under a name. -/
def contains (c : Cache α) (name : String) : Bool :=
  c.entries.any (·.1 == name)

/-- The entries under other names. -/
def others (name : String) (entries : List (String × α)) : List (String × α) :=
  entries.filter (·.1 != name)

/-- The value under a name, which is used by that. -/
def get (c : Cache α) (name : String) : Option α × Cache α :=
  match c.entries.lookup name with
  | some value =>
    (some value, { c with entries := (name, value) :: others name c.entries, hits := c.hits + 1 })
  | none => (none, { c with misses := c.misses + 1 })

/-- Stores a value under a name.  If there is no room for a new name, the entry that was not used
for the longest time makes room. -/
def set (c : Cache α) (name : String) (value : α) : Cache α :=
  { c with entries := (name, value) :: (others name c.entries).take (c.capacity - 1) }

/-- Stores a value under a name that has none, and says whether it did. -/
def insertIfAbsent (c : Cache α) (name : String) (value : α) : Bool × Cache α :=
  if c.contains name then (false, c) else (true, c.set name value)

/-- Removes the value under a name, and says whether there was one. -/
def invalidate (c : Cache α) (name : String) : Bool × Cache α :=
  (c.contains name, { c with entries := others name c.entries })

/-- Removes all entries.  The counts stay. -/
def clear (c : Cache α) : Cache α :=
  { c with entries := [] }

/-- The share of the values asked for that were found, zero if none was asked for. -/
def hitRate (c : Cache α) : Number.Binary :=
  if c.hits + c.misses = 0 then Number.double.ofNat 0
  else Number.double.ratio c.hits (c.hits + c.misses)

end Cache

end PromptBook
