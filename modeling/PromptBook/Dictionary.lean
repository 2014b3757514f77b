/-!
# Dictionaries

A dictionary is a list of entries in increasing order of their names, one entry a name.  What it
shows when it is walked is therefore a function of what it holds.
-/

namespace PromptBook

/-- Entries by name, in increasing order of the names. -/
abbrev Dictionary (α : Type) := List (String × α)

namespace Dictionary

variable {α β : Type}

/-- The value under a name. -/
def get? : Dictionary α → String → Option α
  | [], _ => none
  | (key, value) :: rest, name => if key = name then some value else get? rest name

/-- Whether there is a value under a name. -/
def has (d : Dictionary α) (name : String) : Bool :=
  (get? d name).isSome

/-- Puts a value under a name, in the place of the one that was there. -/
def put (name : String) (value : α) : Dictionary α → Dictionary α
  | [] => [(name, value)]
  | (key, old) :: rest =>
    if key = name then (name, value) :: rest
    else if name < key then (name, value) :: (key, old) :: rest
    else (key, old) :: put name value rest

/-- Puts a value under a name that has none. -/
def putIfAbsent (name : String) (value : α) (d : Dictionary α) : Dictionary α :=
  if has d name then d else put name value d

/-- The dictionary of a list of entries, the later entry of a name taking the place of the
earlier. -/
def ofEntries (entries : List (String × α)) : Dictionary α :=
  entries.foldl (fun d (name, value) => put name value d) []

/-- The names, in increasing order. -/
def names (d : Dictionary α) : List String :=
  d.map (·.1)

/-- The values, in the order of their names. -/
def values (d : Dictionary α) : List α :=
  d.map (·.2)

@[simp] theorem get?_nil (name : String) : get? ([] : Dictionary α) name = none := rfl

theorem get?_put_self (name : String) (value : α) (d : Dictionary α) :
    get? (put name value d) name = some value := by
  induction d with
  | nil => simp [put, get?]
  | cons entry rest ih =>
    obtain ⟨key, old⟩ := entry
    unfold put
    by_cases h : key = name
    · simp [h, get?]
    · by_cases h' : name < key
      · simp [h, h', get?]
      · simp [h, h', get?, ih]

theorem get?_put_ne {name other : String} (h : name ≠ other) (value : α) (d : Dictionary α) :
    get? (put name value d) other = get? d other := by
  induction d with
  | nil => simp [put, get?, h]
  | cons entry rest ih =>
    obtain ⟨key, old⟩ := entry
    unfold put
    by_cases hk : key = name
    · subst hk
      simp [get?, h]
    · by_cases h' : name < key
      · simp [hk, h', get?, h]
      · simp [hk, h', get?, ih]

theorem get?_putIfAbsent_of_get? {d : Dictionary α} {name : String} {value : α}
    (h : get? d name = some value) (other : String) (x : α) :
    get? (putIfAbsent other x d) name = some value := by
  unfold putIfAbsent
  split
  · exact h
  · rename_i hno
    have hne : other ≠ name := by
      rintro rfl
      simp [has, h] at hno
    rw [get?_put_ne hne, h]

end Dictionary

end PromptBook
