import PromptBook.Cache
import PromptBook.Dictionary

/-!
# What a cache holds

The value that a cache holds under a name, operation by operation, and the relation of a cache to a
dictionary of which it holds a part.

**Results.**  `Cache.Within.get`, `Cache.Within.set`, `Cache.Within.insertIfAbsent` and
`Cache.Within.clear`: an operation keeps a cache within a dictionary if the dictionary follows.
-/

namespace PromptBook
namespace Cache

variable {α : Type} {c : Cache α} {d : Dictionary α} {name other : String} {value x : α}

/-- The value under a name, which is not used by that. -/
def held? (c : Cache α) (name : String) : Option α :=
  c.entries.lookup name

section Entries

theorem lookup_others_ne (h : other ≠ name) (entries : List (String × α)) :
    (others name entries).lookup other = entries.lookup other := by
  induction entries with
  | nil =>
      rfl
  | cons e rest ih =>
      obtain ⟨key, old⟩ := e
      by_cases hk : key = name
      · subst hk
        have hne : (other == key) = false := by
          simpa using h
        simpa [others, List.lookup_cons, hne] using ih
      · by_cases ho : other = key
        · simp [others, ho ▸ h, ho]
        · have hne : (other == key) = false := by
            simpa using ho
          simpa [others, hk, List.lookup_cons, hne] using ih

/-- What the first entries hold under a name, all of them hold. -/
theorem lookup_of_lookup_take {entries : List (String × α)} {n : Nat}
    (h : (entries.take n).lookup name = some value) :
    entries.lookup name = some value := by
  induction entries generalizing n with
  | nil =>
      simp at h
  | cons e rest ih =>
      obtain ⟨key, old⟩ := e
      cases n with
      | zero =>
          simp at h
      | succ n =>
          by_cases hk : name = key
          · simpa [List.lookup_cons, hk] using h
          · have hne : (name == key) = false := by
              simpa using hk
            simp only [List.take_succ_cons, List.lookup_cons, hne] at h ⊢
            exact ih h

end Entries

section Held

@[simp] theorem held?_new (capacity : Nat) (name : String) :
    (new capacity : Cache α).held? name = none := rfl

@[simp] theorem held?_clear (c : Cache α) (name : String) :
    c.clear.held? name = none := rfl

/-- A value that is asked for is found if it is held. -/
theorem get_fst (c : Cache α) (name : String) :
    (c.get name).1 = c.held? name := by
  unfold get held?
  cases c.entries.lookup name <;> rfl

/-- To ask for a value changes nothing that is held. -/
theorem held?_get (c : Cache α) (name other : String) :
    (c.get name).2.held? other = c.held? other := by
  unfold get
  cases hl : c.entries.lookup name with
  | none =>
      rfl
  | some value =>
      by_cases h : other = name
      · simp [held?, h, hl]
      · have hne : (other == name) = false := by
          simpa using h
        simp [held?, List.lookup_cons, hne, lookup_others_ne h]

theorem capacity_get (c : Cache α) (name : String) : (c.get name).2.capacity = c.capacity := by
  unfold get
  split <;> rfl

theorem capacity_insertIfAbsent (c : Cache α) (name : String) (value : α) :
    (c.insertIfAbsent name value).2.capacity = c.capacity := by
  unfold insertIfAbsent
  split <;> rfl

/-- After a value is stored, the cache holds it and otherwise nothing new. -/
theorem held?_set (h : (c.set name x).held? other = some value) :
    (other = name ∧ value = x) ∨ (other ≠ name ∧ c.held? other = some value) := by
  unfold held? set at h
  by_cases ho : other = name
  · left
    simp only [ho, List.lookup_cons, beq_self_eq_true, Option.some.injEq] at h
    exact ⟨ho, h.symm⟩
  · right
    have hne : (other == name) = false := by
      simpa using ho
    simp only [List.lookup_cons, hne] at h
    have hall := lookup_of_lookup_take h
    rw [lookup_others_ne ho] at hall
    exact ⟨ho, hall⟩

end Held

/-- A cache that holds under every name what a dictionary has there, or nothing. -/
def Within (c : Cache α) (d : Dictionary α) : Prop :=
  ∀ name value, c.held? name = some value → d.get? name = some value

namespace Within

theorem new (capacity : Nat) (d : Dictionary α) : (Cache.new capacity).Within d := by
  intro name value h
  simp at h

theorem clear (c : Cache α) (d : Dictionary α) : c.clear.Within d := by
  intro name value h
  simp at h

theorem get (h : c.Within d) (name : String) : (c.get name).2.Within d := by
  intro other value hv
  rw [held?_get] at hv
  exact h other value hv

/-- What the dictionary has under a name may be stored. -/
theorem set_of_get? (h : c.Within d) (hd : d.get? name = some x) :
    (c.set name x).Within d := by
  intro other value hv
  rcases held?_set hv with ⟨rfl, rfl⟩ | ⟨_, hv⟩
  · exact hd
  · exact h other value hv

theorem insertIfAbsent (h : c.Within d) (hd : d.get? name = some x) :
    (c.insertIfAbsent name x).2.Within d := by
  unfold Cache.insertIfAbsent
  split
  · exact h
  · exact h.set_of_get? hd

/-- A name that the dictionary did not have is not in the cache either. -/
theorem put (h : c.Within d) (hd : d.get? name = none) (x : α) :
    c.Within (d.put name x) := by
  intro other value hv
  have hne : name ≠ other := by
    rintro rfl
    rw [h name value hv] at hd
    cases hd
  rw [Dictionary.get?_put_ne hne]
  exact h other value hv

/-- A value may be replaced in both. -/
theorem set_put (h : c.Within d) (name : String) (x : α) :
    (c.set name x).Within (d.put name x) := by
  intro other value hv
  rcases held?_set hv with ⟨rfl, rfl⟩ | ⟨hne, hv⟩
  · exact Dictionary.get?_put_self other value d
  · rw [Dictionary.get?_put_ne (Ne.symm hne)]
    exact h other value hv

theorem putIfAbsent (h : c.Within d) (name : String) (x : α) :
    c.Within (d.putIfAbsent name x) := by
  intro other value hv
  exact Dictionary.get?_putIfAbsent_of_get? (h other value hv) name x

end Within

end Cache
end PromptBook
