import PromptBook.Proofs.Dictionary.Filling

/-!
# Dictionaries that come of others

One dictionary comes of another by putting values into it one after the other.  Whatever it holds
was there before or is one of these values, and a dictionary in order stays in order.

**Results.**
* `Puts.addAll`, `Puts.replaceAll`: the two ways to fill a dictionary.
* `Puts.ordered`, `Puts.all`, `Puts.get?`: what holds of a dictionary that comes of another.
-/

namespace PromptBook
namespace Dictionary

variable {α : Type} {p : String → α → Prop} {d d' : Dictionary α} {name : String} {value : α}

/-- The second dictionary comes of the first by values with a property of name and value. -/
inductive Puts (p : String → α → Prop) (d : Dictionary α) : Dictionary α → Prop
  | none : Puts p d d
  | put {d' : Dictionary α} {name : String} {value : α} (h : Puts p d d') (hp : p name value) :
      Puts p d (Dictionary.put name value d')

theorem Puts.mono {q : String → α → Prop} (h : Puts p d d')
    (hpq : ∀ name value, p name value → q name value) : Puts q d d' := by
  induction h with
  | none =>
      exact .none
  | put _ hp ih =>
      exact ih.put (hpq _ _ hp)

theorem Puts.putIfAbsent (h : Puts p d d') (hp : p name value) :
    Puts p d (Dictionary.putIfAbsent name value d') := by
  unfold Dictionary.putIfAbsent
  split
  · exact h
  · exact h.put hp

theorem Puts.addAll (h : Puts p d d') (key : α → String) {values : List α}
    (hp : ∀ x ∈ values, p (key x) x) :
    Puts p d (values.foldl (fun d x => Dictionary.putIfAbsent (key x) x d) d') := by
  induction values generalizing d' with
  | nil =>
      exact h
  | cons x rest ih =>
      obtain ⟨hx, hrest⟩ := List.forall_mem_cons.mp hp
      exact ih (h.putIfAbsent hx) hrest

theorem Puts.replaceAll (h : Puts p d d') (key : α → String) {values : List α}
    (hp : ∀ x ∈ values, p (key x) x) :
    Puts p d (values.foldl (fun d x => Dictionary.put (key x) x d) d') := by
  induction values generalizing d' with
  | nil =>
      exact h
  | cons x rest ih =>
      obtain ⟨hx, hrest⟩ := List.forall_mem_cons.mp hp
      exact ih (h.put hx) hrest

theorem Puts.ordered (h : Puts p d d') (hordered : Ordered d) : Ordered d' := by
  induction h with
  | none =>
      exact hordered
  | put _ _ ih =>
      exact ih.put _ _

/-- A property of all values is left to all. -/
theorem Puts.all {q : α → Prop} (h : Puts (fun _ value => q value) d d')
    (hd : ∀ entry ∈ d, q entry.2) : ∀ entry ∈ d', q entry.2 := by
  induction h with
  | none =>
      exact hd
  | put _ hq ih =>
      intro entry hentry
      rcases eq_or_mem_of_mem_put hentry with rfl | hold
      · exact hq
      · exact ih entry hold

/-- What is held was held before, or has the property. -/
theorem Puts.get? (h : Puts p d d') (hget : Dictionary.get? d' name = some value) :
    Dictionary.get? d name = some value ∨ p name value := by
  induction h with
  | none =>
      exact .inl hget
  | @put d' other x _ hp ih =>
      rw [get?_put] at hget
      by_cases hname : other = name
      · subst hname
        rw [if_pos rfl] at hget
        cases hget
        exact .inr hp
      · rw [if_neg hname] at hget
        exact ih hget

end Dictionary
end PromptBook
