import PromptBook.Dictionary
import Mathlib.Data.String.Basic

/-!
# Filling dictionaries

Many values are put into a dictionary, each under its own name.  If a value goes in only where there
is none, the first of those with one name is kept; if it takes the place of another, the last is.
A dictionary in order is a function of what it holds, so two ways to fill it can be compared name by
name.

**Results.**
* `Ordered.ext`: dictionaries in order that hold the same are the same.
* `Ordered.get?_eq_some_iff`: a dictionary in order holds its entries.
* `get?_addAll`, `get?_replaceAll`: what is held after filling.
-/

namespace PromptBook
namespace Dictionary

variable {α : Type} {d d' : Dictionary α} {name : String} {value : α}

section Order

/-- The names are in increasing order. -/
def Ordered (d : Dictionary α) : Prop :=
  d.Pairwise fun a b => a.1 < b.1

theorem Ordered.nil : Ordered ([] : Dictionary α) :=
  List.Pairwise.nil

theorem eq_or_mem_of_mem_put {entry : String × α} (h : entry ∈ put name value d) :
    entry = (name, value) ∨ entry ∈ d := by
  induction d with
  | nil =>
      exact .inl (List.mem_singleton.mp h)
  | cons first rest ih =>
      obtain ⟨key, old⟩ := first
      unfold put at h
      split at h
      · exact (List.mem_cons.mp h).imp_right (List.mem_cons_of_mem _)
      · split at h
        · exact List.mem_cons.mp h
        · rcases List.mem_cons.mp h with rfl | hrest
          · exact .inr List.mem_cons_self
          · exact (ih hrest).imp_right (List.mem_cons_of_mem _)

theorem eq_or_mem_of_mem_putIfAbsent {entry : String × α} (h : entry ∈ putIfAbsent name value d) :
    entry = (name, value) ∨ entry ∈ d := by
  unfold putIfAbsent at h
  split at h
  · exact .inr h
  · exact eq_or_mem_of_mem_put h

theorem Ordered.put (h : Ordered d) (name : String) (value : α) :
    Ordered (put name value d) := by
  induction d with
  | nil =>
      exact List.pairwise_singleton _ _
  | cons first rest ih =>
      obtain ⟨key, old⟩ := first
      obtain ⟨hfirst, hrest⟩ := List.pairwise_cons.mp h
      unfold Dictionary.put
      by_cases heq : key = name
      · subst heq
        rw [if_pos rfl]
        exact List.pairwise_cons.mpr ⟨hfirst, hrest⟩
      · rw [if_neg heq]
        by_cases hlt : name < key
        · rw [if_pos hlt]
          refine List.pairwise_cons.mpr ⟨?_, h⟩
          intro entry hentry
          rcases List.mem_cons.mp hentry with rfl | hentry
          · exact hlt
          · exact String.lt_trans hlt (hfirst entry hentry)
        · rw [if_neg hlt]
          refine List.pairwise_cons.mpr ⟨?_, ih hrest⟩
          intro entry hentry
          rcases eq_or_mem_of_mem_put hentry with rfl | hentry
          · exact lt_of_le_of_ne (String.not_lt.mp hlt) heq
          · exact hfirst entry hentry

theorem Ordered.putIfAbsent (h : Ordered d) (name : String) (value : α) :
    Ordered (putIfAbsent name value d) := by
  unfold Dictionary.putIfAbsent
  split
  · exact h
  · exact h.put name value

/-- A name before all those that there are has no value. -/
theorem get?_of_before (h : ∀ entry ∈ d, name < entry.1) : get? d name = none := by
  induction d with
  | nil =>
      rfl
  | cons first rest ih =>
      have hne : first.1 ≠ name := ne_of_gt (h first List.mem_cons_self)
      rw [get?, if_neg hne]
      exact ih fun entry hentry => h entry (List.mem_cons_of_mem _ hentry)

theorem Ordered.get?_first {rest : Dictionary α} (h : Ordered ((name, value) :: rest)) :
    get? rest name = none :=
  get?_of_before (List.pairwise_cons.mp h).1

/-- The first name of a dictionary is not before that of another that holds the same. -/
theorem Ordered.not_first_lt {entry entry' : String × α} {rest rest' : Dictionary α}
    (h' : Ordered (entry' :: rest'))
    (hget : ∀ name, get? (entry :: rest) name = get? (entry' :: rest') name) :
    ¬entry.1 < entry'.1 := by
  intro hlt
  have hnone : get? (entry' :: rest') entry.1 = none := by
    apply get?_of_before
    intro other hother
    rcases List.mem_cons.mp hother with rfl | hother
    · exact hlt
    · exact String.lt_trans hlt ((List.pairwise_cons.mp h').1 other hother)
  rw [← hget, get?, if_pos rfl] at hnone
  cases hnone

/-- Dictionaries in order that hold the same under every name are the same. -/
theorem Ordered.ext (h : Ordered d) (h' : Ordered d') (hget : ∀ name, get? d name = get? d' name) :
    d = d' := by
  induction d generalizing d' with
  | nil =>
      cases d' with
      | nil => rfl
      | cons entry' rest' =>
          have hfirst := hget entry'.1
          rw [get?, get?, if_pos rfl] at hfirst
          cases hfirst
  | cons entry rest ih =>
      cases d' with
      | nil =>
          have hfirst := hget entry.1
          rw [get?, get?, if_pos rfl] at hfirst
          cases hfirst
      | cons entry' rest' =>
          obtain ⟨key, value⟩ := entry
          obtain ⟨key', value'⟩ := entry'
          have hkey : key = key' :=
            le_antisymm
              (String.not_lt.mp (h.not_first_lt fun name => (hget name).symm))
              (String.not_lt.mp (h'.not_first_lt hget))
          subst hkey
          have hvalue := hget key
          rw [get?, get?, if_pos rfl, if_pos rfl, Option.some.injEq] at hvalue
          subst hvalue
          have hrest : ∀ name, get? rest name = get? rest' name := by
            intro name
            by_cases hname : key = name
            · subst hname
              rw [h.get?_first, h'.get?_first]
            · have hthere := hget name
              rwa [get?, get?, if_neg hname, if_neg hname] at hthere
          rw [ih (List.pairwise_cons.mp h).2 (List.pairwise_cons.mp h').2 hrest]

theorem mem_of_get? (h : get? d name = some value) : (name, value) ∈ d := by
  induction d with
  | nil =>
      cases h
  | cons entry rest ih =>
      obtain ⟨key, old⟩ := entry
      rw [get?] at h
      split at h
      · rename_i hkey
        cases h
        exact hkey ▸ List.mem_cons_self
      · exact List.mem_cons_of_mem _ (ih h)

/-- What a dictionary in order holds are its entries. -/
theorem Ordered.get?_eq_some_iff (h : Ordered d) :
    get? d name = some value ↔ (name, value) ∈ d := by
  induction d with
  | nil =>
      simp
  | cons entry rest ih =>
      obtain ⟨key, old⟩ := entry
      obtain ⟨hfirst, hrest⟩ := List.pairwise_cons.mp h
      rw [get?, List.mem_cons]
      by_cases hkey : key = name
      · subst hkey
        have hno : (key, value) ∉ rest := fun hmem => String.lt_irrefl _ (hfirst (key, value) hmem)
        simp [hno, eq_comm]
      · have hne : (name, value) ≠ (key, old) := fun heq => hkey (Prod.mk.inj heq).1.symm
        rw [if_neg hkey, ih hrest]
        simp [hne]

end Order

section Filling

variable (key : α → String)

theorem get?_put (name : String) (value : α) (d : Dictionary α) (other : String) :
    get? (put name value d) other = if name = other then some value else get? d other := by
  split
  · rename_i heq
    rw [← heq, get?_put_self]
  · rename_i hne
    exact get?_put_ne hne value d

theorem get?_putIfAbsent (name : String) (value : α) (d : Dictionary α) (other : String) :
    get? (putIfAbsent name value d) other =
      (get? d other).or (if name = other then some value else none) := by
  cases hother : get? d other with
  | some old =>
      rw [get?_putIfAbsent_of_get? hother, Option.some_or]
  | none =>
      rw [Option.none_or]
      unfold putIfAbsent
      split
      · rename_i hhas
        have hne : name ≠ other := by
          rintro rfl
          simp [has, hother] at hhas
        rw [hother, if_neg hne]
      · rw [get?_put, hother]

/-- Values that go in only where there is none: the first of a name is kept. -/
theorem get?_addAll (values : List α) (d : Dictionary α) (name : String) :
    get? (values.foldl (fun d x => putIfAbsent (key x) x d) d) name =
      (get? d name).or (values.find? (key · = name)) := by
  induction values generalizing d with
  | nil =>
      simp
  | cons x rest ih =>
      rw [List.foldl_cons, ih, get?_putIfAbsent, Option.or_assoc, List.find?_cons]
      by_cases hx : key x = name <;> simp [hx]

/-- Values that take the place of others: the last of a name is kept. -/
theorem get?_replaceAll (values : List α) (d : Dictionary α) (name : String) :
    get? (values.foldl (fun d x => put (key x) x d) d) name =
      (values.reverse.find? (key · = name)).or (get? d name) := by
  induction values generalizing d with
  | nil =>
      simp
  | cons x rest ih =>
      rw [List.foldl_cons, ih, get?_put, List.reverse_cons, List.find?_append, Option.or_assoc]
      by_cases hx : key x = name <;> simp [hx]

theorem mem_addAll {values : List α} {entry : String × α}
    (h : entry ∈ values.foldl (fun d x => putIfAbsent (key x) x d) d) :
    entry ∈ d ∨ ∃ x ∈ values, entry = (key x, x) := by
  induction values generalizing d with
  | nil =>
      exact .inl h
  | cons x rest ih =>
      rcases ih h with hfirst | ⟨y, hy, rfl⟩
      · rcases eq_or_mem_of_mem_putIfAbsent hfirst with rfl | hd
        · exact .inr ⟨x, List.mem_cons_self, rfl⟩
        · exact .inl hd
      · exact .inr ⟨y, List.mem_cons_of_mem _ hy, rfl⟩

theorem get?_addAll_of_get? (values : List α) (h : get? d name = some value) :
    get? (values.foldl (fun d x => putIfAbsent (key x) x d) d) name = some value := by
  rw [get?_addAll, h, Option.some_or]

theorem Ordered.addAll (h : Ordered d) (values : List α) :
    Ordered (values.foldl (fun d x => Dictionary.putIfAbsent (key x) x d) d) := by
  induction values generalizing d with
  | nil => exact h
  | cons x rest ih => exact ih (h.putIfAbsent (key x) x)

theorem Ordered.replaceAll (h : Ordered d) (values : List α) :
    Ordered (values.foldl (fun d x => Dictionary.put (key x) x d) d) := by
  induction values generalizing d with
  | nil => exact h
  | cons x rest ih => exact ih (h.put (key x) x)

end Filling

end Dictionary
end PromptBook
