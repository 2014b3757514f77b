import PromptBook.Proofs.Dictionary.Filling

/-!
# Dictionaries of entries in any order

Entries of different names make the same dictionary in whatever order they come, and entries that
stand in order make a dictionary of themselves.

**Results.**
* `lookup_of_mem`: entries of different keys are found by their keys.
* `get?_ofEntries_iff`: what the dictionary of some entries holds.
* `ofEntries_perm`: entries in another order.
* `Ordered.ofEntries_eq`: entries that are in order.
-/

namespace PromptBook
namespace Dictionary

variable {α : Type} {d : Dictionary α} {entries entries' : List (String × α)} {name : String}
variable {value : α}

section Lookup

/-- Of entries with different keys, the one of a key is found. -/
theorem lookup_of_mem {κ : Type} [BEq κ] [LawfulBEq κ] {key : κ} {entries : List (κ × α)}
    (hkeys : (entries.map Prod.fst).Nodup) (h : (key, value) ∈ entries) :
    entries.lookup key = some value := by
  induction entries with
  | nil => cases h
  | cons first rest ih =>
      obtain ⟨other, old⟩ := first
      obtain ⟨hother, hrest⟩ := List.nodup_cons.mp hkeys
      rcases List.mem_cons.mp h with heq | hmem
      · cases heq
        simp
      · have hne : (key == other) = false := by
          rw [beq_eq_false_iff_ne]
          rintro rfl
          exact hother (List.mem_map.mpr ⟨_, hmem, rfl⟩)
        rw [List.lookup_cons, hne]
        exact ih hrest hmem

theorem lookup_of_not_mem {κ : Type} [BEq κ] [LawfulBEq κ] {key : κ} {entries : List (κ × α)}
    (h : key ∉ entries.map Prod.fst) : entries.lookup key = none := by
  rw [List.lookup_eq_none_iff]
  intro entry hentry
  rw [bne_iff_ne]
  rintro rfl
  exact h (List.mem_map.mpr ⟨entry, hentry, rfl⟩)

end Lookup

section Making

theorem Ordered.putAll (h : Ordered d) (entries : List (String × α)) :
    Ordered (entries.foldl (fun d entry => Dictionary.put entry.1 entry.2 d) d) := by
  induction entries generalizing d with
  | nil => exact h
  | cons entry rest ih => exact ih (h.put entry.1 entry.2)

theorem Ordered.ofEntries (entries : List (String × α)) : Ordered (ofEntries entries) :=
  Ordered.nil.putAll entries

theorem get?_putAll_iff (hnames : (entries.map Prod.fst).Nodup) (d : Dictionary α) :
    get? (entries.foldl (fun d entry => put entry.1 entry.2 d) d) name = some value ↔
      (name, value) ∈ entries ∨ (name ∉ entries.map Prod.fst ∧ get? d name = some value) := by
  induction entries generalizing d with
  | nil => simp
  | cons entry rest ih =>
      obtain ⟨key, old⟩ := entry
      obtain ⟨hkey, hrest⟩ := List.nodup_cons.mp hnames
      rw [List.foldl_cons, ih hrest, get?_put]
      by_cases hname : key = name
      · subst hname
        have hno : (key, value) ∉ rest := fun hmem => hkey (List.mem_map.mpr ⟨_, hmem, rfl⟩)
        simp [hno, hkey, eq_comm]
      · have hne : name ≠ key := fun h => hname h.symm
        simp [hname, hne]

/-- What the dictionary of entries with different names holds are the entries. -/
theorem get?_ofEntries_iff (hnames : (entries.map Prod.fst).Nodup) :
    get? (ofEntries entries) name = some value ↔ (name, value) ∈ entries := by
  refine (get?_putAll_iff hnames []).trans ?_
  simp

theorem ofEntries_perm (hnames : (entries.map Prod.fst).Nodup) (h : entries.Perm entries') :
    ofEntries entries = ofEntries entries' := by
  have hnames' : (entries'.map Prod.fst).Nodup := (h.map Prod.fst).nodup_iff.mp hnames
  refine (Ordered.ofEntries entries).ext (Ordered.ofEntries entries') fun name => ?_
  apply Option.ext
  intro value
  rw [get?_ofEntries_iff hnames, get?_ofEntries_iff hnames', h.mem_iff]

theorem Ordered.nodup_names (h : Ordered d) : (d.map Prod.fst).Nodup := by
  rw [List.Nodup, List.pairwise_map]
  exact h.imp fun hlt => ne_of_lt hlt

theorem Ordered.ofEntries_eq (h : Ordered d) : Dictionary.ofEntries d = d := by
  refine (Ordered.ofEntries d).ext h fun name => ?_
  apply Option.ext
  intro value
  rw [get?_ofEntries_iff h.nodup_names, h.get?_eq_some_iff]

end Making

end Dictionary
end PromptBook
