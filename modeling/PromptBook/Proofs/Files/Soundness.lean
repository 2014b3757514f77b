import PromptBook.Proofs.Dictionary.Agreement
import PromptBook.Proofs.Files.Walking

/-!
# What a directory lists

A tree is sound if no place is told of twice and every name is one that a file can have.  A directory
of a sound tree lists its entries in the order of their names, each once, and an entry that is listed
is what is at the place of its name.  A file that comes, goes or changes leaves a tree sound, and it
leads no path to a directory astray, as no path goes through a file.

**Results.**
* `Sound.list_ordered`, `Sound.mem_list_iff`: what a directory lists.
* `Sound.put`, `Sound.without`: trees stay sound when something is put or removed.
* `DifferAt.find_directory`: directories are found where they were when a file changes.
-/

namespace PromptBook
namespace Files
namespace Tree

variable {t t' : Tree} {place there : Location} {name path dir : String} {e : Entry}

/-- A tree as a system keeps one: no place is told of twice, and names are names. -/
structure Sound (t : Tree) : Prop where
  distinct : (t.entries.map Prod.fst).Nodup
  named : ∀ entry ∈ t.entries, entry.1 ≠ [] ∧ ∀ name ∈ entry.1, Path.IsComponent name

theorem sound_iff :
    t.Sound ↔ (t.entries.map Prod.fst).Nodup ∧
      ∀ entry ∈ t.entries, entry.1 ≠ [] ∧ ∀ name ∈ entry.1, Path.IsComponent name :=
  ⟨fun h => ⟨h.distinct, h.named⟩, fun h => ⟨h.1, h.2⟩⟩

instance (t : Tree) : Decidable t.Sound :=
  decidable_of_iff' _ sound_iff

section Places

theorem at?_concat (t : Tree) (place : Location) (name : String) :
    t.at? (place ++ [name]) = t.entries.lookup (place ++ [name]) := by
  simp [at?]

/-- What is at a place is what is told of it. -/
theorem Sound.at?_concat_iff (h : t.Sound) :
    t.at? (place ++ [name]) = some e ↔ (place ++ [name], e) ∈ t.entries := by
  rw [at?_concat]
  refine ⟨fun hlookup => ?_, fun hmem => Dictionary.lookup_of_mem h.distinct hmem⟩
  obtain ⟨before, after, hentries, _⟩ := List.lookup_eq_some_iff.mp hlookup
  exact hentries ▸ List.mem_append_right _ List.mem_cons_self

theorem Sound.isComponent (h : t.Sound) (hat : t.at? (place ++ [name]) = some e) :
    Path.IsComponent name :=
  (h.named _ (h.at?_concat_iff.mp hat)).2 name (List.mem_append_right _ (List.mem_singleton.mpr rfl))

end Places

section Listing

theorem child?_eq_some_iff {entry : Location × Entry} :
    child? place entry = some (name, e) ↔ entry = (place ++ [name], e) := by
  obtain ⟨location, found⟩ := entry
  unfold child?
  constructor
  · intro h
    split at h
    · rename_i last hlast
      obtain ⟨front, rfl⟩ := List.getLast?_eq_some_iff.mp hlast
      rw [List.dropLast_concat, Option.ite_none_right_eq_some, Option.some.injEq,
        Prod.mk.injEq] at h
      obtain ⟨rfl, rfl, rfl⟩ := h
      rfl
    · cases h
  · intro h
    cases h
    simp

theorem list_of_find (hdir : t.find dir = .ok (.entry place .directory)) :
    t.list dir = (t.entries.filterMap (child? place)).mergeSort fun a b => a.1 ≤ b.1 := by
  rw [list, hdir]

/-- What a directory lists is what is at the places of its names. -/
theorem Sound.mem_list_iff (h : t.Sound) (hdir : t.find dir = .ok (.entry place .directory)) :
    (name, e) ∈ t.list dir ↔ t.at? (place ++ [name]) = some e := by
  rw [list_of_find hdir, List.mem_mergeSort, List.mem_filterMap, h.at?_concat_iff]
  constructor
  · rintro ⟨entry, hentry, hchild⟩
    exact child?_eq_some_iff.mp hchild ▸ hentry
  · intro hentry
    exact ⟨_, hentry, child?_eq_some_iff.mpr rfl⟩

/-- A directory lists its entries in the order of their names, and each name once. -/
theorem Sound.list_ordered (h : t.Sound) (hdir : t.find dir = .ok (.entry place .directory)) :
    Dictionary.Ordered (t.list dir) := by
  have hdistinct : (t.entries.filterMap (child? place)).Pairwise fun a b => a.1 ≠ b.1 := by
    refine List.Pairwise.filterMap _ ?_ (List.pairwise_map.mp h.distinct)
    rintro entry entry' hne ⟨name, e⟩ hchild ⟨name', e'⟩ hchild' rfl
    rw [child?_eq_some_iff.mp hchild, child?_eq_some_iff.mp hchild'] at hne
    exact hne rfl
  have hsorted : (t.list dir).Pairwise fun a b => decide (a.1 ≤ b.1) = true := by
    rw [list_of_find hdir]
    refine List.pairwise_mergeSort ?_ ?_ _
    · intro a b c hab hbc
      simp only [decide_eq_true_eq] at hab hbc ⊢
      exact le_trans hab hbc
    · intro a b
      simpa using le_total a.1 b.1
  have hapart : (t.list dir).Pairwise fun a b => a.1 ≠ b.1 := by
    rw [list_of_find hdir]
    exact hdistinct.perm (List.mergeSort_perm _ _).symm fun hne => hne.symm
  exact (hsorted.and hapart).imp fun hboth => lt_of_le_of_ne (of_decide_eq_true hboth.1) hboth.2

end Listing

section Changing

/-- The tree without what is at a place. -/
def without (t : Tree) (place : Location) : Tree :=
  { t with entries := t.entries.filter (·.1 ≠ place) }

theorem not_mem_without (t : Tree) (place : Location) :
    place ∉ (t.without place).entries.map Prod.fst := by
  rw [List.mem_map]
  rintro ⟨entry, hentry, rfl⟩
  simpa using (List.mem_filter.mp hentry).2

theorem at?_without_self (t : Tree) (hne : place ≠ []) : (t.without place).at? place = none := by
  rw [at?, if_neg (by simpa using hne), Dictionary.lookup_of_not_mem (t.not_mem_without place)]

theorem at?_without_of_ne (t : Tree) (h : there ≠ place) :
    (t.without place).at? there = t.at? there := by
  have hlookup : (t.without place).entries.lookup there = t.entries.lookup there := by
    unfold without
    induction t.entries with
    | nil => rfl
    | cons entry rest ih =>
        by_cases hplace : entry.1 = place
        · have hne : (there == entry.1) = false := by
            simpa [hplace] using h
          rw [List.filter_cons_of_neg (by simpa using hplace), List.lookup_cons, hne]
          exact ih
        · rw [List.filter_cons_of_pos (by simpa using hplace), List.lookup_cons, List.lookup_cons,
            ih]
  rw [at?, at?, hlookup]

theorem at?_put_self (t : Tree) (hne : place ≠ []) (e : Entry) : (t.put place e).at? place = some e := by
  rw [at?, if_neg (by simpa using hne)]
  exact List.lookup_cons_self

theorem at?_put_of_ne (t : Tree) (h : there ≠ place) (e : Entry) :
    (t.put place e).at? there = t.at? there := by
  have hne : (there == place) = false := by
    simpa using h
  have hlookup : (t.put place e).entries.lookup there = (t.without place).entries.lookup there := by
    rw [put, List.lookup_cons, hne]
    rfl
  rw [← t.at?_without_of_ne h, at?, at?, hlookup]

theorem Sound.without (h : t.Sound) (place : Location) : (t.without place).Sound where
  distinct := h.distinct.sublist (List.filter_sublist.map Prod.fst)
  named entry hentry := h.named entry (List.mem_filter.mp hentry).1

/-- To put something at a place of names leaves a tree sound. -/
theorem Sound.put (h : t.Sound) (hne : place ≠ []) (hnames : ∀ name ∈ place, Path.IsComponent name)
    (e : Entry) : (t.put place e).Sound where
  distinct := List.nodup_cons.mpr ⟨t.not_mem_without place, (h.without place).distinct⟩
  named := List.forall_mem_cons.mpr ⟨⟨hne, hnames⟩, (h.without place).named⟩

end Changing

section Differing

variable {follow : Bool} {links : Nat} {names : List String}

/-- At a place there is a file, or nothing. -/
def AtMostFile (t : Tree) (place : Location) : Prop :=
  ∀ e, t.at? place = some e → ∃ content age, e = .file content age

theorem AtMostFile.ne_nil (h : t.AtMostFile place) : place ≠ [] := by
  rintro rfl
  obtain ⟨content, age, hdirectory⟩ := h .directory rfl
  cases hdirectory

/-- Trees that are the same but for a file at one place: each has some file there, or nothing. -/
structure DifferAt (t t' : Tree) (place : Location) : Prop where
  current : t.current = t'.current
  elsewhere : ∀ there, there ≠ place → t.at? there = t'.at? there
  before : t.AtMostFile place
  after : t'.AtMostFile place

/-- A file is put in the place of another, or where there was nothing. -/
theorem AtMostFile.differAt_put (h : t.AtMostFile place) (content : Option String) (age : Nat) :
    t.DifferAt (t.put place (.file content age)) place where
  current := rfl
  elsewhere _ hne := (t.at?_put_of_ne hne _).symm
  before := h
  after e hat := by
    rw [t.at?_put_self h.ne_nil] at hat
    exact ⟨content, age, (Option.some.inj hat).symm⟩

/-- A file is removed. -/
theorem AtMostFile.differAt_without (h : t.AtMostFile place) : t.DifferAt (t.without place) place where
  current := rfl
  elsewhere _ hne := (t.at?_without_of_ne hne).symm
  before := h
  after e hat := by
    rw [t.at?_without_self h.ne_nil] at hat
    cases hat

theorem DifferAt.at?_eq (h : DifferAt t t' place) (hat : t.at? there = some e)
    (hfile : ∀ content age, e ≠ .file content age) : t'.at? there = some e := by
  rw [← h.elsewhere there ?_, hat]
  rintro rfl
  obtain ⟨content, age, he⟩ := h.before e hat
  exact hfile content age he

theorem DifferAt.goesDown (h : DifferAt t t' place) (hdown : t.GoesDown there name) :
    t'.GoesDown there name :=
  { hdown with directory := h.at?_eq hdown.directory (by simp) }

/-- Names that lead to a directory begin in one. -/
theorem Walks.begins (h : t.Walks follow links there names (.entry place .directory)) :
    t.at? there = some .directory := by
  cases h with
  | here hat => exact hat
  | dot hat _ => exact hat
  | dots hat _ => exact hat
  | link hdown _ _ _ => exact hdown.directory
  | down hdown _ _ _ => exact hdown.directory

/-- Names that lead to a directory lead there still when a file changes. -/
theorem DifferAt.walks (h : DifferAt t t' place) {start : Location}
    (hwalks : t.Walks follow links start names (.entry there .directory)) :
    t'.Walks follow links start names (.entry there .directory) := by
  generalize hfound : Found.entry there .directory = found at hwalks
  induction hwalks with
  | here hat =>
      cases hfound
      exact .here (h.at?_eq hat (by simp))
  | dot hat _ ih =>
      exact .dot (h.at?_eq hat (by simp)) (ih hfound)
  | dots hat _ ih =>
      exact .dots (h.at?_eq hat (by simp)) (ih hfound)
  | missing hdown hnone =>
      cases hfound
  | stop hdown hat hfollow =>
      cases hfound
  | link hdown hat hfollow _ ih =>
      exact .link (h.goesDown hdown) (h.at?_eq hat (by simp)) hfollow (ih hfound)
  | @down links start name e rest found hdown hat hlink hrest ih =>
      -- What is gone down to is a directory itself, so it is not the file.
      subst hfound
      have hdirectory : e = .directory := Option.some.inj (hat.symm.trans hrest.begins)
      exact .down (h.goesDown hdown) (h.at?_eq hat (by simp [hdirectory])) hlink (ih rfl)

/-- A directory is found where it was when a file changes. -/
theorem DifferAt.find_directory (h : DifferAt t t' place)
    (hdir : t.find dir = .ok (.entry there .directory)) :
    t'.find dir = .ok (.entry there .directory) := by
  obtain ⟨hne, hpath⟩ := mayFollow_of_findFrom hdir
  rw [find, findFrom_of_mayFollow hne hpath, walk_eq_ok_iff] at hdir ⊢
  rw [← h.current]
  exact h.walks hdir

end Differing

end Tree
end Files
end PromptBook
