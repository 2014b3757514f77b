import PromptBook.Files.Tree
import PromptBook.Proofs.Text.Runs

/-!
# Names in paths

A file has a name that is one component of a path: it is not empty, holds no slash, and is not one of
the two names of dots.  The path of such a name in a directory has one component more than the path
of the directory, and that is the name.

**Results.**
* `components_append_slash`: the components of a path with a slash in it.
* `components_join`, `steps_join`, `fileName?_join`: the path of a name in a directory.
-/

namespace PromptBook

namespace Path

/-- A name that a file can have. -/
structure IsComponent (name : String) : Prop where
  ne_empty : name ≠ ""
  ne_dot : name ≠ "."
  ne_dots : name ≠ ".."
  no_slash : '/' ∉ name.toList

variable {name : String}

theorem isComponent_iff :
    IsComponent name ↔ name ≠ "" ∧ name ≠ "." ∧ name ≠ ".." ∧ '/' ∉ name.toList :=
  ⟨fun h => ⟨h.ne_empty, h.ne_dot, h.ne_dots, h.no_slash⟩, fun h => ⟨h.1, h.2.1, h.2.2.1, h.2.2.2⟩⟩

instance (name : String) : Decidable (IsComponent name) :=
  decidable_of_iff' _ isComponent_iff

/-- A plain name is one that a file can have, without a backslash in it. -/
theorem isPlainName_iff : isPlainName name = true ↔ IsComponent name ∧ '\\' ∉ name.toList := by
  have hall : (∀ c ∈ name.toList, c ≠ '/' ∧ c ≠ '\\') ↔
      '/' ∉ name.toList ∧ '\\' ∉ name.toList := by
    grind
  simp only [isPlainName, Bool.and_eq_true, decide_eq_true_eq, List.all_eq_true, hall,
    isComponent_iff, ne_eq]
  tauto

/-- A name with a dot and an extension behind it is one that a file can have. -/
theorem IsComponent.withExtension {extension : String} (h : IsComponent name)
    (hextension : '/' ∉ extension.toList) : IsComponent (name ++ "." ++ extension) := by
  have htext : (name ++ "." ++ extension).toList = name.toList ++ '.' :: extension.toList := by
    simp
  obtain ⟨c, cs, hname⟩ := List.exists_cons_of_ne_nil fun hnil =>
    h.ne_empty (String.toList_inj.mp hnil)
  refine ⟨?_, ?_, ?_, ?_⟩
  · intro hempty
    simp [hempty] at htext
  · intro hdot
    simp [hdot, hname] at htext
  · intro hdots
    -- Two dots are a name of one dot and an extension of nothing.
    rw [hdots, hname] at htext
    cases cs with
    | nil =>
        have hc : '.' = c := (List.cons.inj htext).1
        exact h.ne_dot (String.toList_inj.mp (by rw [hname, ← hc]; rfl))
    | cons d cs =>
        simp at htext
  · rw [htext, List.mem_append, List.mem_cons]
    rintro (hmem | hdot | hmem)
    · exact h.no_slash hmem
    · exact absurd hdot (by decide)
    · exact hextension hmem

section Components

theorem components_empty : components "" = [] := rfl

/-- The components before a slash, and those after it. -/
theorem components_append_slash (before after : String) :
    components (before ++ "/" ++ after) = components before ++ components after := by
  have htext : (before ++ "/" ++ after).toList = before.toList ++ '/' :: after.toList := by
    simp
  rw [components, htext, Text.splitWhere_append_cons (by rfl), List.filter_append, List.map_append]
  rfl

theorem components_of_isComponent (h : IsComponent name) : components name = [name] := by
  have hslash : ∀ c ∈ name.toList, (c == '/') = false := by
    intro c hc
    rw [beq_eq_false_iff_ne]
    rintro rfl
    exact h.no_slash hc
  have hempty : name.toList ≠ [] := fun hnil => h.ne_empty (String.toList_inj.mp hnil)
  have hdot : name.toList ≠ ['.'] := fun hdot => h.ne_dot (String.toList_inj.mp hdot)
  rw [components, Text.splitWhere_of_none hslash]
  simp [hempty, hdot]

end Components

section Joining

/-- A path with nothing in it, or with a slash at its end. -/
def OpenEnded (front : String) : Prop :=
  front = "" ∨ ∃ before, front = before ++ "/"

theorem components_append_slash_end (before : String) :
    components (before ++ "/") = components before := by
  have h := components_append_slash before ""
  rwa [String.append_empty, components_empty, List.append_nil] at h

theorem isAbsolute_of_isComponent (h : IsComponent name) : isAbsolute name = false := by
  rw [isAbsolute, decide_eq_false_iff_not]
  exact fun hhead => h.no_slash (List.mem_of_mem_head? hhead)

/-- A name is put behind its directory, and there is a slash between them unless the directory is said
by nothing. -/
theorem exists_front (h : IsComponent name) (dir : String) :
    ∃ front, join dir name = front ++ name ∧ OpenEnded front ∧
      components front = components dir ∧ isAbsolute front = isAbsolute dir := by
  rw [join, isAbsolute_of_isComponent h, if_neg Bool.false_ne_true]
  by_cases hopens : dir.isEmpty = true ∨ dir.toList.getLast? = some '/'
  · refine ⟨dir, if_pos hopens, ?_, rfl, rfl⟩
    rcases hopens with hempty | hlast
    · exact .inl (String.isEmpty_iff.mp hempty)
    · refine .inr ⟨String.ofList dir.toList.dropLast, String.toList_inj.mp ?_⟩
      rw [String.toList_append, String.toList_ofList]
      exact (List.dropLast_append_getLast? '/' hlast).symm
  · refine ⟨dir ++ "/", if_neg hopens, .inr ⟨dir, rfl⟩, components_append_slash_end dir, ?_⟩
    have hne : dir.toList ≠ [] := by
      simpa using fun hempty => hopens (.inl hempty)
    rw [isAbsolute, isAbsolute, String.toList_append, List.head?_append_of_ne_nil _ hne]

variable {dir : String}

/-- The path of a name in a directory has one component more, and that is the name. -/
theorem components_join (h : IsComponent name) (dir : String) :
    components (join dir name) = components dir ++ [name] := by
  obtain ⟨front, hjoin, hopens, hcomponents, _⟩ := exists_front h dir
  rw [hjoin, ← hcomponents]
  rcases hopens with rfl | ⟨before, rfl⟩
  · rw [String.empty_append, components_of_isComponent h, components_empty, List.nil_append]
  · rw [components_append_slash, components_append_slash_end, components_of_isComponent h]

theorem fileName?_join (h : IsComponent name) (dir : String) :
    fileName? (join dir name) = some name := by
  rw [fileName?, components_join h, List.getLast?_concat]
  simp [h.ne_dots]

theorem isAbsolute_join (h : IsComponent name) (dir : String) :
    isAbsolute (join dir name) = isAbsolute dir := by
  obtain ⟨front, hjoin, hopens, _, habsolute⟩ := exists_front h dir
  rw [hjoin, ← habsolute]
  rcases hopens with rfl | ⟨before, rfl⟩
  · rw [String.empty_append, isAbsolute_of_isComponent h]
    rfl
  · have hne : (before ++ "/").toList ≠ [] := by
      simp
    have hlist : (before ++ "/" ++ name).toList = (before ++ "/").toList ++ name.toList :=
      String.toList_append
    rw [isAbsolute, isAbsolute, hlist, List.head?_append_of_ne_nil _ hne]

theorem join_ne_empty (h : IsComponent name) (dir : String) : join dir name ≠ "" := by
  intro hempty
  have hnone := fileName?_join h dir
  rw [hempty] at hnone
  cases hnone

/-- The path of a name does not end with a slash. -/
theorem getLast?_join (h : IsComponent name) (dir : String) :
    (join dir name).toList.getLast? ≠ some '/' := by
  obtain ⟨front, hjoin, _⟩ := exists_front h dir
  have hne : name.toList ≠ [] := fun hnil => h.ne_empty (String.toList_inj.mp hnil)
  rw [hjoin, String.toList_append, List.getLast?_append_of_ne_nil _ hne]
  exact fun hlast => h.no_slash (List.mem_of_getLast? hlast)

/-- To follow the path of a name is to follow the components of its directory, and then the name. -/
theorem steps_join (h : IsComponent name) (dir : String) :
    Files.Tree.steps (join dir name) = components dir ++ [name] := by
  rw [Files.Tree.steps, components_join h, if_neg (getLast?_join h dir), List.append_nil]

end Joining

end Path
end PromptBook
