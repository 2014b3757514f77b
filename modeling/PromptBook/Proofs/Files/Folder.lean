import PromptBook.Proofs.Files.Walking

/-!
# Folders

A folder is a directory in the current directory that holds files and nothing else.  Listing it
gives its files, and the path of a file leads to it if its name may stand in a path.

**Results.**
* `list_folder`: what is listed.
* `find_of_leads`: how a relative path is followed, in any tree.
* `find_join`, `readText_join`: where the path of a file leads, and what can be read there.
-/

namespace PromptBook
namespace Files
namespace Tree

/-- What a file of a folder holds, unless that is no text. -/
abbrev Content := Option String

/-- The tree with one folder, of files that were written just now. -/
def folder (contents : List (String × Content)) : Tree :=
  ⟨(["p"], .directory) :: contents.map fun (name, content) => (["p", name], .file content 0), []⟩

/-- A name that may stand in a path. -/
def MayStand (name : String) : Prop :=
  Path.isPlainName name = true ∧ Char.ofNat 0 ∉ name.toList ∧ name.utf8ByteSize ≤ 255

instance (name : String) : Decidable (MayStand name) :=
  inferInstanceAs (Decidable (_ ∧ _ ∧ _))

variable {contents : List (String × Content)} {name : String} {content : Content}

section Places

theorem at?_folder_self (contents : List (String × Content)) :
    (folder contents).at? ["p"] = some .directory := by
  simp [at?, folder]

theorem at?_folder (contents : List (String × Content)) (name : String) :
    (folder contents).at? ["p", name] = (contents.lookup name).map (.file · 0) := by
  have hother : (["p", name] == ["p"]) = false := by
    simp
  simp only [at?, folder, List.lookup_cons, hother]
  induction contents with
  | nil =>
      rfl
  | cons first rest ih =>
      obtain ⟨key, old⟩ := first
      simp only [List.map_cons, List.lookup_cons]
      by_cases hkey : name = key
      · simp [hkey]
      · have hne : (name == key) = false := by
          simpa using hkey
        have hne' : (["p", name] == ["p", key]) = false := by
          simpa using hkey
        rw [hne, hne']
        simpa using ih

end Places

section Names

theorem MayStand.isComponent (h : MayStand name) : Path.IsComponent name :=
  (Path.isPlainName_iff.mp h.1).1

/-- The path of a file in a folder. -/
theorem join_folder (h : MayStand name) : Path.join "p" name = "p/" ++ name := by
  have hbase : ¬("p".isEmpty = true ∨ "p".toList.getLast? = some '/') := by
    decide
  rw [Path.join, Path.isAbsolute_of_isComponent h.isComponent, if_neg Bool.false_ne_true,
    if_neg hbase]
  apply String.toList_inj.mp
  simp

theorem MayStand.mayFollow (h : MayStand name) : MayFollow (Path.join "p" name) := by
  rw [join_folder h]
  refine ⟨?_, ?_⟩
  · simpa using h.2.1
  · have hprefix : "p/".utf8ByteSize = 2 := by
      decide
    have hname := h.2.2
    rw [String.utf8ByteSize_append]
    omega

end Names

section Following

variable {path : String} {names : List String}

/-- A relative path that is followed by some names. -/
def Leads (path : String) (names : List String) : Prop :=
  path.isEmpty = false ∧ path.toList.contains (Char.ofNat 0) = false ∧ path.utf8ByteSize < 4096 ∧
    Path.isAbsolute path = false ∧ steps path = names

instance (path : String) (names : List String) : Decidable (Leads path names) :=
  inferInstanceAs (Decidable (_ ∧ _ ∧ _ ∧ _ ∧ _))

theorem find_of_leads (h : Leads path names) (t : Tree) :
    t.find path = t.walk true mostLinks t.current names := by
  obtain ⟨hthere, hclean, hshort, hrelative, hsteps⟩ := h
  have hne : path ≠ "" := by
    simpa using hthere
  have hpath : MayFollow path := ⟨by simpa using hclean, hshort⟩
  rw [find, findFrom_of_mayFollow hne hpath, hrelative, if_neg Bool.false_ne_true, hsteps]

end Following

section Finding

theorem find_folder (contents : List (String × Content)) :
    (folder contents).find "p" = .ok (.entry ["p"] .directory) := by
  have hleads : Leads "p" ["p"] := by
    decide
  have hdown : (folder contents).GoesDown [] "p" := ⟨rfl, by decide, by decide, by decide⟩
  have hat := at?_folder_self contents
  rw [find_of_leads hleads]
  exact Walks.walk_eq (.down hdown hat (by simp) (.here hat))

/-- A folder lists its files. -/
theorem list_folder (h : contents.Pairwise fun a b => a.1 ≤ b.1) :
    (folder contents).list "p" = contents.map fun (name, content) => (name, .file content 0) := by
  have hchildren : (folder contents).entries.filterMap (child? ["p"]) =
      contents.map fun (name, content) => (name, .file content 0) := by
    simp [folder, List.filterMap_map, Function.comp_def, child?]
  simp only [list, find_folder, hchildren]
  apply List.mergeSort_of_pairwise
  rw [List.pairwise_map]
  exact h.imp fun hle => decide_eq_true hle

/-- The path of a name leads to the file that has it, or to none. -/
theorem find_join (h : MayStand name) :
    (folder contents).find (Path.join "p" name) =
      .ok (match contents.lookup name with
        | some content => .entry ["p", name] (.file content 0)
        | none => .missing ["p"] name) := by
  have hname := h.isComponent
  have hdown : (folder contents).GoesDown ["p"] name :=
    ⟨at?_folder_self contents, hname.ne_dot, hname.ne_dots, h.2.2⟩
  have hat := at?_folder contents name
  obtain ⟨left, hleft⟩ := findFrom_join hname (find_folder contents) h.mayFollow
  rw [find, hleft]
  cases hlookup : contents.lookup name with
  | none =>
      rw [hlookup] at hat
      exact walk_missing hdown hat
  | some content =>
      rw [hlookup] at hat
      exact Walks.walk_eq (.down hdown hat (by simp) (.here hat))

theorem isFile_join (h : MayStand name) :
    (folder contents).isFile (Path.join "p" name) = (contents.lookup name).isSome := by
  rw [isFile, entry?, find_join h]
  cases contents.lookup name <;> rfl

theorem readText_join (h : MayStand name) :
    (folder contents).readText (Path.join "p" name) =
      match contents.lookup name with
      | some (some text) => .ok text
      | some none => .error .notText
      | none => .error .notFound := by
  rw [readText, find_join h]
  cases contents.lookup name with
  | none => rfl
  | some content => cases content <;> rfl

end Finding

end Tree
end Files
end PromptBook
