import PromptBook.Proofs.Files.Folder
import PromptBook.Proofs.Template.Clock
import Mathlib.Data.List.Basic
import Mathlib.Data.List.Forall2

/-!
# What a loader finds

A directory is read file by file, and each file with one of the extensions gives a template or a
failure.  To ask for a template by name leads to at most one file: the first extension with which
there is one decides.

**Results.**
* `mem_templates_iff`, `failures_readDirectory`: the templates of a directory, and the failures.
* `readDirectory_sameButClock`: a directory that is read at another time.
* `find?_of_reaches`: the file for a name.
-/

namespace PromptBook

open Files (Tree)
open Template (SameButClock)

/-- The same outcome but for the clock. -/
structure LoadOutcome.SameButClock (now now' : Timestamp) (o o' : LoadOutcome) : Prop where
  templates : List.Forall₂ (Template.SameButClock now now') o.templates o'.templates
  failures : o.failures = o'.failures

/-- A document with one text of the user. -/
def Source.userDocument (content : String) : String :=
  "\x7b\x7brole \"user\"\x7d\x7d" ++ content

namespace Loader

variable {l : Loader} {now now' : Timestamp} {files : Tree} {dir path name : String} {t : Template}

section Directories

theorem ok_of_toOption {r : Except TemplateError Template} (h : r.toOption = some t) : r = .ok t := by
  cases r with
  | ok u => exact congrArg Except.ok (Option.some.inj h)
  | error e => cases h

theorem mem_candidates_iff :
    path ∈ l.candidates files dir ↔
      ∃ file content age, (file, .file content age) ∈ files.list dir ∧ l.accepts file = true ∧
        path = Path.join dir file := by
  rw [candidates, List.mem_filterMap]
  constructor
  · rintro ⟨⟨file, entry⟩, hfile, hpath⟩
    cases entry with
    | file content age =>
        simp only [Option.ite_none_right_eq_some, Option.some.injEq] at hpath
        exact ⟨file, content, age, hfile, hpath.1, hpath.2.symm⟩
    | link target => cases hpath
    | directory => cases hpath
  · rintro ⟨file, content, age, hfile, haccepts, rfl⟩
    exact ⟨_, hfile, if_pos haccepts⟩

theorem templates_addFile (o : LoadOutcome) :
    (addFile now files o path).templates = o.templates ++ (readAt now files path).toOption.toList := by
  unfold addFile
  cases readAt now files path with
  | ok t => rfl
  | error e => exact (List.append_nil _).symm

theorem templates_foldl_addFile (paths : List String) (o : LoadOutcome) :
    (paths.foldl (addFile now files) o).templates =
      o.templates ++ paths.filterMap fun path => (readAt now files path).toOption := by
  induction paths generalizing o with
  | nil =>
      exact (List.append_nil _).symm
  | cons path rest ih =>
      rw [List.foldl_cons, ih, templates_addFile, List.filterMap_cons, List.append_assoc]
      cases (readAt now files path).toOption <;> rfl

/-- The templates of a directory are those of its files, in the order of the files. -/
theorem templates_readDirectory :
    (l.readDirectory now files dir).templates =
      (l.candidates files dir).filterMap fun path => (readAt now files path).toOption :=
  templates_foldl_addFile _ _

/-- What is wrong with the file at a path, if it holds no template. -/
def failureAt? (now : Timestamp) (files : Tree) (path : String) : Option LoadFailure :=
  match readAt now files path with
  | .ok _ => none
  | .error e => some ⟨path, e⟩

theorem failures_foldl_addFile (paths : List String) (o : LoadOutcome) :
    (paths.foldl (addFile now files) o).failures =
      o.failures ++ paths.filterMap (failureAt? now files) := by
  induction paths generalizing o with
  | nil =>
      exact (List.append_nil _).symm
  | cons path rest ih =>
      rw [List.foldl_cons, ih, List.filterMap_cons]
      cases hread : readAt now files path with
      | ok t => simp [addFile, failureAt?, hread]
      | error e => simp [addFile, failureAt?, hread]

/-- The failures of a directory are those of its files, in the order of the files. -/
theorem failures_readDirectory :
    (l.readDirectory now files dir).failures =
      (l.candidates files dir).filterMap (failureAt? now files) :=
  failures_foldl_addFile _ _

theorem mem_templates_iff :
    t ∈ (l.readDirectory now files dir).templates ↔
      ∃ file content age, (file, .file content age) ∈ files.list dir ∧ l.accepts file = true ∧
        readAt now files (Path.join dir file) = .ok t := by
  rw [templates_readDirectory, List.mem_filterMap]
  constructor
  · rintro ⟨path, hpath, hread⟩
    obtain ⟨file, content, age, hfile, haccepts, rfl⟩ := mem_candidates_iff.mp hpath
    exact ⟨file, content, age, hfile, haccepts, ok_of_toOption hread⟩
  · rintro ⟨file, content, age, hfile, haccepts, hread⟩
    exact ⟨_, mem_candidates_iff.mpr ⟨file, content, age, hfile, haccepts, rfl⟩, by rw [hread]; rfl⟩

end Directories

section Times

/-- To read a file at another time adds the same to an outcome, but for the clock. -/
theorem addFile_sameButClock {o o' : LoadOutcome} (h : o.SameButClock now now' o') (path : String) :
    (addFile now files o path).SameButClock now now' (addFile now' files o' path) := by
  have hread := readAt_sameReading now now' files path
  unfold addFile
  generalize readAt now files path = r, readAt now' files path = r' at hread ⊢
  cases hread with
  | ok hsame => exact ⟨List.rel_append h.templates (.cons hsame .nil), h.failures⟩
  | error e => exact ⟨h.templates, congrArg (· ++ _) h.failures⟩

theorem foldl_addFile_sameButClock {o o' : LoadOutcome} (h : o.SameButClock now now' o')
    (paths : List String) :
    (paths.foldl (addFile now files) o).SameButClock now now'
      (paths.foldl (addFile now' files) o') := by
  induction paths generalizing o o' with
  | nil => exact h
  | cons path rest ih => exact ih (addFile_sameButClock h path)

theorem readDirectory_sameButClock (l : Loader) (now now' : Timestamp) (files : Tree)
    (dir : String) :
    (l.readDirectory now files dir).SameButClock now now' (l.readDirectory now' files dir) :=
  foldl_addFile_sameButClock ⟨.nil, rfl⟩ (l.candidates files dir)

end Times

section Names

/-- What gives a template is a file. -/
theorem isFile_of_readAt (h : readAt now files path = .ok t) : files.isFile path = true := by
  unfold readAt Tree.readText at h
  unfold Tree.isFile Tree.entry?
  cases hfind : files.find path with
  | error e =>
      rw [hfind] at h
      cases h
  | ok found =>
      rw [hfind] at h
      cases found with
      | missing directory name => cases h
      | entry place entry =>
          cases entry with
          | file content age => rfl
          | link target => cases h
          | directory => cases h

theorem readNamed_eq_ok_iff :
    l.readNamed now files dir name = .ok t ↔
      ∃ path, l.find? files dir name = some path ∧ readAt now files path = .ok t := by
  unfold readNamed
  cases l.find? files dir name with
  | none => simp
  | some path => simp

/-- A file that is called as a plain name with an extension, where no extension before that one leads
to a file. -/
structure Reaches (l : Loader) (files : Tree) (dir name file : String) : Prop where
  plain : Path.isPlainName name = true
  called : ∃ before extension after, l.extensions = before ++ extension :: after ∧
    file = name ++ "." ++ extension ∧
    ∀ other ∈ before, files.isFile (Path.join dir (name ++ "." ++ other)) = false

/-- The first extension with which there is a file for a name decides. -/
theorem find?_of_reaches {file : String} (h : l.Reaches files dir name file)
    (hthere : files.isFile (Path.join dir file) = true) :
    l.find? files dir name = some (Path.join dir file) := by
  obtain ⟨before, extension, after, hextensions, rfl, hbefore⟩ := h.called
  have hnone : (before.map fun other => Path.join dir (name ++ "." ++ other)).find? files.isFile =
      none := by
    rw [List.find?_eq_none]
    intro path hpath
    obtain ⟨other, hother, rfl⟩ := List.mem_map.mp hpath
    rw [hbefore other hother]
    exact Bool.false_ne_true
  rw [find?, if_pos h.plain, hextensions, List.map_append, List.map_cons, List.find?_append, hnone,
    Option.none_or, List.find?_cons_of_pos hthere]

end Names

section Folders

variable {contents : List (String × Tree.Content)}

theorem candidates_folder (h : contents.Pairwise fun a b => a.1 ≤ b.1) :
    l.candidates (.folder contents) "p" =
      (contents.filter fun file => l.accepts file.1).map fun file => Path.join "p" file.1 := by
  rw [candidates, Tree.list_folder h, List.filterMap_map, ← List.filterMap_eq_map, List.filterMap_filter]
  rfl

theorem readAt_folder (hname : Tree.MayStand name) {text : String}
    (hlookup : contents.lookup name = some (some text)) :
    readAt now (.folder contents) (Path.join "p" name) =
      Source.read now (Path.join "p" name) (Path.stem? (Path.join "p" name)) text := by
  rw [readAt, Tree.readText_join hname, hlookup]
  rfl

end Folders

end Loader

end PromptBook
