import PromptBook.Proofs.Files.Walking
import PromptBook.Proofs.Loader.Outcome
import PromptBook.Proofs.Manager.Staying

/-!
# Names that lead out of the directory

A template is asked for by name, and the name may be anything.  A name that is a path of its own, or
says nothing, finds no file; any other becomes, with an extension behind it, the name of an entry of
the directory.  So whatever is asked for, nothing outside the directory is looked at, unless a link in
the directory itself leads there.

**Results.**
* `find?_eq_some_iff`: the file for a name.
* `find?_of_not_plain`, `load_of_not_plain`: names for which there is none.
* `names_stay_inside`: both, for any files.
-/

namespace PromptBook

open Files (Tree Entry Location)
open PromptBook.Path (IsComponent)

namespace Loader

variable {l : Loader} {now : Timestamp} {files : Tree} {dir name path : String}

section Finding

/-- The file for a name is the first there is with one of the extensions behind the name. -/
theorem find?_eq_some_iff :
    l.find? files dir name = some path ↔
      Path.isPlainName name = true ∧
        ∃ before extension after, l.extensions = before ++ extension :: after ∧
          path = Path.join dir (name ++ "." ++ extension) ∧ files.isFile path = true ∧
          ∀ other ∈ before, files.isFile (Path.join dir (name ++ "." ++ other)) = false := by
  unfold find?
  rw [Option.ite_none_right_eq_some, List.find?_map, Option.map_eq_some_iff]
  refine and_congr_right fun hplain => ?_
  constructor
  · rintro ⟨extension, hfind, rfl⟩
    obtain ⟨hthere, before, after, hextensions, hbefore⟩ :=
      List.find?_eq_some_iff_append.mp hfind
    exact ⟨before, extension, after, hextensions, rfl, hthere,
      fun other hother => by simpa using hbefore other hother⟩
  · rintro ⟨before, extension, after, hextensions, rfl, hthere, hbefore⟩
    exact ⟨extension, List.find?_eq_some_iff_append.mpr ⟨hthere, before, after, hextensions,
      fun other hother => by simpa using hbefore other hother⟩, rfl⟩

theorem find?_of_not_plain (h : Path.isPlainName name = false) :
    l.find? files dir name = none := by
  rw [find?, h, if_neg Bool.false_ne_true]

theorem readNamed_of_not_plain (h : Path.isPlainName name = false) :
    l.readNamed now files dir name = .error (.notFound name) := by
  rw [readNamed, find?_of_not_plain h]

end Finding

end Loader

namespace Manager

variable {m : Manager} {now : Timestamp} {files : Tree} {name : String}

/-- A name that is no plain one is not found, unless something is kept under it. -/
theorem load_of_not_plain (h : m.CacheWithin) (hno : m.get? name = none)
    (hplain : Path.isPlainName name = false) :
    (m.load now files name).1 = .error (.prompt (.notFound name)) := by
  obtain ⟨hfound, hregistry, _, _⟩ := askCache_spec h name
  have hask : (m.askCache name).1 = none := by
    rw [Option.eq_none_iff_forall_ne_some]
    intro t ht
    have hkept : m.get? name = some t := hfound t ht
    rw [hno] at hkept
    cases hkept
  rw [load_of_unknown hask (hregistry ▸ hno),
    read_of_unreadable (Loader.readNamed_of_not_plain hplain)]

end Manager

namespace Path

/-- A name that says nothing, or is a path of its own. -/
def LeadsAway (name : String) : Prop :=
  name = "" ∨ name = "." ∨ name = ".." ∨ '/' ∈ name.toList ∨ '\\' ∈ name.toList

instance (name : String) : Decidable (LeadsAway name) :=
  inferInstanceAs (Decidable (_ ∨ _ ∨ _ ∨ _ ∨ _))

theorem isPlainName_eq_false_iff {name : String} : isPlainName name = false ↔ LeadsAway name := by
  rw [← Bool.not_eq_true, isPlainName_iff, isComponent_iff, LeadsAway]
  tauto

end Path

namespace World

open Manager (CacheWithin)

/--
Whatever files there are, a name for which there is a file leads to the directory and one name more:
that name with a dot and an extension behind it, where the extension is the first with which there is
a file.  That is the name of an entry of the directory itself, wherever the path of the directory
leads.  A name that says nothing, or that is a path of its own, leads nowhere: there is no file for
it, no template is read, and a manager at any time answers that it has none, unless one is kept under
the name.
-/
theorem names_stay_inside (l : Loader)
    (hextensions : ∀ extension ∈ l.extensions, '/' ∉ extension.toList) (config : ManagerConfig)
    (backend : Backend) (start : Tree) (past : List Step) (now : Timestamp) (files : Tree)
    (dir name : String) :
    (∀ path, l.find? files dir name = some path →
      ∃ before extension after, l.extensions = before ++ extension :: after ∧
        path = Path.join dir (name ++ "." ++ extension) ∧
        Path.components path = Path.components dir ++ [name ++ "." ++ extension] ∧
        Path.fileName? path = some (name ++ "." ++ extension) ∧
        files.isFile path = true ∧
        (∀ other ∈ before, files.isFile (Path.join dir (name ++ "." ++ other)) = false) ∧
        ∀ place, files.find dir = .ok (.entry place .directory) →
          ∃ e, files.findItself path = .ok (.entry (place ++ [name ++ "." ++ extension]) e)) ∧
      (Path.LeadsAway name →
        l.find? files dir name = none ∧
          l.readNamed now files dir name = .error (.notFound name) ∧
          let w := run ⟨.new config backend, start⟩ past
          (w.manager.get? name = none →
            (w.manager.load now files name).1 = .error (.prompt (.notFound name)))) := by
  refine ⟨fun path hfind => ?_, fun haway => ?_⟩
  · obtain ⟨hplain, before, extension, after, hsplit, rfl, hthere, hbefore⟩ :=
      Loader.find?_eq_some_iff.mp hfind
    have hextension : '/' ∉ extension.toList := hextensions extension (by simp [hsplit])
    have hname : IsComponent (name ++ "." ++ extension) :=
      (Path.isPlainName_iff.mp hplain).1.withExtension hextension
    exact ⟨before, extension, after, hsplit, rfl, Path.components_join hname dir,
      Path.fileName?_join hname dir, hthere, hbefore,
      fun place hdir => Tree.exists_entry_of_isFile hname hdir hthere⟩
  · have hplain := Path.isPlainName_eq_false_iff.mpr haway
    have hwithin : (run ⟨.new config backend, start⟩ past).manager.CacheWithin :=
      cacheWithin_run (CacheWithin.new config backend) past
    exact ⟨Loader.find?_of_not_plain hplain, Loader.readNamed_of_not_plain hplain,
      fun hno => Manager.load_of_not_plain hwithin hno hplain⟩

section Secrets

/-- A directory with a note in it, and a file outside. -/
def secretive : Tree :=
  ⟨[(["secret.prompt"], .file (some "a secret") 0), (["p"], .directory),
    (["p", "note.prompt"], .file (some "a note") 0)], []⟩

theorem isFile_secretive :
    secretive.isFile "p/note.prompt" = true ∧ secretive.isFile "p/../secret.prompt" = true := by
  have hp : secretive.GoesDown [] "p" := ⟨rfl, by decide, by decide, by decide⟩
  have hnote : secretive.find "p/note.prompt" =
      .ok (.entry ["p", "note.prompt"] (.file (some "a note") 0)) := by
    have hleads : Tree.Leads "p/note.prompt" ["p", "note.prompt"] := by
      decide
    rw [Tree.find_of_leads hleads]
    exact Tree.Walks.walk_eq (.down hp rfl (by simp)
      (.down ⟨rfl, by decide, by decide, by decide⟩ rfl (by simp) (.here rfl)))
  have hsecret : secretive.find "p/../secret.prompt" =
      .ok (.entry ["secret.prompt"] (.file (some "a secret") 0)) := by
    have hleads : Tree.Leads "p/../secret.prompt" ["p", "..", "secret.prompt"] := by
      decide
    rw [Tree.find_of_leads hleads]
    exact Tree.Walks.walk_eq (.down hp rfl (by simp) (.dots rfl
      (.down ⟨rfl, by decide, by decide, by decide⟩ rfl (by simp) (.here rfl))))
  refine ⟨?_, ?_⟩
  · rw [Tree.isFile, Tree.entry?, hnote]
  · rw [Tree.isFile, Tree.entry?, hsecret]

theorem names_stay_inside_note :
    let l := Loader.new ["prompt"]
    (∀ extension ∈ l.extensions, '/' ∉ extension.toList) ∧
      l.find? secretive "p" "note" = some "p/note.prompt" ∧
      Path.components "p/note.prompt" = Path.components "p" ++ ["note.prompt"] ∧
      Path.LeadsAway "../secret" ∧ secretive.isFile "p/../secret.prompt" = true ∧
      l.find? secretive "p" "../secret" = none ∧
      ((Manager.new narrowConfig .stalling).load .epoch secretive "../secret").1 =
        .error (.prompt (.notFound "../secret")) := by
  intro l
  obtain ⟨hnote, hsecret⟩ := isFile_secretive
  have hextensions : ∀ extension ∈ l.extensions, '/' ∉ extension.toList := by
    decide
  have hfind : l.find? secretive "p" "note" = some "p/note.prompt" :=
    Loader.find?_eq_some_iff.mpr ⟨by decide, [], "prompt", [], by decide, by decide, hnote, by simp⟩
  have haway : Path.LeadsAway "../secret" := by
    decide
  obtain ⟨before, extension, after, hsplit, hpath, hcomponents, _⟩ :=
    (names_stay_inside l hextensions narrowConfig .stalling secretive [] .epoch secretive "p"
      "note").1 _ hfind
  obtain ⟨hnone, _, hload⟩ :=
    (names_stay_inside l hextensions narrowConfig .stalling secretive [] .epoch secretive "p"
      "../secret").2 haway
  have hextension : extension = "prompt" := by
    have hmem : extension ∈ l.extensions := hsplit ▸ List.mem_append_right _ List.mem_cons_self
    have hone : l.extensions = ["prompt"] := by
      decide
    exact List.mem_singleton.mp (hone ▸ hmem)
  subst hextension
  exact ⟨hextensions, hfind, hcomponents, haway, hsecret, hnone, hload rfl⟩

end Secrets

end World
end PromptBook
