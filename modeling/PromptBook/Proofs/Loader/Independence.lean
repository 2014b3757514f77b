import PromptBook.Proofs.Command.Validation
import PromptBook.Proofs.Files.Soundness
import PromptBook.Proofs.Text.Casing

/-!
# Files that are loaded one by one

Of the entries of a directory, those are loaded that are files with one of the extensions.  Each comes
to a template or to a failure, and to which is a matter of its name and of what it holds; the others
have no part in it.  So when a file comes or goes, is spoilt or mended, its own place in the outcome is
all that changes.

**Results.**
* `accepts_new_iff`: the names that have one of the extensions, in upper or lower case.
* `documents_ordered`, `mem_documents_iff`: the files that are loaded.
* `readDirectory_eq_concat`: the outcome, file by file.
* `files_load_independently`: what holds of any directory, and when a file changes.
-/

namespace PromptBook

open Files (Tree Entry Location)

namespace LoadOutcome

/-- What a single file comes to: a template or a failure. -/
def single (path : String) : Except TemplateError Template → LoadOutcome
  | .ok t => ⟨[t], []⟩
  | .error e => ⟨[], [⟨path, e⟩]⟩

/-- Outcomes one after the other. -/
def concat (os : List LoadOutcome) : LoadOutcome :=
  ⟨os.flatMap (·.templates), os.flatMap (·.failures)⟩

end LoadOutcome

namespace Loader

open LoadOutcome (single concat)
open Source (userDocument)

variable {l : Loader} {now : Timestamp} {files other : Tree} {dir name : String}
variable {place : Location} {content : Option String}

section Extensions

/-- A name has one of some extensions, in upper or lower case; dots before an extension say nothing. -/
def HasExtension (extensions : List String) (name : String) : Prop :=
  ∃ extension ∈ extensions, ∃ own, Path.extension? name = some own ∧
    Text.SameButCase own.toList (extension.toList.dropWhile (· == '.'))

theorem accepts_new_iff {extensions : List String} :
    (Loader.new extensions).accepts name = true ↔ HasExtension extensions name := by
  unfold accepts HasExtension
  cases Path.extension? name with
  | none => simp
  | some own =>
      simp only [new, List.contains_iff_mem, List.mem_map, normalized, String.ofList_inj,
        Option.some.injEq, exists_eq_left', Text.sameButCase_iff]
      exact exists_congr fun extension => and_congr_right fun _ => eq_comm

end Extensions

section Documents

/-- A file with one of the extensions, by its name and with what it holds. -/
def document? (l : Loader) : String × Entry → Option (String × Option String)
  | (name, .file content _) => if l.accepts name then some (name, content) else none
  | (_, .link _) | (_, .directory) => none

/-- The files of a directory that have one of the extensions, by name and with what they hold. -/
def documents (l : Loader) (files : Tree) (dir : String) : Dictionary (Option String) :=
  (files.list dir).filterMap l.document?

theorem document?_eq_some_iff {entry : String × Entry} :
    l.document? entry = some (name, content) ↔
      l.accepts name = true ∧ ∃ age, entry = (name, .file content age) := by
  obtain ⟨called, e⟩ := entry
  cases e with
  | file held age =>
      simp only [document?, Option.ite_none_right_eq_some, Option.some.injEq, Prod.mk.injEq,
        Entry.file.injEq]
      constructor
      · rintro ⟨haccepts, rfl, rfl⟩
        exact ⟨haccepts, age, rfl, rfl, rfl⟩
      · rintro ⟨haccepts, _, rfl, rfl, _⟩
        exact ⟨haccepts, rfl, rfl⟩
  | link path => simp [document?]
  | directory => simp [document?]

theorem candidates_eq_map :
    l.candidates files dir = (l.documents files dir).map fun d => Path.join dir d.1 := by
  rw [candidates, documents, List.map_filterMap]
  congr 1
  funext entry
  obtain ⟨called, e⟩ := entry
  cases e with
  | file held age => cases h : l.accepts called <;> simp [document?, h]
  | link path => rfl
  | directory => rfl

variable (hsound : files.Sound) (hdir : files.find dir = .ok (.entry place .directory))
include hsound hdir

/-- The files that are loaded come in the order of their names. -/
theorem documents_ordered (l : Loader) : Dictionary.Ordered (l.documents files dir) := by
  refine (hsound.list_ordered hdir).filterMap ?_
  rintro entry ⟨name, content⟩ hdocument
  obtain ⟨_, age, rfl⟩ := document?_eq_some_iff.mp hdocument
  rfl

/-- What is loaded are the files of the directory that have one of the extensions. -/
theorem mem_documents_iff :
    (name, content) ∈ l.documents files dir ↔
      l.accepts name = true ∧ ∃ age, files.at? (place ++ [name]) = some (.file content age) := by
  simp only [documents, List.mem_filterMap, document?_eq_some_iff]
  constructor
  · rintro ⟨entry, hentry, haccepts, age, rfl⟩
    exact ⟨haccepts, age, (hsound.mem_list_iff hdir).mp hentry⟩
  · rintro ⟨haccepts, age, hat⟩
    exact ⟨_, (hsound.mem_list_iff hdir).mpr hat, haccepts, age, rfl⟩

end Documents

section Outcomes

/-- The template that a file holds: a matter of its path, its name and its content. -/
def readContent (now : Timestamp) (dir name : String) (content : Option String) :
    Except TemplateError Template := do
  let text ← (Tree.textOf (Path.join dir name) name content).mapError .file
  Source.read now (Path.join dir name) (Path.stem? (Path.join dir name)) text

/-- What a file comes to by itself. -/
def outcomeOf (now : Timestamp) (dir : String) (document : String × Option String) : LoadOutcome :=
  single (Path.join dir document.1) (readContent now dir document.1 document.2)

/-- What is loaded for a name, by what is at the place of the name. -/
def comesTo (l : Loader) (now : Timestamp) (dir name : String) (there : Option Entry) :
    List LoadOutcome :=
  ((there.bind fun e => l.document? (name, e)).map (outcomeOf now dir)).toList

theorem readDirectory_eq_concat_single :
    l.readDirectory now files dir =
      concat ((l.candidates files dir).map fun path => single path (readAt now files path)) := by
  have htemplates : (l.readDirectory now files dir).templates =
      (l.candidates files dir).flatMap fun path => (single path (readAt now files path)).templates := by
    rw [templates_readDirectory, List.filterMap_eq_flatMap_toList]
    congr 1
    funext path
    cases readAt now files path <;> rfl
  have hfailures : (l.readDirectory now files dir).failures =
      (l.candidates files dir).flatMap fun path => (single path (readAt now files path)).failures := by
    rw [failures_readDirectory, List.filterMap_eq_flatMap_toList]
    congr 1
    funext path
    unfold failureAt?
    cases readAt now files path <;> rfl
  rw [concat, List.flatMap_map, List.flatMap_map, ← htemplates, ← hfailures]

variable (hsound : files.Sound) (hdir : files.find dir = .ok (.entry place .directory))
include hsound hdir

/-- What is read at the path of a file is what the file holds. -/
theorem readAt_of_mem (hmem : (name, content) ∈ l.documents files dir) :
    readAt now files (Path.join dir name) = readContent now dir name content := by
  obtain ⟨_, age, hat⟩ := (mem_documents_iff hsound hdir).mp hmem
  rw [readAt, Tree.readText_of_file (hsound.isComponent hat) hdir hat, readContent]

/-- The outcome of a directory is that of its files, one after the other. -/
theorem readDirectory_eq_concat (l : Loader) (now : Timestamp) :
    l.readDirectory now files dir = concat ((l.documents files dir).map (outcomeOf now dir)) := by
  rw [readDirectory_eq_concat_single, candidates_eq_map, List.map_map]
  congr 1
  refine List.map_congr_left fun document hmem => ?_
  rw [outcomeOf, Function.comp_apply, readAt_of_mem hsound hdir hmem]

/-- What is loaded for a name is a matter of what is at its place. -/
theorem map_own_documents (l : Loader) (now : Timestamp) (name : String) :
    ((l.documents files dir).own name).map (outcomeOf now dir) =
      l.comesTo now dir name (files.at? (place ++ [name])) := by
  have hthere : (Dictionary.get? (l.documents files dir) name).map (name, ·) =
      (files.at? (place ++ [name])).bind fun e => l.document? (name, e) := by
    refine Option.ext fun ⟨called, content⟩ => ?_
    simp only [Option.map_eq_some_iff, Option.bind_eq_some_iff, document?_eq_some_iff,
      (documents_ordered hsound hdir l).get?_eq_some_iff, mem_documents_iff hsound hdir,
      Prod.mk.injEq]
    constructor
    · rintro ⟨_, ⟨haccepts, age, hat⟩, rfl, rfl⟩
      exact ⟨_, hat, haccepts, age, rfl, rfl⟩
    · rintro ⟨_, hat, haccepts, age, rfl, rfl⟩
      exact ⟨content, ⟨haccepts, age, hat⟩, rfl, rfl⟩
  rw [Dictionary.own, hthere, comesTo]
  cases (files.at? (place ++ [name])).bind fun e => l.document? (name, e) <;> rfl

/-- Of two directories that differ in one file, the files before it and after it are the same. -/
theorem exists_split_documents (l : Loader) (hsound' : other.Sound)
    (hdiffer : files.DifferAt other (place ++ [name])) :
    ∃ before after,
      l.documents files dir = before ++ (l.documents files dir).own name ++ after ∧
        l.documents other dir = before ++ (l.documents other dir).own name ++ after := by
  have hdir' := hdiffer.find_directory hdir
  refine (documents_ordered hsound hdir l).exists_split (documents_ordered hsound' hdir' l) ?_
  rintro ⟨called, content⟩ hcalled
  have helsewhere : place ++ [called] ≠ place ++ [name] := by
    simpa using hcalled
  rw [mem_documents_iff hsound hdir, mem_documents_iff hsound' hdir',
    hdiffer.elsewhere _ helsewhere]

end Outcomes

section Independence

/--
Whatever a directory holds, those of its entries are loaded that are files with one of the extensions,
in the order of their names, and the outcome is what each of these files comes to by itself, one after
the other: as many templates and failures as there are such files.  What a file comes to is what is
read at its path, and a matter of its name and its content.  So if another tree has some other file at
the place of a name, or has one where there is none, or none where there is one, the two outcomes are
the same before and after what is loaded for that name.
-/
theorem files_load_independently (extensions : List String) (now : Timestamp)
    (hsound : files.Sound) (hdir : files.find dir = .ok (.entry place .directory)) :
    let l := Loader.new extensions
    let documents := l.documents files dir
    let o := l.readDirectory now files dir
    Dictionary.Ordered documents ∧
      (∀ name content, (name, content) ∈ documents ↔
        HasExtension extensions name ∧
          ∃ age, files.at? (place ++ [name]) = some (.file content age)) ∧
      o = concat (documents.map (outcomeOf now dir)) ∧
      o.attempted = documents.length ∧
      (∀ name content, (name, content) ∈ documents →
        readAt now files (Path.join dir name) = readContent now dir name content) ∧
      ∀ name (other : Tree), other.Sound → files.DifferAt other (place ++ [name]) →
        ∃ before after : List LoadOutcome,
          o = concat (before ++ l.comesTo now dir name (files.at? (place ++ [name])) ++ after) ∧
            l.readDirectory now other dir =
              concat (before ++ l.comesTo now dir name (other.at? (place ++ [name])) ++ after) := by
  intro l documents o
  have hconcat : o = concat (documents.map (outcomeOf now dir)) :=
    readDirectory_eq_concat hsound hdir l now
  refine ⟨documents_ordered hsound hdir l, fun name content => ?_, hconcat, ?_,
    fun name content => readAt_of_mem hsound hdir, fun name other hsound' hdiffer => ?_⟩
  · rw [← accepts_new_iff]
    exact mem_documents_iff hsound hdir
  · rw [attempted_readDirectory, ← length_candidates, candidates_eq_map, List.length_map]
  · have hdir' := hdiffer.find_directory hdir
    obtain ⟨before, after, hfiles, hother⟩ :=
      exists_split_documents hsound hdir l hsound' hdiffer
    refine ⟨before.map (outcomeOf now dir), after.map (outcomeOf now dir), ?_, ?_⟩
    · rw [hconcat, ← map_own_documents hsound hdir, ← List.map_append, ← List.map_append, ← hfiles]
    · rw [readDirectory_eq_concat hsound' hdir', ← map_own_documents hsound' hdir',
        ← List.map_append, ← List.map_append, ← hother]

/-- A directory with a letter, a file that is no text, a file of another kind, a link and a
directory. -/
def mixed : Tree :=
  ⟨[(["p"], .directory), (["p", "a.prompt"], .file (some (userDocument "Hi")) 0),
    (["p", "b.PROMPT"], .file none 0), (["p", "c.txt"], .file (some "") 0),
    (["p", "d.yaml"], .link "a.prompt"), (["p", "e.yaml"], .directory)], []⟩

theorem find_mixed : mixed.find "p" = .ok (.entry ["p"] .directory) := by
  have hleads : Tree.Leads "p" ["p"] := by
    decide
  rw [Tree.find_of_leads hleads]
  exact Tree.Walks.walk_eq (.down ⟨rfl, by decide, by decide, by decide⟩ rfl (by simp) (.here rfl))

theorem documents_mixed : (Loader.new ["prompt", ".YAML"]).documents mixed "p" =
    [("a.prompt", some (userDocument "Hi")), ("b.PROMPT", none)] := by
  have hlist : mixed.list "p" =
      [("a.prompt", .file (some (userDocument "Hi")) 0), ("b.PROMPT", .file none 0),
        ("c.txt", .file (some "") 0), ("d.yaml", .link "a.prompt"), ("e.yaml", .directory)] := by
    rw [Tree.list_of_find find_mixed]
    exact List.mergeSort_of_pairwise (by decide)
  rw [documents, hlist]
  decide

/-- A file is mended, and then removed. -/
theorem files_load_independently_mixed :
    let l := Loader.new ["prompt", ".YAML"]
    let mended := mixed.put ["p", "b.PROMPT"] (.file (some (userDocument "Hi")) 0)
    let removed := mixed.without ["p", "b.PROMPT"]
    let o := l.readDirectory .epoch mixed "p"
    mixed.Sound ∧ mixed.find "p" = .ok (.entry ["p"] .directory) ∧ o.attempted = 2 ∧
      mended.Sound ∧ mixed.DifferAt mended ["p", "b.PROMPT"] ∧
      (∃ before after,
        o = concat (before ++ [single "p/b.PROMPT" (.error (.file .notText))] ++ after) ∧
          l.readDirectory .epoch mended "p" =
            concat (before ++ [single "p/b.PROMPT" (.ok (.ofParts "b" [.user "Hi"] none))] ++
              after)) ∧
      removed.Sound ∧ mixed.DifferAt removed ["p", "b.PROMPT"] ∧
      ∃ before after,
        o = concat (before ++ [single "p/b.PROMPT" (.error (.file .notText))] ++ after) ∧
          l.readDirectory .epoch removed "p" = concat (before ++ [] ++ after) := by
  intro l mended removed o
  have hsound : mixed.Sound := by
    decide
  have hfile : mixed.AtMostFile ["p", "b.PROMPT"] := by
    rintro e hat
    exact ⟨none, 0, (Option.some.inj hat).symm⟩
  have hmended : mended.Sound := hsound.put (by decide) (by decide) _
  have hremoved : removed.Sound := hsound.without _
  obtain ⟨_, _, _, hattempted, _, hother⟩ :=
    files_load_independently ["prompt", ".YAML"] .epoch hsound find_mixed
  refine ⟨hsound, find_mixed, ?_, hmended, hfile.differAt_put _ _, ?_, hremoved,
    hfile.differAt_without, ?_⟩
  · rw [hattempted, documents_mixed]
    rfl
  · exact hother "b.PROMPT" mended hmended (hfile.differAt_put _ _)
  · exact hother "b.PROMPT" removed hremoved hfile.differAt_without

end Independence

end Loader
end PromptBook
