import PromptBook.Proofs.Manager.Collisions
import PromptBook.Proofs.Manager.Forgetting

/-!
# What becomes of each file in a reload

A file of the directory holds no template, or one that may not be kept, or one that may.  A reload of
a manager that is not strict leaves out the files of the first two kinds and says so: once for each,
first for those without a template and then for the templates that were turned away, in the order of
the files.  Every other template is kept, unless the template of a later file has the same name.  That
this happened to a file is not said.

**Results.**
* `length_fates`: every file is in one of three places.
* `accepted_readDirectory`: where the files of a directory are.
* `reload_accounts`: what can be seen after a reload, in every state of a manager.
* `reload_unaccounted`: files of which the summary does not give the path.
-/

namespace PromptBook

open Files (Tree)
open Template (first? last?)

/-- What becomes of a file. -/
inductive Fate
  /-- It cannot be read, or holds no template. -/
  | unreadable (e : TemplateError)
  /-- It holds a template that may not be kept. -/
  | rejected (t : Template) (e : TemplateError)
  /-- It holds a template that may be kept. -/
  | accepted (t : Template)

namespace Fate

/-- Why a file gives no template. -/
def failure? : Fate → Option TemplateError
  | unreadable e => some e
  | rejected _ _ | accepted _ => none

/-- Why the template of a file is turned away. -/
def rejection? : Fate → Option TemplateError
  | rejected _ e => some e
  | unreadable _ | accepted _ => none

/-- The template that a file offers. -/
def template? : Fate → Option Template
  | accepted t => some t
  | unreadable _ | rejected _ _ => none

theorem template?_eq_some_iff {f : Fate} {t : Template} :
    f.template? = some t ↔ f = accepted t := by
  cases f <;> simp [template?]

/-- A file is in one place. -/
theorem one_place (f : Fate) :
    (if f.failure?.isSome then 1 else 0) + (if f.rejection?.isSome then 1 else 0) +
      (if f.template?.isSome then 1 else 0) = 1 := by
  cases f <;> rfl

end Fate

namespace Manager

variable {m : Manager} {now : Timestamp} {files : Tree} {path : String} {t : Template}
variable {e : TemplateError}

/-- What becomes of the file at a path. -/
def fate (m : Manager) (now : Timestamp) (files : Tree) (path : String) : Fate :=
  match Loader.readAt now files path with
  | .error e => .unreadable e
  | .ok t =>
    match m.check t with
    | .error e => .rejected t e
    | .ok () => .accepted t

section Fates

theorem check_of_fate (h : m.fate now files path = .rejected t e) : m.check t = .error e := by
  unfold fate at h
  split at h
  · cases h
  · split at h
    · rename_i hcheck
      cases h
      exact hcheck
    · cases h

/-- What is sorted out of the file at a path is what becomes of it. -/
theorem sorted_of_fate (m : Manager) (now : Timestamp) (files : Tree) (path : String) :
    ((Loader.readAt now files path).toOption.bind fun t => (m.sort t).getRight?) =
        (m.fate now files path).template? ∧
      ((Loader.readAt now files path).toOption.bind fun t => (m.sort t).getLeft?).map (·.error) =
        (m.fate now files path).rejection? ∧
      Loader.failureAt? now files path =
        (m.fate now files path).failure?.map (LoadFailure.mk path) := by
  unfold fate Loader.failureAt?
  cases Loader.readAt now files path with
  | error e => exact ⟨rfl, rfl, rfl⟩
  | ok t =>
      cases hcheck : m.check t with
      | error e => simp [Except.toOption, sort_of_rejected hcheck, hcheck, Fate.template?,
          Fate.rejection?, Fate.failure?]
      | ok _ => simp [Except.toOption, sort_of_accepted hcheck, hcheck, Fate.template?,
          Fate.rejection?, Fate.failure?]

/-- Every file is in one of three places. -/
theorem length_fates (m : Manager) (now : Timestamp) (files : Tree) (paths : List String) :
    (paths.filterMap fun path => (m.fate now files path).failure?).length +
        (paths.filterMap fun path => (m.fate now files path).rejection?).length +
        (paths.filterMap fun path => (m.fate now files path).template?).length =
      paths.length := by
  induction paths with
  | nil => rfl
  | cons path rest ih =>
      have hone := (m.fate now files path).one_place
      simp only [List.length_filterMap_eq_countP, List.countP_cons, List.length_cons] at ih ⊢
      omega

/-- Where the files of a directory are: the templates that may be kept, and the failures of the files
without a template before those of the templates that were turned away. -/
theorem accepted_readDirectory (m : Manager) (now : Timestamp) (files : Tree) :
    let paths := m.loader.candidates files m.config.promptsDir
    let sorted := m.accepted (m.loader.readDirectory now files m.config.promptsDir)
    sorted.1 = paths.filterMap (fun path => (m.fate now files path).template?) ∧
      ∃ rejections : List LoadFailure,
        sorted.2 = paths.filterMap (fun path =>
            (m.fate now files path).failure?.map (LoadFailure.mk path)) ++ rejections ∧
          rejections.map (·.error) =
            paths.filterMap fun path => (m.fate now files path).rejection? := by
  intro paths sorted
  have htemplates : (m.loader.readDirectory now files m.config.promptsDir).templates =
      paths.filterMap fun path => (Loader.readAt now files path).toOption :=
    Loader.templates_readDirectory
  refine ⟨?_, ((m.loader.readDirectory now files m.config.promptsDir).templates.map m.sort).filterMap
    (·.getLeft?), ?_, ?_⟩
  · show ((m.loader.readDirectory now files m.config.promptsDir).templates.map m.sort).filterMap
      (·.getRight?) = _
    rw [htemplates, List.filterMap_map, List.filterMap_filterMap]
    exact List.filterMap_congr fun path _ => (m.sorted_of_fate now files path).1
  · show (m.loader.readDirectory now files m.config.promptsDir).failures ++ _ = _
    rw [Loader.failures_readDirectory]
    congr 1
    exact List.filterMap_congr fun path _ => (m.sorted_of_fate now files path).2.2
  · rw [htemplates, List.filterMap_map, List.filterMap_filterMap, List.map_filterMap]
    exact List.filterMap_congr fun path _ => (m.sorted_of_fate now files path).2.1

end Fates

section Reload

variable {config : ManagerConfig} {backend : Backend}

/-- A manager that was set up in some way stays so. -/
theorem config_of_forgotten (h : m.forgotten = (Manager.new config backend).forgotten) :
    m.config = config ∧ m.loader = Loader.new config.extensions :=
  ⟨congrArg (fun m : Manager => m.config) h, congrArg (fun m : Manager => m.loader) h⟩

theorem check_of_config (h : m.config = (Manager.new config backend).config) (t : Template) :
    m.check t = (Manager.new config backend).check t := by
  rw [check, check, h]

/-- What becomes of a file depends on how a manager was set up and on nothing else. -/
theorem fate_of_config (h : m.config = (Manager.new config backend).config) :
    m.fate now files = (Manager.new config backend).fate now files := by
  funext path
  unfold fate
  simp only [check_of_config h]

/-- A reload of a manager that is not strict reads the directory and keeps what is accepted. -/
theorem reload_of_lenient (h : m.config.strict = false) (now : Timestamp) (files : Tree) :
    let sorted := m.accepted (m.loader.readDirectory now files m.config.promptsDir)
    (∃ loaded, (m.reload now files).1 = .ok ⟨loaded, sorted.2⟩) ∧
      ∀ name, (m.reload now files).2.get? name = last? sorted.1 name := by
  intro sorted
  have husable : m.clear.Usable now files := usable_of_lenient h
  have hread := readDirectory_of_usable husable
  rw [reload_of_read (congrArg Prod.fst hread), hread]
  exact ⟨⟨_, rfl⟩, get?_replaceAll rfl sorted.1⟩

/-- Where checking is not strict, a template is turned away for its errors. -/
theorem eq_invalid_of_rejected (h : m.config.strict = false)
    (hfate : m.fate now files path = .rejected t e) : e = .invalid t.name t.validate.errors := by
  have hcheck := check_of_fate hfate
  unfold check at hcheck
  rw [h] at hcheck
  by_cases hpasses : (!m.config.validateOnLoad || t.validate.passes false) = true
  · rw [if_pos hpasses] at hcheck
    cases hcheck
  · rw [if_neg hpasses] at hcheck
    simpa using (Except.error.inj hcheck).symm

end Reload

end Manager

namespace Template

/-- The last template with the name of one that is in a list: that one, or one after it. -/
theorem last?_of_split {ts before after : List Template} {t : Template}
    (h : ts = before ++ t :: after) :
    last? ts t.name = some t ∨ ∃ u ∈ after, u.name = t.name ∧ last? ts t.name = some u := by
  subst h
  unfold last? first?
  rw [List.reverse_append, List.reverse_cons, List.append_assoc, List.find?_append]
  cases hlater : after.reverse.find? (·.name = t.name) with
  | none =>
      left
      simp
  | some u =>
      right
      have hname := List.find?_some hlater
      exact ⟨u, List.mem_reverse.mp (List.mem_of_find?_eq_some hlater), by simpa using hname, rfl⟩

end Template

namespace World

/--
A manager that is not strict, after any run and with any files: a reload gives a summary, and each
file of the directory with one of the extensions is accounted for once.  The summary says first, file
by file, which files cannot be read or hold no template, and then, in the order of their files, what
is wrong with the templates that were turned away.  It says nothing else.  Under every name the last
template is kept that was offered with it: of every other file its own template, or that of a later
file.
-/
theorem reload_accounts (config : ManagerConfig) (backend : Backend) (files : Tree)
    (past : List Step) (now : Timestamp) (hlenient : config.strict = false) :
    let w := run ⟨.new config backend, files⟩ past
    let paths := (Loader.new config.extensions).candidates w.files config.promptsDir
    let fate := (Manager.new config backend).fate now w.files
    let kept := (w.step ⟨now, .reload⟩).2.manager.get?
    ∃ summary, (w.step ⟨now, .reload⟩).1 = .summary (.ok summary) ∧
      (∃ rejections : List LoadFailure,
        summary.skipped =
            paths.filterMap (fun path => (fate path).failure?.map (LoadFailure.mk path)) ++
              rejections ∧
          rejections.map (·.error) = paths.filterMap fun path => (fate path).rejection?) ∧
      (∀ path t e, fate path = .rejected t e → e = .invalid t.name t.validate.errors) ∧
      (∀ name, kept name = last? (paths.filterMap fun path => (fate path).template?) name) ∧
      (∀ before path after t, paths = before ++ path :: after → fate path = .accepted t →
        kept t.name = some t ∨
          ∃ later ∈ after, ∃ u, fate later = .accepted u ∧ u.name = t.name ∧
            kept t.name = some u) ∧
      summary.skipped.length + (paths.filterMap fun path => (fate path).template?).length =
        paths.length := by
  intro w paths fate kept
  obtain ⟨hconfig, hloader⟩ := Manager.config_of_forgotten
    (forgotten_run ⟨.new config backend, files⟩ past)
  have hpaths : w.manager.loader.candidates w.files w.manager.config.promptsDir = paths := by
    rw [hloader, hconfig]
  have hfate : w.manager.fate now w.files = fate := Manager.fate_of_config hconfig
  have hstays : w.manager.config.strict = false := by
    rw [hconfig, hlenient]
  obtain ⟨⟨loaded, hsummary⟩, hkept⟩ := Manager.reload_of_lenient hstays now w.files
  obtain ⟨hoffered, rejections, hskipped, hrejections⟩ :=
    w.manager.accepted_readDirectory now w.files
  rw [hpaths, hfate] at hoffered hskipped hrejections
  rw [hoffered] at hkept
  rw [hskipped] at hsummary
  refine ⟨_, congrArg Outcome.summary hsummary, ⟨rejections, rfl, hrejections⟩, ?_, hkept, ?_, ?_⟩
  · intro path t e
    exact Manager.eq_invalid_of_rejected hlenient
  · intro before path after t hsplit hpath
    have hat : (paths.filterMap fun path => (fate path).template?) =
        (before.filterMap fun path => (fate path).template?) ++
          t :: after.filterMap fun path => (fate path).template? := by
      rw [hsplit, List.filterMap_append, List.filterMap_cons, hpath]
      rfl
    rw [show kept t.name = _ from hkept t.name]
    obtain hlast | ⟨u, hu, hname, hlast⟩ := Template.last?_of_split hat
    · exact .inl hlast
    · obtain ⟨later, hlater, htemplate⟩ := List.mem_filterMap.mp hu
      exact .inr ⟨later, hlater, u, Fate.template?_eq_some_iff.mp htemplate, hname, hlast⟩
  · have hlength := Manager.length_fates (Manager.new config backend) now w.files paths
    have hcount := congrArg List.length hrejections
    rw [List.length_map] at hcount
    have hfailures : (paths.filterMap fun path =>
        (fate path).failure?.map (LoadFailure.mk path)).length =
          (paths.filterMap fun path => (fate path).failure?).length := by
      simp only [List.length_filterMap_eq_countP, Option.isSome_map]
    rw [List.length_append, hfailures, hcount]
    exact hlength

section Notes

open Source (userDocument)

/-- A folder with a document that is called by a blank, and two that are called the same. -/
def crowdedNotes : Tree :=
  .folder [(" .prompt", some (userDocument "first")), ("note.prompt", some (userDocument "first")),
    ("note.yaml", some (userDocument "second"))]

/-- The template of the document that is called by a blank. -/
def blankTemplate : Template :=
  .ofParts " " [.user "first"] none

/-- Why it is turned away. -/
def blankRejection : TemplateError :=
  .invalid " " ["template name cannot be empty"]

theorem check_blankTemplate :
    (Manager.new notesConfig .stalling).check blankTemplate = .error blankRejection := by
  have hblank : Text.isBlankText " " = true := by
    decide
  have hreport : blankTemplate.validate.errors = ["template name cannot be empty"] := by
    simp [blankTemplate, Template.ofParts, Template.validate, Template.ownErrors, hblank,
      Template.partErrors, Part.user, Template.declarationErrors]
  have hlenient : (Manager.new notesConfig .stalling).config.strict = false := rfl
  have hvalidates : (Manager.new notesConfig .stalling).config.validateOnLoad = true := rfl
  simp [Manager.check, hlenient, hvalidates, Report.passes, Report.isValid, hreport, blankRejection]
  rfl

theorem candidates_crowdedNotes :
    (Loader.new notesConfig.extensions).candidates crowdedNotes "p" =
      ["p/ .prompt", "p/note.prompt", "p/note.yaml"] := by
  have hsorted : [(" .prompt", some (userDocument "first")),
      ("note.prompt", some (userDocument "first")),
      ("note.yaml", some (userDocument "second"))].Pairwise fun a b => a.1 ≤ b.1 := by
    simp only [List.pairwise_cons]
    decide
  rw [crowdedNotes, Loader.candidates_folder hsorted]
  decide

theorem readAt_crowdedNotes :
    Loader.readAt .epoch crowdedNotes "p/ .prompt" = .ok blankTemplate ∧
      Loader.readAt .epoch crowdedNotes "p/note.prompt" = .ok (noteTemplate "first") ∧
      Loader.readAt .epoch crowdedNotes "p/note.yaml" = .ok (noteTemplate "second") := by
  have hblank : Tree.MayStand " .prompt" := by
    decide
  have hprompt : Tree.MayStand "note.prompt" := by
    decide
  have hyaml : Tree.MayStand "note.yaml" := by
    decide
  refine ⟨?_, ?_, ?_⟩
  · exact (Loader.readAt_folder hblank rfl).trans rfl
  · exact (Loader.readAt_folder hprompt rfl).trans rfl
  · exact (Loader.readAt_folder hyaml rfl).trans rfl

theorem fate_crowdedNotes :
    let fate := (Manager.new notesConfig .stalling).fate .epoch crowdedNotes
    fate "p/ .prompt" = .rejected blankTemplate blankRejection ∧
      fate "p/note.prompt" = .accepted (noteTemplate "first") ∧
      fate "p/note.yaml" = .accepted (noteTemplate "second") := by
  obtain ⟨hblank, hfirst, hsecond⟩ := readAt_crowdedNotes
  simp only [Manager.fate, hblank, hfirst, hsecond, check_blankTemplate, check_noteTemplate]
  trivial

theorem reload_accounts_notes :
    let w := run ⟨.new notesConfig .stalling, crowdedNotes⟩ [⟨.epoch, .list⟩]
    notesConfig.strict = false ∧
      (∃ summary, (w.step ⟨.epoch, .reload⟩).1 = .summary (.ok summary) ∧
        summary.skipped.map (·.error) = [blankRejection]) ∧
      (w.step ⟨.epoch, .reload⟩).2.manager.get? "note" = some (noteTemplate "second") := by
  intro w
  have hlenient : notesConfig.strict = false := rfl
  obtain ⟨summary, hsummary, ⟨rejections, hskipped, hrejections⟩, _, hkept, _⟩ :=
    reload_accounts notesConfig .stalling crowdedNotes [⟨.epoch, .list⟩] .epoch hlenient
  have hfiles : (run ⟨.new notesConfig .stalling, crowdedNotes⟩ [⟨.epoch, .list⟩]).files =
      crowdedNotes := rfl
  have hpaths : (Loader.new notesConfig.extensions).candidates crowdedNotes notesConfig.promptsDir =
      ["p/ .prompt", "p/note.prompt", "p/note.yaml"] := candidates_crowdedNotes
  obtain ⟨hblank, hfirst, hsecond⟩ := fate_crowdedNotes
  rw [hfiles, hpaths] at hskipped hrejections hkept
  simp only [List.filterMap_cons, List.filterMap_nil, hblank, hfirst, hsecond,
    Fate.failure?, Fate.rejection?, Fate.template?, Option.map_none, List.nil_append]
    at hskipped hrejections hkept
  refine ⟨hlenient, ⟨summary, hsummary, ?_⟩, ?_⟩
  · rw [hskipped, hrejections]
  · exact (hkept "note").trans rfl

/-- A reload keeps the template of one file only, and gives the path of none: one file is displaced
without a word, and the other is called by the name of its template. -/
theorem reload_unaccounted :
    let m := Manager.new notesConfig .stalling
    let paths := m.loader.candidates crowdedNotes "p"
    (∃ summary, (m.reload .epoch crowdedNotes).1 = .ok summary ∧
        summary.skipped.map (·.path) = ["p/ "]) ∧
      "p/ " ∉ paths ∧
      ("p/ .prompt" ∈ paths ∧ Loader.readAt .epoch crowdedNotes "p/ .prompt" = .ok blankTemplate ∧
        (m.reload .epoch crowdedNotes).2.get? blankTemplate.name = none) ∧
      ("p/note.prompt" ∈ paths ∧
        Loader.readAt .epoch crowdedNotes "p/note.prompt" = .ok (noteTemplate "first") ∧
        (m.reload .epoch crowdedNotes).2.get? "note" = some (noteTemplate "second") ∧
        noteTemplate "first" ≠ noteTemplate "second") := by
  intro m paths
  have hlenient : m.config.strict = false := rfl
  have hpaths : paths = ["p/ .prompt", "p/note.prompt", "p/note.yaml"] := candidates_crowdedNotes
  obtain ⟨hblank, hfirst, hsecond⟩ := readAt_crowdedNotes
  have hread : m.loader.readDirectory .epoch crowdedNotes m.config.promptsDir =
      ⟨[blankTemplate, noteTemplate "first", noteTemplate "second"], []⟩ := by
    show List.foldl _ _ paths = _
    rw [hpaths]
    simp [Loader.addFile, hblank, hfirst, hsecond, LoadOutcome.empty]
  have hsorted : m.accepted (m.loader.readDirectory .epoch crowdedNotes m.config.promptsDir) =
      ([noteTemplate "first", noteTemplate "second"], [⟨"p/ ", blankRejection⟩]) := by
    rw [hread]
    simp only [Manager.accepted, List.map_cons, List.map_nil, m,
      Manager.sort_of_rejected check_blankTemplate, Manager.sort_of_accepted (check_noteTemplate _)]
    rfl
  obtain ⟨⟨loaded, hsummary⟩, hkept⟩ :=
    Manager.reload_of_lenient hlenient .epoch crowdedNotes
  rw [hsorted] at hsummary hkept
  refine ⟨⟨_, hsummary, rfl⟩, ?_, ⟨?_, hblank, hkept _⟩, ?_, hfirst, (hkept _).trans rfl, ?_⟩
  · simp [hpaths]
  · simp [hpaths]
  · simp [hpaths]
  · intro hsame
    have hparts := congrArg Template.parts hsame
    revert hparts
    decide

end Notes

end World
end PromptBook
