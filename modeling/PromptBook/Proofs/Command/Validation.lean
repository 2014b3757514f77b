import PromptBook.Command.Run
import PromptBook.Proofs.Manager.Listing

/-!
# Two verdicts on a directory

The command that validates a project walks the directory on its own and counts what it finds wrong;
a strict manager checks each template as it would to keep it, and counts what it leaves out.  Both
counts are of the same files: those that hold no template, and those whose template does not pass.

**Results.**
* `Loader.attempted_readDirectory`: every file that matches is a template or a failure.
* `Manager.length_accepted_snd`: how many files a manager leaves out.
* `Manager.list_of_strict`: a strict manager lists all files or none.
* `validate_agrees_with_list`: the command and the manager.
-/

namespace PromptBook

open Files (Tree Entry)

namespace Loader

variable {l : Loader} {now : Timestamp} {files : Tree} {dir : String}

/-- The entry of a directory is a file with one of the extensions. -/
def matchesEntry (l : Loader) : String × Entry → Bool
  | (name, .file _ _) => l.accepts name
  | (_, .link _) | (_, .directory) => false

/-- How many files of a directory have one of the extensions. -/
def matching (l : Loader) (files : Tree) (dir : String) : Nat :=
  (files.list dir).countP l.matchesEntry

theorem length_candidates : (l.candidates files dir).length = l.matching files dir := by
  unfold candidates matching
  induction files.list dir with
  | nil =>
      rfl
  | cons entry rest ih =>
      obtain ⟨name, e⟩ := entry
      rw [List.filterMap_cons, List.countP_cons, ← ih]
      cases e with
      | file content age => cases h : l.accepts name <;> simp [matchesEntry, h]
      | link path => simp [matchesEntry]
      | directory => simp [matchesEntry]

theorem attempted_addFile (o : LoadOutcome) (path : String) :
    (addFile now files o path).attempted = o.attempted + 1 := by
  unfold addFile LoadOutcome.attempted
  cases readAt now files path with
  | ok t => simp only [List.length_append, List.length_singleton]; omega
  | error e => simp only [List.length_append, List.length_singleton]; omega

theorem attempted_foldl_addFile (paths : List String) (o : LoadOutcome) :
    (paths.foldl (addFile now files) o).attempted = o.attempted + paths.length := by
  induction paths generalizing o with
  | nil =>
      rfl
  | cons path rest ih =>
      rw [List.foldl_cons, ih, attempted_addFile, List.length_cons]
      omega

/-- Every file that matches comes to a template or to a failure. -/
theorem attempted_readDirectory (l : Loader) (now : Timestamp) (files : Tree) (dir : String) :
    (l.readDirectory now files dir).attempted = l.matching files dir := by
  rw [readDirectory, attempted_foldl_addFile, length_candidates]
  exact Nat.zero_add _

end Loader

namespace Manager

variable {m : Manager} {now : Timestamp} {files : Tree} {o : LoadOutcome}

/-- What a manager leaves out of its directory. -/
def leftOut (m : Manager) (now : Timestamp) (files : Tree) : List LoadFailure :=
  (m.accepted (m.loader.readDirectory now files m.config.promptsDir)).2

theorem leftOut_sameButClock (m : Manager) (now now' : Timestamp) (files : Tree) :
    m.leftOut now files = m.leftOut now' files :=
  (m.accepted_sameButClock (m.loader.readDirectory_sameButClock now now' files _)).2

/-- A manager leaves out the files without a template and those whose template is rejected. -/
theorem length_accepted_snd (m : Manager) (o : LoadOutcome) :
    (m.accepted o).2.length =
      o.failures.length + o.templates.countP fun t => !(m.check t).isOk := by
  have hrejected : ∀ ts : List Template, ((ts.map m.sort).filterMap (·.getLeft?)).length =
      ts.countP fun t => !(m.check t).isOk := by
    intro ts
    induction ts with
    | nil =>
        rfl
    | cons t rest ih =>
        rw [List.map_cons, List.filterMap_cons, List.countP_cons, ← ih]
        cases hcheck : m.check t with
        | ok _ => simp [sort_of_accepted hcheck, Except.isOk, Except.toBool]
        | error e => simp [sort_of_rejected hcheck, Except.isOk, Except.toBool]
  simp only [accepted, List.length_append, hrejected]

/-- What the check of a manager that validates comes to. -/
theorem isOk_check (h : m.config.validateOnLoad = true) (t : Template) :
    (m.check t).isOk = t.validate.passes m.config.strict := by
  simp only [check, h, Bool.not_true, Bool.false_or]
  cases t.validate.passes m.config.strict <;> rfl

/-- A strict manager that was not asked yet lists the directory, unless something is left out. -/
theorem list_of_strict (hstrict : m.config.strict = true) (hlisted : m.listed = false)
    (now : Timestamp) (files : Tree) :
    (m.leftOut now files = [] ∧ ∃ ts, (m.list now files).1 = .ok ts) ∨
      (m.leftOut now files ≠ [] ∧
        ∃ first, (m.list now files).1 =
          .error (.loadAborted (m.leftOut now files).length first)) := by
  cases hleft : m.leftOut now files with
  | nil =>
      have husable : m.Usable now files := fun _ => hleft
      exact .inl ⟨rfl, _, congrArg Prod.fst (list_of_usable hlisted husable)⟩
  | cons first rest =>
      have hread : (m.readDirectory now files).1 =
          .error (.loadAborted (first :: rest).length first.error) := by
        rw [leftOut] at hleft
        rw [readDirectory_eq, verdict, hstrict, hleft]
      refine .inr ⟨List.cons_ne_nil _ _, first.error, ?_⟩
      rw [list_of_aborted hlisted hread]

end Manager

namespace Command

theorem Failure.text_alone (message : String) :
    (Failure.alone message).text = "Error: " ++ message ++ "\n" := by
  simp [text, alone, causesText]

/-- What a validation says that found fault with some of the files. -/
def countMessage (failed total : Nat) : String :=
  toString failed ++ " of " ++ toString total ++ " template file(s) failed validation"

/-- Strict validation counts what a strict manager leaves out, at whatever time. -/
theorem Workspace.failure_validate {w : Workspace} {m : Manager}
    (hconfig : m.config = .ofProject w.root w.config ⟨none, some true, none⟩)
    (hloader : m.loader = .new w.config.prompts.extensions)
    (hvalidates : w.config.validation.onLoad = true) (now : Timestamp) :
    (w.validate true).failure =
      if (m.leftOut now w.files).length = 0 then none
      else some (.alone (countMessage (m.leftOut now w.files).length
        (m.loader.matching w.files m.config.promptsDir))) := by
  have hchecks : m.config.validateOnLoad = true := by
    rw [hconfig]
    exact hvalidates
  have hstrict : m.config.strict = true := by
    rw [hconfig]
    rfl
  have hdir : m.config.promptsDir = Path.join w.root w.config.prompts.dir := by
    rw [hconfig]
    rfl
  rw [m.leftOut_sameButClock now w.now, Manager.leftOut, Manager.length_accepted_snd,
    ← m.loader.attempted_readDirectory w.now]
  simp only [Manager.isOk_check hchecks, hstrict, hdir, hloader, validate, countMessage,
    Bool.true_or]

end Command

namespace CommandLine

open Command

variable {arguments : List String} {line : CommandLine} {now now' : Timestamp} {files found : Tree}
variable {config : ProjectConfig}

/-- How a run ends that finds a configuration. -/
theorem ending_runArguments (hline : ofArguments arguments = .ok line)
    (hlogs : line.prepareLogs now files = .ok found)
    (hconfig : ProjectConfig.load found line.configPath = .ok config) :
    (runArguments now files arguments).ending =
      (Workspace.perform ⟨now, found, line.root, config⟩ line.command).failure.elim
        .success .failure := by
  simp only [runArguments, hline, run, hlogs, result, hconfig]
  cases (Workspace.perform ⟨now, found, line.root, config⟩ line.command).failure <;> rfl

/--
Strict validation of a project ends well if and only if a new manager of the project that is told to
be strict can list its templates, at whatever time.  If it cannot, both found the same number of
files that cannot be used, and the command states it beside the number of all files that match.
-/
theorem validate_agrees_with_list (backend : Backend)
    (hline : ofArguments arguments = .ok line) (hcommand : line.command = .validate true)
    (hlogs : line.prepareLogs now files = .ok found)
    (hconfig : ProjectConfig.load found line.configPath = .ok config)
    (hvalidates : config.validation.onLoad = true) :
    let m := Manager.new (.ofProject line.root config ⟨none, some true, none⟩) backend
    let ending := (runArguments now files arguments).ending
    (ending.code = 0 ↔ ∃ ts, (m.list now' found).1 = .ok ts) ∧
      ∀ e, (m.list now' found).1 = .error e →
        ∃ failed first, e = .loadAborted failed first ∧ ending.code = 1 ∧
          ending.message = "Error: " ++ (toString failed ++ " of " ++
            toString (m.loader.matching found m.config.promptsDir) ++
            " template file(s) failed validation") ++ "\n" := by
  intro m ending
  have hending : ending =
      (Workspace.validate ⟨now, found, line.root, config⟩ true).failure.elim .success .failure := by
    show (runArguments now files arguments).ending = _
    rw [ending_runArguments hline hlogs hconfig, hcommand]
    rfl
  have hfailure := Workspace.failure_validate (w := ⟨now, found, line.root, config⟩) (m := m)
    rfl rfl hvalidates now'
  rw [hfailure] at hending
  rcases m.list_of_strict rfl rfl now' found with ⟨hnone, ts, hlist⟩ | ⟨hsome, first, hlist⟩
  · rw [if_pos (List.length_eq_zero_iff.mpr hnone)] at hending
    rw [hending, hlist]
    refine ⟨⟨fun _ => ⟨ts, rfl⟩, fun _ => rfl⟩, ?_⟩
    rintro e ⟨⟩
  · rw [if_neg (mt List.length_eq_zero_iff.mp hsome)] at hending
    rw [hending, hlist]
    refine ⟨⟨?_, ?_⟩, ?_⟩
    · rintro ⟨⟩
    · rintro ⟨ts, ⟨⟩⟩
    · rintro e ⟨⟩
      exact ⟨_, first, rfl, rfl, Failure.text_alone _⟩

section Drafts

open Files.Tree (Leads find_of_leads)
open Source (userDocument)

/-- The text of a letter to whoever is named. -/
def regards : String := "Dear  \x7b\x7bname\x7d\x7d,\n\tall is  well."

/-- A project that is not configured: a letter, a letter without text, a file that is no text, and
one with another extension. -/
def drafts : Tree :=
  ⟨[(["prompts"], .directory),
    (["prompts", "a.prompt"], .file (some (userDocument regards)) 0),
    (["prompts", "b.prompt"], .file (some (userDocument "")) 0),
    (["prompts", "c.prompt"], .file none 0),
    (["prompts", "c.txt"], .file none 0)], []⟩

theorem walk_prompts (names : List String) :
    drafts.walk true Tree.mostLinks [] ("prompts" :: names) =
      drafts.walk true Tree.mostLinks ["prompts"] names := by
  have hroot : drafts.at? [] = some .directory := rfl
  have hprompts : drafts.at? ["prompts"] = some .directory := by decide
  have hsize : ¬255 < "prompts".utf8ByteSize := by decide
  simp [Tree.walk, hroot, hprompts, hsize]

/-- There is nothing of the project beside its prompts. -/
theorem find_prism (path name : String) (h : Leads path [".prism", name]) :
    drafts.find path = .error .notFound := by
  have hroot : drafts.at? [] = some .directory := rfl
  have hnone : drafts.at? [".prism"] = none := by decide
  have hsize : ¬255 < ".prism".utf8ByteSize := by decide
  rw [find_of_leads h]
  show drafts.walk true Tree.mostLinks [] [".prism", name] = _
  simp [Tree.walk, hroot, hnone, hsize]

/-- The project has no old logs. -/
theorem prepareLogs_drafts (command : Command) :
    prepareLogs .epoch drafts ⟨".", none, false, command⟩ = .ok drafts := by
  have hfind := find_prism (Logs.directory ".") "logs" (by decide)
  simp [prepareLogs, Logs.clean, Tree.list, hfind]

/-- The project is not configured. -/
theorem load_config_drafts (command : Command) :
    ProjectConfig.load drafts (configPath ⟨".", none, false, command⟩) = .ok .default := by
  have hfind := find_prism (ProjectConfig.path ".") "config.yaml" (by decide)
  simp [configPath, ProjectConfig.load, Tree.isThere, Tree.entry?, hfind]

theorem list_prompts : drafts.list "./prompts" =
    [("a.prompt", .file (some (userDocument regards)) 0),
      ("b.prompt", .file (some (userDocument "")) 0),
      ("c.prompt", .file none 0), ("c.txt", .file none 0)] := by
  have hleads : Leads "./prompts" ["prompts"] := by decide
  have hprompts : drafts.at? ["prompts"] = some .directory := by decide
  have hfind : drafts.find "./prompts" = .ok (.entry ["prompts"] .directory) := by
    rw [find_of_leads hleads]
    refine (walk_prompts []).trans ?_
    simp [Tree.walk, hprompts]
  simp only [Tree.list, hfind]
  exact List.mergeSort_of_pairwise (by decide)

theorem readAt_prompts (path name : String) (content : Option String)
    (h : Leads path ["prompts", name]) (hname : name ≠ "." ∧ name ≠ ".." ∧ name.utf8ByteSize ≤ 255)
    (hat : drafts.at? ["prompts", name] = some (.file content 0)) :
    Loader.readAt .epoch drafts path =
      content.elim (.error (.file .notText)) (Source.read .epoch path (Path.stem? path)) := by
  have hprompts : drafts.at? ["prompts"] = some .directory := by decide
  have hfind : drafts.find path = .ok (.entry ["prompts", name] (.file content 0)) := by
    rw [find_of_leads h]
    refine (walk_prompts [name]).trans ?_
    simp [Tree.walk, hprompts, hname, Nat.not_lt.mpr hname.2.2, hat]
  rw [Loader.readAt, Tree.readText, hfind]
  cases content <;> rfl

/-- The letter as a template. -/
def draftedLetter : Template :=
  .ofParts "a" [.user regards] none

theorem readAt_draftedLetter :
    Loader.readAt .epoch drafts "./prompts/a.prompt" = .ok draftedLetter :=
  readAt_prompts _ "a.prompt" (some (userDocument regards)) (by decide) (by decide) rfl

/-- What the loader makes of the prompts. -/
def draftsOutcome : LoadOutcome where
  templates := [.ofParts "a" [.user regards] none, .ofParts "b" [.user ""] none]
  failures := [⟨"./prompts/c.prompt", .file .notText⟩]

theorem readDirectory_drafts :
    (Loader.new Loader.defaultExtensions).readDirectory .epoch drafts "./prompts" =
      draftsOutcome := by
  have hcandidates : (Loader.new Loader.defaultExtensions).candidates drafts "./prompts" =
      ["./prompts/a.prompt", "./prompts/b.prompt", "./prompts/c.prompt"] := by
    rw [Loader.candidates, list_prompts]
    decide
  have hb : Loader.readAt .epoch drafts "./prompts/b.prompt" =
      .ok (.ofParts "b" [.user ""] none) :=
    readAt_prompts _ "b.prompt" (some (userDocument "")) (by decide) (by decide) rfl
  have hc : Loader.readAt .epoch drafts "./prompts/c.prompt" = .error (.file .notText) :=
    readAt_prompts _ "c.prompt" none (by decide) (by decide) rfl
  simp [Loader.readDirectory, hcandidates, Loader.addFile, readAt_draftedLetter, hb, hc,
    LoadOutcome.empty, draftsOutcome, draftedLetter]

theorem validate_agrees_with_list_drafts :
    let line : CommandLine := ⟨".", none, false, .validate true⟩
    let m := Manager.new (.ofProject "." .default ⟨none, some true, none⟩) .stalling
    let ending := (runArguments .epoch drafts ["validate", "--strict"]).ending
    ofArguments ["validate", "--strict"] = .ok line ∧
      line.prepareLogs .epoch drafts = .ok drafts ∧
      ProjectConfig.load drafts line.configPath = .ok .default ∧
      (∃ first, (m.list .epoch drafts).1 = .error (.loadAborted 2 first)) ∧
      ending.code = 1 ∧ ending.message = "Error: 2 of 3 template file(s) failed validation\n" := by
  intro line m ending
  have hline : ofArguments ["validate", "--strict"] = .ok line := rfl
  have hlogs := prepareLogs_drafts (.validate true)
  have hconfig := load_config_drafts (.validate true)
  have hread : m.loader.readDirectory .epoch drafts m.config.promptsDir = draftsOutcome :=
    readDirectory_drafts
  have hleft : (m.leftOut .epoch drafts).length = 2 := by
    rw [Manager.leftOut, m.length_accepted_snd, hread]
    simp only [Manager.isOk_check (m := m) rfl]
    decide
  have hmatching : m.loader.matching drafts m.config.promptsDir = 3 := by
    show (drafts.list "./prompts").countP m.loader.matchesEntry = 3
    rw [list_prompts]
    decide
  rcases m.list_of_strict rfl rfl .epoch drafts with ⟨hnone, _⟩ | ⟨_, first, hlist⟩
  · rw [hnone] at hleft
    cases hleft
  · rw [hleft] at hlist
    obtain ⟨_, hfails⟩ := validate_agrees_with_list .stalling hline rfl hlogs hconfig rfl
    obtain ⟨failed, first', herror, hcode, hmessage⟩ := hfails _ hlist
    cases herror
    refine ⟨hline, hlogs, hconfig, ⟨first, hlist⟩, hcode, hmessage.trans ?_⟩
    rw [hmatching]
    rfl

end Drafts

end CommandLine

end PromptBook
