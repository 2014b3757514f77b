import PromptBook.Proofs.Engine.Messages
import PromptBook.Proofs.Files.Folder
import PromptBook.Proofs.Manager.Directory
import PromptBook.Proofs.Manager.Steps

/-!
# Templates of one name

Several files of a directory may hold templates of one name: files that differ in their extensions
only, or documents that state a name.  A listing keeps the first of them, a reload the last.  A new
manager that listed its directory is therefore the same as one that reloaded it exactly if under
every name the first template is the last.

**Results.**
* `get?_addAbsent`, `get?_replaceAll`: what is kept after a listing and after a reload.
* `addAbsent_eq_replaceAll_iff`: when the two are the same.
* `list_agrees_with_reload_iff`: what can be seen of new managers after a listing and a reload.
* `reload_displaces_note`: two files with one name.
-/

namespace PromptBook

open Files (Tree)

namespace Template

variable {now now' : Timestamp} {ts ts' : List Template}

/-- The first template with a name. -/
def first? (ts : List Template) (name : String) : Option Template :=
  ts.find? (·.name = name)

/-- The last template with a name. -/
def last? (ts : List Template) (name : String) : Option Template :=
  first? ts.reverse name

theorem first?_sameButClock (h : List.Forall₂ (SameButClock now now') ts ts') (name : String) :
    Option.Rel (SameButClock now now') (first? ts name) (first? ts' name) := by
  unfold first?
  induction h with
  | nil =>
      exact .none
  | @cons t t' _ _ ht _ ih =>
      rw [List.find?_cons, List.find?_cons, ← ht.name]
      by_cases hname : t.name = name
      · simpa [hname] using Option.Rel.some ht
      · simpa [hname] using ih

theorem last?_sameButClock (h : List.Forall₂ (SameButClock now now') ts ts') (name : String) :
    Option.Rel (SameButClock now now') (last? ts name) (last? ts' name) :=
  first?_sameButClock (List.forall₂_reverse_iff.mpr h) name

end Template

open Template (first? last? SameButClock)

namespace Manager

variable {m : Manager} {now : Timestamp} {files : Tree} {ts : List Template}

theorem get?_addAbsent (hempty : m.registry = []) (ts : List Template) (name : String) :
    (m.addAbsent ts).get? name = first? ts name := by
  rw [get?, addAbsent, Dictionary.get?_addAll Template.name, hempty]
  rfl

theorem get?_replaceAll (hempty : m.registry = []) (ts : List Template) (name : String) :
    (m.replaceAll ts).get? name = last? ts name := by
  rw [get?, replaceAll, Dictionary.get?_replaceAll Template.name, hempty]
  exact Option.or_none

/-- To add templates comes to the same as to put them in each other's place exactly if under every
name the first is the last. -/
theorem addAbsent_eq_replaceAll_iff (hempty : m.registry = []) :
    m.addAbsent ts = m.replaceAll ts ↔ ∀ name, first? ts name = last? ts name := by
  constructor
  · intro heq name
    rw [← get?_addAbsent hempty, ← get?_replaceAll hempty, heq]
  · intro hsame
    -- Both registries are in order, so it is enough to compare them name by name.
    have hordered : m.registry.Ordered := hempty ▸ .nil
    have hregistry : (m.addAbsent ts).registry = (m.replaceAll ts).registry := by
      refine (hordered.addAll Template.name ts).ext (hordered.replaceAll Template.name ts) ?_
      intro name
      exact (get?_addAbsent hempty ts name).trans
        ((hsame name).trans (get?_replaceAll hempty ts name).symm)
    exact congrArg (fun r : Dictionary Template => { m with registry := r, listed := true }) hregistry

theorem clear_new (config : ManagerConfig) (backend : Backend) :
    (Manager.new config backend).clear = Manager.new config backend := by
  cases henabled : config.cacheEnabled with
  | true => simp [clear, new, henabled, Cache.clear, Cache.new]
  | false => simp [clear, new, henabled]

section New

variable {config : ManagerConfig} {backend : Backend}

/-- What a listing makes of a new manager. -/
theorem list_new (h : (Manager.new config backend).Usable now files) :
    (∃ ts, ((Manager.new config backend).list now files).1 = .ok ts) ∧
      ((Manager.new config backend).list now files).2 =
        ((Manager.new config backend).counted now files).addAbsent
          ((Manager.new config backend).offered now files) := by
  rw [list_of_usable rfl h]
  exact ⟨⟨_, rfl⟩, rfl⟩

/-- What a reload makes of a new manager. -/
theorem reload_new (h : (Manager.new config backend).Usable now files) :
    (∃ summary, ((Manager.new config backend).reload now files).1 = .ok summary) ∧
      ((Manager.new config backend).reload now files).2 =
        ((Manager.new config backend).counted now files).replaceAll
          ((Manager.new config backend).offered now files) := by
  have hreload := reload_of_usable ((clear_new config backend).symm ▸ h)
  rwa [clear_new] at hreload

theorem get?_list_new (h : (Manager.new config backend).Usable now files) (name : String) :
    ((Manager.new config backend).list now files).2.get? name =
      first? ((Manager.new config backend).offered now files) name := by
  rw [(list_new h).2]
  exact get?_addAbsent rfl _ name

theorem get?_reload_new (h : (Manager.new config backend).Usable now files) (name : String) :
    ((Manager.new config backend).reload now files).2.get? name =
      last? ((Manager.new config backend).offered now files) name := by
  rw [(reload_new h).2]
  exact get?_replaceAll rfl _ name

end New

end Manager

namespace World

/-- What comes of each step of a run. -/
def answers (w : World) (steps : List Step) : List Outcome :=
  (w.trace steps).map Prod.fst

/--
A new manager lists its directory.  Then another can reload it at any time, and keeps the last
template of every name, where the first keeps the first.  The managers are the same, and give the
same answers ever after, exactly if these two are the same under every name.
-/
theorem list_agrees_with_reload_iff (config : ManagerConfig) (backend : Backend) (files : Tree)
    (now : Timestamp) {ts : List Template}
    (hlist : ((Manager.new config backend).list now files).1 = .ok ts) :
    let m := Manager.new config backend
    let first := first? (m.offered now files)
    let last := last? (m.offered now files)
    (∀ name, (m.list now files).2.get? name = first name) ∧
      (∀ now', (∃ summary, (m.reload now' files).1 = .ok summary) ∧
        ∀ name, Option.Rel (SameButClock now now') (last name)
          ((m.reload now' files).2.get? name)) ∧
      ((m.list now files).2 = (m.reload now files).2 ↔ ∀ name, first name = last name) ∧
      ((∀ steps, answers ⟨(m.list now files).2, files⟩ steps =
          answers ⟨(m.reload now files).2, files⟩ steps) ↔
        ∀ name, first name = last name) := by
  intro m first last
  have husable : m.Usable now files := Manager.usable_of_list rfl hlist
  have hfirst : ∀ name, (m.list now files).2.get? name = first name :=
    Manager.get?_list_new husable
  have hlast : ∀ name, (m.reload now files).2.get? name = last name :=
    Manager.get?_reload_new husable
  have hsame : (m.list now files).2 = (m.reload now files).2 ↔ ∀ name, first name = last name := by
    rw [(Manager.list_new husable).2, (Manager.reload_new husable).2]
    exact Manager.addAbsent_eq_replaceAll_iff rfl
  refine ⟨hfirst, ?_, hsame, ?_⟩
  · intro now'
    refine ⟨(Manager.reload_new (husable.at now')).1, fun name => ?_⟩
    rw [Manager.get?_reload_new (husable.at now')]
    exact Template.last?_sameButClock (m.offered_sameButClock now now' files) name
  · constructor
    · intro hanswers name
      have hget : (m.list now files).2.get? name = (m.reload now files).2.get? name := by
        simpa [answers, trace, step] using hanswers [⟨now, .get name⟩]
      rw [← hfirst, hget, hlast]
    · intro hnames steps
      rw [hsame.mpr hnames]

section Notes

open Source (userDocument)

/-- A folder with two documents that are called the same. -/
def notes (first second : String) : Tree :=
  .folder [("note.prompt", some (userDocument first)), ("note.yaml", some (userDocument second))]

def notesConfig : ManagerConfig :=
  ⟨"p", ["prompt", "yaml"], false, 0, true, false, true, none⟩

/-- The template of a document. -/
def noteTemplate (content : String) : Template :=
  .ofParts "note" [.user content] none

theorem check_noteTemplate (content : String) :
    (Manager.new notesConfig .stalling).check (noteTemplate content) = .ok () := by
  have hname : Text.isBlankText "note" = false := by
    decide
  apply Manager.check_of_lenient rfl
  simp [noteTemplate, Template.ofParts, Template.validate, Template.ownErrors, hname,
    Template.partErrors, Part.user, Template.declarationErrors]

/-- The folder offers both templates if its documents read so. -/
theorem offered_notes {first second : String}
    (hfirst : Source.read .epoch "p/note.prompt" (some "note") (userDocument first) =
      .ok (noteTemplate first))
    (hsecond : Source.read .epoch "p/note.yaml" (some "note") (userDocument second) =
      .ok (noteTemplate second)) :
    (Manager.new notesConfig .stalling).offered .epoch (notes first second) =
      [noteTemplate first, noteTemplate second] := by
  have hle : "note.prompt" ≤ "note.yaml" := by
    decide
  have haccepts : (Manager.new notesConfig .stalling).loader.accepts "note.prompt" = true ∧
      (Manager.new notesConfig .stalling).loader.accepts "note.yaml" = true := by
    decide
  have hprompt : Loader.readAt .epoch (notes first second) (Path.join "p" "note.prompt") =
      .ok (noteTemplate first) := by
    rw [notes, Loader.readAt_folder (by decide) rfl]
    exact hfirst
  have hyaml : Loader.readAt .epoch (notes first second) (Path.join "p" "note.yaml") =
      .ok (noteTemplate second) := by
    rw [notes, Loader.readAt_folder (by decide) rfl]
    exact hsecond
  rw [notes] at hprompt hyaml ⊢
  rw [Manager.offered_folder rfl (List.pairwise_pair.mpr hle)]
  simp [haccepts, hprompt, hyaml, Except.toOption, check_noteTemplate, Except.isOk, Except.toBool]

/-- Two files with the same content are no reason to disagree. -/
theorem list_agrees_with_reload_twins :
    (∃ ts, ((Manager.new notesConfig .stalling).list .epoch (notes "first" "first")).1 = .ok ts) ∧
      ∀ steps,
        answers ⟨((Manager.new notesConfig .stalling).list .epoch (notes "first" "first")).2,
          notes "first" "first"⟩ steps =
        answers ⟨((Manager.new notesConfig .stalling).reload .epoch (notes "first" "first")).2,
          notes "first" "first"⟩ steps := by
  have husable : (Manager.new notesConfig .stalling).Usable .epoch (notes "first" "first") :=
    Manager.usable_of_lenient rfl
  obtain ⟨ts, hlist⟩ := (Manager.list_new husable).1
  refine ⟨⟨ts, hlist⟩, ?_⟩
  apply (list_agrees_with_reload_iff notesConfig .stalling _ .epoch hlist).2.2.2.mpr
  rw [offered_notes rfl rfl]
  exact fun _ => rfl

/-- Of two files that are called the same, a listing keeps the first and a reload the second. -/
theorem reload_displaces_note :
    let m := Manager.new notesConfig .stalling
    let files := notes "first" "second"
    (∃ ts, (m.list .epoch files).1 = .ok ts) ∧
      (∃ summary, (m.reload .epoch files).1 = .ok summary) ∧
      (m.list .epoch files).2.get? "note" = some (noteTemplate "first") ∧
      (m.reload .epoch files).2.get? "note" = some (noteTemplate "second") ∧
      ¬SameButClock .epoch .epoch (noteTemplate "first") (noteTemplate "second") := by
  intro m files
  have husable : m.Usable .epoch files := Manager.usable_of_lenient rfl
  have hoffered : m.offered .epoch files = [noteTemplate "first", noteTemplate "second"] :=
    offered_notes rfl rfl
  refine ⟨(Manager.list_new husable).1, (Manager.reload_new husable).1, ?_, ?_, ?_⟩
  · rw [Manager.get?_list_new husable, hoffered]
    rfl
  · rw [Manager.get?_reload_new husable, hoffered]
    rfl
  · intro hsame
    have hparts := congrArg Template.parts hsame.eq
    revert hparts
    decide

end Notes

end World

end PromptBook
