import PromptBook.Proofs.Loader.Outcome
import PromptBook.Proofs.Dictionary.Filling
import PromptBook.Proofs.Manager.Cases

/-!
# What a directory offers a manager

Of the templates in its directory, a manager may keep those that pass its check.  Listing and
reloading read the same files, so they are offered the same templates; at another time these differ
by the clock only.

**Results.**
* `mem_offered_iff`: the templates that are offered.
* `accepted_sameButClock`: what may be kept, and what is left out, at another time.
* `list_of_usable`, `reload_of_usable`: what a listing and a reload leave.
-/

namespace PromptBook

open Files (Tree)
open Template (SameButClock)

namespace Manager

variable {m : Manager} {now now' : Timestamp} {files : Tree} {t t' : Template}
variable {o o' : LoadOutcome}

/-- The templates of the directory that may be kept, in the order of their files. -/
def offered (m : Manager) (now : Timestamp) (files : Tree) : List Template :=
  (m.accepted (m.loader.readDirectory now files m.config.promptsDir)).1

section Sorting

theorem sort_of_accepted (h : m.check t = .ok ()) : m.sort t = .inr t := by
  rw [sort, h]

theorem sort_of_rejected {e : TemplateError} (h : m.check t = .error e) :
    m.sort t = .inl ⟨Path.join m.config.promptsDir t.name, e⟩ := by
  rw [sort, h]

/-- The check asks for a report that passes, if it asks for anything. -/
theorem check_eq_ok_iff :
    m.check t = .ok () ↔
      (m.config.validateOnLoad = true → t.validate.passes m.config.strict = true) := by
  unfold check
  cases m.config.validateOnLoad <;> cases hpasses : t.validate.passes m.config.strict <;>
    simp [hpasses]

/-- Where checking is not strict, only errors stand in the way. -/
theorem check_of_lenient (h : m.config.strict = false) (hvalid : t.validate.errors = []) :
    m.check t = .ok () := by
  simp [check, Report.passes, Report.isValid, h, hvalid]

/-- What is offered are the templates of the directory that pass the check. -/
theorem offered_eq :
    m.offered now files =
      (m.loader.readDirectory now files m.config.promptsDir).templates.filter
        fun t => (m.check t).isOk := by
  have hsort : (fun t => (m.sort t).getRight?) = Option.guard fun t => (m.check t).isOk := by
    funext t
    cases hcheck : m.check t with
    | ok _ => simp [sort_of_accepted hcheck, Option.guard, hcheck, Except.isOk, Except.toBool]
    | error e => simp [sort_of_rejected hcheck, Option.guard, hcheck, Except.isOk, Except.toBool]
  rw [← List.filterMap_eq_filter, ← hsort]
  exact List.filterMap_map

/-- What a folder offers. -/
theorem offered_folder {contents : List (String × Tree.Content)} (hdir : m.config.promptsDir = "p")
    (hsorted : contents.Pairwise fun a b => a.1 ≤ b.1) :
    m.offered now (.folder contents) =
      (((contents.filter fun file => m.loader.accepts file.1).map fun file =>
          Path.join "p" file.1).filterMap fun path =>
        (Loader.readAt now (.folder contents) path).toOption).filter fun t => (m.check t).isOk := by
  rw [offered_eq, Loader.templates_readDirectory, hdir, Loader.candidates_folder hsorted]

theorem mem_offered_iff :
    t ∈ m.offered now files ↔
      ∃ file content age, (file, .file content age) ∈ files.list m.config.promptsDir ∧
        m.loader.accepts file = true ∧
        Loader.readAt now files (Path.join m.config.promptsDir file) = .ok t ∧
        m.check t = .ok () := by
  have hcheck : (m.check t).isOk = true ↔ m.check t = .ok () := by
    cases m.check t <;> simp [Except.isOk, Except.toBool]
  rw [offered_eq, List.mem_filter, Loader.mem_templates_iff, hcheck]
  constructor
  · rintro ⟨⟨file, content, age, hfile, haccepts, hread⟩, hcheck⟩
    exact ⟨file, content, age, hfile, haccepts, hread, hcheck⟩
  · rintro ⟨file, content, age, hfile, haccepts, hread, hcheck⟩
    exact ⟨⟨file, content, age, hfile, haccepts, hread⟩, hcheck⟩

end Sorting

section Clock

theorem check_sameButClock (h : SameButClock now now' t t') : m.check t = m.check t' := by
  rw [check, check, h.name, h.validate]

theorem sort_sameButClock (m : Manager) {ts ts' : List Template}
    (h : List.Forall₂ (SameButClock now now') ts ts') :
    List.Forall₂ (SameButClock now now') ((ts.map m.sort).filterMap (·.getRight?))
        ((ts'.map m.sort).filterMap (·.getRight?)) ∧
      (ts.map m.sort).filterMap (·.getLeft?) = (ts'.map m.sort).filterMap (·.getLeft?) := by
  induction h with
  | nil =>
      exact ⟨.nil, rfl⟩
  | @cons t t' ts ts' ht _ ih =>
      have hsame := check_sameButClock (m := m) ht
      cases hcheck : m.check t with
      | ok _ =>
          rw [List.map_cons, List.map_cons, sort_of_accepted hcheck,
            sort_of_accepted (hsame ▸ hcheck)]
          exact ⟨.cons ht ih.1, ih.2⟩
      | error e =>
          rw [List.map_cons, List.map_cons, sort_of_rejected hcheck,
            sort_of_rejected (hsame ▸ hcheck), ht.name]
          exact ⟨ih.1, congrArg (_ :: ·) ih.2⟩

/-- The templates that may be kept, and what is left out, at another time. -/
theorem accepted_sameButClock (m : Manager) (h : o.SameButClock now now' o') :
    List.Forall₂ (SameButClock now now') (m.accepted o).1 (m.accepted o').1 ∧
      (m.accepted o).2 = (m.accepted o').2 := by
  obtain ⟨hpassed, hrejected⟩ := m.sort_sameButClock h.templates
  refine ⟨hpassed, ?_⟩
  simp only [accepted, h.failures, hrejected]

theorem offered_sameButClock (m : Manager) (now now' : Timestamp) (files : Tree) :
    List.Forall₂ (SameButClock now now') (m.offered now files) (m.offered now' files) :=
  (m.accepted_sameButClock (m.loader.readDirectory_sameButClock now now' files _)).1

end Clock

section Success

/-- No file of the directory stands in the way of the others: in strict mode, none is left out. -/
def Usable (m : Manager) (now : Timestamp) (files : Tree) : Prop :=
  m.config.strict = true →
    (m.accepted (m.loader.readDirectory now files m.config.promptsDir)).2 = []

/-- The manager with the templates of its directory counted. -/
def counted (m : Manager) (now : Timestamp) (files : Tree) : Manager :=
  m.countParsed (m.loader.readDirectory now files m.config.promptsDir).templates.length

theorem usable_of_lenient (h : m.config.strict = false) : m.Usable now files := by
  intro hstrict
  rw [h] at hstrict
  cases hstrict

/-- Whether the directory can be used does not depend on the time. -/
theorem Usable.at (h : m.Usable now files) (now' : Timestamp) : m.Usable now' files := by
  intro hstrict
  have hread := m.loader.readDirectory_sameButClock now now' files m.config.promptsDir
  rw [← (m.accepted_sameButClock hread).2]
  exact h hstrict

theorem readDirectory_of_usable (h : m.Usable now files) :
    m.readDirectory now files =
      (.ok (m.accepted (m.loader.readDirectory now files m.config.promptsDir)),
        m.counted now files) := by
  rw [readDirectory_eq, verdict]
  split
  · rename_i hstrict hskipped
    rw [h hstrict] at hskipped
    cases hskipped
  · rfl

theorem usable_of_readDirectory {r : List Template × List LoadFailure}
    (h : (m.readDirectory now files).1 = .ok r) : m.Usable now files := by
  intro hstrict
  rw [readDirectory_eq, verdict, hstrict] at h
  cases hskipped : (m.accepted (m.loader.readDirectory now files m.config.promptsDir)).2 with
  | nil => rfl
  | cons first rest =>
      rw [hskipped] at h
      cases h

theorem usable_of_list (hlisted : m.listed = false) {ts : List Template}
    (hlist : (m.list now files).1 = .ok ts) : m.Usable now files := by
  cases hread : (m.readDirectory now files).1 with
  | error e =>
      rw [list_of_aborted hlisted hread] at hlist
      cases hlist
  | ok r => exact usable_of_readDirectory hread

theorem list_of_usable (hlisted : m.listed = false) (h : m.Usable now files) :
    m.list now files =
      (.ok ((m.counted now files).addAbsent (m.offered now files)).templates,
        (m.counted now files).addAbsent (m.offered now files)) := by
  have hread := readDirectory_of_usable h
  rw [list_of_read hlisted (congrArg Prod.fst hread), hread]
  rfl

theorem reload_of_usable (h : m.clear.Usable now files) :
    (∃ summary, (m.reload now files).1 = .ok summary) ∧
      (m.reload now files).2 = (m.clear.counted now files).replaceAll (m.offered now files) := by
  have hread := readDirectory_of_usable h
  rw [reload_of_read (congrArg Prod.fst hread), hread]
  exact ⟨⟨_, rfl⟩, rfl⟩

end Success

end Manager

end PromptBook
