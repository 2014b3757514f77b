import PromptBook.Proofs.Manager.Directory
import PromptBook.Proofs.Manager.OwnNames
import PromptBook.Proofs.Manager.Running

/-!
# Strict checking only turns away

A strict manager looks at warnings too, and one file that cannot be used stands in the way of its
whole directory.  There is nothing else to strictness: as long as it turns nothing away, a strict
manager is followed step by step by the same manager without strictness.

**Results.**
* `accepted_relaxed`: a directory that a strict manager can use.
* `step_relaxed`: one step in which nothing is turned away.
* `laidOpen_trace_relaxed`: a run in which nothing is turned away.
* `strict_only_rejects`: two managers that differ in their strictness only.
-/

namespace PromptBook

open Files (Tree)

/-- The error says that a template, or a directory, was turned away. -/
def ExecutionError.Rejects : ExecutionError → Prop
  | .prompt (.invalid _ _) => True
  | .loadAborted _ _ => True
  | _ => False

/-- There is no error, or one that turns nothing away. -/
def Spares (error? : Option ExecutionError) : Prop :=
  ∀ e, error? = some e → ¬e.Rejects

theorem Spares.none : Spares none := by
  intro e he
  cases he

theorem Report.passes_lenient {r : Report} {strict : Bool} (h : r.passes strict = true) :
    r.passes false = true := by
  simp only [passes, Bool.and_eq_true] at h
  simp [passes, h.1]

namespace Manager

open Outcome (errorOf? errorOf?_eq_some_iff)

variable {m : Manager} {now : Timestamp} {files : Tree} {name : String} {t : Template}
variable {e : TemplateError}

/-- The same manager without strictness. -/
def relaxed (m : Manager) : Manager :=
  { m with config := { m.config with strict := false } }

/-- A result and the manager after it, beside those of a manager without strictness. -/
structure Relaxed {α : Type} (r r₀ : α × Manager) : Prop where
  result : r₀.1 = r.1
  manager : r₀.2 = r.2.relaxed

theorem Relaxed.of_eq {α : Type} {r r₀ : α × Manager} {x : α} {m' : Manager} (hr : r = (x, m'))
    (hr₀ : r₀ = (x, m'.relaxed)) : Relaxed r r₀ := by
  subst hr hr₀
  exact ⟨rfl, rfl⟩

section Checks

theorem relaxed_of_lenient (h : m.config.strict = false) : m.relaxed = m := by
  unfold relaxed
  rw [← h]

/-- What passes where checking is strict passes where it is not. -/
theorem check_relaxed (h : m.check t = .ok ()) : m.relaxed.check t = .ok () :=
  check_eq_ok_iff.mpr fun hvalidates => Report.passes_lenient (check_eq_ok_iff.mp h hvalidates)

theorem rejects_of_check (h : m.check t = .error e) : (ExecutionError.prompt e).Rejects := by
  simp only [check] at h
  by_cases hpasses : (!m.config.validateOnLoad || t.validate.passes m.config.strict) = true
  · rw [if_pos hpasses] at h
    cases h
  · rw [if_neg hpasses] at h
    cases h
    trivial

end Checks

section Single

theorem read_relaxed (h : Spares (errorOf? (m.read now files name).1)) :
    Relaxed (m.read now files name) (m.relaxed.read now files name) := by
  cases hread : m.loader.readNamed now files m.config.promptsDir name with
  | error e =>
      exact .of_eq (read_of_unreadable hread) (read_of_unreadable (m := m.relaxed) hread)
  | ok t =>
      cases hcheck : m.check t with
      | error e =>
          rw [read_of_rejected hread hcheck] at h
          exact absurd (rejects_of_check hcheck) (h _ rfl)
      | ok _ =>
          exact .of_eq (read_of_accepted hread hcheck)
            (read_of_accepted (m := m.relaxed) hread (check_relaxed hcheck))

theorem askCache_relaxed (m : Manager) (name : String) :
    m.relaxed.askCache name = ((m.askCache name).1, (m.askCache name).2.relaxed) := by
  have hcache : m.relaxed.cache = m.cache := rfl
  unfold askCache
  rw [hcache]
  cases m.cache <;> rfl

theorem load_relaxed (h : Spares (errorOf? (m.load now files name).1)) :
    Relaxed (m.load now files name) (m.relaxed.load now files name) := by
  have hfound : (m.relaxed.askCache name).1 = (m.askCache name).1 := by
    rw [askCache_relaxed]
  have hmanager : (m.relaxed.askCache name).2 = (m.askCache name).2.relaxed := by
    rw [askCache_relaxed]
  cases hask : (m.askCache name).1 with
  | some t =>
      refine .of_eq (load_of_cached hask) ?_
      rw [load_of_cached (hfound.trans hask), hmanager]
  | none =>
      have hregistry : (m.relaxed.askCache name).2.registry = (m.askCache name).2.registry := by
        rw [hmanager]
        rfl
      cases hkept : (m.askCache name).2.registry.get? name with
      | some t =>
          refine .of_eq (load_of_registered hask hkept) ?_
          rw [load_of_registered (hfound.trans hask) (hregistry ▸ hkept), hmanager]
          rfl
      | none =>
          rw [load_of_unknown hask hkept] at h ⊢
          rw [load_of_unknown (hfound.trans hask) (hregistry ▸ hkept), hmanager]
          exact read_relaxed h

theorem register_relaxed (h : Spares (errorOf? (m.register t).1)) :
    Relaxed (m.register t) (m.relaxed.register t) := by
  cases hcheck : m.check t with
  | error e =>
      rw [register_of_rejected hcheck] at h
      exact absurd (rejects_of_check hcheck) (h _ rfl)
  | ok _ =>
      exact .of_eq (register_of_accepted hcheck)
        (register_of_accepted (m := m.relaxed) (check_relaxed hcheck))

end Single

section Directories

/-- If a directory can be used, nothing in it is turned away, with strictness or without. -/
theorem accepted_relaxed (h : m.Usable now files) :
    m.relaxed.accepted (m.loader.readDirectory now files m.config.promptsDir) =
      m.accepted (m.loader.readDirectory now files m.config.promptsDir) := by
  cases hstrict : m.config.strict with
  | false => rw [relaxed_of_lenient hstrict]
  | true =>
      -- Where nothing is left out no template was rejected, so both managers sort alike.
      have hnone := (List.append_eq_nil_iff.mp (h hstrict)).2
      generalize m.loader.readDirectory now files m.config.promptsDir = o at hnone
      have hsort : ∀ t ∈ o.templates, m.relaxed.sort t = m.sort t := by
        intro t ht
        cases hcheck : m.check t with
        | ok _ => rw [sort_of_accepted hcheck, sort_of_accepted (check_relaxed hcheck)]
        | error e =>
            have hleft := List.filterMap_eq_nil_iff.mp hnone _ (List.mem_map_of_mem ht)
            rw [sort_of_rejected hcheck] at hleft
            cases hleft
      simp only [accepted, List.map_congr_left hsort]

theorem readDirectory_relaxed (h : m.Usable now files) :
    Relaxed (m.readDirectory now files) (m.relaxed.readDirectory now files) := by
  refine .of_eq (readDirectory_of_usable h) ?_
  rw [readDirectory_of_usable (usable_of_lenient rfl)]
  exact congrArg (fun accepted => (Except.ok accepted, _)) (accepted_relaxed h)

/-- A directory is turned away, or it can be used. -/
theorem usable_of_spares (h : Spares (errorOf? (m.readDirectory now files).1)) :
    m.Usable now files := by
  cases hread : (m.readDirectory now files).1 with
  | ok r => exact usable_of_readDirectory hread
  | error e =>
      refine absurd ?_ (h e (errorOf?_eq_some_iff.mpr hread))
      rw [readDirectory_eq, verdict] at hread
      split at hread
      · cases hread
        trivial
      · cases hread

theorem list_relaxed (h : Spares (errorOf? (m.list now files).1)) :
    Relaxed (m.list now files) (m.relaxed.list now files) := by
  cases hlisted : m.listed with
  | true =>
      exact .of_eq (list_of_listed hlisted) (list_of_listed (m := m.relaxed) hlisted)
  | false =>
      have husable : m.Usable now files := by
        refine usable_of_spares fun e he => h e ?_
        rw [list_of_aborted hlisted (errorOf?_eq_some_iff.mp he)]
        rfl
      obtain ⟨hresult, hmanager⟩ := readDirectory_relaxed husable
      have hread := congrArg Prod.fst (readDirectory_of_usable husable)
      refine .of_eq (list_of_read hlisted hread) ?_
      rw [list_of_read (m := m.relaxed) hlisted (hresult.trans hread), hmanager]
      rfl

theorem reload_relaxed (h : Spares (errorOf? (m.reload now files).1)) :
    Relaxed (m.reload now files) (m.relaxed.reload now files) := by
  have husable : m.clear.Usable now files := by
    refine usable_of_spares fun e he => h e ?_
    rw [reload_of_aborted (errorOf?_eq_some_iff.mp he)]
    rfl
  have hclear : m.relaxed.clear = m.clear.relaxed := rfl
  obtain ⟨hresult, hmanager⟩ := readDirectory_relaxed husable
  rw [← hclear] at hresult hmanager
  have hread := congrArg Prod.fst (readDirectory_of_usable husable)
  refine .of_eq (reload_of_read hread) ?_
  rw [reload_of_read (hresult.trans hread), hmanager]
  rfl

end Directories

end Manager

namespace World

open Manager (Relaxed)
open Outcome (errorOf? errorOf?_eq_some_iff)

variable {w : World} {s : Step}

/-- The same world with a manager without strictness. -/
def relaxed (w : World) : World :=
  { w with manager := w.manager.relaxed }

theorem after_relaxed {α : Type} {r r₀ : α × Manager} (h : Relaxed r r₀) (w : World)
    (outcome : α → Outcome) :
    w.relaxed.after outcome r₀ = ((w.after outcome r).1, (w.after outcome r).2.relaxed) := by
  simp [after, relaxed, h.result, h.manager]

/-- If an operation that needs a template turns nothing away, neither does the load. -/
theorem spares_load {name : String} (hneeds : s.operation.needs? = some name)
    (h : Spares (w.step s).1.error?) :
    Spares (errorOf? (w.manager.load s.now w.files name).1) := by
  intro e he
  refine h e ?_
  rw [step_of_needs hneeds, Operation.finish_of_unloaded (errorOf?_eq_some_iff.mp he)]
  exact Operation.error?_ranWithout e hneeds

/-- A step in which a manager turns nothing away does the same without strictness. -/
theorem step_relaxed (h : Spares (w.step s).1.error?) :
    w.relaxed.step s = ((w.step s).1, (w.step s).2.relaxed) := by
  cases hneeds : s.operation.needs? with
  | some name =>
      obtain ⟨hresult, hmanager⟩ := Manager.load_relaxed (spares_load hneeds h)
      have hload : w.relaxed.manager.load s.now w.relaxed.files name =
          ((w.manager.load s.now w.files name).1, (w.manager.load s.now w.files name).2.relaxed) :=
        Prod.ext hresult hmanager
      rw [step_of_needs hneeds, step_of_needs hneeds, hload]
      rfl
  | none =>
      obtain ⟨now, operation⟩ := s
      cases operation with
      | register t => exact after_relaxed (Manager.register_relaxed h) w _
      | list => exact after_relaxed (Manager.list_relaxed h) w _
      | reload => exact after_relaxed (Manager.reload_relaxed h) w _
      | get _ | validateAll | clear | change _ => rfl
      | load _ | render _ _ _ | execute _ _ _ _ | stream _ _ _ _ _ => cases hneeds

/-- What comes of a step, and all that is left of it but the setup: the templates that are kept, the
cache and the counts. -/
def laidOpen (x : Outcome × World) :
    Outcome × Dictionary Template × Option (Cache Template) × Metrics :=
  (x.1, x.2.manager.registry, x.2.manager.cache, x.2.manager.metrics)

/-- A run in which nothing is turned away goes the same way without strictness. -/
theorem laidOpen_trace_relaxed {steps : List Step} (h : ∀ x ∈ w.trace steps, Spares x.1.error?) :
    (w.relaxed.trace steps).map laidOpen = (w.trace steps).map laidOpen := by
  -- A step that turns nothing away leaves worlds that differ in their strictness only.
  induction steps generalizing w with
  | nil =>
      rfl
  | cons s rest ih =>
      obtain ⟨hfirst, hrest⟩ := List.forall_mem_cons.mp h
      simp only [trace, List.map_cons, step_relaxed hfirst, ih hrest]
      rfl

/--
Two managers that differ in their strictness only: in a run in which the strict one turns no
template and no directory away, every step comes to the same on both, and leaves the same templates,
the same cache and the same counts.
-/
theorem strict_only_rejects (config : ManagerConfig) (backend : Backend) (files : Tree)
    (steps : List Step)
    (h : ∀ x ∈ trace ⟨.new { config with strict := true } backend, files⟩ steps,
      ∀ e, x.1.error? = some e → ¬e.Rejects) :
    (trace ⟨.new { config with strict := false } backend, files⟩ steps).map laidOpen =
      (trace ⟨.new { config with strict := true } backend, files⟩ steps).map laidOpen :=
  laidOpen_trace_relaxed (w := ⟨.new { config with strict := true } backend, files⟩) h

section Letters

open Manager (letters lettersConfig titledLetter)

/-- A letter is loaded from its file, and a template is registered that nobody loads. -/
def lettersKept : List Step :=
  [⟨.epoch, .load "letter"⟩, ⟨.epoch, .register reminder⟩]

theorem strict_only_rejects_letters :
    let strict := Manager.new { lettersConfig with strict := true } .stalling
    (strict.load .epoch (letters titledLetter) "letter").1 = .ok greeting ∧
      (∀ x ∈ trace ⟨strict, letters titledLetter⟩ lettersKept,
        ∀ e, x.1.error? = some e → ¬e.Rejects) ∧
      (trace ⟨.new { lettersConfig with strict := false } .stalling, letters titledLetter⟩
          lettersKept).map laidOpen =
        (trace ⟨strict, letters titledLetter⟩ lettersKept).map laidOpen := by
  intro strict
  have hcheck : ∀ t : Template, t.validate.passes true = true → strict.check t = .ok () :=
    fun t hpasses => Manager.check_eq_ok_iff.mpr fun _ => hpasses
  have hload : (strict.load .epoch (letters titledLetter) "letter").1 = .ok greeting :=
    Manager.load_new_eq_ok_iff.mpr ⟨Manager.readNamed_letters rfl, hcheck greeting (by decide)⟩
  have hregister : ((strict.load .epoch (letters titledLetter) "letter").2.register reminder).1 =
      .ok reminder := by
    have hreminder : (strict.load .epoch (letters titledLetter) "letter").2.check reminder =
        .ok () := by
      rw [Manager.check_eq_ok_iff, Manager.config_load]
      exact fun _ => by decide
    rw [Manager.register_of_accepted hreminder]
  have hspares : ∀ x ∈ trace ⟨strict, letters titledLetter⟩ lettersKept,
      ∀ e, x.1.error? = some e → ¬e.Rejects := by
    simp only [lettersKept, trace, List.forall_mem_cons]
    refine ⟨?_, ?_, by simp⟩
    · show Spares (Outcome.errorOf? (strict.load .epoch (letters titledLetter) "letter").1)
      rw [hload]
      exact Spares.none
    · show Spares (Outcome.errorOf?
        ((strict.load .epoch (letters titledLetter) "letter").2.register reminder).1)
      rw [hregister]
      exact Spares.none
  exact ⟨hload, hspares, strict_only_rejects lettersConfig .stalling _ _ hspares⟩

end Letters

end World

end PromptBook
