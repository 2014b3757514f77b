import PromptBook.Proofs.Engine.Messages
import PromptBook.Proofs.Manager.CacheTransparency

/-!
# Templates that stay

A template that is kept under a name stays there, however the files change, until another is
registered under that name or all templates are forgotten.  Loading and listing only add templates
under names that have none.  As long as a template stays, whoever needs it gets it and no file is
read for that.

**Results.**
* `keeps_load`, `keeps_list`: what is kept stays where it is.
* `get?_step`, `get?_run`: one step, and any run that does not displace the template.
* `stays_kept`: what can be seen of a template that stays.
-/

namespace PromptBook

open Files (Tree)

namespace Manager

variable {m m' : Manager} {now : Timestamp} {files : Tree} {name : String} {t : Template}

/-- Everything that the first manager keeps, the second keeps under the same name. -/
def Keeps (m m' : Manager) : Prop :=
  ∀ name t, m.registry.get? name = some t → m'.registry.get? name = some t

section Keeping

theorem Keeps.of_eq (h : m'.registry = m.registry) : m.Keeps m' := by
  intro name t ht
  rw [h, ht]

theorem keeps_read (hno : m.registry.get? name = none) :
    m.Keeps (m.read now files name).2 := by
  cases hread : m.loader.readNamed now files m.config.promptsDir name with
  | error e =>
      rw [read_of_unreadable hread]
      exact .of_eq rfl
  | ok t =>
      cases hcheck : m.check t with
      | error e =>
          rw [read_of_rejected hread hcheck]
          exact .of_eq rfl
      | ok _ =>
          rw [read_of_accepted hread hcheck]
          intro other u hu
          have hne : name ≠ other := by
            rintro rfl
            rw [hno] at hu
            cases hu
          exact (Dictionary.get?_put_ne hne t m.registry).trans hu

theorem keeps_load (h : m.CacheWithin) (now : Timestamp) (files : Tree) (name : String) :
    m.Keeps (m.load now files name).2 := by
  obtain ⟨_, hreg, _, _⟩ := askCache_spec h name
  cases hask : (m.askCache name).1 with
  | some t =>
      rw [load_of_cached hask]
      exact .of_eq hreg
  | none =>
      cases hkept : (m.askCache name).2.registry.get? name with
      | some t =>
          rw [load_of_registered hask hkept]
          exact .of_eq hreg
      | none =>
          rw [load_of_unknown hask hkept]
          intro other u hu
          rw [← hreg] at hu
          exact keeps_read hkept other u hu

theorem keeps_list (m : Manager) (now : Timestamp) (files : Tree) :
    m.Keeps (m.list now files).2 := by
  cases hlisted : m.listed with
  | true =>
      rw [list_of_listed hlisted]
      exact .of_eq rfl
  | false =>
      cases hread : (m.readDirectory now files).1 with
      | error e =>
          rw [list_of_aborted hlisted hread, readDirectory_eq]
          exact .of_eq rfl
      | ok r =>
          rw [list_of_read hlisted hread, readDirectory_eq]
          intro name t ht
          exact Dictionary.get?_addAll_of_get? Template.name r.1 ht

/-- To register a template leaves those under other names where they are. -/
theorem get?_register_of_ne {u : Template} (hne : u.name ≠ name) :
    (m.register u).2.registry.get? name = m.registry.get? name := by
  cases hcheck : m.check u with
  | error e =>
      rw [register_of_rejected hcheck]
  | ok _ =>
      rw [register_of_accepted hcheck]
      exact Dictionary.get?_put_ne hne u m.registry

end Keeping

/-- A template that is kept is found, and no file is read for it. -/
theorem load_of_kept (h : m.CacheWithin) (hkept : m.registry.get? name = some t) :
    (m.load now files name).1 = .ok t ∧ (m.load now files name).2.metrics = m.metrics := by
  obtain ⟨hfound, hreg, hunc, _⟩ := askCache_spec h name
  have hmetrics : (m.askCache name).2.metrics = m.metrics := by
    show (m.askCache name).2.uncached.metrics = m.uncached.metrics
    rw [hunc]
  cases hask : (m.askCache name).1 with
  | some u =>
      obtain rfl : u = t := Option.some.inj ((hfound u hask).symm.trans hkept)
      rw [load_of_cached hask]
      exact ⟨rfl, hmetrics⟩
  | none =>
      rw [load_of_registered hask (hreg ▸ hkept)]
      exact ⟨rfl, hmetrics⟩

end Manager

namespace World

open Manager (Keeps CacheWithin)

variable {w : World} {s : Step} {name : String} {t : Template}

/-- A step that needs a template leaves the manager as the load of the template does, but for the
executions it counts. -/
theorem manager_of_needs (h : s.operation.needs? = some name) :
    ∃ metrics : Metrics,
      (w.step s).2.manager = { (w.manager.load s.now w.files name).2 with metrics := metrics } ∧
        metrics.parsed = (w.manager.load s.now w.files name).2.metrics.parsed := by
  rw [step_of_needs h]
  exact ⟨_, rfl, Outcome.parsed_tally _ _⟩

/-- A step that displaces no template of a name leaves the one that is kept there. -/
theorem get?_step (h : w.manager.CacheWithin) (hcalm : ¬s.operation.Displaces name)
    (hkept : w.manager.get? name = some t) : (w.step s).2.manager.get? name = some t := by
  cases hneeds : s.operation.needs? with
  | some other =>
      obtain ⟨metrics, hmanager, _⟩ := manager_of_needs (w := w) hneeds
      rw [hmanager]
      exact Manager.keeps_load h s.now w.files other name t hkept
  | none =>
      obtain ⟨now, operation⟩ := s
      cases operation with
      | register u =>
          exact (Manager.get?_register_of_ne hcalm).trans hkept
      | list =>
          exact Manager.keeps_list w.manager now w.files name t hkept
      | reload => exact absurd trivial hcalm
      | clear => exact absurd trivial hcalm
      | get other => exact hkept
      | validateAll => exact hkept
      | change edit => exact hkept
      | load other => cases hneeds
      | render other values o => cases hneeds
      | execute cancelled other values o => cases hneeds
      | stream cancelled other values o handler => cases hneeds

theorem cacheWithin_run (h : w.manager.CacheWithin) (steps : List Step) :
    (w.run steps).manager.CacheWithin := by
  induction steps generalizing w with
  | nil => exact h
  | cons s rest ih => exact ih (step_mirrored h s).within

theorem get?_run (h : w.manager.CacheWithin) {steps : List Step}
    (hcalm : ∀ s ∈ steps, ¬s.operation.Displaces name) (hkept : w.manager.get? name = some t) :
    (w.run steps).manager.get? name = some t := by
  induction steps generalizing w with
  | nil => exact hkept
  | cons s rest ih =>
      obtain ⟨hfirst, hrest⟩ := List.forall_mem_cons.mp hcalm
      exact ih (step_mirrored h s).within hrest (get?_step h hfirst hkept)

/--
A template that is kept under a name at some time, whatever happened before: after any further run
that does not displace it, whoever asks for the name gets it, and no step that needs it reads a
template from a file.
-/
theorem stays_kept (config : ManagerConfig) (backend : Backend) (files : Tree)
    (past future : List Step)
    (hkept : (run ⟨.new config backend, files⟩ past).manager.get? name = some t)
    (hcalm : ∀ s ∈ future, ¬s.operation.Displaces name) :
    let w := run (run ⟨.new config backend, files⟩ past) future
    (∀ now, (w.step ⟨now, .get name⟩).1 = .kept (some t)) ∧
      (∀ now, (w.step ⟨now, .load name⟩).1 = .template (.ok t)) ∧
      ∀ s : Step, s.operation.needs? = some name →
        (w.step s).2.manager.metrics.parsed = w.manager.metrics.parsed := by
  intro w
  have hpast : (run ⟨.new config backend, files⟩ past).manager.CacheWithin :=
    cacheWithin_run (CacheWithin.new config backend) past
  have hwithin : w.manager.CacheWithin := cacheWithin_run hpast future
  have hstays : w.manager.get? name = some t := get?_run hpast hcalm hkept
  refine ⟨fun _ => congrArg Outcome.kept hstays, ?_, ?_⟩
  · intro now
    exact congrArg Outcome.template (Manager.load_of_kept hwithin hstays).1
  · intro s hneeds
    obtain ⟨metrics, hmanager, hparsed⟩ := manager_of_needs (w := w) hneeds
    rw [hmanager]
    show metrics.parsed = w.manager.metrics.parsed
    rw [hparsed, (Manager.load_of_kept hwithin hstays).2]

section Notes

/-- A manager with room for one template in its cache. -/
def narrowConfig : ManagerConfig :=
  { (default : ManagerConfig) with cacheEnabled := true, cacheCapacity := 1 }

/-- A template with nothing but a name. -/
def note (name : String) : Template :=
  .ofParts name [] none

/-- Steps that push a note out of the cache, read the directory and take all files away. -/
def busyFuture : List Step :=
  [⟨.epoch, .register (note "other")⟩, ⟨.epoch, .list⟩, ⟨.epoch, .change fun _ => ⟨[], []⟩⟩,
    ⟨.epoch, .load "other"⟩]

theorem stays_kept_note :
    (run ⟨.new narrowConfig .stalling, ⟨[], []⟩⟩ [⟨.epoch, .register (note "n")⟩]).manager.get? "n" =
        some (note "n") ∧
      (∀ s ∈ busyFuture, ¬s.operation.Displaces "n") ∧
      (step
          (run (run ⟨.new narrowConfig .stalling, ⟨[], []⟩⟩ [⟨.epoch, .register (note "n")⟩])
            busyFuture)
          ⟨.epoch, .load "n"⟩).1 =
        .template (.ok (note "n")) := by
  have hkept : (run ⟨.new narrowConfig .stalling, ⟨[], []⟩⟩
      [⟨.epoch, .register (note "n")⟩]).manager.get? "n" = some (note "n") := rfl
  have hcalm : ∀ s ∈ busyFuture, ¬s.operation.Displaces "n" := by
    simp [busyFuture, Operation.Displaces, note, Template.ofParts]
  exact ⟨hkept, hcalm, (stays_kept narrowConfig .stalling ⟨[], []⟩ _ _ hkept hcalm).2.1 .epoch⟩

end Notes

end World

end PromptBook
