import PromptBook.Proofs.Cache.Entries
import PromptBook.Proofs.Manager.Failures

/-!
# What is forgotten

A manager counts what it does, and its cache counts what it finds.  No answer depends on these
counts: two managers that agree but for them go on to agree, step by step.  Whatever a manager went
through, once its templates are forgotten it differs from a new one in its counts only; a reload
begins with that, so what came before it does not show either.

**Results.**
* `told_step_eq`, `told_trace_eq`: the counts do not show, in a step and in a run.
* `forgotten_step`, `forgotten_run`: what is left of a manager without its templates never changes.
* `forgets_past`: two runs after a reload, and a run after a clear beside that of a new manager.
-/

namespace PromptBook

open Files (Tree)

namespace Cache

variable {α : Type}

@[simp] theorem uncounted_uncounted (c : Cache α) : c.uncounted.uncounted = c.uncounted := rfl

theorem uncounted_insertIfAbsent (c : Cache α) (name : String) (value : α) :
    (c.insertIfAbsent name value).2.uncounted = (c.uncounted.insertIfAbsent name value).2 := by
  have hcontains : c.uncounted.contains name = c.contains name := rfl
  unfold insertIfAbsent
  rw [hcontains]
  split <;> rfl

/-- What a cache answers does not depend on its counts, nor does what it holds after that. -/
theorem get_uncounted (c : Cache α) (name : String) :
    (c.uncounted.get name).1 = (c.get name).1 ∧
      (c.uncounted.get name).2.uncounted = (c.get name).2.uncounted := by
  have hentries : c.uncounted.entries = c.entries := rfl
  unfold get
  rw [hentries]
  split <;> exact ⟨rfl, rfl⟩

end Cache

namespace Manager

variable {m m' : Manager} {now : Timestamp} {files : Tree} {name : String} {t : Template}

section Counts

/-- The same result, and the same manager but for its counts. -/
structure Agree {α : Type} (r r' : α × Manager) : Prop where
  result : r.1 = r'.1
  manager : r.2.uncounted = r'.2.uncounted

/-- An operation that does not look at counts. -/
def CountBlind {α : Type} (f : Manager → α × Manager) : Prop :=
  ∀ m : Manager, Agree (f m.uncounted) (f m)

variable {α : Type}

theorem Agree.of_eq {r r' : α × Manager} {x : α} (hr : r = (x, m)) (hr' : r' = (x, m'))
    (h : m.uncounted = m'.uncounted) : Agree r r' := by
  subst hr hr'
  exact ⟨rfl, h⟩

/-- Managers that differ in their counts only: an operation that is blind for counts does not tell
them apart. -/
theorem CountBlind.agree {f : Manager → α × Manager} (hf : CountBlind f)
    (h : m.uncounted = m'.uncounted) : Agree (f m) (f m') := by
  have hleft := hf m
  have hright := hf m'
  rw [h] at hleft
  exact ⟨hleft.result.symm.trans hright.result, hleft.manager.symm.trans hright.manager⟩

theorem uncounted_mapCache {f : Cache Template → Cache Template}
    (hf : ∀ c, (f c).uncounted = f c.uncounted) (m : Manager) :
    (m.mapCache f).uncounted = m.uncounted.mapCache f := by
  simp [mapCache, uncounted, Function.comp_def, hf]

theorem uncounted_remember (m : Manager) (name : String) (t : Template) :
    (m.remember name t).uncounted = m.uncounted.remember name t :=
  uncounted_mapCache (fun c => c.uncounted_insertIfAbsent name t) m

theorem uncounted_store (m : Manager) (t : Template) :
    (m.mapCache (·.set t.name t)).uncounted = m.uncounted.mapCache (·.set t.name t) :=
  uncounted_mapCache (f := (·.set t.name t)) (fun _ => rfl) m

theorem uncounted_clear (m : Manager) : m.uncounted.clear.uncounted = m.clear.uncounted := by
  simp [clear, uncounted, Function.comp_def, Cache.clear, Cache.uncounted]

/-- What is no count is the same in managers that differ in their counts only. -/
theorem eq_of_uncounted_eq {β : Type} (f : Manager → β) (hf : ∀ m : Manager, f m.uncounted = f m)
    (h : m.uncounted = m'.uncounted) : f m = f m' := by
  rw [← hf m, h, hf m']

@[simp] theorem uncounted_idem (m : Manager) : m.uncounted.uncounted = m.uncounted := by
  simp [uncounted, Function.comp_def]

end Counts

section Blindness

theorem countBlind_askCache (name : String) : CountBlind (·.askCache name) := by
  intro m
  cases hcache : m.cache with
  | none =>
      exact ⟨by simp [askCache, uncounted, hcache], by simp [askCache, uncounted, hcache]⟩
  | some c =>
      obtain ⟨hvalue, hleft⟩ := c.get_uncounted name
      exact ⟨by simp [askCache, uncounted, hcache, hvalue],
        by simp [askCache, uncounted, hcache, hleft]⟩

theorem countBlind_read (now : Timestamp) (files : Tree) (name : String) :
    CountBlind (·.read now files name) := by
  intro m
  cases hread : m.loader.readNamed now files m.config.promptsDir name with
  | error e =>
      exact .of_eq
        (read_of_unreadable (m := m.uncounted) hread)
        (read_of_unreadable hread)
        m.uncounted_idem
  | ok t =>
      cases hcheck : m.check t with
      | error e =>
          exact .of_eq
            (read_of_rejected (m := m.uncounted) hread hcheck)
            (read_of_rejected hread hcheck)
            m.uncounted_idem
      | ok _ =>
          refine .of_eq
            (read_of_accepted (m := m.uncounted) hread hcheck)
            (read_of_accepted hread hcheck) ?_
          rw [uncounted_remember, uncounted_remember]
          exact congrArg (fun m : Manager => (m.keep name t).remember name t) m.uncounted_idem

theorem countBlind_load (now : Timestamp) (files : Tree) (name : String) :
    CountBlind (·.load now files name) := by
  intro m
  obtain ⟨hresult, hmanager⟩ := countBlind_askCache name m
  cases hask : (m.askCache name).1 with
  | some t =>
      exact .of_eq
        (load_of_cached (hresult.trans hask))
        (load_of_cached hask)
        hmanager
  | none =>
      have hregistry := eq_of_uncounted_eq registry (fun _ => rfl) hmanager
      cases hkept : (m.askCache name).2.registry.get? name with
      | some t =>
          refine .of_eq
            (load_of_registered (hresult.trans hask) (hregistry ▸ hkept))
            (load_of_registered hask hkept) ?_
          rw [uncounted_remember, uncounted_remember, hmanager]
      | none =>
          show Agree (m.uncounted.load now files name) (m.load now files name)
          rw [load_of_unknown (hresult.trans hask) (hregistry ▸ hkept), load_of_unknown hask hkept]
          exact (countBlind_read now files name).agree hmanager

theorem countBlind_register (t : Template) : CountBlind (·.register t) := by
  intro m
  cases hcheck : m.check t with
  | error e =>
      exact .of_eq
        (register_of_rejected (m := m.uncounted) hcheck)
        (register_of_rejected hcheck)
        m.uncounted_idem
  | ok _ =>
      refine .of_eq
        (register_of_accepted (m := m.uncounted) hcheck)
        (register_of_accepted hcheck) ?_
      rw [uncounted_store, uncounted_store]
      exact congrArg (fun m : Manager => (m.keep t.name t).mapCache (·.set t.name t)) m.uncounted_idem

theorem countBlind_readDirectory (now : Timestamp) (files : Tree) :
    CountBlind (·.readDirectory now files) := by
  intro m
  exact .of_eq (readDirectory_eq m.uncounted now files) (readDirectory_eq m now files)
    m.uncounted_idem

theorem countBlind_list (now : Timestamp) (files : Tree) : CountBlind (·.list now files) := by
  intro m
  obtain ⟨hresult, hmanager⟩ := countBlind_readDirectory now files m
  cases hlisted : m.listed with
  | true =>
      exact .of_eq
        (list_of_listed (m := m.uncounted) hlisted)
        (list_of_listed hlisted)
        m.uncounted_idem
  | false =>
      cases hread : (m.readDirectory now files).1 with
      | error e =>
          exact .of_eq
            (list_of_aborted (m := m.uncounted) hlisted (hresult.trans hread))
            (list_of_aborted hlisted hread)
            hmanager
      | ok r =>
          show Agree (m.uncounted.list now files) (m.list now files)
          rw [list_of_read (m := m.uncounted) hlisted (hresult.trans hread),
            list_of_read hlisted hread]
          have hadded : ((m.uncounted.readDirectory now files).2.addAbsent r.1).uncounted =
              ((m.readDirectory now files).2.addAbsent r.1).uncounted :=
            congrArg (fun m : Manager => m.addAbsent r.1) hmanager
          have htemplates := eq_of_uncounted_eq templates (fun _ => rfl) hadded
          exact ⟨congrArg Except.ok htemplates, hadded⟩

theorem countBlind_reload (now : Timestamp) (files : Tree) : CountBlind (·.reload now files) := by
  intro m
  obtain ⟨hresult, hmanager⟩ := (countBlind_readDirectory now files).agree m.uncounted_clear
  cases hread : (m.clear.readDirectory now files).1 with
  | error e =>
      exact .of_eq
        (reload_of_aborted (hresult.trans hread))
        (reload_of_aborted hread)
        hmanager
  | ok r =>
      show Agree (m.uncounted.reload now files) (m.reload now files)
      rw [reload_of_read (hresult.trans hread), reload_of_read hread]
      have hput : ((m.uncounted.clear.readDirectory now files).2.replaceAll r.1).uncounted =
          ((m.clear.readDirectory now files).2.replaceAll r.1).uncounted :=
        congrArg (fun m : Manager => m.replaceAll r.1) hmanager
      have hregistry := eq_of_uncounted_eq registry (fun _ => rfl) hput
      exact ⟨congrArg (fun d => Except.ok (ReloadSummary.mk (List.length d) r.2)) hregistry, hput⟩

end Blindness

section Forgetting

/-- What is left of a manager without its templates and its counts: what it is set up to do, and the
room in its cache. -/
def forgotten (m : Manager) : Manager :=
  m.clear.uncounted

theorem forgotten_new (config : ManagerConfig) (backend : Backend) :
    (Manager.new config backend).forgotten = Manager.new config backend := by
  cases henabled : config.cacheEnabled with
  | true => simp [forgotten, clear, uncounted, new, henabled, Cache.clear, Cache.uncounted, Cache.new]
  | false => simp [forgotten, clear, uncounted, new, henabled]

/-- To use a cache in any way that keeps its room changes nothing of what is left. -/
theorem forgotten_mapCache {f : Cache Template → Cache Template}
    (hf : ∀ c, (f c).capacity = c.capacity) (m : Manager) :
    (m.mapCache f).forgotten = m.forgotten := by
  simp [forgotten, clear, uncounted, mapCache, Function.comp_def, Cache.clear, Cache.uncounted, hf]

theorem forgotten_remember (m : Manager) (name : String) (t : Template) :
    (m.remember name t).forgotten = m.forgotten :=
  forgotten_mapCache (fun c => c.capacity_insertIfAbsent name t) m

theorem forgotten_askCache (m : Manager) (name : String) :
    (m.askCache name).2.forgotten = m.forgotten := by
  rw [askCache_snd]
  exact forgotten_mapCache (fun c => c.capacity_get name) m

theorem clear_clear (m : Manager) : m.clear.clear = m.clear := by
  obtain ⟨_, _, _, _, cache, _, _⟩ := m
  cases cache <;> rfl

theorem forgotten_clear (m : Manager) : m.clear.forgotten = m.forgotten := by
  rw [forgotten, clear_clear, forgotten]

variable (m now files name)

theorem forgotten_read : (m.read now files name).2.forgotten = m.forgotten := by
  cases hread : m.loader.readNamed now files m.config.promptsDir name with
  | error e =>
      rw [read_of_unreadable hread]
  | ok t =>
      cases hcheck : m.check t with
      | error e =>
          rw [read_of_rejected hread hcheck]
          rfl
      | ok _ =>
          rw [read_of_accepted hread hcheck, forgotten_remember]
          rfl

theorem forgotten_load : (m.load now files name).2.forgotten = m.forgotten := by
  cases hask : (m.askCache name).1 with
  | some t =>
      rw [load_of_cached hask, forgotten_askCache]
  | none =>
      cases hkept : (m.askCache name).2.registry.get? name with
      | some t =>
          rw [load_of_registered hask hkept, forgotten_remember, forgotten_askCache]
      | none =>
          rw [load_of_unknown hask hkept, forgotten_read, forgotten_askCache]

theorem forgotten_register (t : Template) : (m.register t).2.forgotten = m.forgotten := by
  cases hcheck : m.check t with
  | error e =>
      rw [register_of_rejected hcheck]
  | ok _ =>
      rw [register_of_accepted hcheck]
      exact forgotten_mapCache (f := (·.set t.name t)) (fun _ => rfl) (m.keep t.name t)

theorem forgotten_list : (m.list now files).2.forgotten = m.forgotten := by
  cases hlisted : m.listed with
  | true =>
      rw [list_of_listed hlisted]
  | false =>
      cases hread : (m.readDirectory now files).1 with
      | error e =>
          rw [list_of_aborted hlisted hread, readDirectory_eq]
          rfl
      | ok r =>
          rw [list_of_read hlisted hread, readDirectory_eq]
          rfl

theorem forgotten_reload : (m.reload now files).2.forgotten = m.forgotten := by
  rw [← forgotten_clear m]
  cases hread : (m.clear.readDirectory now files).1 with
  | error e =>
      rw [reload_of_aborted hread, readDirectory_eq]
      rfl
  | ok r =>
      rw [reload_of_read hread, readDirectory_eq]
      rfl

/-- A reload begins with a clear, so a clear before it adds nothing. -/
theorem reload_clear : m.clear.reload now files = m.reload now files := by
  unfold reload
  rw [clear_clear]

variable {m}

/-- A reload gives the same of managers of which the same is left, and leaves the same. -/
theorem reload_agree (h : m.forgotten = m'.forgotten) :
    Agree (m.reload now files) (m'.reload now files) := by
  rw [← reload_clear m, ← reload_clear m']
  exact (countBlind_reload now files).agree h

end Forgetting

end Manager

namespace World

open Manager (Agree CountBlind)

variable {w w' : World}

/-- The same world with a manager without counts. -/
def uncounted (w : World) : World :=
  { w with manager := w.manager.uncounted }

/-- What came of a step, and the world after it but for the counts. -/
def told (x : Outcome × World) : Outcome × World :=
  (x.1, x.2.uncounted)

theorem told_after_eq {α : Type} {m m' : Manager} {files : Tree} {r r' : α × Manager}
    (h : Agree r r') (outcome : α → Outcome) :
    told (after ⟨m, files⟩ outcome r) = told (after ⟨m', files⟩ outcome r') := by
  simp [told, after, uncounted, h.result, h.manager]

theorem told_finish_eq {r r' : Except ExecutionError Template × Manager} (h : Agree r r')
    (operation : Operation) (now : Timestamp) (files : Tree) :
    told (operation.finish now files r) = told (operation.finish now files r') := by
  have hengine := Manager.eq_of_uncounted_eq Manager.engine (fun _ => rfl) h.manager
  refine Prod.ext ?_ (congrArg (World.mk · files) h.manager)
  show operation.ran r.2.engine now r.1 = operation.ran r'.2.engine now r'.1
  rw [h.result, hengine]

/-- The counts do not show in a step. -/
theorem told_step_eq (h : w.uncounted = w'.uncounted) (s : Step) :
    told (w.step s) = told (w'.step s) := by
  have hmanager : w.manager.uncounted = w'.manager.uncounted := congrArg World.manager h
  obtain ⟨m, files⟩ := w
  obtain ⟨m', files'⟩ := w'
  obtain rfl : files = files' := congrArg World.files h
  cases hneeds : s.operation.needs? with
  | some name =>
      rw [step_of_needs hneeds, step_of_needs hneeds]
      exact told_finish_eq ((Manager.countBlind_load s.now files name).agree hmanager) _ _ _
  | none =>
      obtain ⟨now, operation⟩ := s
      cases operation with
      | register t =>
          exact told_after_eq ((Manager.countBlind_register t).agree hmanager) _
      | get name =>
          have hkept := Manager.eq_of_uncounted_eq (·.get? name) (fun _ => rfl) hmanager
          exact Prod.ext (congrArg Outcome.kept hkept) h
      | list =>
          exact told_after_eq ((Manager.countBlind_list now files).agree hmanager) _
      | reload =>
          exact told_after_eq ((Manager.countBlind_reload now files).agree hmanager) _
      | validateAll =>
          have hreports := Manager.eq_of_uncounted_eq (·.validateAll) (fun _ => rfl) hmanager
          exact Prod.ext (congrArg Outcome.reports hreports) h
      | clear =>
          have hleft := Manager.eq_of_uncounted_eq (·.forgotten) Manager.uncounted_clear hmanager
          exact Prod.ext rfl (congrArg (World.mk · files) hleft)
      | change edit =>
          exact Prod.ext rfl (congrArg (World.mk · (edit files)) hmanager)
      | load _ | render _ _ _ | execute _ _ _ _ | stream _ _ _ _ _ =>
          cases hneeds

/-- The counts do not show in a run. -/
theorem told_trace_eq (h : w.uncounted = w'.uncounted) (steps : List Step) :
    (w.trace steps).map told = (w'.trace steps).map told := by
  -- A step leaves worlds that differ in their counts only, which is what the next step asks for.
  induction steps generalizing w w' with
  | nil =>
      rfl
  | cons s rest ih =>
      have hstep := told_step_eq h s
      simp only [trace, List.map_cons]
      rw [hstep, ih (congrArg Prod.snd hstep)]

/-- A reload tells nothing of the templates that there were before. -/
theorem told_reload_eq (h : w.manager.forgotten = w'.manager.forgotten)
    (hfiles : w.files = w'.files) (now : Timestamp) :
    told (w.step ⟨now, .reload⟩) = told (w'.step ⟨now, .reload⟩) := by
  obtain ⟨m, files⟩ := w
  obtain ⟨m', files'⟩ := w'
  obtain rfl : files = files' := hfiles
  exact told_after_eq (Manager.reload_agree now files h) _

/-- What is left of a manager without its templates is the same after every step. -/
theorem forgotten_step (w : World) (s : Step) :
    (w.step s).2.manager.forgotten = w.manager.forgotten := by
  cases hneeds : s.operation.needs? with
  | some name =>
      rw [step_of_needs hneeds]
      exact Manager.forgotten_load w.manager s.now w.files name
  | none =>
      obtain ⟨now, operation⟩ := s
      cases operation with
      | register t => exact Manager.forgotten_register w.manager t
      | list => exact Manager.forgotten_list w.manager now w.files
      | reload => exact Manager.forgotten_reload w.manager now w.files
      | clear => exact Manager.forgotten_clear w.manager
      | get _ | validateAll | change _ => rfl
      | load _ | render _ _ _ | execute _ _ _ _ | stream _ _ _ _ _ => cases hneeds

theorem forgotten_run (w : World) (steps : List Step) :
    (w.run steps).manager.forgotten = w.manager.forgotten := by
  induction steps generalizing w with
  | nil => rfl
  | cons s rest ih => exact (ih (w.step s).2).trans (forgotten_step w s)

/--
Two managers that were set up alike, whatever each went through, and the same files: a reload gives
the same of both, and so does every step of any run after it.  A clear leaves a manager that answers
every step of any run as a new one does.  The states after each step are the same as well, but for
what was counted.
-/
theorem forgets_past (config : ManagerConfig) (backend : Backend) (files files' : Tree)
    (past past' : List Step)
    (hfiles : (run ⟨.new config backend, files⟩ past).files =
      (run ⟨.new config backend, files'⟩ past').files)
    (now : Timestamp) (steps : List Step) :
    let w := run ⟨.new config backend, files⟩ past
    let w' := run ⟨.new config backend, files'⟩ past'
    (w.trace (⟨now, .reload⟩ :: steps)).map told = (w'.trace (⟨now, .reload⟩ :: steps)).map told ∧
      (trace (w.step ⟨now, .clear⟩).2 steps).map told =
        (trace ⟨.new config backend, w.files⟩ steps).map told := by
  intro w w'
  have hleft : ∀ files past, (run ⟨.new config backend, files⟩ past).manager.forgotten =
      (Manager.new config backend).forgotten :=
    fun files past => forgotten_run ⟨.new config backend, files⟩ past
  constructor
  · have hreload : told (w.step ⟨now, .reload⟩) = told (w'.step ⟨now, .reload⟩) :=
      told_reload_eq ((hleft files past).trans (hleft files' past').symm) hfiles now
    simp only [trace, List.map_cons]
    rw [hreload, told_trace_eq (congrArg Prod.snd hreload) steps]
  · apply told_trace_eq
    have hclear : w.manager.clear.uncounted = (Manager.new config backend).uncounted := by
      rw [← Manager.forgotten_new config backend, Manager.forgotten, Manager.uncounted_idem]
      exact hleft files past
    exact congrArg (World.mk · w.files) hclear

section Twins

/-- A manager with room for two templates in its cache. -/
def cachingConfig : ManagerConfig :=
  { (default : ManagerConfig) with cacheEnabled := true, cacheCapacity := 2 }

/-- A history with a template that was registered, also in the cache. -/
def rememberedPast : List Step :=
  [⟨.epoch, .register default⟩, ⟨.epoch, .load ""⟩, ⟨.epoch, .change fun _ => spoiledFiles⟩]

/-- A history of vain requests. -/
def vainPast : List Step :=
  [⟨.epoch, .load "t"⟩, ⟨.epoch, .list⟩]

theorem forgets_past_twins :
    (run ⟨.new cachingConfig .stalling, ⟨[], []⟩⟩ rememberedPast).files =
        (run ⟨.new cachingConfig .stalling, spoiledFiles⟩ vainPast).files ∧
      (trace (run ⟨.new cachingConfig .stalling, ⟨[], []⟩⟩ rememberedPast)
          [⟨.epoch, .reload⟩, ⟨.epoch, .get ""⟩]).map told =
        (trace (run ⟨.new cachingConfig .stalling, spoiledFiles⟩ vainPast)
          [⟨.epoch, .reload⟩, ⟨.epoch, .get ""⟩]).map told := by
  have hfiles : (run ⟨.new cachingConfig .stalling, ⟨[], []⟩⟩ rememberedPast).files =
      (run ⟨.new cachingConfig .stalling, spoiledFiles⟩ vainPast).files := rfl
  exact ⟨hfiles,
    (forgets_past cachingConfig .stalling ⟨[], []⟩ spoiledFiles rememberedPast vainPast hfiles
      .epoch [⟨.epoch, .get ""⟩]).1⟩

end Twins

end World

end PromptBook
