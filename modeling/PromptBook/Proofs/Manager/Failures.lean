import PromptBook.Proofs.Loader.Outcome
import PromptBook.Proofs.Manager.Running

/-!
# What a failing operation leaves behind

An operation that fails has changed nothing but counts, or it has completed a change before: a reload
has forgotten all templates, and an execution has loaded its template.

**Results.**
* `uncounted_load_of_error`, `uncounted_list_of_error`, `uncounted_reload_of_error`: single
  operations.
* `intact_of_error`: any step that fails.
-/

namespace PromptBook

open Files (Tree)

/-- A cache without its counts. -/
def Cache.uncounted {α : Type} (c : Cache α) : Cache α :=
  { c with hits := 0, misses := 0 }

namespace Manager

variable {m : Manager} {now : Timestamp} {files : Tree} {name : String} {t : Template}
variable {e : ExecutionError}

/-- A manager without its counts: the templates it keeps, what its cache holds and in which order,
whether it read the directory, and what it is set up to do. -/
def uncounted (m : Manager) : Manager :=
  { m with metrics := .zero, cache := m.cache.map Cache.uncounted }

@[simp] theorem uncounted_countParsed (m : Manager) (n : Nat) :
    (m.countParsed n).uncounted = m.uncounted := rfl

@[simp] theorem uncounted_countExecution {α : Type} (m : Manager) (streaming : Bool)
    (x : Execution α) : (m.countExecution streaming x).2.uncounted = m.uncounted := rfl

theorem uncounted_readDirectory (m : Manager) (now : Timestamp) (files : Tree) :
    (m.readDirectory now files).2.uncounted = m.uncounted := by
  rw [readDirectory_eq, uncounted_countParsed]

/-- A cache that is asked in vain counts that and does nothing else. -/
theorem uncounted_askCache_of_missed (h : (m.askCache name).1 = none) :
    (m.askCache name).2.uncounted = m.uncounted := by
  unfold askCache at h ⊢
  cases hcache : m.cache with
  | none =>
      rfl
  | some c =>
      rw [hcache] at h
      have hget : (c.get name).2.uncounted = c.uncounted := by
        unfold Cache.get at h ⊢
        split <;> simp_all [Cache.uncounted]
      simp [uncounted, hcache, hget]

theorem uncounted_read_of_error (h : (m.read now files name).1 = .error e) :
    (m.read now files name).2.uncounted = m.uncounted := by
  cases hread : m.loader.readNamed now files m.config.promptsDir name with
  | error cause =>
      rw [read_of_unreadable hread]
  | ok t =>
      cases hcheck : m.check t with
      | error cause =>
          rw [read_of_rejected hread hcheck, uncounted_countParsed]
      | ok _ =>
          rw [read_of_accepted hread hcheck] at h
          cases h

theorem uncounted_load_of_error (h : (m.load now files name).1 = .error e) :
    (m.load now files name).2.uncounted = m.uncounted := by
  cases hask : (m.askCache name).1 with
  | some t =>
      rw [load_of_cached hask] at h
      cases h
  | none =>
      cases hkept : (m.askCache name).2.registry.get? name with
      | some t =>
          rw [load_of_registered hask hkept] at h
          cases h
      | none =>
          rw [load_of_unknown hask hkept] at h ⊢
          rw [uncounted_read_of_error h, uncounted_askCache_of_missed hask]

theorem register_of_error (h : (m.register t).1 = .error e) : (m.register t).2 = m := by
  cases hcheck : m.check t with
  | error cause =>
      rw [register_of_rejected hcheck]
  | ok _ =>
      rw [register_of_accepted hcheck] at h
      cases h

theorem uncounted_list_of_error (h : (m.list now files).1 = .error e) :
    (m.list now files).2.uncounted = m.uncounted := by
  cases hlisted : m.listed with
  | true =>
      rw [list_of_listed hlisted]
  | false =>
      cases hread : (m.readDirectory now files).1 with
      | error cause =>
          rw [list_of_aborted hlisted hread, uncounted_readDirectory]
      | ok found =>
          rw [list_of_read hlisted hread] at h
          cases h

theorem uncounted_reload_of_error (h : (m.reload now files).1 = .error e) :
    (m.reload now files).2.uncounted = m.clear.uncounted := by
  cases hread : (m.clear.readDirectory now files).1 with
  | error cause =>
      rw [reload_of_aborted hread, uncounted_readDirectory]
  | ok found =>
      rw [reload_of_read hread] at h
      cases h

section Running

variable (m now files name)

theorem uncounted_render (values : Values) (o : Options) :
    (m.render now files name values o).2.uncounted = (m.load now files name).2.uncounted := by
  rw [render_leaves]

theorem uncounted_execute (cancelled : Bool) (values : Values) (o : Options) :
    (m.execute now files cancelled name values o).2.uncounted =
      (m.load now files name).2.uncounted := by
  rw [execute_leaves, uncounted_countExecution]

theorem uncounted_executeStreaming (cancelled : Bool) (values : Values) (o : Options)
    (handler : Handler) :
    (m.executeStreaming now files cancelled name values o handler).2.uncounted =
      (m.load now files name).2.uncounted := by
  rw [executeStreaming_leaves, uncounted_countExecution]

end Running

/-- A manager without any templates, neither kept nor in its cache, that read no directory. -/
def Blank (m : Manager) : Prop :=
  m.registry = [] ∧ (∀ c, m.cache = some c → c.entries = []) ∧ m.listed = false

/-- Whatever was counted since, a manager that forgot everything is blank. -/
theorem blank_of_uncounted_eq {m' : Manager} (h : m'.uncounted = m.clear.uncounted) :
    m'.Blank := by
  refine ⟨congrArg registry h, ?_, congrArg listed h⟩
  intro c hc
  have hcache : m'.cache.map Cache.uncounted = m.clear.cache.map Cache.uncounted :=
    congrArg cache h
  rw [hc, eq_comm, Option.map_some, Option.map_eq_some_iff] at hcache
  obtain ⟨cleared, hcleared, heq⟩ := hcache
  obtain ⟨before, _, rfl⟩ := Option.map_eq_some_iff.mp hcleared
  exact (congrArg Cache.entries heq).symm

end Manager

namespace World

variable {w : World} {s : Step} {e : ExecutionError}

/--
What a failing step leaves behind in any state.  A load, a registration or a listing that fails
leaves the manager as it was, counts apart; a reload leaves it as if it had only been cleared; and a
request or an execution as the load of its template alone would leave it, which is as it was if that
load failed.
-/
theorem intact_of_error (h : (w.step s).1.error? = some e) :
    let after := (w.step s).2.manager
    match s.operation with
    | .reload => after.uncounted = w.manager.clear.uncounted ∧ after.Blank
    | .render name _ _ | .execute _ name _ _ | .stream _ name _ _ _ =>
        after.uncounted = (w.manager.load s.now w.files name).2.uncounted ∧
          (∀ cause, (w.manager.load s.now w.files name).1 = .error cause →
            after.uncounted = w.manager.uncounted)
    | _ => after.uncounted = w.manager.uncounted := by
  obtain ⟨now, operation⟩ := s
  cases operation with
  | load name =>
      exact Manager.uncounted_load_of_error (Outcome.errorOf?_eq_some_iff.mp h)
  | register t =>
      exact congrArg _ (Manager.register_of_error (Outcome.errorOf?_eq_some_iff.mp h))
  | list =>
      exact Manager.uncounted_list_of_error (Outcome.errorOf?_eq_some_iff.mp h)
  | reload =>
      have hleft := Manager.uncounted_reload_of_error (Outcome.errorOf?_eq_some_iff.mp h)
      exact ⟨hleft, Manager.blank_of_uncounted_eq hleft⟩
  | render name values o =>
      have hleft := w.manager.uncounted_render now w.files name values o
      exact ⟨hleft, fun _ hload => hleft.trans (Manager.uncounted_load_of_error hload)⟩
  | execute cancelled name values o =>
      have hleft := w.manager.uncounted_execute now w.files name cancelled values o
      exact ⟨hleft, fun _ hload => hleft.trans (Manager.uncounted_load_of_error hload)⟩
  | stream cancelled name values o handler =>
      have hleft := w.manager.uncounted_executeStreaming now w.files name cancelled values o handler
      exact ⟨hleft, fun _ hload => hleft.trans (Manager.uncounted_load_of_error hload)⟩
  | get name => cases h
  | validateAll => cases h
  | clear => cases h
  | change edit => cases h

section Spoiled

/-- A directory with a file that holds no text. -/
def spoiledFiles : Tree :=
  ⟨[(["p"], .directory), (["p", "t.yaml"], .file none 0)], []⟩

theorem readDirectory_spoiledFiles :
    (Loader.new ["yaml"]).readDirectory .epoch spoiledFiles "p" =
      ⟨[], [⟨"p/t.yaml", .file .notText⟩]⟩ := by
  have hfolder : spoiledFiles = .folder [("t.yaml", none)] := rfl
  have haccepts : (Loader.new ["yaml"]).accepts "t.yaml" = true := by
    decide
  have hjoin : Path.join "p" "t.yaml" = "p/t.yaml" := by
    decide
  have hcandidates : (Loader.new ["yaml"]).candidates spoiledFiles "p" = ["p/t.yaml"] := by
    rw [hfolder, Loader.candidates_folder (List.pairwise_singleton _ _)]
    simp [haccepts, hjoin]
  have hread : Loader.readAt .epoch spoiledFiles "p/t.yaml" = .error (.file .notText) := by
    rw [hfolder, ← hjoin, Loader.readAt, Tree.readText_join (by decide)]
    rfl
  simp [Loader.readDirectory, hcandidates, Loader.addFile, hread, LoadOutcome.empty]

/-- A strict manager of the directory that keeps a template, also in its cache. -/
def strictManager : Manager :=
  let config : ManagerConfig := ⟨"p", ["yaml"], true, 2, false, true, true, none⟩
  ((Manager.new config .stalling).keep "old" default).remember "old" default

theorem blank_after_reload :
    (step ⟨strictManager, spoiledFiles⟩ ⟨.epoch, .reload⟩).1.error? =
        some (.loadAborted 1 (.file .notText)) ∧
      (step ⟨strictManager, spoiledFiles⟩ ⟨.epoch, .reload⟩).2.manager.Blank := by
  have hread : (strictManager.clear.readDirectory .epoch spoiledFiles).1 =
      .error (.loadAborted 1 (.file .notText)) := by
    rw [Manager.readDirectory_eq]
    exact congrArg strictManager.clear.verdict readDirectory_spoiledFiles
  have hfails : (step ⟨strictManager, spoiledFiles⟩ ⟨.epoch, .reload⟩).1.error? =
      some (.loadAborted 1 (.file .notText)) :=
    Outcome.errorOf?_eq_some_iff.mpr (congrArg Prod.fst (Manager.reload_of_aborted hread))
  exact ⟨hfails, (intact_of_error hfails).2⟩

end Spoiled

end World

end PromptBook
