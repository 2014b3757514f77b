import PromptBook.Proofs.Cache.Recency
import PromptBook.Proofs.Loader.Outcome
import PromptBook.Proofs.Manager.Listing
import PromptBook.Proofs.Manager.Staying

/-!
# What the counts of a manager say

A manager counts executions, the templates that it read from files and how often its cache was
asked.  What a step adds to a count can be said without the count: from the operation, from what came
of it, and from the files as they were.  So after a run each count is the sum of what its steps add,
in whatever way they ended.

**Results.**
* `World.metrics_step`, `World.metrics_run`: executions and templates read from files.
* `World.lookups_step`, `World.lookups_run`: what the cache was asked for.
* `World.counts_of_run`: the counts of a new manager after a run.
-/

namespace PromptBook

open Files (Tree)

namespace Metrics

/-- The counts of two stretches of time together. -/
def plus (a b : Metrics) : Metrics where
  total := a.total + b.total
  successful := a.successful + b.successful
  failed := a.failed + b.failed
  streaming := a.streaming + b.streaming
  parsed := a.parsed + b.parsed

theorem zero_plus (a : Metrics) : zero.plus a = a := by
  simp [plus, zero]

theorem plus_assoc (a b c : Metrics) : (a.plus b).plus c = a.plus (b.plus c) := by
  simp [plus, Nat.add_assoc]

end Metrics

namespace Operation

/-- Whether an operation is an execution. -/
def executes : Operation → Bool
  | execute _ _ _ _ | stream _ _ _ _ _ => true
  | load _ | render _ _ _ | register _ | get _ | list | reload | validateAll | clear
  | change _ => false

/-- Whether an operation is an execution to an answer that comes piece by piece. -/
def streams : Operation → Bool
  | stream _ _ _ _ _ => true
  | load _ | render _ _ _ | execute _ _ _ _ | register _ | get _ | list | reload | validateAll
  | clear | change _ => false

end Operation

/-- Whether the execution that something came of was a success. -/
def Outcome.success? : Outcome → Option Bool
  | response execution => some execution.result.isOk
  | streamed execution => some execution.result.isOk
  | template _ | kept _ | templates _ | summary _ | reports _ | request _ | nothing => none

/-- How many of the files at some paths hold a template. -/
def Loader.countTemplates (now : Timestamp) (files : Tree) (paths : List String) : Nat :=
  paths.countP fun path => (readAt now files path).isOk

namespace Manager

/-- Whether a template is at hand under a name, so that no file is read for it. -/
def hasAtHand (m : Manager) (name : String) : Bool :=
  m.cache.any (·.contains name) || (m.registry.get? name).isSome

/-- How often the cache was asked with success, and how often without. -/
def lookups (m : Manager) : Option (Nat × Nat) :=
  m.cache.map fun c => (c.hits, c.misses)

end Manager

namespace World

/-- The paths of the files that a step looks into for a template. -/
def opened (w : World) (s : Step) : List String :=
  match s.operation with
  | .load name | .render name _ _ | .execute _ name _ _ | .stream _ name _ _ _ =>
      if w.manager.hasAtHand name then []
      else (w.manager.loader.find? w.files w.manager.config.promptsDir name).toList
  | .list =>
      if w.manager.listed then []
      else w.manager.loader.candidates w.files w.manager.config.promptsDir
  | .reload => w.manager.loader.candidates w.files w.manager.config.promptsDir
  | .register _ | .get _ | .validateAll | .clear | .change _ => []

/-- How many of the files that a step looks into hold a template. -/
def parses (w : World) (s : Step) : Nat :=
  Loader.countTemplates s.now w.files (w.opened s)

/-- How many files with a template the steps of a run look into. -/
def parsesOf : World → List Step → Nat
  | _, [] => 0
  | w, s :: rest => w.parses s + (w.step s).2.parsesOf rest

/-- What the steps of a run come to. -/
def account (w : World) (steps : List Step) : Metrics where
  total := steps.countP (·.operation.executes)
  successful := (w.trace steps).countP (·.1.success? == some true)
  failed := (w.trace steps).countP (·.1.success? == some false)
  streaming := steps.countP (·.operation.streams)
  parsed := w.parsesOf steps

end World

namespace Manager

variable {m : Manager} {now : Timestamp} {files : Tree} {name : String} {t : Template}

section Parsed

theorem length_templates_readDirectory (l : Loader) (now : Timestamp) (files : Tree)
    (dir : String) :
    (l.readDirectory now files dir).templates.length =
      Loader.countTemplates now files (l.candidates files dir) := by
  have hisOk : ∀ path, (Loader.readAt now files path).toOption.isSome =
      (Loader.readAt now files path).isOk := by
    intro path
    cases Loader.readAt now files path <;> rfl
  rw [Loader.templates_readDirectory, List.length_filterMap_eq_countP, Loader.countTemplates]
  simp only [hisOk]

theorem hasAtHand_iff :
    m.hasAtHand name = true ↔
      (m.askCache name).1.isSome = true ∨ (m.registry.get? name).isSome = true := by
  cases hcache : m.cache with
  | none => simp [hasAtHand, askCache, hcache]
  | some c =>
      have hheld : c.contains name = (c.held? name).isSome := by
        rw [Bool.eq_iff_iff, Cache.contains_iff, Cache.held?_isSome_iff]
      simp [hasAtHand, askCache, hcache, Cache.get_fst, hheld]

theorem metrics_askCache (m : Manager) (name : String) :
    (m.askCache name).2.metrics = m.metrics := by
  rw [askCache_snd]
  rfl

/-- To read the file for a name counts the template in it, if there is one, whether or not it may be
kept. -/
theorem metrics_read (m : Manager) (now : Timestamp) (files : Tree) (name : String) :
    (m.read now files name).2.metrics =
      m.metrics.addParsed
        (Loader.countTemplates now files
          (m.loader.find? files m.config.promptsDir name).toList) := by
  cases hread : m.loader.readNamed now files m.config.promptsDir name with
  | error e =>
      rw [read_of_unreadable hread]
      unfold Loader.readNamed at hread
      cases hfind : m.loader.find? files m.config.promptsDir name with
      | none => rfl
      | some path =>
          rw [hfind] at hread
          simp [hread, Loader.countTemplates, Metrics.addParsed, Except.isOk, Except.toBool]
  | ok t =>
      obtain ⟨path, hfind, hpath⟩ := Loader.readNamed_eq_ok_iff.mp hread
      have hone : Loader.countTemplates now files
          (m.loader.find? files m.config.promptsDir name).toList = 1 := by
        simp [Loader.countTemplates, hfind, hpath, Except.isOk, Except.toBool]
      rw [hone]
      cases hcheck : m.check t with
      | error e =>
          rw [read_of_rejected hread hcheck]
          rfl
      | ok _ =>
          rw [read_of_accepted hread hcheck]
          rfl

theorem metrics_load_of_atHand (h : m.hasAtHand name = true) :
    (m.load now files name).2.metrics = m.metrics := by
  cases hask : (m.askCache name).1 with
  | some t =>
      rw [load_of_cached hask, metrics_askCache]
  | none =>
      have hreg : (m.askCache name).2.registry = m.registry := by
        rw [askCache_snd]
        rfl
      have hkept : (m.registry.get? name).isSome = true := by
        simpa [hask] using hasAtHand_iff.mp h
      obtain ⟨t, ht⟩ := Option.isSome_iff_exists.mp hkept
      rw [load_of_registered hask (hreg ▸ ht)]
      exact metrics_askCache m name

theorem metrics_load_of_absent (h : m.hasAtHand name = false) :
    (m.load now files name).2.metrics =
      m.metrics.addParsed
        (Loader.countTemplates now files
          (m.loader.find? files m.config.promptsDir name).toList) := by
  have habsent := hasAtHand_iff.not.mp (ne_true_of_eq_false h)
  simp only [not_or, Bool.not_eq_true, Option.isSome_eq_false_iff, Option.isNone_iff_eq_none]
    at habsent
  rw [load_of_unknown habsent.1 (by rw [askCache_snd]; exact habsent.2), metrics_read, askCache_snd]
  rfl

theorem metrics_list_of_unlisted (h : m.listed = false) :
    (m.list now files).2.metrics =
      m.metrics.addParsed
        (Loader.countTemplates now files
          (m.loader.candidates files m.config.promptsDir)) := by
  rw [← length_templates_readDirectory]
  cases hread : (m.readDirectory now files).1 with
  | error e =>
      rw [list_of_aborted h hread, readDirectory_eq]
      rfl
  | ok r =>
      rw [list_of_read h hread, readDirectory_eq]
      rfl

theorem metrics_reload (m : Manager) (now : Timestamp) (files : Tree) :
    (m.reload now files).2.metrics =
      m.metrics.addParsed
        (Loader.countTemplates now files
          (m.loader.candidates files m.config.promptsDir)) := by
  rw [← length_templates_readDirectory]
  cases hread : (m.clear.readDirectory now files).1 with
  | error e =>
      rw [reload_of_aborted hread, readDirectory_eq]
      rfl
  | ok r =>
      rw [reload_of_read hread, readDirectory_eq]
      rfl

end Parsed

section Lookups

theorem lookups_mapCache {f : Cache Template → Cache Template}
    (hf : ∀ c, (f c).hits = c.hits ∧ (f c).misses = c.misses) (m : Manager) :
    (m.mapCache f).lookups = m.lookups := by
  simp [lookups, mapCache, Function.comp_def, hf]

theorem lookups_remember (m : Manager) (name : String) (t : Template) :
    (m.remember name t).lookups = m.lookups := by
  refine lookups_mapCache (fun c => ?_) m
  unfold Cache.insertIfAbsent
  cases c.contains name <;> exact ⟨rfl, rfl⟩

/-- A cache that is asked counts that it was, on one side or the other. -/
theorem lookups_askCache (m : Manager) (name : String) :
    (m.askCache name).2.lookups =
      m.lookups.map fun counts =>
        if (m.askCache name).1.isSome then (counts.1 + 1, counts.2)
        else (counts.1, counts.2 + 1) := by
  cases hcache : m.cache with
  | none => simp [lookups, askCache, hcache]
  | some c =>
      cases hheld : c.held? name with
      | some t => simp [lookups, askCache, hcache, Cache.get_of_held? hheld]
      | none => simp [lookups, askCache, hcache, Cache.get_of_not_held? hheld]

theorem lookups_read (m : Manager) (now : Timestamp) (files : Tree) (name : String) :
    (m.read now files name).2.lookups = m.lookups := by
  cases hread : m.loader.readNamed now files m.config.promptsDir name with
  | error e =>
      rw [read_of_unreadable hread]
  | ok t =>
      cases hcheck : m.check t with
      | error e =>
          rw [read_of_rejected hread hcheck]
          rfl
      | ok _ =>
          rw [read_of_accepted hread hcheck, lookups_remember]
          rfl

/-- A load asks the cache once, and nothing that follows asks it again. -/
theorem lookups_load (m : Manager) (now : Timestamp) (files : Tree) (name : String) :
    (m.load now files name).2.lookups = (m.askCache name).2.lookups := by
  cases hask : (m.askCache name).1 with
  | some t =>
      rw [load_of_cached hask]
  | none =>
      cases hkept : (m.askCache name).2.registry.get? name with
      | some t =>
          rw [load_of_registered hask hkept, lookups_remember]
      | none =>
          rw [load_of_unknown hask hkept, lookups_read]

theorem lookups_register (m : Manager) (t : Template) :
    (m.register t).2.lookups = m.lookups := by
  cases hcheck : m.check t with
  | error e =>
      rw [register_of_rejected hcheck]
  | ok _ =>
      rw [register_of_accepted hcheck]
      exact lookups_mapCache (f := (·.set t.name t)) (fun _ => ⟨rfl, rfl⟩) (m.keep t.name t)

theorem lookups_clear (m : Manager) : m.clear.lookups = m.lookups := by
  simp [lookups, clear, Function.comp_def, Cache.clear]

theorem lookups_list (m : Manager) (now : Timestamp) (files : Tree) :
    (m.list now files).2.lookups = m.lookups := by
  cases hlisted : m.listed with
  | true =>
      rw [list_of_listed hlisted]
  | false =>
      cases hread : (m.readDirectory now files).1 with
      | error e =>
          rw [list_of_aborted hlisted hread, readDirectory_eq]
          rfl
      | ok r =>
          rw [list_of_read hlisted hread, readDirectory_eq]
          rfl

theorem lookups_reload (m : Manager) (now : Timestamp) (files : Tree) :
    (m.reload now files).2.lookups = m.lookups := by
  rw [← lookups_clear m]
  cases hread : (m.clear.readDirectory now files).1 with
  | error e =>
      rw [reload_of_aborted hread, readDirectory_eq]
      rfl
  | ok r =>
      rw [reload_of_read hread, readDirectory_eq]
      rfl

end Lookups

end Manager

namespace World

variable {w : World} {s : Step} {name : String}

section Executions

theorem opened_of_needs (h : s.operation.needs? = some name) :
    w.opened s =
      if w.manager.hasAtHand name then []
      else (w.manager.loader.find? w.files w.manager.config.promptsDir name).toList := by
  obtain ⟨now, operation⟩ := s
  cases operation with
  | load _ | render _ _ _ | execute _ _ _ _ | stream _ _ _ _ _ =>
      cases h
      rfl
  | register _ | get _ | list | reload | validateAll | clear | change _ => cases h

/-- What an execution that ended adds to the counts. -/
theorem addExecution_of_ended {success : Bool} (hexecutes : s.operation.executes = true)
    (hends : (w.step s).1.success? = some success) (m : Metrics) :
    m.addExecution success s.operation.streams =
      m.plus { w.account [s] with parsed := 0 } := by
  cases success <;> cases hstreams : s.operation.streams <;>
    simp [account, trace, hexecutes, hends, hstreams, Metrics.addExecution, Metrics.plus]

/-- An outcome tallies what the step adds to the executions, and nothing else. -/
theorem tally_step (w : World) (s : Step) (m : Metrics) :
    (w.step s).1.tally m = m.plus { w.account [s] with parsed := 0 } := by
  obtain ⟨now, operation⟩ := s
  cases operation with
  | execute cancelled name values o =>
      exact addExecution_of_ended (s := ⟨now, .execute cancelled name values o⟩) rfl rfl m
  | stream cancelled name values o handler =>
      exact addExecution_of_ended (s := ⟨now, .stream cancelled name values o handler⟩) rfl rfl m
  | load _ | render _ _ _ | register _ | get _ | list | reload | validateAll | clear | change _ =>
      rfl

/-- A step tallies what came of it, after the templates that it read from files. -/
theorem metrics_step_eq_tally (w : World) (s : Step) :
    (w.step s).2.manager.metrics =
      (w.step s).1.tally (w.manager.metrics.addParsed (w.parses s)) := by
  cases hneeds : s.operation.needs? with
  | some name =>
      have hload : (w.manager.load s.now w.files name).2.metrics =
          w.manager.metrics.addParsed (w.parses s) := by
        cases hthere : w.manager.hasAtHand name with
        | true =>
            rw [Manager.metrics_load_of_atHand hthere, parses, opened_of_needs hneeds, hthere]
            rfl
        | false =>
            rw [Manager.metrics_load_of_absent hthere, parses, opened_of_needs hneeds, hthere]
            rfl
      rw [← hload, step_of_needs hneeds]
      rfl
  | none =>
      obtain ⟨now, operation⟩ := s
      cases operation with
      | list =>
          cases hlisted : w.manager.listed with
          | true =>
              show (w.manager.list now w.files).2.metrics = w.manager.metrics.addParsed _
              rw [Manager.list_of_listed hlisted, parses, opened]
              simp only [hlisted, if_true]
              rfl
          | false =>
              show (w.manager.list now w.files).2.metrics = w.manager.metrics.addParsed _
              rw [Manager.metrics_list_of_unlisted hlisted, parses, opened]
              simp only [hlisted, Bool.false_eq_true, if_false]
      | reload => exact Manager.metrics_reload w.manager now w.files
      | register t =>
          show (w.manager.register t).2.metrics = w.manager.metrics
          cases hcheck : w.manager.check t with
          | error e => rw [Manager.register_of_rejected hcheck]
          | ok _ =>
              rw [Manager.register_of_accepted hcheck]
              rfl
      | get _ | validateAll | clear | change _ => rfl
      | load _ | render _ _ _ | execute _ _ _ _ | stream _ _ _ _ _ => cases hneeds

/-- A step adds to the counts what it comes to by itself. -/
theorem metrics_step (w : World) (s : Step) :
    (w.step s).2.manager.metrics = w.manager.metrics.plus (w.account [s]) := by
  rw [metrics_step_eq_tally, tally_step]
  simp [Metrics.plus, Metrics.addParsed, account, parsesOf]

theorem account_cons (w : World) (s : Step) (rest : List Step) :
    w.account (s :: rest) = (w.account [s]).plus ((w.step s).2.account rest) := by
  simp only [account, trace, parsesOf, Metrics.plus, List.countP_cons, List.countP_nil]
  simp [Nat.add_comm]

/-- The steps of a run add to the counts what they come to. -/
theorem metrics_run (w : World) (steps : List Step) :
    (w.run steps).manager.metrics = w.manager.metrics.plus (w.account steps) := by
  induction steps generalizing w with
  | nil => rfl
  | cons s rest ih =>
      rw [account_cons w s rest, ← Metrics.plus_assoc, ← metrics_step]
      exact ih (w.step s).2

theorem success?_step (w : World) (s : Step) :
    (w.step s).1.success?.isSome = s.operation.executes := by
  obtain ⟨now, operation⟩ := s
  cases operation <;> rfl

/-- Every execution ends in one of two ways. -/
theorem successful_add_failed (w : World) (steps : List Step) :
    (w.account steps).successful + (w.account steps).failed = (w.account steps).total := by
  induction steps generalizing w with
  | nil => rfl
  | cons s rest ih =>
      rw [account_cons]
      have hrest := ih (w.step s).2
      have hone : (w.account [s]).successful + (w.account [s]).failed = (w.account [s]).total := by
        have hends := success?_step w s
        simp only [account, trace, List.countP_singleton]
        cases hsuccess : (w.step s).1.success? with
        | none => simp [← hends, hsuccess]
        | some success => cases success <;> simp [← hends, hsuccess]
      simp only [Metrics.plus]
      omega

end Executions

section Lookups

/-- A step that needs a template asks the cache once. -/
theorem lookups_step_of_needs (h : s.operation.needs? = some name) :
    (w.step s).2.manager.lookups = (w.manager.askCache name).2.lookups := by
  rw [step_of_needs h]
  exact Manager.lookups_load w.manager s.now w.files name

/-- A step that needs no template does not ask the cache. -/
theorem lookups_step_of_idle (w : World) (h : s.operation.needs? = none) :
    (w.step s).2.manager.lookups = w.manager.lookups := by
  obtain ⟨now, operation⟩ := s
  cases operation with
  | register t => exact Manager.lookups_register w.manager t
  | list => exact Manager.lookups_list w.manager now w.files
  | reload => exact Manager.lookups_reload w.manager now w.files
  | clear => exact Manager.lookups_clear w.manager
  | get _ | validateAll | change _ => rfl
  | load _ | render _ _ _ | execute _ _ _ _ | stream _ _ _ _ _ => cases h

/-- What a step adds to the hits and misses together. -/
theorem lookups_step {hits misses : Nat} (h : w.manager.lookups = some (hits, misses)) (s : Step) :
    ∃ hits' misses', (w.step s).2.manager.lookups = some (hits', misses') ∧
      hits' + misses' = hits + misses + s.operation.needs?.isSome.toNat := by
  cases hneeds : s.operation.needs? with
  | none => exact ⟨hits, misses, (lookups_step_of_idle w hneeds).trans h, rfl⟩
  | some name =>
      rw [lookups_step_of_needs hneeds, Manager.lookups_askCache, h]
      cases (w.manager.askCache name).1.isSome with
      | true => exact ⟨hits + 1, misses, rfl, Nat.add_right_comm hits 1 misses⟩
      | false => exact ⟨hits, misses + 1, rfl, rfl⟩

/-- The cache is asked once in every step that needs a template. -/
theorem lookups_run {hits misses : Nat} (h : w.manager.lookups = some (hits, misses))
    (steps : List Step) :
    ∃ hits' misses', (w.run steps).manager.lookups = some (hits', misses') ∧
      hits' + misses' = hits + misses + steps.countP (·.operation.needs?.isSome) := by
  induction steps generalizing w hits misses with
  | nil => exact ⟨hits, misses, h, rfl⟩
  | cons s rest ih =>
      obtain ⟨hits₁, misses₁, hstep, hone⟩ := lookups_step h s
      obtain ⟨hits', misses', hrun, hrest⟩ := ih hstep
      refine ⟨hits', misses', hrun, ?_⟩
      rw [hrest, hone, List.countP_cons]
      cases s.operation.needs?.isSome <;> simp [Nat.add_assoc, Nat.add_comm]

end Lookups

/--
A new manager after any run, whatever happened to the files in between.  The executions are the steps
that execute or stream, and each of them ended in success or in failure.  The templates read from
files are those in the files that the steps looked into, whether or not they could be kept.  If there
is a cache, it was asked once in every step that needs a template, and any other step leaves its hits
and its misses as they are.
-/
theorem counts_of_run (config : ManagerConfig) (backend : Backend) (files : Tree)
    (steps : List Step) :
    let start : World := ⟨.new config backend, files⟩
    let m := (start.run steps).manager
    m.metrics.total = steps.countP (·.operation.executes) ∧
      m.metrics.successful = (start.trace steps).countP (·.1.success? == some true) ∧
      m.metrics.failed = (start.trace steps).countP (·.1.success? == some false) ∧
      m.metrics.successful + m.metrics.failed = m.metrics.total ∧
      m.metrics.streaming = steps.countP (·.operation.streams) ∧
      m.metrics.parsed = start.parsesOf steps ∧
      (config.cacheEnabled = true → ∃ hits misses, m.lookups = some (hits, misses) ∧
        hits + misses = steps.countP (·.operation.needs?.isSome)) ∧
      ∀ s : Step, s.operation.needs? = none →
        ((start.run steps).step s).2.manager.lookups = m.lookups := by
  intro start m
  have hcounts : m.metrics = start.account steps := by
    rw [metrics_run start steps]
    exact Metrics.zero_plus _
  rw [hcounts]
  refine ⟨rfl, rfl, rfl, successful_add_failed start steps, rfl, rfl, ?_, ?_⟩
  · intro henabled
    have hnew : start.manager.lookups = some (0, 0) := by
      simp [start, Manager.new, Manager.lookups, henabled, Cache.new]
    simpa using lookups_run hnew steps
  · intro s hidle
    exact lookups_step_of_idle _ hidle

section Letters

open Manager (letters lettersConfig)
open Source (userDocument)

/-- A letter is read from its file, but there is no model to send it to; then it is sent to a model,
once for an answer at once and once for one piece by piece. -/
def countedSteps : List Step :=
  [⟨.epoch, .execute false "letter" [] ⟨none, .empty⟩⟩,
    ⟨.epoch, .execute false "letter" [] ⟨some "m", .empty⟩⟩,
    ⟨.epoch, .stream false "letter" [] ⟨some "m", .empty⟩ fun _ _ => ⟨false, none⟩⟩]

/-- A manager of the folder with the letter, and an echo. -/
def countedStart : World :=
  ⟨.new lettersConfig (.echo none), letters (userDocument "Hi")⟩

/-- What the first step leaves: the letter is kept, and the execution failed. -/
def countedRead : World :=
  { countedStart with
    manager := { countedStart.manager with
      registry := [("letter", .ofParts "letter" [.user "Hi"] none)]
      cache := some ⟨4, [("letter", .ofParts "letter" [.user "Hi"] none)], 0, 1⟩
      metrics := ⟨1, 0, 1, 0, 1⟩ } }

theorem countedStart_step :
    (countedStart.step ⟨.epoch, .execute false "letter" [] ⟨none, .empty⟩⟩).2 = countedRead := by
  have hload : countedStart.manager.load .epoch countedStart.files "letter" =
      (.ok (.ofParts "letter" [.user "Hi"] none),
        { countedRead.manager with metrics := ⟨0, 0, 0, 0, 1⟩ }) :=
    Manager.load_letters (.echo none) rfl (Manager.check_of_lenient rfl (by decide))
  show (⟨(countedStart.manager.execute .epoch countedStart.files false "letter" []
    ⟨none, .empty⟩).2, countedStart.files⟩ : World) = _
  rw [Manager.execute_of_loaded (congrArg Prod.fst hload), hload]
  rfl

theorem counts_countedSteps :
    (countedStart.run countedSteps).manager.metrics = ⟨3, 2, 1, 1, 1⟩ ∧
      (countedStart.run countedSteps).manager.lookups = some (2, 1) := by
  have hrun : countedStart.run countedSteps = countedRead.run (countedSteps.drop 1) := by
    rw [← countedStart_step]
    rfl
  rw [hrun]
  constructor
  · decide +kernel
  · decide +kernel

theorem counts_of_run_letter :
    let m := (countedStart.run countedSteps).manager
    lettersConfig.cacheEnabled = true ∧ Operation.list.needs? = none ∧
      m.metrics = ⟨3, 2, 1, 1, 1⟩ ∧ m.lookups = some (2, 1) ∧
      countedSteps.countP (·.operation.executes) = 3 ∧
      (countedStart.trace countedSteps).countP (·.1.success? == some true) = 2 ∧
      (countedStart.trace countedSteps).countP (·.1.success? == some false) = 1 ∧
      countedSteps.countP (·.operation.streams) = 1 ∧ countedStart.parsesOf countedSteps = 1 ∧
      (∃ hits misses, m.lookups = some (hits, misses) ∧ hits + misses = 3) ∧
      ((countedStart.run countedSteps).step ⟨.epoch, .list⟩).2.manager.lookups = m.lookups := by
  intro m
  obtain ⟨hmetrics, hasked⟩ := counts_countedSteps
  obtain ⟨htotal, hsuccessful, hfailed, _, hstreaming, hparsed, hlookups, hothers⟩ :=
    counts_of_run lettersConfig (.echo none) (letters (userDocument "Hi")) countedSteps
  have hsame : (⟨.new lettersConfig (.echo none), letters (userDocument "Hi")⟩ : World) =
      countedStart := rfl
  rw [hsame, hmetrics] at htotal hsuccessful hfailed hstreaming hparsed
  exact ⟨rfl, rfl, hmetrics, hasked, htotal.symm, hsuccessful.symm, hfailed.symm, hstreaming.symm,
    hparsed.symm, hlookups rfl, hothers ⟨.epoch, .list⟩ rfl⟩

end Letters

end World
end PromptBook
