import PromptBook.Proofs.Cache.Entries
import PromptBook.Proofs.Dictionary.Filling
import PromptBook.Proofs.Manager.Running

/-!
# The cache of a manager does not show

A manager is compared with itself without its cache.  The invariant is that the cache holds under a
name nothing but what the registry has there; with it, every operation of the manager gives the same
result as the operation of the manager without a cache, and leaves the same manager behind as far as
anything but the cache goes.

**Results.**
* `step_mirrored`: one step, for every operation.
* `seen_trace_uncached`: a whole run.
* `cache_transparent`: two managers that differ in their caches only.
-/

namespace PromptBook

open Files (Tree)

namespace Manager

variable {m : Manager} {now : Timestamp} {files : Tree} {name : String} {t : Template}

/-- The same manager without a cache. -/
def uncached (m : Manager) : Manager :=
  { m with
    config := { m.config with cacheEnabled := false, cacheCapacity := 0 }
    cache := none }

/-- The cache holds nothing that is not kept under the same name. -/
def CacheWithin (m : Manager) : Prop :=
  ∀ c, m.cache = some c → c.Within m.registry

/-- A result and the manager after it, beside those of a manager without a cache. -/
structure Mirrored {α : Type} (r r₀ : α × Manager) : Prop where
  result : r₀.1 = r.1
  manager : r₀.2 = r.2.uncached
  within : r.2.CacheWithin

section Parts

@[simp] theorem uncached_remember (m : Manager) (name : String) (t : Template) :
    (m.remember name t).uncached = m.uncached := rfl

theorem CacheWithin.mapCache {f : Cache Template → Cache Template} {m₀ : Manager}
    (h : ∀ c, m₀.cache = some c → (f c).Within m₀.registry) :
    (m₀.mapCache f).CacheWithin := by
  intro c' hc'
  obtain ⟨c, hc, rfl⟩ := Option.map_eq_some_iff.mp hc'
  exact h c hc

theorem CacheWithin.remember (h : m.CacheWithin) (ht : m.registry.get? name = some t) :
    (m.remember name t).CacheWithin :=
  CacheWithin.mapCache fun c hc => (h c hc).insertIfAbsent ht

theorem CacheWithin.keep (h : m.CacheWithin) (hno : m.registry.get? name = none) :
    (m.keep name t).CacheWithin :=
  fun c hc => (h c hc).put hno t

theorem CacheWithin.clear (m : Manager) : m.clear.CacheWithin := by
  intro c' hc'
  obtain ⟨c, hc, rfl⟩ := Option.map_eq_some_iff.mp hc'
  exact Cache.Within.clear c _

theorem CacheWithin.new (config : ManagerConfig) (backend : Backend) :
    (Manager.new config backend).CacheWithin := by
  intro c hc
  have hnew : c = .new config.cacheCapacity := by
    cases he : config.cacheEnabled <;> simp_all [Manager.new]
  rw [hnew]
  exact Cache.Within.new _ _

/-- What the cache answers is kept, and to ask it changes nothing else. -/
theorem askCache_spec (h : m.CacheWithin) (name : String) :
    (∀ t, (m.askCache name).1 = some t → m.registry.get? name = some t) ∧
      (m.askCache name).2.registry = m.registry ∧
      (m.askCache name).2.uncached = m.uncached ∧
      (m.askCache name).2.CacheWithin := by
  cases hc : m.cache with
  | none =>
      simp [askCache, hc, h]
  | some c =>
      have hask : m.askCache name = ((c.get name).1, { m with cache := some (c.get name).2 }) := by
        simp [askCache, hc]
      rw [hask]
      refine ⟨?_, rfl, rfl, ?_⟩
      · intro t ht
        rw [Cache.get_fst] at ht
        exact h c hc name t ht
      · intro c' hc'
        cases hc'
        exact (h c hc).get name

end Parts

section Operations

/-- The same result of both, and the manager of the first followed by that of the second. -/
theorem Mirrored.of_eq {α : Type} {r r₀ : α × Manager} {x : α} {m' : Manager}
    (hr : r = (x, m')) (hr₀ : r₀ = (x, m'.uncached)) (h : m'.CacheWithin) :
    Mirrored r r₀ := by
  subst hr hr₀
  exact ⟨rfl, rfl, h⟩

theorem read_mirrored (h : m.CacheWithin) (hno : m.registry.get? name = none)
    (now : Timestamp) (files : Tree) :
    Mirrored (m.read now files name) (m.uncached.read now files name) := by
  cases hread : m.loader.readNamed now files m.config.promptsDir name with
  | error e =>
      exact .of_eq
        (read_of_unreadable hread)
        (read_of_unreadable (m := m.uncached) hread)
        h
  | ok t =>
      cases hcheck : m.check t with
      | error e =>
          exact .of_eq
            (read_of_rejected hread hcheck)
            (read_of_rejected (m := m.uncached) hread hcheck)
            h
      | ok u =>
          have hkeep : ((m.countParsed 1).keep name t).CacheWithin :=
            CacheWithin.keep (m := m.countParsed 1) h hno
          exact .of_eq
            (read_of_accepted hread hcheck)
            (read_of_accepted (m := m.uncached) hread hcheck)
            (hkeep.remember (Dictionary.get?_put_self name t m.registry))

theorem load_mirrored (h : m.CacheWithin) (now : Timestamp) (files : Tree) (name : String) :
    Mirrored (m.load now files name) (m.uncached.load now files name) := by
  obtain ⟨hfound, hreg, hunc, hwithin⟩ := askCache_spec h name
  cases hask : (m.askCache name).1 with
  | some t =>
      -- A hit: the manager without a cache finds the same template in the registry.
      refine .of_eq (load_of_cached hask) ?_ hwithin
      rw [load_of_registered (m := m.uncached) rfl (hfound t hask), hunc]
      rfl
  | none =>
      cases hkept : m.registry.get? name with
      | some t =>
          have hkept' : (m.askCache name).2.registry.get? name = some t := by
            rw [hreg, hkept]
          refine .of_eq
            (load_of_registered hask hkept') ?_
            (hwithin.remember hkept')
          rw [load_of_registered (m := m.uncached) rfl hkept, uncached_remember, hunc]
          rfl
      | none =>
          have hno : (m.askCache name).2.registry.get? name = none := by
            rw [hreg, hkept]
          rw [load_of_unknown hask hno,
            load_of_unknown (m := m.uncached) rfl hkept]
          have hread := read_mirrored hwithin hno now files
          rw [hunc] at hread
          exact hread

theorem register_mirrored (h : m.CacheWithin) (t : Template) :
    Mirrored (m.register t) (m.uncached.register t) := by
  cases hcheck : m.check t with
  | error e =>
      exact .of_eq
        (register_of_rejected hcheck)
        (register_of_rejected (m := m.uncached) hcheck)
        h
  | ok u =>
      refine .of_eq
        (register_of_accepted hcheck)
        (register_of_accepted (m := m.uncached) hcheck)
        (CacheWithin.mapCache ?_)
      intro c hc
      exact (h c hc).set_put t.name t

theorem readDirectory_mirrored (h : m.CacheWithin) (now : Timestamp) (files : Tree) :
    Mirrored (m.readDirectory now files) (m.uncached.readDirectory now files) :=
  .of_eq (readDirectory_eq m now files) (readDirectory_eq m.uncached now files) h

theorem CacheWithin.addAbsent (h : m.CacheWithin) (found : List Template) :
    (m.addAbsent found).CacheWithin :=
  fun c hc name _ ht => Dictionary.get?_addAll_of_get? Template.name found (h c hc name _ ht)

theorem list_mirrored (h : m.CacheWithin) (now : Timestamp) (files : Tree) :
    Mirrored (m.list now files) (m.uncached.list now files) := by
  obtain ⟨hresult, hmanager, hwithin⟩ := readDirectory_mirrored h now files
  cases hlisted : m.listed with
  | true =>
      exact .of_eq
        (list_of_listed hlisted)
        (list_of_listed (m := m.uncached) hlisted)
        h
  | false =>
      cases hread : (m.readDirectory now files).1 with
      | error e =>
          rw [hread] at hresult
          refine .of_eq (list_of_aborted hlisted hread) ?_ hwithin
          rw [list_of_aborted (m := m.uncached) hlisted hresult, hmanager]
      | ok r =>
          obtain ⟨found, skipped⟩ := r
          rw [hread] at hresult
          refine .of_eq (list_of_read hlisted hread) ?_ (hwithin.addAbsent found)
          rw [list_of_read (m := m.uncached) hlisted hresult, hmanager]
          rfl

/-- A reload begins with an empty cache, and puts nothing into it. -/
theorem reload_mirrored (m : Manager) (now : Timestamp) (files : Tree) :
    Mirrored (m.reload now files) (m.uncached.reload now files) := by
  have hempty : ∀ c, m.clear.cache = some c → ∀ d, c.Within d := by
    intro c' hc' d
    obtain ⟨c, hc, rfl⟩ := Option.map_eq_some_iff.mp hc'
    exact Cache.Within.clear c d
  have hclear : m.uncached.clear = m.clear.uncached := rfl
  obtain ⟨hresult, hmanager, hwithin⟩ :=
    readDirectory_mirrored (m := m.clear) (fun c hc => hempty c hc _) now files
  rw [← hclear] at hresult hmanager
  cases hread : (m.clear.readDirectory now files).1 with
  | error e =>
      rw [hread] at hresult
      refine .of_eq (reload_of_aborted hread) ?_ hwithin
      rw [reload_of_aborted hresult, hmanager]
  | ok r =>
      obtain ⟨found, skipped⟩ := r
      rw [hread] at hresult
      refine .of_eq (reload_of_read hread) ?_ ?_
      · rw [reload_of_read hresult, hmanager]
        rfl
      · intro c hc
        rw [readDirectory_eq] at hc
        exact hempty c hc _

end Operations

end Manager

namespace World

open Manager (Mirrored CacheWithin)

variable {w : World}

/-- The same world with a manager without a cache. -/
def uncached (w : World) : World :=
  { w with manager := w.manager.uncached }

/-- What can be seen of a step: what came of it, the templates that are kept and the counts. -/
def seen (x : Outcome × World) : Outcome × Dictionary Template × Metrics :=
  (x.1, x.2.manager.registry, x.2.manager.metrics)

/-- A step, beside that of a world without a cache. -/
structure StepMirrored (x x₀ : Outcome × World) : Prop where
  outcome : x₀.1 = x.1
  world : x₀.2 = x.2.uncached
  within : x.2.manager.CacheWithin

theorem after_mirrored {α : Type} {r r₀ : α × Manager} (h : Mirrored r r₀)
    (w : World) (outcome : α → Outcome) :
    StepMirrored (w.after outcome r) (w.uncached.after outcome r₀) where
  outcome := congrArg outcome h.result
  world := by
    simp [after, uncached, h.manager]
  within := h.within

/-- Whatever is made of two such loads is such a step again. -/
theorem finish_mirrored {r r₀ : Except ExecutionError Template × Manager} (h : Mirrored r r₀)
    (operation : Operation) (now : Timestamp) (files : Tree) :
    StepMirrored (operation.finish now files r) (operation.finish now files r₀) := by
  obtain rfl : r₀ = (r.1, r.2.uncached) := Prod.ext h.result h.manager
  exact ⟨rfl, rfl, h.within⟩

theorem step_mirrored (h : w.manager.CacheWithin) (s : Step) :
    StepMirrored (w.step s) (w.uncached.step s) := by
  cases hneeds : s.operation.needs? with
  | some name =>
      rw [step_of_needs hneeds, step_of_needs hneeds]
      exact finish_mirrored (Manager.load_mirrored h s.now w.files name) s.operation s.now w.files
  | none =>
      obtain ⟨now, operation⟩ := s
      cases operation with
      | register t =>
          exact after_mirrored (Manager.register_mirrored h t) w _
      | list =>
          exact after_mirrored (Manager.list_mirrored h now w.files) w _
      | reload =>
          exact after_mirrored (Manager.reload_mirrored w.manager now w.files) w _
      | clear =>
          exact ⟨rfl, rfl, CacheWithin.clear w.manager⟩
      | get _ | validateAll | change _ =>
          exact ⟨rfl, rfl, h⟩
      | load _ | render _ _ _ | execute _ _ _ _ | stream _ _ _ _ _ =>
          cases hneeds

/-- A whole run looks as it does without a cache. -/
theorem seen_trace_uncached (h : w.manager.CacheWithin) (steps : List Step) :
    (w.uncached.trace steps).map seen = (w.trace steps).map seen := by
  -- Every step leaves a cache within the registry, which is what the next step asks for.
  induction steps generalizing w with
  | nil =>
      rfl
  | cons s rest ih =>
      obtain ⟨houtcome, hworld, hwithin⟩ := step_mirrored h s
      have hhead : seen (w.uncached.step s) = seen (w.step s) := by
        simp only [seen, houtcome, hworld]
        rfl
      simp only [trace, List.map_cons]
      rw [hhead, hworld, ih hwithin]

/--
Two managers that differ in whether they have a cache and in how much it may hold: every run gives
the same at every step, and leaves the same templates and the same counts after it.
-/
theorem cache_transparent (config : ManagerConfig) (enabled : Bool) (capacity : Nat)
    (backend : Backend) (files : Tree) (steps : List Step) :
    (trace ⟨.new config backend, files⟩ steps).map seen =
      (trace
        ⟨.new { config with cacheEnabled := enabled, cacheCapacity := capacity } backend, files⟩
        steps).map seen := by
  have huncached :
      uncached ⟨.new config backend, files⟩ =
        uncached
          ⟨.new { config with cacheEnabled := enabled, cacheCapacity := capacity } backend,
            files⟩ := rfl
  rw [← seen_trace_uncached (CacheWithin.new config backend), huncached]
  exact seen_trace_uncached (CacheWithin.new _ backend) steps

end World

end PromptBook
