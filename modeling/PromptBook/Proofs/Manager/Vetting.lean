import PromptBook.Proofs.Dictionary.Puts
import PromptBook.Proofs.Manager.OwnNames
import PromptBook.Proofs.Manager.Running
import PromptBook.Proofs.Template.Defects

/-!
# Templates that are vetted

There are three ways in for a template: it is loaded by a name, it is registered, or it comes with
the directory.  Each goes through the check of the manager, and the cache only takes what is kept.
So whatever the check lets through is all that a manager ever keeps, gives away or executes.

**Results.**
* `Manager.Vets.load`, `Manager.Vets.list`, `Manager.Vets.reload`: what an operation keeps and
  gives.
* `vets_step`, `vets_run`: one step, and any run.
* `vetted_after_run`: what can be seen of a manager that validates what it loads.
-/

namespace PromptBook

open Files (Tree)
open Dictionary (Puts)

namespace Cache

variable {α : Type} {p : α → Prop} {c : Cache α} {name : String} {value : α}

/-- Every value in the cache has the property. -/
def All (p : α → Prop) (c : Cache α) : Prop :=
  ∀ entry ∈ c.entries, p entry.2

theorem All.set (h : c.All p) (hvalue : p value) (name : String) : (c.set name value).All p := by
  intro entry hentry
  rcases List.mem_cons.mp hentry with rfl | hothers
  · exact hvalue
  · exact h entry (List.mem_of_mem_filter (List.mem_of_mem_take hothers))

theorem All.insertIfAbsent (h : c.All p) (hvalue : p value) (name : String) :
    (c.insertIfAbsent name value).2.All p := by
  unfold Cache.insertIfAbsent
  split
  · exact h
  · exact h.set hvalue name

/-- A value that is found has the property, and to find it leaves no others in the cache. -/
theorem All.get (h : c.All p) (name : String) :
    (∀ value, (c.get name).1 = some value → p value) ∧ (c.get name).2.All p := by
  unfold Cache.get
  split
  · rename_i value hlookup
    obtain ⟨before, after, hentries, _⟩ := List.lookup_eq_some_iff.mp hlookup
    have hvalue : p value := h (name, value) (by simp [hentries])
    refine ⟨fun _ hsome => Option.some.inj hsome ▸ hvalue, fun entry hentry => ?_⟩
    rcases List.mem_cons.mp hentry with rfl | hothers
    · exact hvalue
    · exact h entry (List.mem_of_mem_filter hothers)
  · exact ⟨nofun, h⟩

end Cache

namespace Manager

variable {p : Template → Prop} {m : Manager} {t : Template} {name : String}

/-- All templates that the manager keeps have a property, and its check lets no others through. -/
structure Vets (p : Template → Prop) (m : Manager) : Prop where
  check : ∀ t, m.check t = .ok () → p t
  registry : ∀ entry ∈ m.registry, p entry.2
  cache : ∀ c, m.cache = some c → c.All p

namespace Vets

section Parts

theorem new {config : ManagerConfig} {backend : Backend}
    (h : ∀ t, (Manager.new config backend).check t = .ok () → p t) :
    (Manager.new config backend).Vets p where
  check := h
  registry := fun _ hentry => absurd hentry List.not_mem_nil
  cache := by
    intro c hc
    have hnew : c = .new config.cacheCapacity := by
      cases he : config.cacheEnabled <;> simp_all [Manager.new]
    rw [hnew]
    exact fun _ hentry => absurd hentry List.not_mem_nil

theorem mapCache {f : Cache Template → Cache Template} (h : m.Vets p)
    (hf : ∀ c : Cache Template, c.All p → (f c).All p) : (m.mapCache f).Vets p where
  check := h.check
  registry := h.registry
  cache := by
    intro c' hc'
    obtain ⟨c, hc, rfl⟩ := Option.map_eq_some_iff.mp hc'
    exact hf c (h.cache c hc)

theorem remember (h : m.Vets p) (ht : p t) : (m.remember name t).Vets p :=
  h.mapCache fun _ hc => hc.insertIfAbsent ht name

theorem askCache (h : m.Vets p) (name : String) :
    (∀ t, (m.askCache name).1 = some t → p t) ∧ (m.askCache name).2.Vets p := by
  refine ⟨?_, ?_⟩
  · intro t ht
    cases hc : m.cache with
    | none =>
        simp [Manager.askCache, hc] at ht
    | some c =>
        simp only [Manager.askCache, hc] at ht
        exact ((h.cache c hc).get name).1 t ht
  · rw [askCache_snd]
    exact h.mapCache fun _ hc => (hc.get name).2

theorem get? (h : m.Vets p) (hget : m.registry.get? name = some t) : p t :=
  h.registry (name, t) (Dictionary.mem_of_get? hget)

theorem templates (h : m.Vets p) (ht : t ∈ m.templates) : p t := by
  obtain ⟨entry, hentry, rfl⟩ := List.mem_map.mp (mem_values_of_mem_templates ht)
  exact h.registry entry hentry

theorem clear (h : m.Vets p) : m.clear.Vets p where
  check := h.check
  registry := fun _ hentry => absurd hentry List.not_mem_nil
  cache := by
    intro c' hc'
    obtain ⟨c, _, rfl⟩ := Option.map_eq_some_iff.mp hc'
    exact fun _ hentry => absurd hentry List.not_mem_nil

end Parts

section Operations

variable {now : Timestamp} {files : Tree}

theorem read (h : m.Vets p) (now : Timestamp) (files : Tree) (name : String) :
    (∀ t, (m.read now files name).1 = .ok t → p t) ∧ (m.read now files name).2.Vets p := by
  refine ⟨fun t ht => h.check t (read_eq_ok_iff.mp ht).2, ?_⟩
  cases hread : m.loader.readNamed now files m.config.promptsDir name with
  | error e =>
      rw [read_of_unreadable hread]
      exact h
  | ok t =>
      cases hcheck : m.check t with
      | error e =>
          rw [read_of_rejected hread hcheck]
          exact ⟨h.check, h.registry, h.cache⟩
      | ok _ =>
          rw [read_of_accepted hread hcheck]
          have hput : Puts (fun _ u => p u) m.registry (m.registry.put name t) :=
            Puts.none.put (h.check t hcheck)
          have hkept : ((m.countParsed 1).keep name t).Vets p :=
            ⟨h.check, hput.all h.registry, h.cache⟩
          exact hkept.remember (h.check t hcheck)

theorem load (h : m.Vets p) (now : Timestamp) (files : Tree) (name : String) :
    (∀ t, (m.load now files name).1 = .ok t → p t) ∧ (m.load now files name).2.Vets p := by
  obtain ⟨hfound, hasked⟩ := h.askCache name
  cases hask : (m.askCache name).1 with
  | some t =>
      rw [load_of_cached hask]
      refine ⟨?_, hasked⟩
      rintro _ ⟨⟩
      exact hfound t hask
  | none =>
      cases hkept : (m.askCache name).2.registry.get? name with
      | some t =>
          rw [load_of_registered hask hkept]
          refine ⟨?_, hasked.remember (hasked.get? hkept)⟩
          rintro _ ⟨⟩
          exact hasked.get? hkept
      | none =>
          rw [load_of_unknown hask hkept]
          exact hasked.read now files name

theorem register (h : m.Vets p) (t : Template) :
    (∀ u, (m.register t).1 = .ok u → p u) ∧ (m.register t).2.Vets p := by
  cases hcheck : m.check t with
  | error e =>
      rw [register_of_rejected hcheck]
      refine ⟨?_, h⟩
      rintro _ ⟨⟩
  | ok _ =>
      rw [register_of_accepted hcheck]
      have ht : p t := h.check t hcheck
      have hput : Puts (fun _ u => p u) m.registry (m.registry.put t.name t) := Puts.none.put ht
      have hkept : (m.keep t.name t).Vets p := ⟨h.check, hput.all h.registry, h.cache⟩
      refine ⟨?_, hkept.mapCache fun _ hc => hc.set ht t.name⟩
      rintro _ ⟨⟩
      exact ht

/-- What the directory gives passed the check, each on its own. -/
theorem readDirectory (h : m.Vets p) (now : Timestamp) (files : Tree) :
    (∀ found skipped, (m.readDirectory now files).1 = .ok (found, skipped) → ∀ t ∈ found, p t) ∧
      (m.readDirectory now files).2.Vets p := by
  refine ⟨?_, ?_⟩
  · intro found skipped hread t ht
    rw [readDirectory_of_usable (usable_of_readDirectory hread), Except.ok.injEq] at hread
    have hoffered : t ∈ m.offered now files := by
      rw [offered, hread]
      exact ht
    obtain ⟨_, _, _, _, _, _, hcheck⟩ := mem_offered_iff.mp hoffered
    exact h.check t hcheck
  · rw [readDirectory_eq]
    exact ⟨h.check, h.registry, h.cache⟩

theorem addAbsent (h : m.Vets p) {found : List Template} (hfound : ∀ t ∈ found, p t) :
    (m.addAbsent found).Vets p where
  check := h.check
  registry := by
    have hput : Puts (fun _ u => p u) m.registry (m.addAbsent found).registry :=
      Puts.none.addAll Template.name hfound
    exact hput.all h.registry
  cache := h.cache

theorem replaceAll (h : m.Vets p) {found : List Template} (hfound : ∀ t ∈ found, p t) :
    (m.replaceAll found).Vets p where
  check := h.check
  registry := by
    have hput : Puts (fun _ u => p u) m.registry (m.replaceAll found).registry :=
      Puts.none.replaceAll Template.name hfound
    exact hput.all h.registry
  cache := h.cache

theorem list (h : m.Vets p) (now : Timestamp) (files : Tree) :
    (∀ ts, (m.list now files).1 = .ok ts → ∀ t ∈ ts, p t) ∧ (m.list now files).2.Vets p := by
  obtain ⟨hfound, hread⟩ := h.readDirectory now files
  cases hlisted : m.listed with
  | true =>
      rw [list_of_listed hlisted]
      refine ⟨?_, h⟩
      rintro _ ⟨⟩ t ht
      exact h.templates ht
  | false =>
      cases hresult : (m.readDirectory now files).1 with
      | error e =>
          rw [list_of_aborted hlisted hresult]
          refine ⟨?_, hread⟩
          rintro _ ⟨⟩
      | ok r =>
          obtain ⟨found, skipped⟩ := r
          rw [list_of_read hlisted hresult]
          have hadded := hread.addAbsent (hfound found skipped hresult)
          refine ⟨?_, hadded⟩
          rintro _ ⟨⟩ t ht
          exact hadded.templates ht

theorem reload (h : m.Vets p) (now : Timestamp) (files : Tree) : (m.reload now files).2.Vets p := by
  obtain ⟨hfound, hread⟩ := h.clear.readDirectory now files
  cases hresult : (m.clear.readDirectory now files).1 with
  | error e =>
      rw [reload_of_aborted hresult]
      exact hread
  | ok r =>
      obtain ⟨found, skipped⟩ := r
      rw [reload_of_read hresult]
      exact hread.replaceAll (hfound found skipped hresult)

end Operations

end Vets

end Manager

theorem Template.sound_of_passes {t : Template} {strict : Bool}
    (h : t.validate.passes strict = true) : t.Sound := by
  rw [Report.passes, Bool.and_eq_true] at h
  exact (isValid_iff.mp h.1).2

/-- The operation gives the template away. -/
def Outcome.Gives (t : Template) : Outcome → Prop
  | template result => result = .ok t
  | kept found => found = some t
  | templates result => ∃ ts, result = .ok ts ∧ t ∈ ts
  | summary _ | reports _ | request _ | response _ | streamed _ | nothing => False

namespace World

open Manager (Vets)

variable {p : Template → Prop} {w : World} {s : Step} {t : Template} {name : String}

section Steps

theorem vets_step (h : w.manager.Vets p) (s : Step) : (w.step s).2.manager.Vets p := by
  cases hneeds : s.operation.needs? with
  | some name =>
      obtain ⟨_, hload⟩ := h.load s.now w.files name
      rw [step_of_needs hneeds]
      exact ⟨hload.check, hload.registry, hload.cache⟩
  | none =>
      obtain ⟨now, operation⟩ := s
      cases operation with
      | register t => exact (h.register t).2
      | list => exact (h.list now w.files).2
      | reload => exact h.reload now w.files
      | clear => exact h.clear
      | get name => exact h
      | validateAll => exact h
      | change edit => exact h
      | load name => cases hneeds
      | render name values o => cases hneeds
      | execute cancelled name values o => cases hneeds
      | stream cancelled name values o handler => cases hneeds

theorem vets_run (h : w.manager.Vets p) (steps : List Step) : (w.run steps).manager.Vets p := by
  induction steps generalizing w with
  | nil => exact h
  | cons s rest ih => exact ih (vets_step h s)

theorem of_gives (h : w.manager.Vets p) (hgives : (w.step s).1.Gives t) : p t := by
  obtain ⟨now, operation⟩ := s
  cases operation with
  | load name => exact (h.load now w.files name).1 t hgives
  | register u => exact (h.register u).1 t hgives
  | get name => exact h.get? hgives
  | list =>
      obtain ⟨ts, hts, ht⟩ := hgives
      exact (h.list now w.files).1 ts hts t ht
  | reload => cases hgives
  | validateAll => cases hgives
  | clear => cases hgives
  | render name values o => cases hgives
  | execute cancelled name values o => cases hgives
  | stream cancelled name values o handler => cases hgives
  | change edit => cases hgives

/-- What needs a template runs with one that has the property, or with none. -/
theorem runs_vetted (h : w.manager.Vets p) (hneeds : s.operation.needs? = some name) :
    (∃ e, (w.step s).1 = s.operation.ranWithout e) ∨
      ∃ t, p t ∧ (w.step s).1 = s.operation.ranWith w.manager.engine s.now t := by
  obtain ⟨hloaded, _⟩ := h.load s.now w.files name
  rw [step_of_needs hneeds]
  cases hload : (w.manager.load s.now w.files name).1 with
  | error e =>
      exact .inl ⟨e, congrArg Prod.fst (Operation.finish_of_unloaded hload)⟩
  | ok t =>
      rw [Operation.finish_of_loaded hload, w.manager.engine_load]
      exact .inr ⟨t, hloaded t hload, rfl⟩

end Steps

/--
Whatever happens to a manager that validates what it loads, all templates that it keeps and all that
are in its cache pass, as strictly as it is told to check.  So the reports it gives all pass, it
gives no template away that is not sound, and it executes none.
-/
theorem vetted_after_run (config : ManagerConfig) (backend : Backend) (files : Tree)
    (steps : List Step) (h : config.validateOnLoad = true) :
    let w := run ⟨.new config backend, files⟩ steps
    (∀ entry ∈ w.manager.registry, entry.2.validate.passes config.strict = true) ∧
      (∀ c, w.manager.cache = some c →
        ∀ entry ∈ c.entries, entry.2.validate.passes config.strict = true) ∧
      (∀ entry ∈ w.manager.validateAll, entry.2.passes config.strict = true) ∧
      (∀ s t, (w.step s).1.Gives t → t.validate.passes config.strict = true ∧ t.Sound) ∧
      ∀ s name, s.operation.needs? = some name →
        (∃ e, (w.step s).1 = s.operation.ranWithout e) ∨
          ∃ t, t.validate.passes config.strict = true ∧ t.Sound ∧
            (w.step s).1 = s.operation.ranWith w.manager.engine s.now t := by
  intro w
  have hnew : (Manager.new config backend).Vets fun t => t.validate.passes config.strict = true :=
    .new fun _ hcheck => Manager.check_eq_ok_iff.mp hcheck h
  have hvets : w.manager.Vets fun t => t.validate.passes config.strict = true :=
    vets_run hnew steps
  refine ⟨hvets.registry, fun c hc => hvets.cache c hc, ?_, ?_, ?_⟩
  · intro entry hentry
    obtain ⟨⟨name, t⟩, ht, rfl⟩ := List.mem_map.mp hentry
    exact hvets.registry (name, t) ht
  · intro s t hgives
    have hpasses := of_gives hvets hgives
    exact ⟨hpasses, Template.sound_of_passes hpasses⟩
  · intro s name hneeds
    rcases runs_vetted hvets hneeds with hnone | ⟨t, hpasses, hran⟩
    · exact .inl hnone
    · exact .inr ⟨t, hpasses, Template.sound_of_passes hpasses, hran⟩

/-- The letter that was loaded, and whose file is gone, was vetted. -/
theorem vetted_after_run_letter :
    Manager.lettersConfig.validateOnLoad = true ∧
      lettersTaken.manager.registry = [("letter", greeting)] ∧
      greeting.validate.passes Manager.lettersConfig.strict = true ∧
      (lettersTaken.step ⟨.epoch, .get "letter"⟩).1.Gives greeting ∧ greeting.Sound := by
  obtain ⟨_, _, hregistry⟩ := lettersTaken_manager
  obtain ⟨hkept, _, _, hgives, _⟩ := vetted_after_run Manager.lettersConfig .stalling
    (Manager.letters Manager.titledLetter) takingLetter rfl
  have hget : (lettersTaken.step ⟨.epoch, .get "letter"⟩).1.Gives greeting := by
    show lettersTaken.manager.registry.get? "letter" = some greeting
    rw [hregistry]
    rfl
  have hpasses : greeting.validate.passes Manager.lettersConfig.strict = true := by
    refine hkept ("letter", greeting) ?_
    show _ ∈ lettersTaken.manager.registry
    rw [hregistry]
    exact List.mem_cons_self
  exact ⟨rfl, hregistry, hpasses, hget, (hgives _ _ hget).2⟩

end World

end PromptBook
