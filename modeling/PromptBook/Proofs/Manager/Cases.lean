import PromptBook.Manager

/-!
# What an operation of a manager can do

Each operation is said case by case: the conditions of a case, the result, and the manager after it.
Proofs about runs cite these equations and leave the operations closed.
-/

namespace PromptBook

open Files (Tree)

namespace Manager

variable {m : Manager} {now : Timestamp} {files : Tree} {name : String} {t : Template}

section Read

@[simp] theorem check_countParsed (m : Manager) (n : Nat) (t : Template) :
    (m.countParsed n).check t = m.check t := rfl

theorem read_of_unreadable {e : TemplateError}
    (hread : m.loader.readNamed now files m.config.promptsDir name = .error e) :
    m.read now files name = (.error (.prompt e), m) := by
  simp [read, hread]

theorem read_of_rejected {e : TemplateError}
    (hread : m.loader.readNamed now files m.config.promptsDir name = .ok t)
    (hcheck : m.check t = .error e) :
    m.read now files name = (.error (.prompt e), m.countParsed 1) := by
  simp [read, hread, hcheck]

theorem read_of_accepted
    (hread : m.loader.readNamed now files m.config.promptsDir name = .ok t)
    (hcheck : m.check t = .ok ()) :
    m.read now files name =
      (.ok t, ((m.countParsed 1).keep name t).remember name t) := by
  simp [read, hread, hcheck]

end Read

section Load

/-- To ask the cache changes nothing but the cache. -/
theorem askCache_snd (m : Manager) (name : String) :
    (m.askCache name).2 = m.mapCache fun c => (c.get name).2 := by
  obtain ⟨_, _, _, _, cache, _, _⟩ := m
  cases cache <;> rfl

theorem load_of_cached (hask : (m.askCache name).1 = some t) :
    m.load now files name = (.ok t, (m.askCache name).2) := by
  unfold load
  split <;> simp_all

theorem load_of_registered (hask : (m.askCache name).1 = none)
    (hkept : (m.askCache name).2.registry.get? name = some t) :
    m.load now files name = (.ok t, (m.askCache name).2.remember name t) := by
  unfold load
  split <;> simp_all

theorem load_of_unknown (hask : (m.askCache name).1 = none)
    (hno : (m.askCache name).2.registry.get? name = none) :
    m.load now files name = (m.askCache name).2.read now files name := by
  unfold load
  split <;> simp_all

end Load

section Register

theorem register_of_rejected {e : TemplateError} (hcheck : m.check t = .error e) :
    m.register t = (.error (.prompt e), m) := by
  simp [register, hcheck]

theorem register_of_accepted (hcheck : m.check t = .ok ()) :
    m.register t = (.ok t, (m.keep t.name t).mapCache (·.set t.name t)) := by
  simp [register, hcheck]

end Register

section Directory

/-- What the files of a directory come to: in strict mode, nothing if one of them is left out. -/
def verdict (m : Manager) (o : LoadOutcome) :
    Except ExecutionError (List Template × List LoadFailure) :=
  match m.config.strict, (m.accepted o).2 with
  | true, first :: rest => .error (.loadAborted (first :: rest).length first.error)
  | _, _ => .ok (m.accepted o)

/-- To read the directory counts the templates in it and changes nothing else. -/
theorem readDirectory_eq (m : Manager) (now : Timestamp) (files : Tree) :
    m.readDirectory now files =
      (m.verdict (m.loader.readDirectory now files m.config.promptsDir),
        m.countParsed
          (m.loader.readDirectory now files m.config.promptsDir).templates.length) := by
  have hstrict : ∀ n, (m.countParsed n).config.strict = m.config.strict := fun _ => rfl
  unfold readDirectory verdict
  simp only [hstrict]
  split <;> simp_all

theorem list_of_listed (hlisted : m.listed = true) :
    m.list now files = (.ok m.templates, m) := by
  simp [list, hlisted]

theorem list_of_aborted {e : ExecutionError} (hlisted : m.listed = false)
    (hread : (m.readDirectory now files).1 = .error e) :
    m.list now files = (.error e, (m.readDirectory now files).2) := by
  unfold list
  simp only [hlisted, Bool.false_eq_true, if_false]
  split <;> simp_all

/-- The manager after templates of the directory were added to those it keeps. -/
def addAbsent (m : Manager) (found : List Template) : Manager :=
  { m with
    registry := found.foldl (fun r t => r.putIfAbsent t.name t) m.registry
    listed := true }

theorem list_of_read {found : List Template} {skipped : List LoadFailure}
    (hlisted : m.listed = false)
    (hread : (m.readDirectory now files).1 = .ok (found, skipped)) :
    m.list now files =
      (.ok ((m.readDirectory now files).2.addAbsent found).templates,
        (m.readDirectory now files).2.addAbsent found) := by
  unfold list
  simp only [hlisted, Bool.false_eq_true, if_false]
  split <;> simp_all [addAbsent]

theorem reload_of_aborted {e : ExecutionError}
    (hread : (m.clear.readDirectory now files).1 = .error e) :
    m.reload now files = (.error e, (m.clear.readDirectory now files).2) := by
  unfold reload
  split <;> simp_all

/-- The manager after templates of the directory were put among those it keeps. -/
def replaceAll (m : Manager) (found : List Template) : Manager :=
  { m with
    registry := found.foldl (fun r t => r.put t.name t) m.registry
    listed := true }

theorem reload_of_read {found : List Template} {skipped : List LoadFailure}
    (hread : (m.clear.readDirectory now files).1 = .ok (found, skipped)) :
    m.reload now files =
      (.ok ⟨((m.clear.readDirectory now files).2.replaceAll found).registry.length, skipped⟩,
        (m.clear.readDirectory now files).2.replaceAll found) := by
  unfold reload
  split <;> simp_all [replaceAll]

end Directory

section Running

variable {values : Values} {o : Options} {cancelled : Bool} {handler : Handler}
variable {e : ExecutionError}

theorem render_of_unloaded (hload : (m.load now files name).1 = .error e) :
    m.render now files name values o = (.error e, (m.load now files name).2) := by
  unfold render
  split <;> simp_all

theorem render_of_loaded (hload : (m.load now files name).1 = .ok t) :
    m.render now files name values o =
      ((m.load now files name).2.engine.render now t values o, (m.load now files name).2) := by
  unfold render
  split <;> simp_all

theorem execute_of_unloaded (hload : (m.load now files name).1 = .error e) :
    m.execute now files cancelled name values o =
      (m.load now files name).2.countExecution false ⟨[], [], .error e⟩ := by
  unfold execute
  split <;> simp_all

theorem execute_of_loaded (hload : (m.load now files name).1 = .ok t) :
    m.execute now files cancelled name values o =
      (m.load now files name).2.countExecution false
        ((m.load now files name).2.engine.execute now cancelled t values o) := by
  unfold execute
  split <;> simp_all

theorem executeStreaming_of_unloaded (hload : (m.load now files name).1 = .error e) :
    m.executeStreaming now files cancelled name values o handler =
      (m.load now files name).2.countExecution true ⟨[], [], .error e⟩ := by
  unfold executeStreaming
  split <;> simp_all

theorem executeStreaming_of_loaded (hload : (m.load now files name).1 = .ok t) :
    m.executeStreaming now files cancelled name values o handler =
      (m.load now files name).2.countExecution true
        ((m.load now files name).2.engine.executeStreaming now cancelled t values o handler) := by
  unfold executeStreaming
  split <;> simp_all

variable (m now files name)

/-- A request leaves what the load of its template leaves. -/
theorem render_leaves (values : Values) (o : Options) :
    (m.render now files name values o).2 = (m.load now files name).2 := by
  cases hload : (m.load now files name).1 with
  | error e =>
      rw [render_of_unloaded hload]
  | ok t =>
      rw [render_of_loaded hload]

/-- An execution leaves what the load of its template leaves, and is counted. -/
theorem execute_leaves (cancelled : Bool) (values : Values) (o : Options) :
    (m.execute now files cancelled name values o).2 =
      ((m.load now files name).2.countExecution false
        (m.execute now files cancelled name values o).1).2 := by
  cases hload : (m.load now files name).1 with
  | error e =>
      rw [execute_of_unloaded hload]
      rfl
  | ok t =>
      rw [execute_of_loaded hload]
      rfl

theorem executeStreaming_leaves (cancelled : Bool) (values : Values) (o : Options)
    (handler : Handler) :
    (m.executeStreaming now files cancelled name values o handler).2 =
      ((m.load now files name).2.countExecution true
        (m.executeStreaming now files cancelled name values o handler).1).2 := by
  cases hload : (m.load now files name).1 with
  | error e =>
      rw [executeStreaming_of_unloaded hload]
      rfl
  | ok t =>
      rw [executeStreaming_of_loaded hload]
      rfl

end Running

end Manager
end PromptBook
