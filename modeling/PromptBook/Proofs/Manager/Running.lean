import PromptBook.Proofs.Manager.Cases
import PromptBook.Proofs.Manager.Steps

/-!
# Operations that need a template

To load, to render, to execute and to stream all begin with the load of a template.  What comes of
it then depends on the template and the engine alone, and but for the counts the manager is left as
the load leaves it.  So what holds of a load is carried to all four at once.

**Results.**  `step_of_needs`: such a step is a load and what `Operation.finish` makes of it.
-/

namespace PromptBook

open Files (Tree)

section Outcomes

/-- What comes of an operation for which a template was found. -/
def Operation.ranWith (engine : Engine) (now : Timestamp) (t : Template) : Operation → Outcome
  | load _ => .template (.ok t)
  | render _ values o => .request (engine.render now t values o)
  | execute cancelled _ values o => .response (engine.execute now cancelled t values o)
  | stream cancelled _ values o handler =>
      .streamed (engine.executeStreaming now cancelled t values o handler)
  | register _ | get _ | list | reload | validateAll | clear | change _ => .nothing

/-- What comes of an operation for which no template was found: nothing is sent. -/
def Operation.ranWithout (e : ExecutionError) : Operation → Outcome
  | load _ => .template (.error e)
  | render _ _ _ => .request (.error e)
  | execute _ _ _ _ => .response ⟨[], [], .error e⟩
  | stream _ _ _ _ _ => .streamed ⟨[], [], .error e⟩
  | register _ | get _ | list | reload | validateAll | clear | change _ => .nothing

/-- What comes of an operation after a load. -/
def Operation.ran (engine : Engine) (now : Timestamp) (found : Except ExecutionError Template)
    (operation : Operation) : Outcome :=
  match found with
  | .ok t => operation.ranWith engine now t
  | .error e => operation.ranWithout e

/-- The counts after an outcome: executions are counted. -/
def Outcome.tally (m : Metrics) : Outcome → Metrics
  | response execution => m.addExecution execution.result.isOk false
  | streamed execution => m.addExecution execution.result.isOk true
  | template _ | kept _ | templates _ | summary _ | reports _ | request _ | nothing => m

/-- What an operation makes of a load: it runs with the template that was found, if there was one,
and executions are counted. -/
def Operation.finish (operation : Operation) (now : Timestamp) (files : Tree)
    (loaded : Except ExecutionError Template × Manager) : Outcome × World :=
  let outcome := operation.ran loaded.2.engine now loaded.1
  (outcome, ⟨{ loaded.2 with metrics := outcome.tally loaded.2.metrics }, files⟩)

variable {operation : Operation} {now : Timestamp} {files : Tree} {t : Template}
variable {e : ExecutionError} {loaded : Except ExecutionError Template × Manager}

theorem Operation.finish_of_loaded (h : loaded.1 = .ok t) :
    operation.finish now files loaded =
      let outcome := operation.ranWith loaded.2.engine now t
      (outcome, ⟨{ loaded.2 with metrics := outcome.tally loaded.2.metrics }, files⟩) := by
  simp only [finish, h]
  rfl

theorem Operation.finish_of_unloaded (h : loaded.1 = .error e) :
    operation.finish now files loaded =
      let outcome := operation.ranWithout e
      (outcome, ⟨{ loaded.2 with metrics := outcome.tally loaded.2.metrics }, files⟩) := by
  simp only [finish, h]
  rfl

/-- If no template is found, an operation that needs one fails for that reason. -/
theorem Operation.error?_ranWithout {name : String} (e : ExecutionError)
    (h : operation.needs? = some name) : (operation.ranWithout e).error? = some e := by
  cases operation with
  | load _ | render _ _ _ | execute _ _ _ _ | stream _ _ _ _ _ => rfl
  | register _ | get _ | list | reload | validateAll | clear | change _ => cases h

theorem Outcome.parsed_tally (m : Metrics) (outcome : Outcome) :
    (outcome.tally m).parsed = m.parsed := by
  cases outcome <;> rfl

end Outcomes

namespace World

variable {w : World} {s : Step} {name : String}

/-- A step that needs a template loads it and goes on from there. -/
theorem step_of_needs (h : s.operation.needs? = some name) :
    w.step s = s.operation.finish s.now w.files (w.manager.load s.now w.files name) := by
  obtain ⟨now, operation⟩ := s
  cases operation with
  | load other =>
      cases h
      show w.after .template (w.manager.load now w.files name) = _
      cases hload : (w.manager.load now w.files name).1 with
      | ok t =>
          rw [Operation.finish_of_loaded hload, after, hload]
          rfl
      | error e =>
          rw [Operation.finish_of_unloaded hload, after, hload]
          rfl
  | render other values o =>
      cases h
      show w.after .request (w.manager.render now w.files name values o) = _
      cases hload : (w.manager.load now w.files name).1 with
      | ok t =>
          rw [Manager.render_of_loaded hload, Operation.finish_of_loaded hload]
          rfl
      | error e =>
          rw [Manager.render_of_unloaded hload, Operation.finish_of_unloaded hload]
          rfl
  | execute cancelled other values o =>
      cases h
      show w.after .response (w.manager.execute now w.files cancelled name values o) = _
      cases hload : (w.manager.load now w.files name).1 with
      | ok t =>
          rw [Manager.execute_of_loaded hload, Operation.finish_of_loaded hload]
          rfl
      | error e =>
          rw [Manager.execute_of_unloaded hload, Operation.finish_of_unloaded hload]
          rfl
  | stream cancelled other values o handler =>
      cases h
      show w.after .streamed
        (w.manager.executeStreaming now w.files cancelled name values o handler) = _
      cases hload : (w.manager.load now w.files name).1 with
      | ok t =>
          rw [Manager.executeStreaming_of_loaded hload, Operation.finish_of_loaded hload]
          rfl
      | error e =>
          rw [Manager.executeStreaming_of_unloaded hload, Operation.finish_of_unloaded hload]
          rfl
  | register _ | get _ | list | reload | validateAll | clear | change _ => cases h

end World

end PromptBook
