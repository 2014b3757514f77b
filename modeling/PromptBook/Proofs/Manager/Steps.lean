import PromptBook.Manager

/-!
# Runs of a manager

What can happen to a manager and to the files it reads: somebody asks the manager for something, or
somebody changes the files.  A step takes the time at which it happens and gives what the manager
answers; a run is a list of steps, and its trace holds the answer of every step with the state after
it.
-/

namespace PromptBook

open Files (Tree)

/-- What can be asked of a manager, or happen to the files around it. -/
inductive Operation
  | load (name : String)
  | register (template : Template)
  | get (name : String)
  | list
  | reload
  | validateAll
  | clear
  | render (name : String) (values : Values) (options : Options)
  | execute (cancelled : Bool) (name : String) (values : Values) (options : Options)
  | stream (cancelled : Bool) (name : String) (values : Values) (options : Options)
      (handler : Handler)
  /-- Files are written, removed or changed in any other way. -/
  | change (edit : Tree → Tree)

/-- An operation and the time at which it happens. -/
structure Step where
  now : Timestamp
  operation : Operation

/-- What comes of an operation. -/
inductive Outcome
  | template (result : Except ExecutionError Template)
  | kept (template : Option Template)
  | templates (result : Except ExecutionError (List Template))
  | summary (result : Except ExecutionError ReloadSummary)
  | reports (reports : Dictionary Report)
  | request (result : Except ExecutionError Request)
  | response (execution : Execution Response)
  | streamed (execution : Execution Unit)
  /-- The operation gives nothing. -/
  | nothing

namespace Operation

/-- The name of the template that an operation has to have. -/
def needs? : Operation → Option String
  | load name | render name _ _ | execute _ name _ _ | stream _ name _ _ _ => some name
  | register _ | get _ | list | reload | validateAll | clear | change _ => none

/-- Whether an operation may take away the template that is kept under a name, or put another in
its place. -/
def Displaces (name : String) : Operation → Prop
  | register t => t.name = name
  | reload | clear => True
  | load _ | get _ | list | validateAll | render .. | execute .. | stream .. | change _ => False

end Operation

namespace Outcome

/-- The error of a result that is one. -/
def errorOf? {α : Type} : Except ExecutionError α → Option ExecutionError
  | .ok _ => none
  | .error e => some e

/-- The error that an operation gives, if it fails. -/
def error? : Outcome → Option ExecutionError
  | template result => errorOf? result
  | templates result => errorOf? result
  | summary result => errorOf? result
  | request result => errorOf? result
  | response execution => errorOf? execution.result
  | streamed execution => errorOf? execution.result
  | kept _ => none
  | reports _ => none
  | nothing => none

theorem errorOf?_eq_some_iff {α : Type} {result : Except ExecutionError α} {e : ExecutionError} :
    errorOf? result = some e ↔ result = .error e := by
  cases result <;> simp [errorOf?]

end Outcome

/-- A manager and the files as they are. -/
structure World where
  manager : Manager
  files : Tree

namespace World

/-- What came of an operation, and the world with the manager after it. -/
def after {α : Type} (w : World) (outcome : α → Outcome) (r : α × Manager) : Outcome × World :=
  (outcome r.1, { w with manager := r.2 })

/-- One step. -/
def step (w : World) (s : Step) : Outcome × World :=
  match s.operation with
  | .load name => w.after .template (w.manager.load s.now w.files name)
  | .register t => w.after .template (w.manager.register t)
  | .get name => (.kept (w.manager.get? name), w)
  | .list => w.after .templates (w.manager.list s.now w.files)
  | .reload => w.after .summary (w.manager.reload s.now w.files)
  | .validateAll => (.reports w.manager.validateAll, w)
  | .clear => (.nothing, { w with manager := w.manager.clear })
  | .render name values o => w.after .request (w.manager.render s.now w.files name values o)
  | .execute cancelled name values o =>
      w.after .response (w.manager.execute s.now w.files cancelled name values o)
  | .stream cancelled name values o handler =>
      w.after .streamed (w.manager.executeStreaming s.now w.files cancelled name values o handler)
  | .change edit => (.nothing, { w with files := edit w.files })

/-- What comes of each step of a run, and the world after it. -/
def trace : World → List Step → List (Outcome × World)
  | _, [] => []
  | w, s :: rest => w.step s :: trace (w.step s).2 rest

/-- The world after a run. -/
def run : World → List Step → World
  | w, [] => w
  | w, s :: rest => run (w.step s).2 rest

end World

end PromptBook
