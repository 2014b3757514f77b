import PromptBook.Cache
import PromptBook.Engine
import PromptBook.Loader
import PromptBook.Validation

/-!
# Managing templates

A manager keeps the templates that were asked for or registered, by name.  What it does not have it
reads from a directory; what was used last it also keeps in a cache.  An operation takes the files
as they are at the time and gives its result and the manager after it.
-/

namespace PromptBook

open Files (Tree)

/-- What a manager is set up to do. -/
structure ManagerConfig where
  /-- The directory with the templates. -/
  promptsDir : String
  extensions : List String
  cacheEnabled : Bool
  cacheCapacity : Nat
  /-- Whether a template has to be valid to be kept. -/
  validateOnLoad : Bool
  /-- Whether warnings count, and a file that cannot be used stands in the way of the others. -/
  strict : Bool
  /-- Whether required variables have to have values. -/
  validateVariables : Bool
  defaultModel : Option String
  deriving DecidableEq, Inhabited

/-- What a manager did. -/
structure Metrics where
  total : Nat
  successful : Nat
  failed : Nat
  streaming : Nat
  /-- How many templates were read from files. -/
  parsed : Nat
  deriving DecidableEq, Inhabited

namespace Metrics

/-- Nothing yet. -/
def zero : Metrics := ⟨0, 0, 0, 0, 0⟩

/-- One more execution. -/
def addExecution (m : Metrics) (success streaming : Bool) : Metrics where
  total := m.total + 1
  successful := m.successful + success.toNat
  failed := m.failed + (!success).toNat
  streaming := m.streaming + streaming.toNat
  parsed := m.parsed

/-- More templates read from files. -/
def addParsed (m : Metrics) (n : Nat) : Metrics :=
  { m with parsed := m.parsed + n }

/-- The share of the executions that succeeded, zero if there was none. -/
def successRate (m : Metrics) : Number.Binary :=
  if m.total = 0 then Number.double.ofNat 0 else Number.double.ratio m.successful m.total

end Metrics

/-- What a reload found: how many templates there are now, and the files that were left out. -/
structure ReloadSummary where
  loaded : Nat
  skipped : List LoadFailure
  deriving Inhabited

/-- Keeps and executes templates. -/
structure Manager where
  config : ManagerConfig
  loader : Loader
  engine : Engine
  /-- The templates by the names they are asked for. -/
  registry : Dictionary Template
  cache : Option (Cache Template)
  metrics : Metrics
  /-- Whether the whole directory was read. -/
  listed : Bool

namespace Manager

/-- A manager that has no templates yet. -/
def new (config : ManagerConfig) (backend : Backend) : Manager where
  config
  loader := Loader.new config.extensions
  engine := ⟨backend, config.validateVariables, config.defaultModel⟩
  registry := []
  cache := if config.cacheEnabled then some (.new config.cacheCapacity) else none
  metrics := .zero
  listed := false

section Parts

/-- The findings that stand in the way of keeping a template. -/
def check (m : Manager) (t : Template) : Except TemplateError Unit :=
  let report := t.validate
  if !m.config.validateOnLoad || report.passes m.config.strict then .ok ()
  else .error (.invalid t.name
    (report.errors ++ if m.config.strict then report.warnings else []))

/-- The manager with another cache. -/
def mapCache (m : Manager) (f : Cache Template → Cache Template) : Manager :=
  { m with cache := m.cache.map f }

/-- Puts a template into the cache under a name that is not there. -/
def remember (m : Manager) (name : String) (t : Template) : Manager :=
  m.mapCache fun c => (c.insertIfAbsent name t).2

/-- Keeps a template under a name. -/
def keep (m : Manager) (name : String) (t : Template) : Manager :=
  { m with registry := m.registry.put name t }

/-- Counts templates that were read from files. -/
def countParsed (m : Manager) (n : Nat) : Manager :=
  { m with metrics := m.metrics.addParsed n }

/-- Asks the cache for a template. -/
def askCache (m : Manager) (name : String) : Option Template × Manager :=
  match m.cache with
  | none => (none, m)
  | some c => ((c.get name).1, { m with cache := some (c.get name).2 })

end Parts

section Single

/-- The template in the file for a name. -/
def read (m : Manager) (now : Timestamp) (files : Tree) (name : String) :
    Except ExecutionError Template × Manager :=
  match m.loader.readNamed now files m.config.promptsDir name with
  | .error e => (.error (.prompt e), m)
  | .ok t =>
    let m := m.countParsed 1
    match m.check t with
    | .error e => (.error (.prompt e), m)
    | .ok () => (.ok t, (m.keep name t).remember name t)

/-- The template under a name: from the cache, from those that are kept, or from its file. -/
def load (m : Manager) (now : Timestamp) (files : Tree) (name : String) :
    Except ExecutionError Template × Manager :=
  match m.askCache name with
  | (some t, m) => (.ok t, m)
  | (none, m) =>
    match m.registry.get? name with
    | some t => (.ok t, m.remember name t)
    | none => m.read now files name

/-- Keeps a template under its own name, in the place of the one that was there. -/
def register (m : Manager) (t : Template) : Except ExecutionError Template × Manager :=
  match m.check t with
  | .error e => (.error (.prompt e), m)
  | .ok () => (.ok t, (m.keep t.name t).mapCache (·.set t.name t))

/-- The template that is kept under a name. -/
def get? (m : Manager) (name : String) : Option Template :=
  m.registry.get? name

/-- The names under which templates are kept. -/
def names (m : Manager) : List String :=
  m.registry.names

/-- Forgets all templates. -/
def clear (m : Manager) : Manager :=
  { m with registry := [], listed := false, cache := m.cache.map Cache.clear }

/-- The reports on all templates that are kept. -/
def validateAll (m : Manager) : Dictionary Report :=
  m.registry.map fun (name, t) => (name, t.validate)

end Single

section Bulk

/-- A template of the directory that may not be kept, or that it may. -/
def sort (m : Manager) (t : Template) : LoadFailure ⊕ Template :=
  match m.check t with
  | .ok () => .inr t
  | .error e => .inl ⟨Path.join m.config.promptsDir t.name, e⟩

/-- The templates of some outcome that may be kept, and the failures with those that may not. -/
def accepted (m : Manager) (o : LoadOutcome) : List Template × List LoadFailure :=
  let sorted := o.templates.map m.sort
  (sorted.filterMap (·.getRight?), o.failures ++ sorted.filterMap (·.getLeft?))

/-- The templates of the directory, and the files and templates that are left out. -/
def readDirectory (m : Manager) (now : Timestamp) (files : Tree) :
    Except ExecutionError (List Template × List LoadFailure) × Manager :=
  let outcome := m.loader.readDirectory now files m.config.promptsDir
  let (templates, skipped) := m.accepted outcome
  let m := m.countParsed outcome.templates.length
  match m.config.strict, skipped with
  | true, first :: _ => (.error (.loadAborted skipped.length first.error), m)
  | _, _ => (.ok (templates, skipped), m)

/-- A template before others, in the place of the first of them if that has the same name. -/
def beforeOthers (t : Template) : List Template → List Template
  | [] => [t]
  | u :: rest => if t.name = u.name then t :: rest else t :: u :: rest

/-- All templates that are kept, in the order of their own names and each name once. -/
def templates (m : Manager) : List Template :=
  (m.registry.values.mergeSort fun a b => a.name ≤ b.name).foldr beforeOthers []

/-- All templates, those of the directory included.  It is read once, and a template that is kept
already stays as it is. -/
def list (m : Manager) (now : Timestamp) (files : Tree) :
    Except ExecutionError (List Template) × Manager :=
  if m.listed then (.ok m.templates, m)
  else match m.readDirectory now files with
    | (.error e, m) => (.error e, m)
    | (.ok (found, _), m) =>
      let m := { m with
        registry := found.foldl (fun r t => r.putIfAbsent t.name t) m.registry
        listed := true }
      (.ok m.templates, m)

/-- Forgets all templates and reads the directory.  Of two templates with one name the later
stays. -/
def reload (m : Manager) (now : Timestamp) (files : Tree) :
    Except ExecutionError ReloadSummary × Manager :=
  match m.clear.readDirectory now files with
  | (.error e, m) => (.error e, m)
  | (.ok (found, skipped), m) =>
    let m := { m with
      registry := found.foldl (fun r t => r.put t.name t) m.registry
      listed := true }
    (.ok ⟨m.registry.length, skipped⟩, m)

end Bulk

section Running

/-- The request that an execution would send. -/
def render (m : Manager) (now : Timestamp) (files : Tree) (name : String) (values : Values)
    (o : Options) : Except ExecutionError Request × Manager :=
  match m.load now files name with
  | (.error e, m) => (.error e, m)
  | (.ok t, m) => (m.engine.render now t values o, m)

/-- Counts an execution. -/
def countExecution {α : Type} (m : Manager) (streaming : Bool) (x : Execution α) :
    Execution α × Manager :=
  (x, { m with metrics := m.metrics.addExecution x.result.isOk streaming })

/-- Executes a template to a complete answer. -/
def execute (m : Manager) (now : Timestamp) (files : Tree) (cancelled : Bool) (name : String)
    (values : Values) (o : Options) : Execution Response × Manager :=
  match m.load now files name with
  | (.error e, m) => m.countExecution false ⟨[], [], .error e⟩
  | (.ok t, m) => m.countExecution false (m.engine.execute now cancelled t values o)

/-- Executes a template to an answer that comes piece by piece. -/
def executeStreaming (m : Manager) (now : Timestamp) (files : Tree) (cancelled : Bool)
    (name : String) (values : Values) (o : Options) (handler : Handler) :
    Execution Unit × Manager :=
  match m.load now files name with
  | (.error e, m) => m.countExecution true ⟨[], [], .error e⟩
  | (.ok t, m) => m.countExecution true (m.engine.executeStreaming now cancelled t values o handler)

end Running

end Manager

end PromptBook
