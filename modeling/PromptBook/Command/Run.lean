import PromptBook.Command.Arguments
import PromptBook.Command.Logs
import PromptBook.Exchange.Codec

/-!
# Runs

A run does what a command line asks for.  It takes the files and the time, and gives the files after
it, what it prints, and how it ended.
-/

namespace PromptBook

open Files (Tree)

namespace Command

section Failures

/-- Why a run came to nothing: in a line, and what caused that, the nearest cause first. -/
structure Failure where
  message : String
  causes : List String
  /-- Whether a cause is about a place inside a file. -/
  insideFile : Bool
  deriving DecidableEq, Inhabited

namespace Failure

/-- Lines with margins before them, another one before the first. -/
def indented (first rest : String) (s : String) : String :=
  let lines := (Text.splitWhere (· == '\n') s.toList).map String.ofList
  first ++ ("\n" ++ rest).intercalate lines

/-- The number of a cause before its text. -/
def numbered (index : Nat) (cause : String) : String :=
  let digits := toString index
  "\n" ++ indented ("".pushn ' ' (5 - digits.length) ++ digits ++ ": ") "       " cause

/-- The causes after what they caused.  A single cause has no number. -/
def causesText : List String → String
  | [] => ""
  | [cause] => "\n\nCaused by:\n" ++ indented "    " "    " cause
  | causes => "\n\nCaused by:" ++ String.join (causes.mapIdx numbered)

/-- The failure in words. -/
def text (f : Failure) : String :=
  "Error: " ++ f.message ++ causesText f.causes ++ "\n"

/-- A failure without further causes. -/
def alone (message : String) : Failure := ⟨message, [], false⟩

/-- What an error with a template says of itself, and what of its cause. -/
def trail : TemplateError → List String
  | .yaml source failure => [(TemplateError.yaml source failure).message, failure.message]
  | e => [e.message]

/-- An error with a template among the causes of another. -/
def ofTemplateError (message : String) (e : TemplateError) : Failure :=
  ⟨message, trail e, match e with
    | .yaml _ failure => failure.isInside
    | _ => false⟩

/-- An execution that failed. -/
def ofExecution (e : ExecutionError) : Failure :=
  match e with
  | .prompt cause | .loadAborted _ cause => ofTemplateError e.message cause
  | .backend _ _ cause => ⟨e.message, [cause.message], false⟩
  | .handler _ why => ⟨e.message, [why], false⟩
  | .cancelled _ | .noModel _ | .emptyRequest _ => alone e.message

/-- A configuration that cannot be used. -/
def ofConfig (path : String) (e : ConfigError) : Failure :=
  ⟨"failed to load config " ++ path, [e.message], match e with
    | .yaml failure => failure.isInside
    | .file _ => false⟩

/-- A log that cannot be written. -/
def ofLogs : Logs.Error → Failure
  | .directory path cause => ⟨"failed to create log directory: " ++ path, [cause.message], false⟩
  | .file path cause => ⟨"failed to create log file: " ++ path, [cause.message], false⟩

end Failure

end Failures

section Commands

/-- What a command prints, and why it failed if it did. -/
structure Result where
  output : String
  failure : Option Failure
  deriving Inhabited

namespace Result

/-- A command that did what it should. -/
def success (output : String) : Result := ⟨output, none⟩

/-- What came of an execution. -/
def ofExcept {α : Type} (print : α → String) : Except ExecutionError α → Result
  | .ok x => success (print x)
  | .error e => ⟨"", some (.ofExecution e)⟩

end Result

/-- A text with spaces after it up to a number of characters. -/
def padded (width : Nat) (s : String) : String :=
  s.pushn ' ' (width - s.length)

/-- The line for a template in a list. -/
def listLine (t : Template) : String :=
  padded 24 t.name ++ " " ++ padded 8 t.version ++ " " ++ toString t.parts.length ++ " part(s), "
    ++ toString t.declarations.length ++ " variable(s)\n"

/-- The line for a file that cannot be used. -/
def failureLine (f : LoadFailure) : String :=
  f.path ++ ": " ++ f.error.message ++ "\n"

/-- The lines for a template and what is wrong with it. -/
def reportLines (t : Template) : String :=
  let report := t.validate
  t.name ++ ": " ++ report.summary ++ "\n"
    ++ String.join (report.errors.map fun e => "  error: " ++ e ++ "\n")
    ++ String.join (report.warnings.map fun w => "  warning: " ++ w ++ "\n")

/-- What an invocation wants to be different from the template. -/
def options (i : Invocation) : Options := ⟨i.model, .empty⟩

/-- A project as a run finds it. -/
structure Workspace where
  now : Timestamp
  files : Tree
  root : String
  config : ProjectConfig
  deriving Inhabited

namespace Workspace

/-- The manager of the project. -/
def manager (w : Workspace) : Manager :=
  .new (.ofProject w.root w.config .none) w.config.execution.backend.build

/-- A line for every template. -/
def list (w : Workspace) : Result :=
  .ofExcept (fun templates => String.join (templates.map listLine)) (w.manager.list w.now w.files).1

/-- What is wrong with the templates. -/
def validate (w : Workspace) (strict : Bool) : Result :=
  let strict := strict || w.config.validation.strict
  let outcome := (Loader.new w.config.prompts.extensions).readDirectory w.now w.files
    (Path.join w.root w.config.prompts.dir)
  let failed := outcome.failures.length
    + outcome.templates.countP fun t => !t.validate.passes strict
  ⟨String.join (outcome.failures.map failureLine) ++ String.join (outcome.templates.map reportLines),
    if failed = 0 then none
    else some (.alone (toString failed ++ " of " ++ toString outcome.attempted
      ++ " template file(s) failed validation"))⟩

/-- The request that an execution would send. -/
def render (w : Workspace) (i : Invocation) : Result :=
  .ofExcept (fun request => request.toJson.pretty 0 ++ "\n")
    (w.manager.render w.now w.files i.name i.values (options i)).1

/-- The answer to a template. -/
def execute (w : Workspace) (i : Invocation) : Result :=
  .ofExcept (fun response => response.message.text ++ "\n")
    (w.manager.execute w.now w.files false i.name i.values (options i)).1.result

/-- The answer to a template as it comes. -/
def executeStreaming (w : Workspace) (i : Invocation) : Result :=
  let x := (w.manager.executeStreaming w.now w.files false i.name i.values (options i)
    fun _ _ => ⟨false, none⟩).1
  let result := Result.ofExcept (fun () => "\n") x.result
  { result with output := String.join (x.delivered.map Chunk.text) ++ result.output }

/-- Does what is asked for. -/
def perform (w : Workspace) : Command → Result
  | .list => w.list
  | .validate strict => w.validate strict
  | .render i => w.render i
  | .execute i false => w.execute i
  | .execute i true => w.executeStreaming i

end Workspace

end Commands

/-- How a run ends. -/
inductive Ending
  | success
  | failure (failure : Failure)
  | misuse (misuse : Misuse)
  deriving DecidableEq, Inhabited

namespace Ending

/-- The number that tells others how a run ended. -/
def code : Ending → Nat
  | success => 0
  | failure _ => 1
  | misuse _ => 2

/-- What there is to say about the end of a run. -/
def message : Ending → String
  | success => ""
  | failure f => f.text
  | misuse m => m.message

end Ending

/-- What a run leaves behind. -/
structure Run where
  files : Tree
  output : String
  ending : Ending
  deriving Inhabited

end Command

namespace CommandLine

open Command

/-- The path of the configuration. -/
def configPath (line : CommandLine) : String :=
  line.config.getD (ProjectConfig.path line.root)

/-- Does what a command line asks for, except for logs. -/
def result (now : Timestamp) (files : Tree) (line : CommandLine) : Result :=
  match ProjectConfig.load files line.configPath with
  | .error e => ⟨"", some (.ofConfig line.configPath e)⟩
  | .ok config => Workspace.perform ⟨now, files, line.root, config⟩ line.command

/-- The files without the old logs, and with a new one if it is wanted. -/
def prepareLogs (now : Timestamp) (files : Tree) (line : CommandLine) : Except Logs.Error Tree :=
  let files := Logs.clean files line.root
  if line.logs then Logs.start now files line.root else .ok files

/-- Does what a command line asks for. -/
def run (now : Timestamp) (files : Tree) (line : CommandLine) : Run :=
  match line.prepareLogs now files with
  | .error e => ⟨Logs.clean files line.root, "", .failure (.ofLogs e)⟩
  | .ok files =>
    let r := line.result now files
    ⟨files, r.output, match r.failure with
      | some f => .failure f
      | none => .success⟩

/-- Does what arguments ask for. -/
def runArguments (now : Timestamp) (files : Tree) (arguments : List String) : Run :=
  match ofArguments arguments with
  | .error m => ⟨files, "", .misuse m⟩
  | .ok line => line.run now files

end CommandLine

end PromptBook
