import PromptBook.Exchange.Backend
import PromptBook.Template.Error
import PromptBook.Text.Quoted

/-!
# Executing templates

The engine makes a request of a template and values and hands it to a backend.  An answer that comes
piece by piece is handed on in the order in which it comes; whoever takes a piece may cancel the
exchange or fail, and then nothing more is handed on.
-/

namespace PromptBook

/-- Why a template could not be executed. -/
inductive ExecutionError
  | prompt (error : TemplateError)
  | backend (template model : String) (error : BackendError)
  | cancelled (template : String)
  | handler (template why : String)
  | noModel (template : String)
  | emptyRequest (template : String)
  /-- Files of a directory could not be used: how many, and why the first. -/
  | loadAborted (failures : Nat) (first : TemplateError)
  deriving Inhabited

namespace ExecutionError

/-- The error in words. -/
def message : ExecutionError → String
  | prompt e => "prompt error: " ++ e.message
  | backend template model e =>
    "backend failed for template " ++ template ++ " on model " ++ model ++ ": " ++ e.message
  | cancelled template => "execution of template " ++ template ++ " was cancelled"
  | handler template why => "chunk handler failed for template " ++ template ++ ": " ++ why
  | noModel template => "no model selected for template " ++ template
  | emptyRequest template => "template " ++ template ++ " produced an empty request"
  | loadAborted failures first =>
    "strict load aborted after " ++ toString failures ++ " failure(s): " ++ first.message

end ExecutionError

/-- What a caller wants to be different from the template. -/
structure Options where
  model : Option String
  overrides : Settings
  deriving DecidableEq, Inhabited

/-- Executes templates. -/
structure Engine where
  backend : Backend
  /-- Whether required variables have to have values. -/
  checksVariables : Bool
  /-- The model if neither the caller nor the template names one. -/
  defaultModel : Option String

section Turns

/-- A block and who speaks it. -/
abbrev Utterance := Speaker × Block

namespace Part

/-- What a part says with its placeholders replaced, unless that is blank. -/
def utterance? (values : Values) (p : Part) : Option Utterance :=
  match p.kind with
  | .system => spoken .system .text p.content
  | .user => spoken .user .text p.content
  | .media => spoken .user .media (p.reference.getD "")
  | .other _ => none
where
  /-- A source with its placeholders replaced. -/
  spoken (speaker : Speaker) (block : String → Block) (source : String) : Option Utterance :=
    let text := Substitution.substitute values source
    if Text.isBlankText text then none else some (speaker, block text)

end Part

namespace Message

/-- Whether a block goes on with a message: media with any message of the user, a text of the user
with one that ends in media. -/
def takes (m : Message) (u : Utterance) : Bool :=
  m.speaker = .user && u.1 = .user && (u.2.isMedia || m.content.getLast?.any Block.isMedia)

/-- The messages with one more block, in the last message or in a new one. -/
def addTo : List Message → Utterance → List Message
  | [], u => [⟨u.1, [u.2]⟩]
  | [m], u => if m.takes u then [{ m with content := m.content ++ [u.2] }] else [m, ⟨u.1, [u.2]⟩]
  | m :: rest, u => m :: addTo rest u

/-- The messages that blocks make up. -/
def ofUtterances (us : List Utterance) : List Message :=
  us.foldl addTo []

end Message

end Turns

/-- What whoever takes a piece does: it may cancel the exchange, and it may fail. -/
structure Reaction where
  cancels : Bool
  failure : Option String
  deriving DecidableEq, Inhabited

/-- Takes the pieces of an answer, each with its number. -/
abbrev Handler := Nat → Chunk → Reaction

/-- What an execution did: the requests it sent, the pieces it handed on, and how it ended. -/
structure Execution (α : Type) where
  sent : List Request
  delivered : List Chunk
  result : Except ExecutionError α

namespace Engine

/-- What a template says with some values. -/
def utterances (t : Template) (values : Values) : List Utterance :=
  t.parts.filterMap (Part.utterance? values)

/-- The request of a template with values that are used as they are. -/
def buildRequest (e : Engine) (now : Timestamp) (t : Template) (values : Values) (o : Options)
    (streaming : Bool) : Except ExecutionError Request :=
  match (o.model.or t.model).or e.defaultModel with
  | none => .error (.noModel t.name)
  | some model =>
    match Message.ofUtterances (utterances t values) with
    | [] => .error (.emptyRequest t.name)
    | messages =>
      .ok {
        model
        messages
        settings := t.settings.mergedWith o.overrides
        trace := ⟨t.name, t.version, now, streaming⟩ }

/-- The request of a template: required variables have to have values, and defaults stand in for
those of the others that have none. -/
def prepare (e : Engine) (now : Timestamp) (t : Template) (values : Values) (o : Options)
    (streaming : Bool) : Except ExecutionError Request :=
  match if e.checksVariables then t.missing? values else none with
  | some name => .error (.prompt (.missingVariable t.name name))
  | none => e.buildRequest now t (t.withDefaults values) o streaming

/-- The request that a complete execution would send. -/
def render (e : Engine) (now : Timestamp) (t : Template) (values : Values) (o : Options) :
    Except ExecutionError Request :=
  e.prepare now t values o false

/-- Executes a template to a complete answer.  `cancelled` tells whether the exchange is cancelled
before it begins. -/
def execute (e : Engine) (now : Timestamp) (cancelled : Bool) (t : Template) (values : Values)
    (o : Options) : Execution Response :=
  match e.prepare now t values o false with
  | .error error => ⟨[], [], .error error⟩
  | .ok request =>
    if cancelled then ⟨[], [], .error (.cancelled t.name)⟩
    else ⟨[request], [], match e.backend.respond request with
      | .answer response => .ok response
      | .failure error => .error (.backend t.name request.model error)
      | .stalled => .error (.cancelled t.name)⟩

/-- Hands on the pieces of an answer, the first of which has a number.  Gives the pieces that were
handed on, and why it did not go to the end. -/
def deliver (handler : Handler) (template model : String) (ending : Ending) :
    Nat → List Chunk → List Chunk × Except ExecutionError Unit
  | _, [] =>
    ([], match ending with
      | .finished => .ok ()
      | .failure error => .error (.backend template model error)
      | .stalled => .error (.cancelled template))
  | number, chunk :: rest =>
    match handler number chunk with
    | ⟨_, some why⟩ => ([chunk], .error (.handler template why))
    | ⟨true, none⟩ => ([chunk], .error (.cancelled template))
    | ⟨false, none⟩ =>
      let (delivered, result) := deliver handler template model ending (number + 1) rest
      (chunk :: delivered, result)

/-- Executes a template to an answer that comes piece by piece. -/
def executeStreaming (e : Engine) (now : Timestamp) (cancelled : Bool) (t : Template)
    (values : Values) (o : Options) (handler : Handler) : Execution Unit :=
  match e.prepare now t values o true with
  | .error error => ⟨[], [], .error error⟩
  | .ok request =>
    if cancelled then ⟨[], [], .error (.cancelled t.name)⟩
    else match e.backend.stream request with
      | .answer script =>
        let (delivered, result) :=
          deliver handler t.name request.model script.ending 1 script.chunks
        ⟨[request], delivered, result⟩
      | .failure error => ⟨[request], [], .error (.backend t.name request.model error)⟩
      | .stalled => ⟨[request], [], .error (.cancelled t.name)⟩

/-- The settings of an engine in words. -/
def describe (e : Engine) : String :=
  let model := match e.defaultModel with
    | some model => "Some(" ++ Text.quoted model ++ ")"
    | none => "None"
  "ExecutionEngine \x7b validate_variables: " ++ (if e.checksVariables then "true" else "false")
    ++ ", default_model: " ++ model ++ ", .. \x7d"

end Engine

end PromptBook
