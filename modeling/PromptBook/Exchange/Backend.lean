import PromptBook.Exchange.Basic

/-!
# Backends

A backend answers requests, at once or piece by piece.  It may fail, and it may stall, which means
that nothing comes until the exchange is cancelled.
-/

namespace PromptBook

/-- Why a backend could not answer. -/
inductive BackendError
  | rejected (why : String)
  | interrupted (why : String)
  | other (why : String)
  deriving DecidableEq, Inhabited

namespace BackendError

/-- The error in words. -/
def message : BackendError → String
  | rejected why => "request rejected: " ++ why
  | interrupted why => "stream interrupted: " ++ why
  | other why => why

end BackendError

/-- What becomes of a call to a backend. -/
inductive Reply (α : Type)
  | answer (value : α)
  | failure (error : BackendError)
  | stalled
  deriving Inhabited

/-- How a row of pieces ends. -/
inductive Ending
  | finished
  | failure (error : BackendError)
  | stalled
  deriving DecidableEq, Inhabited

/-- An answer that comes piece by piece. -/
structure Script where
  chunks : List Chunk
  ending : Ending
  deriving DecidableEq, Inhabited

/-- What answers requests. -/
structure Backend where
  /-- A complete answer. -/
  respond : Request → Reply Response
  /-- An answer piece by piece. -/
  stream : Request → Reply Script

namespace Backend

section Echo

/-- What the user says in a request, a line for each message with text. -/
def userText (r : Request) : String :=
  "\n".intercalate
    (((r.messages.filter (·.speaker = .user)).map Message.text).filter (!·.isEmpty))

/-- The text of an echo. -/
def echoText (opening : Option String) (r : Request) : String :=
  opening.getD "" ++ userText r

/-- How many words a text has. -/
def countWords (s : String) : Nat :=
  (Text.words s.toList).length

/-- The usage of an echo: a word is a token. -/
def echoUsage (r : Request) (text : String) : Usage :=
  ⟨r.messages.foldl (fun n m => n + countWords m.text) 0, countWords text⟩

/-- The complete answer of an echo. -/
def echoResponse (opening : Option String) (r : Request) : Response :=
  let text := echoText opening r
  ⟨r.model, ⟨.model, [.text text]⟩, echoUsage r text, some "stop"⟩

/-- The pieces of a list of words, all but the first with a space before them. -/
def wordPieces : List (List Char) → List String
  | [] => []
  | word :: rest => String.ofList word :: rest.map fun word => String.ofList (' ' :: word)

/-- The chunks of some pieces; the last one says that it is and carries the usage. -/
def echoChunks (usage : Usage) : List String → List Chunk
  | [] => [⟨.model, [], some usage, true⟩]
  | [piece] => [⟨.model, [.text piece], some usage, true⟩]
  | piece :: rest => .ofText piece false :: echoChunks usage rest

/-- The answer of an echo word by word. -/
def echoScript (opening : Option String) (r : Request) : Script :=
  let text := echoText opening r
  ⟨echoChunks (echoUsage r text) (wordPieces (Text.words text.toList)), .finished⟩

/-- Answers with what the user says, after a prefix. -/
def echo (opening : Option String) : Backend where
  respond r := .answer (echoResponse opening r)
  stream r := .answer (echoScript opening r)

end Echo

section Scripted

/-- Answers every request with a text. -/
def responding (text : String) : Backend where
  respond r := .answer ⟨r.model, ⟨.model, [.text text]⟩, ⟨0, 0⟩, none⟩
  stream _ := .answer ⟨[.ofText text true], .finished⟩

/-- Fails at every call. -/
def failing (error : BackendError) : Backend where
  respond _ := .failure error
  stream _ := .failure error

/-- Never answers. -/
def stalling : Backend where
  respond _ := .stalled
  stream _ := .stalled

/-- Answers by a script, and only piece by piece. -/
def streaming (script : Script) : Backend where
  respond _ := .failure (.rejected "generate is not scripted")
  stream _ := .answer script

end Scripted

end Backend

end PromptBook
