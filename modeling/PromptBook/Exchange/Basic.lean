import PromptBook.Template.Basic

/-!
# Requests and responses

What is sent to a model and what comes back, free of the conventions of any provider.
-/

namespace PromptBook

/-- Who speaks in a message. -/
inductive Speaker
  | system
  | user
  | model
  deriving DecidableEq, Inhabited

/-- A piece of a message. -/
inductive Block
  | text (text : String)
  | media (reference : String)
  deriving DecidableEq, Inhabited

namespace Block

/-- The text of a block of text. -/
def text? : Block → Option String
  | text s => some s
  | media _ => none

/-- The reference of a block of media. -/
def reference? : Block → Option String
  | text _ => none
  | media s => some s

/-- Whether a block refers to media. -/
def isMedia : Block → Bool
  | text _ => false
  | media _ => true

end Block

/-- A message: who speaks, and what. -/
structure Message where
  speaker : Speaker
  content : List Block
  deriving DecidableEq, Inhabited

namespace Message

/-- The texts of a message, put together. -/
def text (m : Message) : String :=
  String.join (m.content.filterMap Block.text?)

/-- The references of a message. -/
def references (m : Message) : List String :=
  m.content.filterMap Block.reference?

end Message

/-- Where a request comes from. -/
structure Trace where
  template : String
  version : String
  timestamp : Timestamp
  streaming : Bool
  deriving DecidableEq, Inhabited

/-- What a model is asked. -/
structure Request where
  model : String
  messages : List Message
  settings : Settings
  trace : Trace
  deriving DecidableEq, Inhabited

/-- How many tokens an exchange took. -/
structure Usage where
  inputTokens : Nat
  outputTokens : Nat
  deriving DecidableEq, Inhabited

namespace Usage

/-- All tokens of an exchange. -/
def total (u : Usage) : Nat :=
  u.inputTokens + u.outputTokens

end Usage

/-- A complete answer. -/
structure Response where
  model : String
  message : Message
  usage : Usage
  finishReason : Option String
  deriving DecidableEq, Inhabited

/-- A piece of an answer that comes piece by piece.  The last one says that it is. -/
structure Chunk where
  speaker : Speaker
  content : List Block
  usage : Option Usage
  done : Bool
  deriving DecidableEq, Inhabited

namespace Chunk

/-- A piece of text. -/
def ofText (text : String) (done : Bool) : Chunk :=
  ⟨.model, [.text text], none, done⟩

/-- The texts of a piece, put together. -/
def text (c : Chunk) : String :=
  String.join (c.content.filterMap Block.text?)

end Chunk

end PromptBook
