import PromptBook.Dictionary
import PromptBook.Json.Reader
import PromptBook.Substitution

/-!
# Command lines

A command line names a command and says what the command needs.  Options that belong to every
command may stand before or after its name; those of a command stand after it.  Where an option
stands on both sides, the one after the name counts.

An option waits for its value until the next argument, and its value is looked at when the argument
after that one comes, or at the end.
-/

namespace PromptBook

/-- A template that is asked for by name, and what to do it with. -/
structure Invocation where
  name : String
  values : Values
  model : Option String
  deriving Inhabited

/-- What can be asked for. -/
inductive Command
  /-- A line for every template. -/
  | list
  /-- What is wrong with the templates. -/
  | validate (strict : Bool)
  /-- The request that an execution would send. -/
  | render (invocation : Invocation)
  /-- The answer to a template, perhaps piece by piece. -/
  | execute (invocation : Invocation) (streaming : Bool)
  deriving Inhabited

/-- What a command line asks for. -/
structure CommandLine where
  /-- The directory of the project. -/
  root : String
  /-- The path of the configuration, if it is not the usual one. -/
  config : Option String
  /-- Whether a log file is wanted. -/
  logs : Bool
  command : Command
  deriving Inhabited

namespace Command

/-- Why a text gives no value to a variable. -/
inductive AssignmentFault
  | noValue
  | noName
  deriving DecidableEq, Inhabited

/-- Why arguments make up no command line. -/
inductive Misuse
  | unreadable
  | assignment (text : String) (fault : AssignmentFault)
  deriving DecidableEq, Inhabited

section Wording

/-- The fault of a text in words. -/
def AssignmentFault.message (text : String) : AssignmentFault → String
  | noValue => "expected key=value, got `" ++ text ++ "`"
  | noName => "missing variable name in `" ++ text ++ "`"

/-- Whether a character is shown in a message: white space is, other control characters are not. -/
def isShown (c : Char) : Bool :=
  c == '\t' || c == '\n' || c == '\r' || c == '\x0c' || (' ' ≤ c && c ≠ '\x7f')

/-- The misuse in words, if there is more to say than that it is one. -/
def Misuse.message : Misuse → String
  | unreadable => ""
  | assignment text fault =>
    String.ofList ((("error: invalid value '" ++ text ++ "' for '--var <VARS>': "
      ++ fault.message text).toList).filter isShown)

/-- What a command line looks like. -/
def usage : String :=
  "usage: prism [--root DIR] [--config FILE] [--log-file] COMMAND\n"
    ++ "commands: list\n"
    ++ "          validate [--strict]\n"
    ++ "          render NAME [--var KEY=VALUE]... [-m MODEL]\n"
    ++ "          exec NAME [--var KEY=VALUE]... [-m MODEL] [--stream]\n"

end Wording

/-- The name and the value in a text.  A value that is no JSON stands for itself. -/
def assignment (text : String) : Except AssignmentFault (String × Json) :=
  match Text.splitOnce '=' text.toList with
  | none => .error .noValue
  | some (name, value) =>
    let name := Text.trim name
    if name.isEmpty then .error .noName
    else
      let value := String.ofList value
      .ok (String.ofList name, (Json.parse? value).getD (.string value))

section Options

/-- The names of the commands. -/
inductive Verb
  | list
  | validate
  | render
  | execute
  deriving DecidableEq, Inhabited

/-- An option that takes a value. -/
inductive Setting
  | root
  | config
  | model
  | variable
  deriving DecidableEq, Inhabited

/-- An option that takes no value. -/
inductive Switch
  | logFile
  | strict
  | stream
  deriving DecidableEq, Inhabited

namespace Verb

/-- The verb that a word spells. -/
def ofWord? : String → Option Verb
  | "list" => some .list
  | "validate" => some .validate
  | "render" => some .render
  | "exec" => some .execute
  | _ => none

/-- Whether a command asks for a template by name. -/
def invokes : Verb → Bool
  | render | execute => true
  | list | validate => false

end Verb

/-- The options with values before a verb, or after it. -/
def settings (verb : Option Verb) : List (String × Setting) :=
  [("root", .root), ("config", .config)]
    ++ if verb.any Verb.invokes then [("var", .variable), ("model", .model)] else []

/-- The options with values that have a short name. -/
def shortSettings (verb : Option Verb) : List (Char × Setting) :=
  if verb.any Verb.invokes then [('m', .model)] else []

/-- The options without values before a verb, or after it. -/
def switches (verb : Option Verb) : List (String × Switch) :=
  ("log-file", .logFile) :: match verb with
    | some .validate => [("strict", .strict)]
    | some .execute => [("stream", .stream)]
    | _ => []

end Options

section Forms

/-- The form of an argument. -/
inductive Form
  /-- Two hyphens alone: what follows is no option, whatever it looks like. -/
  | separator
  /-- An option by its name, perhaps with a value after an equals sign. -/
  | named (name : String) (value : Option String)
  /-- An option by a character, perhaps with a value right after it or after an equals sign. -/
  | short (name : Char) (value : Option String)
  | operand

/-- The form of an argument. -/
def Form.of (argument : String) : Form :=
  match argument.toList with
  | ['-', '-'] => separator
  | '-' :: '-' :: rest =>
    match Text.splitOnce '=' rest with
    | some (name, value) => named (String.ofList name) (some (String.ofList value))
    | none => named (String.ofList rest) none
  | ['-', c] => short c none
  | '-' :: c :: '=' :: rest => short c (some (String.ofList rest))
  | '-' :: c :: rest => short c (some (String.ofList rest))
  | _ => operand

end Forms

section Reading

/-- What was given so far. -/
structure Given where
  settings : List (Setting × String)
  switches : List Switch
  values : List (String × Json)
  name : Option String

namespace Given

/-- The value of an option. -/
def get? (g : Given) (s : Setting) : Option String :=
  g.settings.lookup s

/-- Takes the value of an option.  Variables may be given again and again, other options once; a
path has to have characters. -/
def take (g : Given) (s : Setting) (text : String) : Except Misuse Given :=
  match s with
  | .variable => do
    let entry ← (assignment text).mapError (.assignment text)
    .ok { g with values := g.values ++ [entry] }
  | .root | .config =>
    if text.isEmpty || (g.get? s).isSome then .error .unreadable
    else .ok { g with settings := (s, text) :: g.settings }
  | .model =>
    if (g.get? s).isSome then .error .unreadable
    else .ok { g with settings := (s, text) :: g.settings }

/-- Takes an option without a value, which is given once. -/
def turnOn (g : Given) (s : Switch) : Except Misuse Given :=
  if g.switches.contains s then .error .unreadable else .ok { g with switches := s :: g.switches }

end Given

/-- An option whose value was not looked at, or did not come. -/
structure Waiting where
  setting : Setting
  value : Option String

/-- How far arguments were read. -/
structure Reading where
  given : Given
  waiting : Option Waiting
  /-- Whether what follows is no option. -/
  operandsOnly : Bool

namespace Reading

/-- Nothing was read. -/
def start : Reading := ⟨⟨[], [], [], none⟩, none, false⟩

/-- Whether the next argument is a value if it is no option. -/
def wantsValue (r : Reading) : Bool :=
  r.waiting.any (·.value.isNone)

/-- What was given when the value of the option that waits is looked at, too. -/
def settle (r : Reading) : Except Misuse Given :=
  match r.waiting with
  | none => .ok r.given
  | some ⟨s, some text⟩ => r.given.take s text
  | some ⟨_, none⟩ => .error .unreadable

/-- Goes on with an option that takes a value. -/
def setting (r : Reading) (s : Setting) (value : Option String) : Except Misuse Reading := do
  let g ← r.settle
  match value with
  | some text => do .ok { r with given := ← g.take s text, waiting := none }
  | none => .ok { r with given := g, waiting := some ⟨s, none⟩ }

/-- Goes on with an option that takes no value. -/
def switch (r : Reading) (s : Switch) : Except Misuse Reading := do
  let g ← r.settle
  .ok { r with given := ← g.turnOn s, waiting := none }

/-- Goes on with an argument that is no option: a value, or the name of a template. -/
def operand (verb : Option Verb) (r : Reading) (argument : String) : Except Misuse Reading :=
  match r.waiting with
  | some ⟨s, none⟩ =>
    if r.operandsOnly then .error .unreadable
    else .ok { r with waiting := some ⟨s, some argument⟩ }
  | _ =>
    if verb.any Verb.invokes && r.given.name.isNone then do
      let g ← r.settle
      .ok { r with given := { g with name := some argument }, waiting := none }
    else .error .unreadable

/-- Goes on with the next argument, before a verb or after it. -/
def step (verb : Option Verb) (r : Reading) (argument : String) : Except Misuse Reading :=
  if r.operandsOnly then r.operand verb argument
  else match Form.of argument with
    | .separator => .ok { r with operandsOnly := true }
    | .operand => r.operand verb argument
    | .short c value =>
      match (shortSettings verb).lookup c with
      | some s => r.setting s value
      | none => .error .unreadable
    | .named name value =>
      match (settings verb).lookup name, (switches verb).lookup name, value with
      | some s, _, value => r.setting s value
      | none, some s, none => r.switch s
      | none, _, _ => .error .unreadable

/-- Reads up to a verb.  Gives what was read, the verb and the arguments after it. -/
def upToVerb (r : Reading) : List String → Except Misuse (Reading × Option (Verb × List String))
  | [] => .ok (r, none)
  | argument :: rest =>
    match if r.operandsOnly || r.wantsValue then none else Verb.ofWord? argument with
    | some verb => .ok (r, some (verb, rest))
    | none => do (← r.step none argument).upToVerb rest

end Reading

/-- The invocation that was given. -/
def Given.invocation (g : Given) : Except Misuse Invocation :=
  match g.name with
  | some name => .ok ⟨name, Dictionary.ofEntries g.values, g.get? .model⟩
  | none => .error .unreadable

/-- The command that was given with a verb. -/
def Given.command (g : Given) : Verb → Except Misuse Command
  | .list => .ok .list
  | .validate => .ok (.validate (g.switches.contains .strict))
  | .render => g.invocation.map .render
  | .execute => g.invocation.map (.execute · (g.switches.contains .stream))

end Reading

end Command

namespace CommandLine

open Command

/-- The command line that arguments make up. -/
def ofArguments (arguments : List String) : Except Misuse CommandLine := do
  match ← Reading.start.upToVerb arguments with
  | (_, none) => .error .unreadable
  | (before, some (verb, rest)) => do
    let after ← (← rest.foldlM (Reading.step (some verb)) .start).settle
    let command ← after.command verb
    let before ← before.settle
    .ok {
      root := ((after.get? .root).or (before.get? .root)).getD "."
      config := (after.get? .config).or (before.get? .config)
      logs := after.switches.contains .logFile || before.switches.contains .logFile
      command }

end CommandLine

end PromptBook
