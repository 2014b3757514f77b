import PromptBook.Files.Failure
import PromptBook.Text.Blank
import PromptBook.Yaml.Failure

/-!
# What can go wrong with a template

The causes are kept as they are; `TemplateError.message` puts them into words.
-/

namespace PromptBook

/-- Why a text is no template of its dialect. -/
inductive FormatFault
  | emptyDocument
  /-- A role marker whose argument is no quoted word. -/
  | malformedRole (argument : List Char)
  /-- A role marker for a role that there is not. -/
  | unknownRole (word : List Char)
  /-- A media block without a reference to a variable. -/
  | badReference (inner : List Char)
  | neitherDialect
  | noName
  | noParts
  deriving DecidableEq, Inhabited

namespace FormatFault

/-- The fault in words. -/
def message : FormatFault → String
  | emptyDocument => "empty document"
  | malformedRole argument => "malformed role marker: role " ++ String.ofList argument
  | unknownRole word => "unrecognized role \"" ++ String.ofList word ++ "\""
  | badReference inner => "invalid media reference: " ++ String.ofList (Text.trim inner)
  | neitherDialect => "no role marker and not a structured document"
  | noName => "structured template has no name"
  | noParts => "structured template has no parts"

end FormatFault

/-- Why there is no template, or why it cannot be used. -/
inductive TemplateError
  | notFound (name : String)
  | format (source : String) (fault : FormatFault)
  | yaml (source : String) (failure : Yaml.Failure)
  | invalid (name : String) (findings : List String)
  | missingVariable (name missing : String)
  | file (failure : Files.Failure)
  deriving Inhabited

namespace TemplateError

/-- The error in words. -/
def message : TemplateError → String
  | notFound name => "template not found: " ++ name
  | format source fault => "invalid template format in " ++ source ++ ": " ++ fault.message
  | yaml source failure => "invalid structured template " ++ source ++ ": " ++ failure.message
  | invalid name findings =>
    "template " ++ name ++ " failed validation: " ++ "; ".intercalate findings
  | missingVariable name missing =>
    "template " ++ name ++ " is missing required variable: " ++ missing
  | file failure => failure.message

end TemplateError

end PromptBook
