import PromptBook.Template.Basic

/-!
# Validation

A report lists what is wrong with a template.  Errors always stand in the way of using it, warnings
only where checking is strict.
-/

namespace PromptBook

/-- What is wrong with a template. -/
structure Report where
  errors : List String
  warnings : List String
  deriving DecidableEq, Inhabited

namespace Report

/-- Nothing is wrong. -/
def empty : Report := ⟨[], []⟩

/-- One more error. -/
def error (r : Report) (message : String) : Report :=
  { r with errors := r.errors ++ [message] }

/-- One more warning. -/
def warning (r : Report) (message : String) : Report :=
  { r with warnings := r.warnings ++ [message] }

/-- The findings of both reports. -/
def merge (r other : Report) : Report :=
  ⟨r.errors ++ other.errors, r.warnings ++ other.warnings⟩

/-- No errors. -/
def isValid (r : Report) : Bool :=
  r.errors.isEmpty

/-- Whether a template with this report can be used; where checking is strict, warnings count. -/
def passes (r : Report) (strict : Bool) : Bool :=
  r.isValid && (!strict || r.warnings.isEmpty)

/-- How many of something, in words. -/
def counted (n : Nat) (noun : String) : String :=
  toString n ++ " " ++ noun ++ if n = 1 then "" else "s"

/-- The report in one line. -/
def summary (r : Report) : String :=
  counted r.errors.length "error" ++ ", " ++ counted r.warnings.length "warning"

end Report

namespace Template

/-- What is wrong with the template as a whole. -/
def ownErrors (t : Template) : List String :=
  (if Text.isBlankText t.name then ["template name cannot be empty"] else [])
    ++ (if t.parts.isEmpty then ["template must have at least one part"] else [])

/-- What makes the part with an index unusable. -/
def partErrors (index : Nat) (p : Part) : List String :=
  match p.kind with
  | .other word => ["part " ++ toString index ++ " has unrecognized type \"" ++ word ++ "\""]
  | .media =>
    if p.reference.all Text.isBlankText then ["media part " ++ toString index ++ " has no url"]
    else []
  | .system | .user => []

/-- What is odd about the part with an index. -/
def partWarnings (index : Nat) (p : Part) : List String :=
  match p.kind with
  | .system | .user =>
    if Text.isBlankText p.content then
      [p.kind.word ++ " part " ++ toString index ++ " has empty content"]
    else []
  | .other _ | .media => []

/-- What makes a declaration unusable, after the declarations of some names. -/
def variableErrors (declared : List String) (v : Variable) : List String :=
  (if Placeholder.isIdentifierText v.name then []
    else ["variable name \"" ++ v.name ++ "\" is not a valid identifier"])
  ++ (if Text.isBlankText v.type then ["variable \"" ++ v.name ++ "\" has no type"] else [])
  ++ (if declared.contains v.name then
      ["variable \"" ++ v.name ++ "\" is declared more than once"] else [])

/-- What makes the declarations of a list unusable, each after those before it. -/
def declarationErrors : List String → List Variable → List String
  | _, [] => []
  | declared, v :: rest => variableErrors declared v ++ declarationErrors (v.name :: declared) rest

/-- What is odd about a declaration: no part refers to it. -/
def variableWarnings (referenced : List String) (v : Variable) : List String :=
  if referenced.contains v.name then []
  else ["variable \"" ++ v.name ++ "\" is declared but never referenced"]

/-- What is wrong with a template: first as a whole, then part by part, then variable by
variable. -/
def validate (t : Template) : Report where
  errors := t.ownErrors ++ (t.parts.mapIdx partErrors).flatten ++ declarationErrors [] t.declarations
  warnings := (t.parts.mapIdx partWarnings).flatten
    ++ t.declarations.flatMap (variableWarnings t.referenced)

end Template

end PromptBook
