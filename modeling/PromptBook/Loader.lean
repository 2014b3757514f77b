import PromptBook.Files.Tree
import PromptBook.Source

/-!
# Loading templates

A loader finds the templates in a directory: the files with one of its extensions, in upper or lower
case.  A template is asked for by the name of its file without the extension; a name that could lead
out of the directory finds nothing.
-/

namespace PromptBook

open Files (Tree)

/-- Finds templates by the extensions of their files. -/
structure Loader where
  /-- The extensions, in lower case and without a dot before them. -/
  extensions : List String
  deriving Inhabited

/-- A file that holds no template, or one that cannot be used. -/
structure LoadFailure where
  path : String
  error : TemplateError
  deriving Inhabited

/-- What is in the files of a directory. -/
structure LoadOutcome where
  templates : List Template
  failures : List LoadFailure
  deriving Inhabited

namespace LoadOutcome

/-- How many files were read. -/
def attempted (o : LoadOutcome) : Nat :=
  o.templates.length + o.failures.length

/-- Nothing. -/
def empty : LoadOutcome := ⟨[], []⟩

end LoadOutcome

namespace Loader

/-- The extensions of a loader that states none. -/
def defaultExtensions : List String := ["prompt", "yaml", "yml"]

/-- An extension as it is compared. -/
def normalized (extension : String) : String :=
  String.ofList (Text.asciiLower (extension.toList.dropWhile (· == '.')))

/-- The loader for some extensions. -/
def new (extensions : List String) : Loader :=
  ⟨extensions.map normalized⟩

/-- Whether a path has one of the extensions. -/
def accepts (l : Loader) (path : String) : Bool :=
  match Path.extension? path with
  | some extension => l.extensions.contains (String.ofList (Text.asciiLower extension.toList))
  | none => false

/-- The template in the file at a path. -/
def readAt (now : Timestamp) (files : Tree) (path : String) : Except TemplateError Template := do
  let text ← (files.readText path).mapError .file
  Source.read now path (Path.stem? path) text

/-- The paths of the files in a directory that have one of the extensions, in the order of their
names. -/
def candidates (l : Loader) (files : Tree) (dir : String) : List String :=
  (files.list dir).filterMap fun (name, e) =>
    match e with
    | .file .. => if l.accepts name then some (Path.join dir name) else none
    | _ => none

/-- Adds what is in the file at a path. -/
def addFile (now : Timestamp) (files : Tree) (o : LoadOutcome) (path : String) : LoadOutcome :=
  match readAt now files path with
  | .ok t => { o with templates := o.templates ++ [t] }
  | .error e => { o with failures := o.failures ++ [⟨path, e⟩] }

/-- What is in the files of a directory. -/
def readDirectory (l : Loader) (now : Timestamp) (files : Tree) (dir : String) : LoadOutcome :=
  (l.candidates files dir).foldl (addFile now files) .empty

/-- The file for a name: the first there is with one of the extensions. -/
def find? (l : Loader) (files : Tree) (dir name : String) : Option String :=
  if Path.isPlainName name then
    (l.extensions.map fun extension => Path.join dir (name ++ "." ++ extension)).find? files.isFile
  else none

/-- The template for a name. -/
def readNamed (l : Loader) (now : Timestamp) (files : Tree) (dir name : String) :
    Except TemplateError Template :=
  match l.find? files dir name with
  | some path => readAt now files path
  | none => .error (.notFound name)

end Loader

end PromptBook
