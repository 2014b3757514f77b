import PromptBook.Files.Failure
import PromptBook.Files.Path

/-!
# Trees of files

A tree holds what is at each place below the root: a file, a directory or a link to another path.  A
place is the list of names that leads to it.  Paths that do not begin at the root begin at the
current directory.
-/

namespace PromptBook
namespace Files

/-- The names from the root to a place. -/
abbrev Location := List String

/-- What is at a place. -/
inductive Entry
  /-- A file: its content, unless that is no text, and how many seconds ago it was written. -/
  | file (content : Option String) (age : Nat)
  | link (path : String)
  | directory
  deriving DecidableEq, Inhabited

/-- A tree of files. -/
structure Tree where
  /-- What there is, in no particular order; the root itself is not listed. -/
  entries : List (Location × Entry)
  /-- The current directory. -/
  current : Location
  deriving Inhabited

/-- Where a path leads. -/
inductive Found
  | entry (place : Location) (entry : Entry)
  /-- Nowhere: the last name is missing in a directory. -/
  | missing (directory : Location) (name : String)

namespace Tree

/-- What is at a place. -/
def at? (t : Tree) (place : Location) : Option Entry :=
  if place.isEmpty then some .directory else t.entries.lookup place

section Walking

/-- How many links may be followed on a path. -/
def mostLinks : Nat := 40

/-- The names of a path.  A slash at its end asks for a directory, as a dot does. -/
def steps (path : String) : List String :=
  Path.components path ++ if path.toList.getLast? = some '/' then ["."] else []

/-- Follows names from a place.  A link at the end is followed if `follow` says so. -/
def walk (t : Tree) (follow : Bool) (links : Nat) (place : Location) (names : List String) :
    Except Failure Found :=
  match names with
  | [] =>
    match t.at? place with
    | some e => .ok (.entry place e)
    | none => .error .notFound
  | name :: rest =>
    match t.at? place with
    | some .directory =>
      if name = "." then walk t follow links place rest
      else if name = ".." then walk t follow links place.dropLast rest
      else if 255 < name.utf8ByteSize then .error .nameTooLong
      else
        let there := place ++ [name]
        match t.at? there with
        | none => if rest.isEmpty then .ok (.missing place name) else .error .notFound
        | some (.link path) =>
          if rest.isEmpty ∧ !follow then .ok (.entry there (.link path))
          else match links with
            | 0 => .error .tooManyLinks
            | links + 1 =>
              walk t follow links (if Path.isAbsolute path then [] else place) (steps path ++ rest)
        | some _ => walk t follow links there rest
    | some _ => .error .notADirectory
    | none => .error .notFound
termination_by (links, names.length)

/-- Follows a path; a link at its end is followed if `follow` says so. -/
def findFrom (t : Tree) (follow : Bool) (path : String) : Except Failure Found :=
  if path.isEmpty then .error .notFound
  else if path.toList.contains (Char.ofNat 0) then .error .badPath
  else if 4096 ≤ path.utf8ByteSize then .error .nameTooLong
  else t.walk follow mostLinks (if Path.isAbsolute path then [] else t.current) (steps path)

/-- Follows a path to its end. -/
def find (t : Tree) (path : String) : Except Failure Found :=
  t.findFrom true path

/-- Follows a path, but not a link at its end. -/
def findItself (t : Tree) (path : String) : Except Failure Found :=
  t.findFrom false path

end Walking

section Looking

/-- What is where a path leads. -/
def entry? (t : Tree) (path : String) : Option Entry :=
  match t.find path with
  | .ok (.entry _ e) => some e
  | _ => none

/-- Whether a path leads anywhere. -/
def isThere (t : Tree) (path : String) : Bool :=
  (t.entry? path).isSome

/-- Whether a path leads to a directory. -/
def isDirectory (t : Tree) (path : String) : Bool :=
  t.entry? path = some .directory

/-- Whether a path leads to a file. -/
def isFile (t : Tree) (path : String) : Bool :=
  match t.entry? path with
  | some (.file ..) => true
  | _ => false

/-- The text of the file that a path leads to. -/
def readText (t : Tree) (path : String) : Except Failure String := do
  match ← t.find path with
  | .entry _ (.file (some s) _) => .ok s
  | .entry _ (.file none _) => .error .notText
  | .entry .. => .error .isADirectory
  | .missing .. => .error .notFound

/-- The entry of a directory at a place, by name. -/
def child? (place : Location) (e : Location × Entry) : Option (String × Entry) :=
  match e.1.getLast? with
  | some name => if e.1.dropLast = place then some (name, e.2) else none
  | none => none

/-- What is in the directory that a path leads to, in the order of the names. -/
def list (t : Tree) (path : String) : List (String × Entry) :=
  match t.find path with
  | .ok (.entry place .directory) =>
    (t.entries.filterMap (child? place)).mergeSort fun a b => a.1 ≤ b.1
  | _ => []

end Looking

section Changing

/-- Puts something at a place. -/
def put (t : Tree) (place : Location) (e : Entry) : Tree :=
  { t with entries := (place, e) :: t.entries.filter (·.1 ≠ place) }

/-- A path without slashes at its end, unless it is of nothing else. -/
def withoutSlash (path : String) : String :=
  let cs := Text.trimEnd (· == '/') path.toList
  if cs.isEmpty then path else String.ofList cs

/-- Makes a directory where a path leads nowhere yet. -/
def makeDirectory (t : Tree) (path : String) : Except Failure Tree := do
  match ← t.findItself (withoutSlash path) with
  | .missing place name => .ok (t.put (place ++ [name]) .directory)
  | .entry .. => .error .alreadyThere

/-- A path without its last component. -/
def parentPath (path : String) : Option String :=
  match Path.components path with
  | [] => none
  | names =>
    let inner := "/".intercalate names.dropLast
    some (if Path.isAbsolute path then "/" ++ inner else inner)

/-- Makes the directory of a path and those it is in.  The first argument bounds how many that
are. -/
def makeDirectoriesFrom : Nat → Tree → String → Except Failure Tree
  | 0, _, _ => .error .notFound
  | steps + 1, t, path =>
    if path.isEmpty then .ok t
    else match t.makeDirectory path with
      | .ok t => .ok t
      | .error .notFound => do
        match parentPath path with
        | none => .error .notFound
        | some parent =>
          let t ← makeDirectoriesFrom steps t parent
          match t.makeDirectory path with
          | .ok t => .ok t
          | .error e => if t.isDirectory path then .ok t else .error e
      | .error e => if t.isDirectory path then .ok t else .error e

/-- Makes the directory of a path and those it is in, as far as they are not there. -/
def makeDirectories (t : Tree) (path : String) : Except Failure Tree :=
  makeDirectoriesFrom ((Path.components path).length + 1) t path

/-- Writes the file that a path leads to. -/
def write (t : Tree) (path : String) (e : Entry) : Except Failure Tree := do
  match ← t.find path with
  | .entry _ .directory => .error .isADirectory
  | .entry place _ => .ok (t.put place e)
  | .missing place name => .ok (t.put (place ++ [name]) e)

/-- Removes what is at a path, a directory with everything in it; a link is removed itself. -/
def remove? (t : Tree) (path : String) : Option Tree :=
  match t.findItself path with
  | .ok (.entry place _) =>
    some { t with entries := t.entries.filter fun e => !place.isPrefixOf e.1 }
  | _ => none

end Changing

end Tree

end Files
end PromptBook
