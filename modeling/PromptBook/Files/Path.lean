import PromptBook.Text.Blank

/-!
# Paths

A path is a text of components with a slash between them.  Empty components and those of one dot say
nothing; two dots lead outward.
-/

namespace PromptBook
namespace Path

/-- The components of a path that say something. -/
def components (path : String) : List String :=
  ((Text.splitWhere (· == '/') path.toList).filter fun c => c ≠ [] ∧ c ≠ ['.']).map String.ofList

/-- Whether a path begins at the root of all files. -/
def isAbsolute (path : String) : Bool :=
  path.toList.head? = some '/'

/-- A path from the place of another. -/
def join (base path : String) : String :=
  if isAbsolute path then path
  else if base.isEmpty ∨ base.toList.getLast? = some '/' then base ++ path
  else base ++ "/" ++ path

/-- The name of the file at a path. -/
def fileName? (path : String) : Option String :=
  (components path).getLast?.filter (· ≠ "..")

/-- The characters before and after the last dot of a name, unless the dot comes first. -/
def splitName (name : String) : Option (String × String) :=
  let reversed := name.toList.reverse
  match reversed.dropWhile (· ≠ '.') with
  | _ :: c :: before =>
    some (String.ofList (c :: before).reverse,
      String.ofList (reversed.takeWhile (· ≠ '.')).reverse)
  | _ => none

/-- The name of the file at a path without its extension. -/
def stem? (path : String) : Option String :=
  (fileName? path).map fun name => ((splitName name).map (·.1)).getD name

/-- The extension of the file at a path. -/
def extension? (path : String) : Option String :=
  (fileName? path).bind fun name => (splitName name).map (·.2)

/-- A name that is one component of a path and leads nowhere else. -/
def isPlainName (name : String) : Bool :=
  name ≠ "" && name ≠ "." && name ≠ ".." && name.toList.all fun c => c ≠ '/' && c ≠ '\\'

end Path
end PromptBook
