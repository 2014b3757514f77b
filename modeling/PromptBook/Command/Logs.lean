import PromptBook.Files.Tree
import PromptBook.Project
import PromptBook.Time.Timestamp

/-!
# Log files

The logs of a project are in a directory of their own, a file for each run that asked for one, named
for the time of the run.  Old logs are removed at every run; other files are left alone.
-/

namespace PromptBook

open Files (Tree Entry)

namespace Logs

/-- The directory with the logs of a project. -/
def directory (root : String) : String :=
  Path.join (Path.join root ProjectConfig.directory) "logs"

/-- How long a log is kept, in seconds: three days. -/
def lifetime : Nat := 3 * 24 * 60 * 60

/-- Whether a path leads to a log that was kept long enough. -/
def isExpired (files : Tree) (path : String) : Bool :=
  match Path.extension? path, files.entry? path with
  | some "log", some (.file _ age) => lifetime ≤ age
  | _, _ => false

/-- The files without the old logs of a project. -/
def clean (files : Tree) (root : String) : Tree :=
  ((files.list (directory root)).map fun e => Path.join (directory root) e.1).foldl
    (fun files path => if isExpired files path then (files.remove? path).getD files else files) files

/-- The name of the log of a run. -/
def name (now : Timestamp) : String :=
  String.ofList (now.date ++ '_' :: now.clock ++ ".log".toList)

/-- Why there can be no log. -/
inductive Error
  | directory (path : String) (failure : Files.Failure)
  | file (path : String) (failure : Files.Failure)
  deriving DecidableEq, Inhabited

/-- The files with an empty log of a run that begins now. -/
def start (now : Timestamp) (files : Tree) (root : String) : Except Error Tree := do
  let files ← (files.makeDirectories (directory root)).mapError (.directory (directory root))
  let path := Path.join (directory root) (name now)
  (files.write path (.file (some "") 0)).mapError (.file path)

end Logs

end PromptBook
