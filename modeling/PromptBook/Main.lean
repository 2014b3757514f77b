import PromptBook.Command.Run
import Std.Time.DateTime.Timestamp

/-!
# The program

Reads the files that a command line needs, runs it, and does to the logs what the run did.
-/

namespace PromptBook

open Files (Tree Entry)

namespace Program

/-- Nothing but the current directory and those it is in. -/
def emptyTree : IO Tree := do
  let here := Path.components (← IO.currentDir).toString
  let files : Tree := ⟨[], here⟩
  return (files.makeDirectories ("/" ++ "/".intercalate here)).toOption.getD files

/-- The file at a path. -/
def readEntry (seconds : Int) (path : String) : IO Entry := do
  let place := (← IO.currentDir) / path
  let content ← IO.FS.readBinFile place
  let written := (← place.metadata).modified.sec
  return .file (String.fromUTF8? content) (seconds - written).toNat

/-- Adds the file or the directory at a path, if there is one. -/
def addFile (seconds : Int) (files : Tree) (path : String) : IO Tree := do
  match ← (readEntry seconds path).toBaseIO with
  | .ok e =>
    let inner := (files.makeDirectories ((Tree.parentPath path).getD "")).toOption.getD files
    return (inner.write path e).toOption.getD files
  | .error _ =>
    if ← ((← IO.currentDir) / path).isDir then
      return (files.makeDirectories path).toOption.getD files
    else return files

/-- Adds what has a name in a directory. -/
def addNamed (seconds : Int) (dir : String) (files : Tree) (name : String) : IO Tree := do
  let path := Path.join dir name
  let place := (← IO.currentDir) / path
  match (← place.symlinkMetadata).type with
  | .symlink =>
    let target := (← IO.FS.realPath place).toString
    match files.findItself path with
    | .ok (.missing there name) =>
      addFile seconds (files.put (there ++ [name]) (.link target)) target
    | _ => return files
  | _ => addFile seconds files path

/-- Adds a directory and what is in it. -/
def addDirectory (seconds : Int) (files : Tree) (path : String) : IO Tree := do
  match ← ((← IO.currentDir) / path).readDir.toBaseIO with
  | .ok found =>
    let files := (files.makeDirectories path).toOption.getD files
    (found.toList.map (·.fileName)).foldlM (addNamed seconds path) files
  | .error _ => return files

/-- The files that a command line needs. -/
def snapshot (seconds : Int) (line : CommandLine) : IO Tree := do
  let files ← addFile seconds (← emptyTree) line.configPath
  let files ← addDirectory seconds files (Logs.directory line.root)
  match ProjectConfig.load files line.configPath with
  | .ok config => addDirectory seconds files (Path.join line.root config.prompts.dir)
  | .error _ => return files

/-- Removes the logs that a run removed, and makes those that it made. -/
def keepLogs (root : String) (before after : Tree) : IO Unit := do
  let dir := Logs.directory root
  let old := (before.list dir).map (·.1)
  let new := (after.list dir).map (·.1)
  for name in old do
    if !new.contains name then
      let _ ← (IO.FS.removeFile (Path.join dir name)).toBaseIO
  for name in new do
    if !old.contains name then
      IO.FS.createDirAll dir
      IO.FS.writeFile (Path.join dir name) ""

/-- Tells what a run has to say, and how it ended. -/
def tell (run : Command.Run) : IO UInt32 := do
  IO.print run.output
  IO.eprint run.ending.message
  return UInt32.ofNat run.ending.code

/-- Does what arguments ask for. -/
def run (arguments : List String) : IO UInt32 := do
  match CommandLine.ofArguments arguments with
  | .error misuse =>
    IO.eprintln misuse.message
    IO.eprint Command.usage
    return 2
  | .ok line =>
    let seconds := (← Std.Time.Timestamp.now).toSecondsSinceUnixEpoch.toInt
    let files ← snapshot seconds line
    let run := line.run (.ofSeconds seconds) files
    keepLogs line.root files run.files
    tell run

end Program

end PromptBook

/-- Loads, validates, renders and executes the templates of a project. -/
def main (arguments : List String) : IO UInt32 :=
  PromptBook.Program.run arguments
