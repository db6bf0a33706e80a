import Federation.Command.Run
import Federation.Storage.Change
import Std.Time.DateTime

/-!
# The program

Reads the files a command may look at, runs the command on them and carries out what it has changed.
Everything that is decided is decided by `Command.execute`.
-/

namespace Federation.Program

open Federation.Command

/-- Adds what stands at a place on the disk to a folder.  A file that does not hold text is put in as
a folder, because it can be neither read nor replaced. -/
def loadPlace (files : Folder) (names : List String) : IO Folder := do
  let place := names.foldl (· / ·) (← IO.currentDir)
  if ← place.isDir then return (files.open? names).getD files
  else if ← place.pathExists then
    let node :=
      match String.fromUTF8? (← IO.FS.readBinFile place) with
      | some text => FileNode.file text
      | none => .folder []
    return (files.put? node names).getD files
  else return files

/-- Adds what stands at a path on the disk, and every place on the way to it. -/
def load (files : Folder) (path : String) : IO Folder := do
  let mut before := Path.start path
  let mut files ← loadPlace files before.reverse
  for name in Path.steps path do
    before := Path.follow before name
    files ← loadPlace files before.reverse
  return files

/-- Adds the files of a store. -/
def loadStore (files : Folder) (location : String) : IO Folder := do
  let path := Work.storePath location
  let mut files ← load files path
  let place := (Path.names path).foldl (· / ·) (← IO.currentDir)
  if ← place.isDir then
    for entry in ← place.readDir do
      files ← load files (StatementStore.joined path entry.fileName)
  return files

/-- Carries out a change. -/
def carryOut (change : Change) : IO Unit := do
  let start ← IO.currentDir
  let onDisk (path : List String) := path.foldl (· / ·) start
  match change with
  | .makeFolder path => IO.FS.createDirAll (onDisk path)
  | .write path text => IO.FS.writeFile (onDisk path) text
  | .remove path => IO.FS.removeFile (onDisk path)

/-- The variables of the environment that matter. -/
def environment : IO (List (String × String)) := do
  let named ← ["HOME", storeVariable].mapM fun name => do
    return (← IO.getEnv name).map (name, ·)
  return named.filterMap id

/-- The files a command may look at. -/
def gather (words : List String) (environment : List (String × String)) : IO Folder := do
  match Invocation.read words environment with
  | .error _ => return []
  | .ok i =>
    let mut files : Folder := []
    for path in i.task.paths do
      files ← load files path
    if i.task.usesStore then
      match i.storeLocation? environment with
      | some location => files ← loadStore files location
      | none => pure ()
    return files

/-- The files a command writes that nobody else may read. -/
def secrets (words : List String) (environment : List (String × String)) : List String :=
  match Invocation.read words environment with
  | .error _ => []
  | .ok i => i.task.secrets

/-- Runs the program. -/
def run (words : List String) : IO UInt32 := do
  let environment ← environment
  let now ← Std.Time.Timestamp.now
  let random ← IO.getRandomBytes 32
  let surroundings : Surroundings :=
    { environment, now := now.toSecondsSinceUnixEpoch.val, random := random.toList }
  let before ← gather words environment
  let report := execute words surroundings before
  for change in before.changes report.files do
    carryOut change
  if report.code == 0 then
    for path in secrets words environment do
      IO.setAccessRights path { user := { read := true, write := true } }
  IO.print report.output
  IO.eprint report.errors
  return report.code.toUInt32

end Federation.Program

/-- The program. -/
def main (words : List String) : IO UInt32 := do
  try Federation.Program.run words
  catch problem =>
    IO.eprintln s!"error: {problem}"
    return 1
