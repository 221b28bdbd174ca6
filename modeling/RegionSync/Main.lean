import RegionSync.CommandLine.Run
import RegionSync.FileSystem.Edit

/-!
# The program

The program looks at the files that its arguments name, runs on a file system
that holds just these, and writes the files that are other files afterwards.
A file that is written to keeps its permission bits, and a symbolic link to
it stays.
-/

namespace RegionSync.Main

/-- The paths of a file and of the directories above it. -/
def trail (path : Path) : List Path :=
  let root : Path := if path.isAbsolute then ['/'] else []
  (List.range path.names.length).map fun count =>
    root ++ Path.joinNames (path.names.take (count + 1))

/-- What stands at a path on the disk: the bytes of a file, or no bytes for a
directory. -/
def look (path : Path) : IO (Option (Option ByteArray)) := do
  match ← (IO.FS.readBinFile (String.ofList path)).toBaseIO with
  | .ok bytes => return some (some bytes)
  | .error (.inappropriateType none _ _) => return some none
  | .error _ => return none

/-- A file system with what stands at a path on the disk. -/
def adopt (files : FileSystem) (path : Path) : IO FileSystem := do
  match ← look path with
  | some (some bytes) => return files.store path (.ofBytes bytes.toList)
  | some none => return files.makeDirectory path
  | none => return files

/-- A file system with the files that some paths lead to on the disk. -/
def gather (paths : List Path) : IO FileSystem := do
  let here : Path := (toString (← IO.FS.realPath ".")).toList
  (paths.flatMap trail).foldlM adopt ⟨[], here.names.reverse⟩

/-- Writes the file that a path leads to, if it is another one than before. -/
def save (before after : FileSystem) (path : Path) : IO Unit := do
  if before.identity? path ≠ after.identity? path then
    match after.readText path with
    | .ok text =>
        IO.FS.writeFile (String.ofList path) (String.ofList text)
    | .error _ => return

/-- The variables that the program takes notice of. -/
def environment : IO Environment := do
  let names :=
    ["DEVKIT_CLAUDE_MD", "DEVKIT_REGISTRY", "HOME", "XDG_CONFIG_HOME"]
  names.filterMapM fun name => do
    return (← IO.getEnv name).map fun value => (name.toList, value.toList)

/-- Prints a failure. -/
def explain (failure : CommandLine.Failure) : IO Unit := do
  for cause in failure.causes do
    IO.eprintln ("Error: " ++ String.ofList cause)
  for document in failure.document do
    IO.eprintln ("\n" ++ String.ofList document)
  for suggestion in failure.suggestions do
    IO.eprintln ("\nSuggestion: " ++ String.ofList suggestion)

/-- Runs the program and gives its exit status. -/
def program (arguments : List Text) : IO UInt32 := do
  let settings ← environment
  let paths := CommandLine.pathsInUse settings arguments
  let before ← gather paths
  let (outcome, after) := CommandLine.run settings arguments before
  paths.forM (save before after)
  IO.print (String.ofList outcome.output)
  for failure in outcome.failure do
    explain failure
  return outcome.status.toUInt32

end RegionSync.Main

/-- The command line. -/
def main (arguments : List String) : IO UInt32 :=
  RegionSync.Main.program (arguments.map String.toList)
