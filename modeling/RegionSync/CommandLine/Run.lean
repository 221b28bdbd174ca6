import RegionSync.CommandLine.Failure
import RegionSync.CommandLine.Help
import RegionSync.CommandLine.Report

/-!
# Running a command

The program takes arguments, an environment and a file system, and ends with
an exit status, printed text, perhaps a failure, and the file system as it
leaves it.  The status is 2 for wrong arguments, and 1 for a failure or for
a check that finds something to do.
-/

namespace RegionSync.CommandLine

/-- How the program ends. -/
structure Outcome where
  status : Nat
  output : Text
  failure : Option Failure
  deriving DecidableEq, Repr

namespace Outcome

/-- The arguments are wrong. -/
def misuse : Outcome :=
  ⟨2, [], none⟩

/-- A text is printed. -/
def printed (output : Text) : Outcome :=
  ⟨0, output, none⟩

/-- Lines are printed. -/
def ofRows (rows : List Text) : Outcome :=
  printed (LineEnding.lf.terminate rows)

/-- A command fails. -/
def failed (failure : Failure) : Outcome :=
  ⟨1, [], some failure⟩

end Outcome

/-- The version of the program. -/
def versionRow : Text :=
  "devkit 0.1.0".toList

def runCheck
    (json : Bool)
    (managed : ManagedFile)
    (files : FileSystem) :
    Outcome :=
  match managed.check files with
  | .error fault => .failed (.ofManagedFault files managed.path fault)
  | .ok report =>
      let rows :=
        if json then [checkJson report] else checkRows report managed.path
      { Outcome.ofRows rows with
        status := if report.hasUpdates then 1 else 0 }

def runUpdate
    (json : Bool)
    (managed : ManagedFile)
    (files : FileSystem)
    (refusals : Refusals) :
    Outcome × FileSystem :=
  match managed.update files refusals with
  | (.error fault, left) =>
      (.failed (.ofManagedFault left managed.path fault), left)
  | (.ok report, written) =>
      let rows :=
        if json then [updateJson report] else updateRows report managed.path
      (.ofRows rows, written)

/-- Writes a fresh managed file. -/
def runInit
    (force : Bool)
    (managed : ManagedFile)
    (files : FileSystem)
    (refusals : Refusals) :
    Outcome × FileSystem :=
  match managed.init force files refusals with
  | (.error fault, left) =>
      (.failed (.ofManagedFault left managed.path fault), left)
  | (.ok (), written) =>
      (.ofRows (initRows managed.path managed.registry.size), written)

def runTask
    (environment : Environment)
    (task : Task)
    (files : FileSystem)
    (refusals : Refusals) :
    Outcome × FileSystem :=
  match Registry.resolve files environment.userRegistryPath? task.registry with
  | .error fault => (.failed (.ofLoadFault fault), files)
  | .ok registry =>
      let managed : ManagedFile := ⟨task.file, registry⟩
      match task.command with
      | .init force => runInit force managed files refusals
      | .update json => runUpdate json managed files refusals
      | .check json => (runCheck json managed files, files)
      | .list => (.ofRows (listRows registry), files)

/-- Runs the program. -/
def run
    (environment : Environment)
    (arguments : List Text)
    (files : FileSystem)
    (refusals : Refusals := []) :
    Outcome × FileSystem :=
  match readArguments arguments with
  | none => (.misuse, files)
  | some (.help topic) => (.printed (topic.text environment), files)
  | some .version => (.ofRows [versionRow], files)
  | some (.run request) =>
      match request.settle? environment with
      | none => (.misuse, files)
      | some task => runTask environment task files refusals

/-- The paths of the files that the program looks at. -/
def pathsInUse
    (environment : Environment)
    (arguments : List Text) :
    List Path :=
  match readArguments arguments with
  | some (.run request) =>
      match request.settle? environment with
      | some task =>
          task.file :: task.registry.toList
            ++ environment.userRegistryPath?.toList
      | none => []
  | _ => []

end RegionSync.CommandLine
