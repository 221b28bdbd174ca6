import RegionSync.ManagedFile
import RegionSync.Registry.Resolution
import RegionSync.Snippet

/-!
# Failures

A command that fails says why, in one line for each cause from the outermost
on.  It points to the marker that makes a document malformed, and suggests
what to do.
-/

namespace RegionSync.CommandLine

/-- What a failed command reports. -/
structure Failure where
  causes : List Text
  /-- The malformed document with its faulty marker pointed out. -/
  document : Option Text
  suggestions : List Text
  deriving DecidableEq, Repr

def firstLine (text : Text) : Text :=
  text.takeWhile (fun char => char != '\n')

/-- The suggestion that always helps. -/
def generalAdvice : Text :=
  "Set `DEVKIT_LOG=debug` to see what devkit read and decided.".toList

namespace Failure

/-- What to do about a fault of a managed file. -/
def advice? : ManagedFault → Option Text
  | .alreadyExists _ => some
      ("Pass `--force` to replace it; "
        ++ "its current content will be lost.").toList
  | .notFound _ => some "Run `devkit claude init` to create it.".toList
  | .malformed _ => some
      ("Markers must pair up as `<!-- BEGIN: name vX -->` ... "
        ++ "`<!-- END: name -->` and cannot nest. Fix them by hand, "
        ++ "or discard the file with `devkit claude init --force`.").toList
  | .io _ _ _ => none

/-- The registry cannot be loaded. -/
def ofLoadFault (fault : LoadFault) : Failure :=
  { causes := ("load template registry".toList :: fault.causes).map firstLine
    document := none
    suggestions := [generalAdvice] }

def snippet? (files : FileSystem) (path : Path) : ManagedFault → Option Text
  | .malformed fault => (files.readText path).toOption.map fault.annotate
  | _ => none

def ofManagedFault
    (files : FileSystem)
    (path : Path)
    (fault : ManagedFault) :
    Failure :=
  { causes := fault.causes.map firstLine
    document := snippet? files path fault
    suggestions := (advice? fault).toList ++ [generalAdvice] }

end Failure

end RegionSync.CommandLine
