import RegionSync.FileSystem.Access
import RegionSync.Registry.Builtin
import RegionSync.Registry.Configuration

/-!
# Which registry to use

A registry that is asked for by its path is loaded from there.  Otherwise the
user's own registry counts, and the builtin one only if the user has none.  A
registry file that is there and cannot be used is an error, whatever is wrong
with it; it is never passed over.
-/

namespace RegionSync

/-- Why a registry could not be loaded. -/
inductive LoadFault where
  /-- The file cannot be read. -/
  | read (path : Path) (error : FileError)
  /-- The file does not hold a registry. -/
  | content (path : Path) (text : Text) (fault : ContentFault)
  deriving DecidableEq, Repr

/-- A cause in the chain behind a fault. -/
inductive Cause where
  /-- What was being done, or what is wrong with the content. -/
  | words (text : Text)
  /-- The error of the file system itself. -/
  | file (error : FileError)
  deriving DecidableEq, Repr

/-- The cause in words. -/
def Cause.message : Cause → Text
  | words text => text
  | file error => error.message

namespace LoadFault

/-- A text with every line indented, but for empty ones. -/
def indented (text : Text) : Text :=
  text.rawLines.flatMap fun line =>
    if line = ['\n'] then line else "   ".toList ++ line

/-- The content of a file under a heading, unless it is empty. -/
def contentCause (text : Text) : Text :=
  if text.isEmpty then []
  else "File content:\n".toList ++ indented text

/-- The chain of causes, the outermost first. -/
def chain : LoadFault → List Cause
  | read path error =>
      [.words ("read registry file: ".toList ++ Text.quoted path),
        .file error]
  | content path text fault =>
      .words (contentCause text)
        :: .words ("parse registry file: ".toList ++ Text.quoted path)
        :: fault.causes.map .words

/-- The fault in words, the outermost cause first. -/
def causes (fault : LoadFault) : List Text :=
  fault.chain.map Cause.message

/-- Whether it is a cause of the fault that there is no file. -/
def isNotFound (fault : LoadFault) : Bool :=
  fault.chain.any (fun cause => cause == .file .notFound)

end LoadFault

namespace Registry

def load (files : FileSystem) (path : Path) : Except LoadFault Registry :=
  match files.readText path with
  | .error error => .error (.read path error)
  | .ok text => (Registry.ofText text).mapError (.content path text)

/-- The registry to use, given the path of the user's registry and the path
that was asked for. -/
def resolve
    (files : FileSystem)
    (userPath explicit : Option Path) :
    Except LoadFault Registry :=
  match explicit, userPath with
  | some path, _ => load files path
  | none, none => .ok builtin
  | none, some path =>
      match load files path with
      | .ok registry => .ok registry
      | .error fault =>
          if fault.isNotFound then .ok builtin else .error fault

end Registry

end RegionSync
