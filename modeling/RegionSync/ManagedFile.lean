import RegionSync.Document.Reading
import RegionSync.FileSystem.Access
import RegionSync.FileSystem.Rename
import RegionSync.Merge

/-!
# Managed files

A managed file is a file that holds a document, together with the registry
that owns its sections.  `init` writes a fresh document, `update` merges the
registry into the document that is there, and `check` only reports.

A document is written to a temporary file next to its target and then renamed
over it, so that readers see the old document or the new one.  If the path
is a symbolic link, the file it leads to is replaced and the link stays.  The
file keeps its permission bits.  An operation that fails leaves the file
system as it was: if a step fails after the temporary file was made, the
temporary file is removed.  The steps that the disk refuses are an argument of
`init` and `update`; unless they are given it refuses none.
-/

namespace RegionSync

/-- A file that holds a document, and the registry that owns its sections. -/
structure ManagedFile where
  path : Path
  registry : Registry
  deriving DecidableEq, Repr

/-- What was being done to a file when it failed. -/
inductive FileAction where
  | checkExistence
  | read
  | resolveLink
  | readMetadata
  /-- A step of replacing the file by a temporary file. -/
  | temporary (step : TemporaryStep)
  deriving DecidableEq, Repr

/-- The action in words. -/
def FileAction.text : FileAction → Text
  | checkExistence => "check existence of".toList
  | read => "read".toList
  | resolveLink => "resolve symlink".toList
  | readMetadata => "read metadata of".toList
  | temporary .create => "create temporary file for".toList
  | temporary .write => "write temporary file for".toList
  | temporary .setMode => "set permissions of temporary file for".toList
  | temporary .sync => "sync temporary file for".toList
  | temporary .rename => "replace".toList

/-- Why an operation on a managed file fails. -/
inductive ManagedFault where
  /-- A fresh document would discard what is there. -/
  | alreadyExists (path : Path)
  /-- There is no document. -/
  | notFound (path : Path)
  /-- The document cannot be read as one. -/
  | malformed (fault : Malformed)
  /-- The file system refuses. -/
  | io (action : FileAction) (path : Path) (error : FileError)
  deriving DecidableEq, Repr

/-- The fault in words. -/
def ManagedFault.message : ManagedFault → Text
  | alreadyExists path => path ++ " already exists".toList
  | notFound path => path ++ " does not exist".toList
  | malformed fault => fault.message
  | io action path _ => action.text ++ ' ' :: path

def ManagedFault.causes : ManagedFault → List Text
  | io action path error => [(io action path error).message, error.message]
  | fault => [fault.message]

namespace ManagedFile

/-- What a fresh document says behind its sections. -/
def placeholder : Text :=
  "<!-- Add project-specific instructions below. ".toList
    ++ "`devkit claude update` only rewrites text between ".toList
    ++ "BEGIN and END markers. -->\n".toList

/-- The permission bits of a document that is new. -/
def newMode : Nat :=
  0o644

def freshText (registry : Registry) : Text :=
  (Document.ofSections registry.sections placeholder).render

/-- A failed operation on the file, as a fault. -/
def fault
    (managed : ManagedFile)
    (action : FileAction)
    (error : FileError) :
    ManagedFault :=
  .io action managed.path error

def read (managed : ManagedFile) (files : FileSystem) :
    Except ManagedFault Document :=
  match files.readText managed.path with
  | .ok text => (Document.parse text).mapError .malformed
  | .error .notFound => .error (.notFound managed.path)
  | .error error => .error (managed.fault .read error)

/-- The path of the file that holds the document: the path itself, or what
the symbolic link there leads to. -/
def target (managed : ManagedFile) (files : FileSystem) :
    Except ManagedFault Path :=
  match files.linkStat managed.path with
  | .ok (_, .link _) =>
      (files.canonicalPath managed.path).mapError
        (managed.fault .resolveLink)
  | .ok _ => .ok managed.path
  | .error .notFound => .ok managed.path
  | .error error => .error (managed.fault .readMetadata error)

/-- The permission bits to write a target with. -/
def modeOf (managed : ManagedFile) (files : FileSystem) (target : Path) :
    Except ManagedFault Nat :=
  match files.stat target with
  | .ok (_, .file file) => .ok file.mode
  | .ok _ => .ok newMode
  | .error .notFound => .ok newMode
  | .error error => .error (managed.fault .readMetadata error)

/-- Gives up the temporary file at a location after a step that failed. -/
def giveUp
    (managed : ManagedFile)
    (step : TemporaryStep)
    (error : FileError)
    (location : Location)
    (files : FileSystem) :
    Except ManagedFault Unit × FileSystem :=
  (.error (managed.fault (.temporary step) error), files.remove location)

/-- The file system with a file of the given text in the place of a target;
if this fails, the file system as it was. -/
def replaceTarget
    (managed : ManagedFile)
    (files : FileSystem)
    (target : Path)
    (mode : Nat)
    (text : Text)
    (refusals : Refusals) :
    Except ManagedFault Unit × FileSystem :=
  match files.createTemporary target.parent refusals with
  | .error error => (.error (managed.fault (.temporary .create) error), files)
  | .ok (location, created) =>
  match created.writeTemporary location (.text text) refusals with
  | .error error => managed.giveUp .write error location created
  | .ok written =>
  match written.setTemporaryMode location mode refusals with
  | .error error => managed.giveUp .setMode error location written
  | .ok permitted =>
  match permitted.syncTemporary location refusals with
  | .error error => managed.giveUp .sync error location permitted
  | .ok synced =>
  match synced.rename location target refusals with
  | .error error => managed.giveUp .rename error location synced
  | .ok renamed => (.ok (), renamed)

/-- Replaces the document by a text. -/
def write
    (managed : ManagedFile)
    (text : Text)
    (files : FileSystem)
    (refusals : Refusals) :
    Except ManagedFault Unit × FileSystem :=
  let plan : Except ManagedFault (Path × Nat) := do
    let target ← managed.target files
    return (target, ← managed.modeOf files target)
  match plan with
  | .error fault => (.error fault, files)
  | .ok (target, mode) =>
      managed.replaceTarget files target mode text refusals

/-- Writes a fresh document.  What is there is discarded only with `force`. -/
def init
    (managed : ManagedFile)
    (force : Bool)
    (files : FileSystem)
    (refusals : Refusals := []) :
    Except ManagedFault Unit × FileSystem :=
  match files.pathExists managed.path with
  | .error error => (.error (managed.fault .checkExistence error), files)
  | .ok isThere =>
      if isThere && !force then
        (.error (.alreadyExists managed.path), files)
      else
        managed.write (freshText managed.registry) files refusals

/-- Merges the registry into the document, and writes it if that changed
anything. -/
def update
    (managed : ManagedFile)
    (files : FileSystem)
    (refusals : Refusals := []) :
    Except ManagedFault UpdateReport × FileSystem :=
  match managed.read files with
  | .error fault => (.error fault, files)
  | .ok document =>
      let (merged, report) := document.merge managed.registry
      if report.isChanged then
        match managed.write merged.render files refusals with
        | (.error fault, left) => (.error fault, left)
        | (.ok (), written) => (.ok report, written)
      else
        (.ok report, files)

/-- Reports what the document lacks. -/
def check (managed : ManagedFile) (files : FileSystem) :
    Except ManagedFault CheckReport :=
  return (← managed.read files).check managed.registry

end ManagedFile

end RegionSync
