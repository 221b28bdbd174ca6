import RegionSync.FileSystem.Walk

/-!
# Temporary files and renaming

A temporary file is made in a directory under a name of its own, filled, and
then renamed over its target.  The target is replaced in one step, and a
temporary file that is given up leaves nothing behind.

Each step can fail for a reason that no path shows: the disk may be full or
not to be written to.  What the disk refuses is therefore an argument of the
steps.  What a refused step has done to the temporary file is not recorded,
since the file is given up.

A rename replaces what stands at the path itself, which may be a symbolic
link.  It refuses paths that cannot name a file.
-/

namespace RegionSync

/-- The steps from a temporary file to the file in the place of its target. -/
inductive TemporaryStep where
  | create
  | write
  | setMode
  /-- Waits until the file is safe on the disk. -/
  | sync
  | rename
  deriving DecidableEq, Repr

/-- The steps that the disk refuses, with its errors. -/
abbrev Refusals := List (TemporaryStep × FileError)

/-- What comes of a step, unless the disk refuses it. -/
def Refusals.permit
    {α : Type}
    (refusals : Refusals)
    (step : TemporaryStep)
    (outcome : α) :
    Except FileError α :=
  match refusals.lookup step with
  | some error => .error error
  | none => .ok outcome

theorem Refusals.permit_eq_ok_iff
    {α : Type}
    {refusals : Refusals}
    {step : TemporaryStep}
    {outcome value : α} :
    refusals.permit step outcome = .ok value ↔
      refusals.lookup step = none ∧ outcome = value := by
  unfold permit
  cases refusals.lookup step <;> simp

namespace FileSystem

/-- The permission bits of a temporary file: only its owner may use it. -/
def temporaryMode : Nat :=
  0o600

/-- An empty file under a fresh name in a directory, with its location. -/
def createTemporary
    (files : FileSystem)
    (directory : Path)
    (refusals : Refusals) :
    Except FileError (Location × FileSystem) := do
  match ← files.locate .follow directory with
  | .found location .directory =>
      let place := files.freshName :: location
      let file : File := ⟨files.freshIdentity, temporaryMode, .text []⟩
      refusals.permit .create (place, files.add place (.file file))
  | .found _ _ => .error .notDirectory
  | .vacant _ _ => .error .notFound

/-- The file system with a change made to the file at a location. -/
def changeFile
    (files : FileSystem)
    (location : Location)
    (change : File → File) :
    FileSystem :=
  let changed : Entry → Entry
    | .file file => .file (change file)
    | other => other
  { files with
    entries := files.entries.map fun (place, entry) =>
      (place, if place = location then changed entry else entry) }

/-- Writes the content of the file at a location. -/
def writeTemporary
    (files : FileSystem)
    (location : Location)
    (content : Content)
    (refusals : Refusals) :
    Except FileError FileSystem :=
  refusals.permit .write
    (files.changeFile location fun file => { file with content })

/-- Sets the permission bits of the file at a location. -/
def setTemporaryMode
    (files : FileSystem)
    (location : Location)
    (mode : Nat)
    (refusals : Refusals) :
    Except FileError FileSystem :=
  refusals.permit .setMode
    (files.changeFile location fun file => { file with mode })

/-- Syncs the file at a location, which changes nothing that can be seen. -/
def syncTemporary
    (files : FileSystem)
    (location : Location)
    (refusals : Refusals) :
    Except FileError FileSystem :=
  refusals.permit .sync (files.changeFile location id)

/-- The location that a rename to a path gives to a file. -/
def destination (files : FileSystem) (path : Path) :
    Except FileError Location := do
  acceptPath path
  match path.names.reverse with
  | [] => .error .resourceBusy
  | name :: above =>
      match ← files.walk .follow linkLimit (files.origin path)
          (above.reverse ++ [Path.here]) with
      | .found directory .directory =>
          if name = Path.here || name = Path.above then
            .error .resourceBusy
          else if nameLimit < name.byteSize then
            .error .invalidFilename
          else if path.endsInSlash then
            .error .notDirectory
          else
            let location := name :: directory
            if files.entry? location = some .directory then
              .error .isDirectory
            else
              return location
      | _ => .error .notFound

/-- The file system in which the file at `source` stands where a path says,
in the place of what was there. -/
def rename
    (files : FileSystem)
    (source : Location)
    (path : Path)
    (refusals : Refusals) :
    Except FileError FileSystem := do
  let location ← files.destination path
  match files.entry? source with
  | some entry =>
      refusals.permit .rename ((files.remove source).put location entry)
  | none => .error .notFound

end FileSystem

end RegionSync
