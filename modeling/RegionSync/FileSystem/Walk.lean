import RegionSync.FileSystem.Basic
import RegionSync.FileSystem.Error

/-!
# Where a path leads

A path is followed name by name from the root or the working directory.  All
names but the last must lead to directories.  A symbolic link continues with
the path that it holds; the last one may also be taken as it is.  Following
more than forty links is an error, so that no path is followed for ever.
-/

namespace RegionSync.FileSystem

/-- Where a path leads. -/
inductive Arrival where
  | found (location : Location) (entry : Entry)
  /-- The directory is there, and the name is free in it. -/
  | vacant (directory : Location) (name : Text)
  deriving DecidableEq

/-- What to do with a symbolic link at the end of a path. -/
inductive LastLink where
  | follow
  | keep
  deriving DecidableEq, Repr

/-- The number of bytes that a name may have. -/
def nameLimit : Nat :=
  255

/-- The number of bytes that a path stays below. -/
def pathLimit : Nat :=
  4096

/-- The number of symbolic links that are followed. -/
def linkLimit : Nat :=
  40

/-- Follows names from a directory on, with `onLink` for the names behind a
symbolic link. -/
def walkNames
    (files : FileSystem)
    (last : LastLink)
    (onLink : Location → List Text → Except FileError Arrival) :
    Location → List Text → Except FileError Arrival
  | directory, [] => .ok (.found directory .directory)
  | directory, name :: rest =>
      if name = Path.here then
        walkNames files last onLink directory rest
      else if name = Path.above then
        walkNames files last onLink directory.tail rest
      else if nameLimit < name.byteSize then
        .error .invalidFilename
      else
        let location := name :: directory
        match files.entry? location with
        | none =>
            if rest.isEmpty then .ok (.vacant directory name)
            else .error .notFound
        | some .directory => walkNames files last onLink location rest
        | some (.file file) =>
            if rest.isEmpty then .ok (.found location (.file file))
            else .error .notDirectory
        | some (.link target) =>
            if rest.isEmpty && last == .keep then
              .ok (.found location (.link target))
            else
              onLink (if target.isAbsolute then [] else directory)
                (target.steps ++ rest)

/-- Follows names from a directory on, and at most as many symbolic links as
given. -/
def walk
    (files : FileSystem)
    (last : LastLink) :
    Nat → Location → List Text → Except FileError Arrival
  | 0 => walkNames files last fun _ _ => .error .filesystemLoop
  | links + 1 => walkNames files last (walk files last links)

/-- Refuses a path that no operation accepts. -/
def acceptPath (path : Path) : Except FileError Unit :=
  if path.contains '\x00' then .error .invalidInput
  else if path.isEmpty then .error .notFound
  else if pathLimit ≤ path.byteSize then .error .invalidFilename
  else .ok ()

/-- The directory that a path starts from. -/
def origin (files : FileSystem) (path : Path) : Location :=
  if path.isAbsolute then [] else files.workDir

/-- Where a path leads. -/
def locate
    (files : FileSystem)
    (last : LastLink)
    (path : Path) :
    Except FileError Arrival := do
  acceptPath path
  walk files last linkLimit (files.origin path) path.steps

end RegionSync.FileSystem
