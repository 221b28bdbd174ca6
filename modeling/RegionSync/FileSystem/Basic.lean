import RegionSync.FileSystem.Path

/-!
# File systems

A file system is a finite tree of files, directories and symbolic links.
Each entry has a location, the names from the entry up to the root.  The root,
the working directory and the directories between them are always there.

A file has an identity, which no other file has, so that it can be told
whether a file was changed or replaced.  The content of a file is a text if
its bytes are the UTF-8 form of one.

Adding an entry where none is and removing it again gives back the very same
file system; temporary files rest on this.
-/

namespace RegionSync

/-- The names from an entry up to the root. -/
abbrev Location := List Text

/-- A location and the ones above it. -/
def Location.upward : Location → List Location
  | [] => [[]]
  | name :: above => (name :: above) :: upward above

/-- What a file holds. -/
inductive Content where
  | text (text : Text)
  | binary
      (bytes : List UInt8)
      (notText : String.fromUTF8? ⟨bytes.toArray⟩ = none)
  deriving DecidableEq

/-- The content that consists of some bytes. -/
def Content.ofBytes (bytes : List UInt8) : Content :=
  match decoded : String.fromUTF8? ⟨bytes.toArray⟩ with
  | some string => .text string.toList
  | none => .binary bytes decoded

/-- A file. -/
structure File where
  identity : Nat
  /-- The permission bits. -/
  mode : Nat
  content : Content
  deriving DecidableEq

/-- What stands at a location. -/
inductive Entry where
  | file (file : File)
  | directory
  /-- A symbolic link to a path. -/
  | link (target : Path)
  deriving DecidableEq

/-- The directory that relative paths start from, and the entries besides it
and the directories above it. -/
structure FileSystem where
  entries : List (Location × Entry)
  workDir : Location
  deriving DecidableEq

namespace FileSystem

def entry? (files : FileSystem) (location : Location) : Option Entry :=
  if location.isSuffixOf files.workDir then some .directory
  else files.entries.lookup location

/-- The locations of all entries. -/
def locations (files : FileSystem) : List Location :=
  Location.upward files.workDir ++ files.entries.map Prod.fst

def fileAt? (files : FileSystem) (location : Location) : Option File :=
  match files.entry? location with
  | some (.file file) => some file
  | _ => none

/-- The file system without the entry at a location. -/
def remove (files : FileSystem) (location : Location) : FileSystem :=
  { files with
    entries := files.entries.filter (fun (place, _) => place != location) }

/-- The file system with an entry at a location where there is none. -/
def add
    (files : FileSystem)
    (location : Location)
    (entry : Entry) :
    FileSystem :=
  { files with entries := files.entries ++ [(location, entry)] }

/-- The file system with an entry at a location, whatever was there. -/
def put
    (files : FileSystem)
    (location : Location)
    (entry : Entry) :
    FileSystem :=
  (files.remove location).add location entry

/-- An identity that no file has. -/
def freshIdentity (files : FileSystem) : Nat :=
  let identities := files.entries.map fun
    | (_, .file file) => file.identity
    | _ => 0
  identities.foldl max 0 + 1

/-- A name that is longer than every name in use. -/
def freshName (files : FileSystem) : Text :=
  let lengths := files.locations.map fun location =>
    (location.headD []).length
  ".tmp".toList ++ List.replicate (lengths.foldl max 0) '-'

/-- The names in a directory. -/
def children (files : FileSystem) (directory : Location) : List Text :=
  files.locations.filterMap fun
    | name :: place => if place = directory then some name else none
    | [] => none

end FileSystem

end RegionSync
