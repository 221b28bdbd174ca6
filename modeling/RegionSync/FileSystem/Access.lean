import RegionSync.FileSystem.Walk

/-!
# Looking at files

Nothing here changes a file system.  `stat?` tells what a path leads to and
`linkStat?` what stands at the path itself; `readText` gives the content of a
file that holds a text.
-/

namespace RegionSync.FileSystem

/-- What stands where a path leads. -/
def statWith
    (last : LastLink)
    (files : FileSystem)
    (path : Path) :
    Except FileError (Location × Entry) := do
  match ← files.locate last path with
  | .found location entry => return (location, entry)
  | .vacant _ _ => .error .notFound

/-- What a path leads to. -/
def stat (files : FileSystem) (path : Path) :
    Except FileError (Location × Entry) :=
  files.statWith .follow path

/-- What stands at the path, which may be a symbolic link. -/
def linkStat (files : FileSystem) (path : Path) :
    Except FileError (Location × Entry) :=
  files.statWith .keep path

/-- Whether a path leads to anything. -/
def pathExists (files : FileSystem) (path : Path) : Except FileError Bool :=
  match files.stat path with
  | .ok _ => .ok true
  | .error .notFound => .ok false
  | .error error => .error error

def readContent (files : FileSystem) (path : Path) :
    Except FileError Content := do
  match ← files.stat path with
  | (_, .file file) => return file.content
  | (_, .directory) => .error .isDirectory
  | (_, .link _) => .error .filesystemLoop

def readText (files : FileSystem) (path : Path) : Except FileError Text := do
  match ← files.readContent path with
  | .text text => return text
  | .binary _ _ => .error .invalidData

def absolutePath (location : Location) : Path :=
  '/' :: Path.joinNames location.reverse

/-- The path without symbolic links to what a path leads to. -/
def canonicalPath (files : FileSystem) (path : Path) :
    Except FileError Path := do
  let (location, _) ← files.stat path
  return absolutePath location

def identity? (files : FileSystem) (path : Path) : Option Nat :=
  match files.stat path with
  | .ok (_, .file file) => some file.identity
  | _ => none

/-- The names in the directory that a path leads to, in order. -/
def list (files : FileSystem) (path : Path) :
    Except FileError (List Text) := do
  match ← files.stat path with
  | (location, .directory) =>
      return (files.children location).mergeSort Text.isAtMost
  | _ => .error .notDirectory

end RegionSync.FileSystem
