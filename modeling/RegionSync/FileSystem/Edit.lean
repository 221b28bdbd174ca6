import RegionSync.FileSystem.Access

/-!
# Editing a file system

Plain edits, with which a file system is set up or changed by hand.  A file
that is written to stays the same file and keeps its permission bits.
-/

namespace RegionSync.FileSystem

/-- The permission bits of a new file. -/
def newFileMode : Nat :=
  0o644

/-- The file system with a directory at a path, if its parent is there and
the path is free. -/
def makeDirectory (files : FileSystem) (path : Path) : FileSystem :=
  match files.locate .follow path with
  | .ok (.vacant directory name) =>
      files.add (name :: directory) .directory
  | _ => files

/-- The file system with a directory for each of the given names, each in
the one before. -/
def makeDirectoriesFrom (files : FileSystem) (path : Path) :
    List Text → FileSystem
  | [] => files
  | name :: rest =>
      let next := path ++ name
      (files.makeDirectory next).makeDirectoriesFrom (next ++ ['/']) rest

/-- The file system with a directory at a path and directories above it. -/
def makeDirectories (files : FileSystem) (path : Path) : FileSystem :=
  files.makeDirectoriesFrom (if path.isAbsolute then ['/'] else [])
    path.names

/-- The file system with a content for the file that a path leads to, which
is made if nothing is there. -/
def store
    (files : FileSystem)
    (path : Path)
    (content : Content) :
    FileSystem :=
  match files.locate .follow path with
  | .ok (.found location (.file file)) =>
      files.put location (.file { file with content })
  | .ok (.vacant directory name) =>
      files.add (name :: directory)
        (.file ⟨files.freshIdentity, newFileMode, content⟩)
  | _ => files

/-- The file system with a symbolic link at a path that is free. -/
def link (files : FileSystem) (path target : Path) : FileSystem :=
  match files.locate .keep path with
  | .ok (.vacant directory name) =>
      files.add (name :: directory) (.link target)
  | _ => files

/-- The file system with new permission bits for the file that a path leads
to. -/
def setMode (files : FileSystem) (path : Path) (mode : Nat) : FileSystem :=
  match files.stat path with
  | .ok (location, .file file) =>
      files.put location (.file { file with mode })
  | _ => files

/-- The file system without what stands at a path, and all below it. -/
def erase (files : FileSystem) (path : Path) : FileSystem :=
  match files.linkStat path with
  | .ok (location, _) =>
      { files with
        entries := files.entries.filter fun (place, _) =>
          !location.isSuffixOf place }
  | .error _ => files

end RegionSync.FileSystem
