import RegionSync.Text.Basic

/-!
# Paths

A path is a text in which slashes separate names.  It is absolute if it
starts with a slash, and otherwise starts from the working directory.  Empty
names say nothing; the names `.` and `..` stand for a directory itself and
for the directory above it.

A path that ends in a slash asks for a directory, as if it ended in `/.`.
-/

namespace RegionSync

/-- A path as it is written. -/
abbrev Path := Text

namespace Path

/-- The name of a directory in itself. -/
def here : Text :=
  ['.']

/-- The name of the directory above, in a directory. -/
def above : Text :=
  ['.', '.']

/-- Whether a path starts from the root. -/
def isAbsolute (path : Path) : Bool :=
  path.head? == some '/'

def endsInSlash (path : Path) : Bool :=
  path.getLast? == some '/'

/-- The names between the slashes. -/
def names (path : Path) : List Text :=
  (path.splitOn '/').filter (fun name => !name.isEmpty)

/-- The names to go through; a final slash counts as one for the directory
itself. -/
def steps (path : Path) : List Text :=
  if path.endsInSlash then path.names ++ [here] else path.names

/-- Names with a slash between two of them. -/
def joinNames (names : List Text) : Path :=
  List.intercalate ['/'] names

/-- The names of a path that lead anywhere.

In front of a relative path, the name of the directory itself stays. -/
def components (path : Path) : List Text :=
  let leading (name : Text) : Bool := name != here
  match path.isAbsolute, path.names with
  | false, first :: rest => first :: rest.filter leading
  | _, names => names.filter leading

/-- The directory that a path has its last name in. -/
def parent (path : Path) : Path :=
  let directories := path.components.dropLast
  if path.isAbsolute && !path.components.isEmpty then
    '/' :: joinNames directories
  else if directories.isEmpty then
    here
  else
    joinNames directories

/-- A path continued by a relative one. -/
def append (base rest : Path) : Path :=
  if base.isEmpty || base.endsInSlash then base ++ rest
  else base ++ '/' :: rest

end Path

end RegionSync
