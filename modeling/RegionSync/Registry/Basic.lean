import RegionSync.Marker
import RegionSync.Section

/-!
# The registry

A registry is an ordered list of sections with distinct names.  Its bodies
are normal: line feeds end their lines, and no blank line stands at either
edge.  A body that holds a marker line is refused, since a document with that
body written into it would not read back.

`ofSections` tests the sections one after the other and stops at the first
fault; in one section the name is tested first, then the version, the
repetition and the body.
-/

namespace RegionSync

/-- An ordered set of sections, each found by its name. -/
structure Registry where
  sections : List Section
  deriving DecidableEq, Repr

/-- Why a list of sections is not a registry. -/
inductive SectionFault where
  | badName (name : Text)
  | badVersion (name version : Text)
  | repeated (name : Text)
  | markerInBody (name : Text) (lineNumber : Nat) (line : Text)
  deriving DecidableEq, Repr

namespace Section

/-- A body from its first to its last line that is not blank, with line
feeds between the lines. -/
def normalBody (body : Text) : Text :=
  let fromFirst := body.lines.dropWhile Text.isBlank
  Text.joinLines (fromFirst.reverse.dropWhile Text.isBlank).reverse

/-- The section with its body in normal form. -/
def normalize (given : Section) : Section :=
  { given with body := normalBody given.body }

/-- The first line of a body that would be read as a marker, with its
number. -/
def markerLine? (body : Text) : Option (Nat × Text) :=
  (body.lines.zipIdx 1).findSome? fun (line, number) =>
    if line.isMarkerLine then some (number, line) else none

/-- The first fault of a section that follows sections with the names
`earlier`. -/
def fault? (earlier : List Text) (given : Section) : Option SectionFault :=
  if !given.name.isToken then
    some (.badName given.name)
  else if !given.version.isToken then
    some (.badVersion given.name given.version)
  else if earlier.contains given.name then
    some (.repeated given.name)
  else
    (markerLine? given.body).map fun (number, line) =>
      .markerInBody given.name number line

end Section

namespace Registry

/-- The normal forms of sections that follow sections with the names
`earlier`, or the first fault among them. -/
def accept?
    (earlier : List Text) :
    List Section → Except SectionFault (List Section)
  | [] => .ok []
  | first :: rest =>
      match first.fault? earlier with
      | some fault => .error fault
      | none => do
          let others ← accept? (first.name :: earlier) rest
          return first.normalize :: others

/-- The registry of some sections, in their order. -/
def ofSections (sections : List Section) : Except SectionFault Registry :=
  return ⟨← accept? [] sections⟩

/-- The section of a name. -/
def get? (registry : Registry) (name : Text) : Option Section :=
  registry.sections.find? (fun candidate => candidate.name == name)

/-- The names of the sections, in order. -/
def names (registry : Registry) : List Text :=
  registry.sections.map Section.name

/-- The number of sections. -/
def size (registry : Registry) : Nat :=
  registry.sections.length

end Registry

end RegionSync
