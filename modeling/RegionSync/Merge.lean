import RegionSync.Document.Basic
import RegionSync.Registry.Basic

/-!
# Merging a registry into a document

A region has drifted when it no longer says what the registry's section of
its name says.  `merge` replaces the drifted regions and leaves all else as
it is; `check` only reports.

Of several regions with one name, the first is the registry's, and the others
are left alone.  Sections without a region are not inserted.
-/

namespace RegionSync

/-- Whether a region differs from its section.

Bodies are compared with CRLF read as a line feed.  A version counts only if
the region carries one. -/
def MarkedRegion.isDriftedFrom
    (region : MarkedRegion)
    (canonical : Section) :
    Bool :=
  region.body.foldBreaks != canonical.body
    || region.version.any (fun version => version != canonical.version)

/-- What a merge does with a marked region. -/
inductive Fate where
  /-- An earlier region has the same name: left alone. -/
  | repeated
  /-- The registry has no section of the name: left alone. -/
  | foreign
  /-- Differs from its section: replaced. -/
  | drifted (canonical : Section)
  /-- Says what its section says: left alone. -/
  | current
  deriving DecidableEq, Repr

namespace Fate

/-- The fate of a region that follows regions with the names `earlier`. -/
def of
    (registry : Registry)
    (earlier : List Text)
    (region : MarkedRegion) :
    Fate :=
  if earlier.contains region.name then
    repeated
  else
    match registry.get? region.name with
    | none => foreign
    | some canonical =>
        if region.isDriftedFrom canonical then drifted canonical else current

/-- The region after the merge. -/
def apply
    (ending : LineEnding)
    (region : MarkedRegion) :
    Fate → MarkedRegion
  | drifted canonical => region.replaceWith canonical ending
  | _ => region

/-- Whether the region is replaced. -/
def isDrifted : Fate → Bool
  | drifted _ => true
  | _ => false

/-- The fates of regions that follow regions with the names `earlier`. -/
def assign
    (registry : Registry) :
    List Text → List (MarkedRegion × Text) → List (Fate × MarkedRegion × Text)
  | _, [] => []
  | earlier, (region, text) :: rest =>
      (of registry earlier region, region, text)
        :: assign registry (region.name :: earlier) rest

end Fate

/-- What a merge did. -/
structure UpdateReport where
  /-- The names of the replaced regions. -/
  updated : List Text
  /-- The names that the registry does not own. -/
  preserved : List Text
  /-- The names of more than one region. -/
  duplicates : List Text
  deriving DecidableEq, Repr

namespace UpdateReport

/-- Whether the merge replaced anything. -/
def isChanged (report : UpdateReport) : Bool :=
  !report.updated.isEmpty

/-- The names of the regions whose fate satisfies `selected`. -/
def namesWith
    (selected : Fate → Bool)
    (fates : List (Fate × MarkedRegion × Text)) :
    List Text :=
  fates.filterMap fun (fate, region, _) =>
    if selected fate then some region.name else none

/-- The report on the fates of a document's regions. -/
def ofFates (fates : List (Fate × MarkedRegion × Text)) : UpdateReport :=
  { updated := namesWith Fate.isDrifted fates
    preserved := namesWith (fun fate => fate == .foreign) fates
    duplicates := (namesWith (fun fate => fate == .repeated) fates).eraseDups }

end UpdateReport

namespace Document

/-- The fate of each marked region of a document. -/
def fates
    (document : Document)
    (registry : Registry) :
    List (Fate × MarkedRegion × Text) :=
  Fate.assign registry [] document.tail

/-- The document with its drifted regions replaced, and the report. -/
def merge
    (document : Document)
    (registry : Registry) :
    Document × UpdateReport :=
  let fates := document.fates registry
  let tail := fates.map fun (fate, region, text) =>
    (fate.apply document.lineEnding region, text)
  ({ document with tail }, UpdateReport.ofFates fates)

end Document

/-- What a merge would leave to do, and what it cannot do. -/
structure CheckReport where
  /-- The sections whose region has drifted or is missing. -/
  sections : List Text
  /-- The sections without a region. -/
  missing : List Text
  deriving DecidableEq, Repr

/-- Whether any section has drifted or is missing. -/
def CheckReport.hasUpdates (report : CheckReport) : Bool :=
  !report.sections.isEmpty

namespace Document

/-- Whether the document has no region for a section. -/
def isMissing (document : Document) (canonical : Section) : Bool :=
  (document.get? canonical.name).isNone

/-- Whether the first region of a section's name has drifted from it. -/
def hasDrift (document : Document) (canonical : Section) : Bool :=
  (document.get? canonical.name).any
    (fun region => region.isDriftedFrom canonical)

/-- The sections of a registry that have drifted or are missing. -/
def check (document : Document) (registry : Registry) : CheckReport :=
  { sections :=
      (registry.sections.filter fun canonical =>
        document.isMissing canonical || document.hasDrift canonical).map
        Section.name
    missing :=
      (registry.sections.filter document.isMissing).map Section.name }

end Document

end RegionSync
