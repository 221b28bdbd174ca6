import RegionSync.Marker
import RegionSync.Section

/-!
# Marked regions

A marked region is kept as it was written: its two marker lines, its body,
and at most one blank line of padding on either side of the body.  Padding is
not part of the body, so a region that gets a new body keeps its look.

`render` puts the parts together again.  `replaceWith` writes a section into
a region: the opening marker and the body are new, and the padding and the
closing marker stay.
-/

namespace RegionSync

/-- A named region with the exact lines it consists of. -/
structure MarkedRegion where
  name : Text
  version : Option Text
  /-- The raw line of the opening marker. -/
  openingLine : Text
  /-- A blank raw line in front of the body. -/
  leadingPad : Option Text
  /-- The raw lines of the body, one after the other. -/
  rawBody : Text
  /-- A blank raw line behind the body. -/
  trailingPad : Option Text
  /-- The raw line of the closing marker. -/
  closingLine : Text
  deriving DecidableEq, Repr

namespace MarkedRegion

/-- The text between the markers, without padding and without the terminator
of its last line. -/
def body (region : MarkedRegion) : Text :=
  region.rawBody.content

/-- The region as it stands in a document. -/
def render (region : MarkedRegion) : Text :=
  region.openingLine ++ region.leadingPad.getD [] ++ region.rawBody
    ++ region.trailingPad.getD [] ++ region.closingLine

/-- The region with the version and the body of a section.

The opening marker is written again, for the region's own name; the padding
and the closing marker are kept. -/
def replaceWith
    (region : MarkedRegion)
    (canonical : Section)
    (ending : LineEnding) :
    MarkedRegion :=
  { region with
    version := some canonical.version
    openingLine :=
      Marker.print (.opening region.name (some canonical.version))
        ++ ending.text
    rawBody := ending.terminate canonical.body.lines }

/-- A fresh region for a section, without padding. -/
def ofSection (canonical : Section) (ending : LineEnding) : MarkedRegion :=
  { name := canonical.name
    version := some canonical.version
    openingLine :=
      Marker.print (.opening canonical.name (some canonical.version))
        ++ ending.text
    leadingPad := none
    rawBody := ending.terminate canonical.body.lines
    trailingPad := none
    closingLine := Marker.print (.closing canonical.name) ++ ending.text }

/-- Takes a blank line off the front of some lines. -/
def takePad : List Text → Option Text × List Text
  | [] => (none, [])
  | first :: rest =>
      if first.isBlank then (some first, rest) else (none, first :: rest)

/-- The region between two marker lines.

The first inner line is padding if it is blank, and so is the last one of
those that are left then. -/
def ofLines
    (name : Text)
    (version : Option Text)
    (openingLine : Text)
    (inner : List Text)
    (closingLine : Text) :
    MarkedRegion :=
  let (leadingPad, afterPad) := takePad inner
  let (trailingPad, reversedBody) := takePad afterPad.reverse
  { name
    version
    openingLine
    leadingPad
    rawBody := reversedBody.reverse.flatten
    trailingPad
    closingLine }

end MarkedRegion

end RegionSync
