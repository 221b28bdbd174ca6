import RegionSync.Document.Basic
import RegionSync.Document.Malformed

/-!
# Reading a document

A document is read line by line.  A line is free text, the inner line of a
region, or a marker; which of these it is depends on the line and on whether
a region is open.  The first marker that does not fit ends the reading.  At
the end of the text, an open region is reported at its opening marker.
-/

namespace RegionSync.Document

/-- The place of the line that is read next. -/
structure Place where
  /-- The number of the line, from 1. -/
  line : Nat
  /-- The number of bytes before the line. -/
  offset : Nat
  deriving DecidableEq, Repr

namespace Place

/-- The start of a text. -/
def start : Place :=
  ⟨1, 0⟩

/-- The place behind a raw line. -/
def next (place : Place) (line : Text) : Place :=
  ⟨place.line + 1, place.offset + line.byteSize⟩

/-- A fault reported at the raw line of this place. -/
def malformed
    (place : Place)
    (line : Text)
    (fault : MarkerFault) :
    Malformed :=
  { line := place.line
    span := ⟨place.offset, place.offset + line.content.byteSize⟩
    fault }

end Place

/-- A region whose closing marker has not been read yet. -/
structure Opening where
  name : Text
  version : Option Text
  /-- The raw line of the opening marker, and where it stands. -/
  line : Text
  place : Place
  /-- The raw lines read since, the latest first. -/
  inner : List Text

/-- Free text, and the marked regions behind it. -/
abbrev Layout := Text × List (MarkedRegion × Text)

namespace Opening

/-- The region that a closing line ends. -/
def close (opened : Opening) (closingLine : Text) : MarkedRegion :=
  MarkedRegion.ofLines opened.name opened.version opened.line
    opened.inner.reverse closingLine

/-- The open region with one more line in it. -/
def push (opened : Opening) (line : Text) : Opening :=
  { opened with inner := line :: opened.inner }

end Opening

/-- Reads raw lines from a place on, in free text or in an open region.

While a region is open the free text of the result is empty. -/
def readLines : Option Opening → Place → List Text → Except Malformed Layout
  | none, _, [] => .ok ([], [])
  | some opened, _, [] =>
      .error <| opened.place.malformed opened.line (.unterminated opened.name)
  | none, place, line :: rest =>
      match Marker.ofRawLine? line with
      | none => do
          let (text, regions) ← readLines none (place.next line) rest
          return (line ++ text, regions)
      | some (.opening name version) =>
          readLines (some ⟨name, version, line, place, []⟩)
            (place.next line) rest
      | some (.closing name) =>
          .error <| place.malformed line (.unopened name)
  | some opened, place, line :: rest =>
      match Marker.ofRawLine? line with
      | none => readLines (some (opened.push line)) (place.next line) rest
      | some (.opening name _) =>
          .error <| place.malformed line (.nested name opened.name)
      | some (.closing name) =>
          if name = opened.name then do
            let (text, regions) ← readLines none (place.next line) rest
            return ([], (opened.close line, text) :: regions)
          else
            .error <| place.malformed line (.mismatched name opened.name)

/-- The document of a text, or the first marker that does not fit. -/
def parse (text : Text) : Except Malformed Document := do
  let (lead, tail) ← readLines none .start text.rawLines
  return { lead, tail, lineEnding := .detect text }

end RegionSync.Document
