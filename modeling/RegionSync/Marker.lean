import RegionSync.Text.Line

/-!
# Markers

A marked region stands between two marker lines:

`<!-- BEGIN: devkit/overview v1.0.0 -->`

`<!-- END: devkit/overview -->`

The version is optional.  A marker fills its line: nothing may stand before
or behind it, one space separates its parts, and name and version are tokens.
Since a token holds no space, the name ends at the first one, and a line has
at most one reading.

`print` and `ofLine?` are the two directions between a marker and its line.
-/

namespace RegionSync

/-- A line that opens or closes a region. -/
inductive Marker where
  | opening (name : Text) (version : Option Text)
  | closing (name : Text)
  deriving DecidableEq, Repr

namespace Marker

/-- What an opening marker starts with. -/
def openingHead : Text :=
  "<!-- BEGIN: ".toList

/-- What a closing marker starts with. -/
def closingHead : Text :=
  "<!-- END: ".toList

/-- What separates a name from its version. -/
def versionMark : Text :=
  " v".toList

/-- What every marker ends with. -/
def tail : Text :=
  " -->".toList

/-- The line of a marker, without a terminator. -/
def print : Marker → Text
  | opening name none => openingHead ++ name ++ tail
  | opening name (some version) =>
      openingHead ++ name ++ versionMark ++ version ++ tail
  | closing name => closingHead ++ name ++ tail

/-- What an opening marker says between its head and its tail: a name, or a
name and a version. -/
def ofLabel? (label : Text) : Option Marker :=
  if label.isToken then
    some (opening label none)
  else
    let name := label.takeWhile (fun char => !Text.isWhiteSpace char)
    match Text.after? (name ++ versionMark) label with
    | some version =>
        if Text.isToken name && Text.isToken version then
          some (opening name (some version))
        else
          none
    | none => none

/-- The marker that a line without terminator holds, if it is one. -/
def ofLine? (line : Text) : Option Marker :=
  match Text.after? openingHead line with
  | some rest => (Text.before? tail rest).bind ofLabel?
  | none =>
      match (Text.after? closingHead line).bind (Text.before? tail) with
      | some name => if name.isToken then some (closing name) else none
      | none => none

def ofRawLine? (line : Text) : Option Marker :=
  ofLine? line.content

end Marker

/-- Whether a line, taken with its terminator, opens or closes a region. -/
def Text.isMarkerLine (line : Text) : Bool :=
  (Marker.ofRawLine? line).isSome

end RegionSync
