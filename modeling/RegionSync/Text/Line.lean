import RegionSync.Text.Blank

/-!
# Lines and line endings

`rawLines` cuts a text after every line feed and keeps the terminators, so
the pieces concatenate to the text again.  `content` takes one line feed and
then one carriage return off the end of a line.

`lines` is the other view of a text, for bodies: the terminators are gone,
and a carriage return counts as part of one only in front of a line feed.  A
carriage return anywhere else is text.

A document writes the lines it adds with one `LineEnding`, which is CRLF as
soon as any of its lines ends that way.
-/

namespace RegionSync

namespace Text

/-- The lines of a text with their terminators. -/
def rawLines : Text → List Text
  | [] => []
  | char :: rest =>
      if char = '\n' then
        ['\n'] :: rawLines rest
      else
        match rawLines rest with
        | [] => [[char]]
        | line :: others => (char :: line) :: others

/-- The raw lines of a text are the text again. -/
@[simp]
theorem flatten_rawLines (text : Text) : (rawLines text).flatten = text := by
  induction text with
  | nil => rfl
  | cons char rest ih =>
      simp only [rawLines]
      split
      · rename_i feed
        simp [ih, feed]
      · split
        · rename_i none_left
          rw [none_left] at ih
          simpa using ih
        · rename_i line others cut
          rw [cut] at ih
          simpa using ih

/-- A line without its terminator: one line feed, then one carriage return. -/
def content (line : Text) : Text :=
  dropFinal '\r' (dropFinal '\n' line)

/-- A raw line as a line of a body: the carriage return goes only together
with the line feed behind it. -/
def dropBreak (line : Text) : Text :=
  if line.getLast? = some '\n' then dropFinal '\r' line.dropLast else line

/-- The lines of a body, without terminators. -/
def lines (text : Text) : List Text :=
  (rawLines text).map dropBreak

@[simp]
theorem lines_nil : lines [] = [] :=
  rfl

/-- Lines with one line feed between two of them. -/
def joinLines (lines : List Text) : Text :=
  List.intercalate ['\n'] lines

/-- Every CRLF of a text as a line feed; a lone carriage return stays. -/
def foldBreaks : Text → Text
  | [] => []
  | '\r' :: '\n' :: rest => '\n' :: foldBreaks rest
  | char :: rest => char :: foldBreaks rest

/-- Whether a carriage return stands in front of a line feed somewhere. -/
def hasCrlf : Text → Bool
  | [] => false
  | '\r' :: '\n' :: _ => true
  | _ :: rest => hasCrlf rest

end Text

/-- The line terminator a document uses. -/
inductive LineEnding where
  | lf
  | crlf
  deriving DecidableEq, Repr

namespace LineEnding

/-- The characters that end a line. -/
def text : LineEnding → Text
  | lf => ['\n']
  | crlf => ['\r', '\n']

/-- CRLF if any line of the text ends so. -/
def detect (text : Text) : LineEnding :=
  if text.hasCrlf then crlf else lf

/-- The lines, each with its terminator. -/
def terminate
    (ending : LineEnding)
    (lines : List Text) :
    Text :=
  lines.flatMap (fun line => line ++ ending.text)

end LineEnding

end RegionSync
