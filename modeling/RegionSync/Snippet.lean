import RegionSync.Document.Malformed
import RegionSync.Snippet.Window
import RegionSync.Text.Blank
import RegionSync.Text.Line
import RegionSync.Text.Overlay
import RegionSync.Text.Width

/-!
# Snippets

A snippet shows one line of a source under a title, with carets below the
part of it that a span covers and a label behind the carets.  Where the source
has nothing to show, the page between the two bars stays empty.

The line is shown up to its line feed, so a carriage return stays.  Tabs
become four spaces, and joiners and direction marks are dropped, since they
would move the text away from its carets.  The carets are placed by the line
as it stands in the source, where a tab takes no column.

What does not fit on the page is cut off and replaced by dots.  The columns
that are missing on the left move the carets to the left, if need be over the
bar in front of the line.
-/

namespace RegionSync

/-- A part of a source, and what to say about it. -/
structure Callout where
  span : Span
  label : Text
  deriving DecidableEq, Repr

namespace Snippet

/-- The columns of a page. -/
def pageWidth : Nat :=
  140

/-- What takes the place of text that is cut off. -/
def dots : Text :=
  "...".toList

def shownChar (char : Char) : Text :=
  let code := char.toNat
  if char = '\t' then
    List.replicate 4 ' '
  else if code == 0x200D || (0x202A ≤ code && code ≤ 0x202E)
      || (0x2066 ≤ code && code ≤ 0x2069) then
    []
  else
    [char]

/-- The columns that a shown character is taken to fill; for a control
character it is one. -/
def shownWidth (char : Char) : Nat :=
  let code := char.toNat
  if code < 0x20 || (0x7F ≤ code && code < 0xA0) then 1
  else Text.charWidth char

/-- The columns that a shown text is taken to fill. -/
def shownColumns : Text → Nat
  | [] => 0
  | char :: rest => shownWidth char + shownColumns rest

/-- The start of a text that fills at most `columns` columns. -/
def takeColumns : (columns : Nat) → Text → Text
  | _, [] => []
  | columns, char :: rest =>
      if shownWidth char ≤ columns then
        char :: takeColumns (columns - shownWidth char) rest
      else
        []

/-- The columns of white space in front of a line, if it has text. -/
def indent? (line : Text) : Option Nat :=
  if Text.isBlank line then
    none
  else
    let space := line.takeWhile Text.isWhiteSpace
    some (space.length + 3 * space.count '\t')

/-- The lines of a source that a span touches. -/
structure Excerpt where
  /-- The number of the first line. -/
  number : Nat
  /-- What stands on the first line before the span. -/
  before : Text
  covered : Text
  /-- What stands on the last line behind the span. -/
  behind : Text
  deriving DecidableEq, Repr

namespace Excerpt

/-- The part of a source around a span. -/
def ofSpan (source : Text) (span : Span) : Excerpt :=
  let (earlier, rest) := Text.splitAtByte span.start source
  let (covered, rest) := Text.splitAtByte (span.stop - span.start) rest
  { number := earlier.count '\n' + 1
    before := (earlier.reverse.takeWhile (fun char => char != '\n')).reverse
    covered
    behind := rest.takeWhile (fun char => char != '\n') }

def text (excerpt : Excerpt) : Text :=
  excerpt.before ++ excerpt.covered ++ excerpt.behind

def lines (excerpt : Excerpt) : List Text :=
  Text.lines excerpt.text

/-- The column of the first caret. -/
def start (excerpt : Excerpt) : Nat :=
  Text.columns excerpt.before

/-- The column behind the last caret; there is at least one. -/
def stop (excerpt : Excerpt) : Nat :=
  excerpt.start + max 1 (Text.columns excerpt.covered)

/-- What a page with this excerpt and a label is about. -/
def subject (excerpt : Excerpt) (label : Text) : Subject :=
  { indent := (excerpt.lines.filterMap indent?).min?
    size := (excerpt.lines.map Text.byteSize).foldl max 0
    start := excerpt.start
    stop := excerpt.stop
    labelStop := excerpt.stop + label.byteSize + 1 }

end Excerpt

/-- A row with its line shown from column `margin` on. -/
def lineRow
    (margin room : Nat)
    (subject : Subject)
    (window : Window)
    (shown row : Text) :
    Text :=
  let size := shown.byteSize
  let left := window.left size
  let visible := takeColumns (window.right room size - left) (shown.drop left)
  let row := Text.overlay margin visible row
  let row := if window.cutsLeft then Text.overlay margin dots row else row
  if window.cutsRight room size subject then
    Text.overlay (margin + shownColumns visible - dots.length) dots row
  else
    row

/-- A row with the carets and the label of a line that is shown from column
`margin` on and misses `hidden` columns. -/
def caretRow
    (margin hidden : Nat)
    (subject : Subject)
    (label row : Text) :
    Text :=
  let first := margin + subject.start - hidden
  let last := margin + (subject.stop - 1) - hidden
  let carets := List.replicate (last + 1 - first) '^'
  Text.overlay first carets
    (Text.overlay (margin + (subject.stop + 1 - hidden)) label row)

/-- The rows of a snippet below its title. -/
def page (excerpt : Excerpt) (label : Text) : List Text :=
  match excerpt.lines with
  | [] => [" |".toList, " |".toList]
  | line :: others =>
      let number := Text.ofNat excerpt.number
      let lastNumber := Text.ofNat (excerpt.number + 1 + others.length)
      let room := pageWidth - (3 + lastNumber.length)
      let margin := number.length + 3
      let bar : Text := List.replicate number.length ' ' ++ " |".toList
      let subject := excerpt.subject label
      let shown : Text := line.flatMap shownChar
      let window := Window.ofSubject room shown.byteSize subject
      let hidden := shownColumns (shown.take (window.left shown.byteSize))
      [ bar,
        lineRow margin room subject window shown (number ++ " |".toList),
        caretRow margin hidden subject label bar,
        bar ]

/-- The title of a snippet. -/
def titleRow (title : Text) : Text :=
  "error".toList ++ if title.isEmpty then [] else ": ".toList ++ title

/-- The lines of a snippet. -/
def rows (source title : Text) (callout : Callout) : List Text :=
  titleRow title
    :: page (Excerpt.ofSpan source callout.span) callout.label

end Snippet

def annotate (source title : Text) (callout : Callout) : Text :=
  Text.joinLines (Snippet.rows source title callout)

/-- The source of a malformed document with its faulty marker pointed out. -/
def Malformed.annotate (malformed : Malformed) (source : Text) : Text :=
  RegionSync.annotate source
    "the document is malformed; fix the markers by hand, then retry".toList
    ⟨malformed.span, malformed.fault.message⟩

end RegionSync
