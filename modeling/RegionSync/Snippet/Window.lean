/-!
# The window of a page

A page has room for a limited number of columns.  A line that is longer shows
only the part inside a window, and all lines of a page share one window.

Deep indentation is cut off first.  If that is not enough, the window covers
what matters most: everything up to the end of the label, or at least the
span with its label, or at least the span.  A span that is longer than the
page is shown all the same.

A line counts here with its bytes, which are never fewer than its columns.
-/

namespace RegionSync.Snippet

/-- What a page is about, in columns from the start of its lines. -/
structure Subject where
  /-- The white space in front of all lines that have text, if there are
  any. -/
  indent : Option Nat
  /-- The bytes of the longest line. -/
  size : Nat
  start : Nat
  stop : Nat
  /-- Where the label behind the span ends. -/
  labelStop : Nat
  deriving DecidableEq, Repr

/-- The columns of a line that are shown, from `start` up to `stop`. -/
structure Window where
  start : Nat
  stop : Nat
  deriving DecidableEq, Repr

namespace Window

/-- The columns that are kept free around what matters. -/
def slack : Nat :=
  6

/-- The indentation that a page puts up with. -/
def indentLimit : Nat :=
  20

/-- The indentation that is left when deep indentation is cut off. -/
def indentRest : Nat :=
  16

/-- The start of a window that cuts off deep indentation. -/
def pastIndent (indent : Nat) : Nat :=
  if indentLimit < indent then indent - indentRest else 0

/-- A window as wide as the page that covers the columns from `start` up to
`stop`, if they fit; `lead` of the spare columns go to the left of them. -/
def around?
    (room start stop : Nat)
    (lead : Nat → Nat) :
    Option Window :=
  if start ≤ stop && stop - start ≤ room then
    let left := start - lead (room - (stop - start))
    some ⟨left, left + room⟩
  else
    none

/-- The window of a page with room for `room` columns, for a line of
`size` bytes. -/
def ofSubject (room size : Nat) (subject : Subject) : Window :=
  match subject.indent with
  | none => ⟨size + 1, size + 1⟩
  | some indent =>
      let indent := indent - slack
      let start := subject.start - slack
      let stop := subject.stop + slack
      let labelStop := subject.labelStop + slack
      let whole : Window :=
        ⟨pastIndent indent, max subject.size (pastIndent indent)⟩
      if whole.stop - whole.start ≤ room then
        whole
      else
        let fitting :=
          around? room indent labelStop (fun _ => 0)
            <|> around? room start labelStop (fun spare => spare / 2)
            <|> around? room start stop (fun spare => spare / 5 * 2)
        fitting.getD ⟨start, stop⟩

/-- Whether columns are missing on the left. -/
def cutsLeft (window : Window) : Bool :=
  0 < window.start

/-- Whether columns of a line of `size` bytes are missing on the right.

Where the window ends behind the span or the label, the columns that are kept
free there may be missing. -/
def cutsRight
    (room size : Nat)
    (subject : Subject)
    (window : Window) :
    Bool :=
  let isTight := window.stop = subject.stop + slack
    || window.stop = subject.labelStop + slack
  let stop := if isTight then window.stop - slack else window.stop
  stop < size && window.start + room < size

/-- The first character of a line of `size` bytes that is shown. -/
def left (size : Nat) (window : Window) : Nat :=
  min window.start size

/-- The end of what is shown of a line of `size` bytes. -/
def right (room size : Nat) (window : Window) : Nat :=
  if size - window.start ≤ room then size else min size window.stop

end Window

end RegionSync.Snippet
