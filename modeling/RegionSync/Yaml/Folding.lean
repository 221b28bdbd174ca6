import RegionSync.Yaml.Character

/-!
# Folding the lines of a scalar

A scalar on several lines reads as one line.  White space between two words
is kept on a line; around line breaks it is dropped.  One line break becomes a
space, and of several breaks all but the first are kept.  A Unicode separator
as the first break is kept as well.
-/

namespace RegionSync.Yaml

/-- The white space since the last character of a scalar that was none. -/
inductive Gap where
  | none
  /-- Spaces and tabs on one line, the latest first. -/
  | blanks (reversed : Text)
  /-- The first line break, unless it was escaped, and the breaks behind it,
  the latest first. -/
  | breaks (first : Option Char) (others : Text)
  deriving DecidableEq, Repr

namespace Gap

/-- Whether the gap reaches over the end of a line. -/
def isBroken : Gap → Bool
  | breaks _ _ => true
  | _ => false

/-- The gap with one more space or tab. -/
def pushBlank (char : Char) : Gap → Gap
  | none => blanks [char]
  | blanks reversed => blanks (char :: reversed)
  | breaks first others => breaks first others

/-- The gap with one more line break. -/
def pushBreak (char : Char) : Gap → Gap
  | breaks first others => breaks first (char :: others)
  | _ => breaks (some char) []

/-- What the gap reads as. -/
def text : Gap → Text
  | none => []
  | blanks reversed => reversed.reverse
  | breaks first others =>
      if first = some '\n' then
        if others.isEmpty then [' '] else others.reverse
      else
        first.toList ++ others.reverse

/-- The gap behind a text; both texts are written from their ends. -/
def joinOnto (gap : Gap) (reversed : Text) : Text :=
  gap.text.reverse ++ reversed

end Gap

/-- A scalar that has been read. -/
structure Scanned where
  text : Text
  /-- Where the reading stopped. -/
  cursor : Cursor
  /-- Whether a line ended between the scalar and the stop. -/
  onNewLine : Bool
  deriving DecidableEq, Repr

end RegionSync.Yaml
