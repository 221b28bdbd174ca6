import RegionSync.Yaml.Folding

/-!
# Plain scalars

A plain scalar has no quotes.  It ends in front of a colon that stands apart,
of a comment, of a bracket sign inside brackets, of a document mark, and of a
line that is not indented enough.  The white space behind it is skipped too.
-/

namespace RegionSync.Yaml.Plain

/-- Whether a character behind white space cannot continue a scalar. -/
def endsAtWord
    (inBrackets : Bool)
    (level : Nat)
    (place : Place)
    (text : Text) :
    Bool :=
  (!inBrackets && place.column < level)
    || (place.column == 0 && startsDocumentMark text)
    || text.head? == some '#'

/-- Whether a colon of the scalar runs into a bracket sign, which is an error
inside brackets. -/
def hasStrayColon (inBrackets : Bool) : Text → Bool
  | ':' :: next :: _ => inBrackets && (isBracketSign next || next == '?')
  | _ => false

/-- Whether a scalar ends in front of this text, wherever it stands. -/
def endsHere (inBrackets : Bool) : Text → Bool
  | [] => true
  | char :: rest =>
      (char == ':' && startsApart rest) || (inBrackets && isBracketSign char)

/-- Reads on in a scalar; `read` is what it holds so far, from its end.

Columns below `level` are outside the scalar. -/
def scanFrom
    (inBrackets : Bool)
    (level : Nat) :
    Gap → Text → Place → Text → Option Scanned
  | gap, read, place, [] =>
      some ⟨read.reverse, ⟨[], place⟩, gap.isBroken⟩
  | gap, read, place, char :: rest =>
      if isBlank char then
        if gap.isBroken && char == '\t' && place.column < level then
          none
        else
          scanFrom inBrackets level (gap.pushBlank char) read
            (place.after char) rest
      else if isBreak char then
        scanFrom inBrackets level (gap.pushBreak char) read
          (place.after char) rest
      else if gap ≠ .none
          && endsAtWord inBrackets level place (char :: rest) then
        some ⟨read.reverse, ⟨char :: rest, place⟩, gap.isBroken⟩
      else if hasStrayColon inBrackets (char :: rest) then
        none
      else if endsHere inBrackets (char :: rest) then
        some ⟨read.reverse, ⟨char :: rest, place⟩, gap.isBroken⟩
      else
        scanFrom inBrackets level .none (char :: gap.joinOnto read)
          (place.after char) rest

/-- The plain scalar at a cursor. -/
def scan (inBrackets : Bool) (level : Nat) (cursor : Cursor) : Option Scanned :=
  scanFrom inBrackets level .none [] cursor.place cursor.rest

end RegionSync.Yaml.Plain
