import RegionSync.Text.Basic

/-!
# Characters and places in a YAML text

A YAML text is read with every line break as one character: a carriage
return, with or without a line feed behind it, and the next-line character
count as a line feed.  The two Unicode separators also break lines, and keep
their own character.

A place counts lines, columns and bytes from zero; a column is a character.
A cursor is a place with the text from there on.
-/

namespace RegionSync.Yaml

/-- Whether a character may stand in a YAML text at all. -/
def isPermitted (char : Char) : Bool :=
  let code := char.toNat
  code == 0x9 || code == 0xA || code == 0xD || (0x20 ≤ code && code ≤ 0x7E)
    || code == 0x85 || (0xA0 ≤ code && code ≤ 0xFFFD) || 0x10000 ≤ code

/-- The byte order mark, which may stand at the start of every line. -/
def orderMark : Char :=
  '\uFEFF'

/-- The text with a single character for each line break. -/
def unifyBreaks : Text → Text
  | [] => []
  | '\r' :: '\n' :: rest => '\n' :: unifyBreaks rest
  | char :: rest =>
      if char = '\r' || char = '\u0085' then
        '\n' :: unifyBreaks rest
      else
        char :: unifyBreaks rest

/-- A character that ends a line. -/
def isBreak (char : Char) : Bool :=
  char == '\n' || char == '\u2028' || char == '\u2029'

/-- A space or a tab. -/
def isBlank (char : Char) : Bool :=
  char == ' ' || char == '\t'

/-- A character of an anchor, a tag handle or a directive name. -/
def isWordChar (char : Char) : Bool :=
  char.isAlphanum || char == '_' || char == '-'

/-- A character with a meaning of its own inside brackets. -/
def isBracketSign (char : Char) : Bool :=
  char == ',' || char == '[' || char == ']' || char == '{' || char == '}'

/-- Whether a text starts with white space or is empty. -/
def startsApart : Text → Bool
  | [] => true
  | char :: _ => isBlank char || isBreak char

/-- Whether a text starts with a line break or is empty. -/
def startsLineEnd : Text → Bool
  | [] => true
  | char :: _ => isBreak char

/-- Whether a text starts with three times a sign, standing apart. -/
def startsMark (sign : Char) : Text → Bool
  | first :: second :: third :: rest =>
      first == sign && second == sign && third == sign && startsApart rest
  | _ => false

/-- Whether a text starts with a mark that begins or ends a document. -/
def startsDocumentMark (text : Text) : Bool :=
  startsMark '-' text || startsMark '.' text

/-- A position in a text. -/
structure Place where
  line : Nat
  column : Nat
  /-- The number of bytes before the position. -/
  offset : Nat
  deriving DecidableEq, Repr

/-- The place behind a character. -/
def Place.after (place : Place) (char : Char) : Place :=
  if isBreak char then
    ⟨place.line + 1, 0, place.offset + char.utf8Size⟩
  else
    ⟨place.line, place.column + 1, place.offset + char.utf8Size⟩

/-- A place, and the text from there on. -/
structure Cursor where
  rest : Text
  place : Place
  deriving DecidableEq, Repr

namespace Cursor

/-- The cursor behind the next `count` characters. -/
def skip : Nat → Cursor → Cursor
  | 0, cursor => cursor
  | count + 1, ⟨char :: rest, place⟩ => skip count ⟨rest, place.after char⟩
  | _ + 1, ⟨[], place⟩ => ⟨[], place⟩

/-- The cursor behind the characters that satisfy `skipped`. -/
def skipWhile (skipped : Char → Bool) (place : Place) : Text → Cursor
  | [] => ⟨[], place⟩
  | char :: rest =>
      if skipped char then
        skipWhile skipped (place.after char) rest
      else
        ⟨char :: rest, place⟩

end Cursor

end RegionSync.Yaml
