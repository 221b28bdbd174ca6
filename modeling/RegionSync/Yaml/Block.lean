import RegionSync.Yaml.Folding

/-!
# Block scalars

A block scalar is a run of indented lines under a header.  The header says
whether lines are kept or folded, what happens to the line breaks at the end,
and possibly how far the lines are indented.  Otherwise the first line that
is not empty decides that, unless an empty line before it has more spaces.

Folding leaves lines alone that start with white space.
-/

namespace RegionSync.Yaml.Block

/-- What happens to the line breaks at the end of a block. -/
inductive Chomping where
  /-- All are dropped. -/
  | strip
  /-- The first is kept. -/
  | clip
  /-- All are kept. -/
  | keep
  deriving DecidableEq, Repr

/-- The line above a block. -/
structure Header where
  isFolded : Bool
  chomping : Chomping
  /-- The columns that the lines are indented beyond their parent. -/
  increment : Option Nat
  deriving DecidableEq, Repr

def chompingSign : Text → Option Chomping × Text
  | '+' :: rest => (some .keep, rest)
  | '-' :: rest => (some .strip, rest)
  | text => (none, text)

/-- The indentation sign at the start of a text, if it is none or a digit
other than zero. -/
def incrementSign? : Text → Option (Option Nat × Text)
  | [] => some (none, [])
  | char :: rest =>
      if char.isDigit then
        if char = '0' then none
        else some (some (char.toNat - '0'.toNat), rest)
      else
        some (none, char :: rest)

/-- The two signs of a header in either order, and the text behind them. -/
def signs? (text : Text) : Option (Chomping × Option Nat × Text) :=
  match chompingSign text with
  | (some chomping, rest) => do
      let (increment, rest) ← incrementSign? rest
      return (chomping, increment, rest)
  | (none, _) => do
      let (increment, rest) ← incrementSign? text
      match increment with
      | none => return (.clip, none, rest)
      | some _ =>
          let (chomping, rest) := chompingSign rest
          return (chomping.getD .clip, increment, rest)

/-- A block as far as it has been read. -/
structure Progress where
  /-- The indentation, once it is known. -/
  indent : Option Nat
  /-- The largest column of an empty line so far. -/
  deepest : Nat
  /-- The text of the lines so far, from its end. -/
  read : Text
  /-- The break that ended the last line with text. -/
  lineBreak : Option Char
  /-- The breaks of the empty lines since, the latest first. -/
  emptyBreaks : Text
  /-- Whether the last line with text started with white space. -/
  startedBlank : Bool
  /-- Whether the reading stands inside a line. -/
  inLine : Bool
  deriving DecidableEq, Repr

namespace Progress

/-- The block at its first line. -/
def start (indent : Option Nat) : Progress :=
  { indent, deepest := 0, read := [], lineBreak := none, emptyBreaks := [],
    startedBlank := false, inLine := false }

/-- Whether the reading stands left of the block. -/
def isLeft (progress : Progress) (place : Place) : Bool :=
  match progress.indent with
  | none => true
  | some indent => place.column < indent

/-- The indentation of the block, given the first line with text. -/
def indentAt (progress : Progress) (level : Nat) (place : Place) : Nat :=
  progress.indent.getD
    (max (max progress.deepest place.column) (max level 1))

/-- The block with the first character of a line. -/
def startLine
    (progress : Progress)
    (isFolded : Bool)
    (indent : Nat)
    (char : Char) :
    Progress :=
  let folds := isFolded && progress.lineBreak == some '\n'
    && !progress.startedBlank && !isBlank char
  let joint :=
    if folds then
      if progress.emptyBreaks.isEmpty then [' '] else []
    else
      progress.lineBreak.toList
  { progress with
    indent := some indent
    read := char :: (progress.emptyBreaks ++ joint ++ progress.read)
    lineBreak := none
    emptyBreaks := []
    startedBlank := isBlank char
    inLine := true }

/-- The text of the block. -/
def text (progress : Progress) (chomping : Chomping) : Text :=
  progress.read.reverse ++
    match chomping with
    | .strip => []
    | .clip => progress.lineBreak.toList
    | .keep => progress.lineBreak.toList ++ progress.emptyBreaks.reverse

end Progress

/-- Reads on in a block under a parent at indentation `level`. -/
def scanFrom
    (isFolded : Bool)
    (level : Nat) :
    Progress → Place → Text → Option (Progress × Cursor)
  | progress, place, [] => some (progress, ⟨[], place⟩)
  | progress, place, char :: rest =>
      let next := place.after char
      if progress.inLine then
        if isBreak char then
          scanFrom isFolded level
            { progress with lineBreak := some char, inLine := false } next rest
        else
          scanFrom isFolded level
            { progress with read := char :: progress.read } next rest
      else if progress.isLeft place && char == ' ' then
        scanFrom isFolded level progress next rest
      else if progress.isLeft place && char == '\t' then
        none
      else if isBreak char then
        scanFrom isFolded level
          { progress with
            deepest := max progress.deepest place.column
            emptyBreaks := char :: progress.emptyBreaks } next rest
      else
        let indent := progress.indentAt level place
        if place.column = indent then
          scanFrom isFolded level (progress.startLine isFolded indent char)
            next rest
        else
          some (progress, ⟨char :: rest, place⟩)

/-- The block scalar whose sign stands at a cursor, under a parent at
indentation `level`. -/
def scan (isFolded : Bool) (level : Nat) (cursor : Cursor) : Option Scanned := do
  let cursor := cursor.skip 1
  let (chomping, increment, behind) ← signs? cursor.rest
  let cursor := cursor.skip (cursor.rest.length - behind.length)
  let cursor := Cursor.skipWhile isBlank cursor.place cursor.rest
  let cursor :=
    if cursor.rest.head? = some '#' then
      Cursor.skipWhile (fun char => !isBreak char) cursor.place cursor.rest
    else
      cursor
  if startsLineEnd cursor.rest then
    let cursor := cursor.skip 1
    let indent := increment.map (fun more => level.pred + more)
    let (progress, cursor) ←
      scanFrom isFolded level (.start indent) cursor.place cursor.rest
    return ⟨progress.text chomping, cursor, true⟩
  else
    none

end RegionSync.Yaml.Block
