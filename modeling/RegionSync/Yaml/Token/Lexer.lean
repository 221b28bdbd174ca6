import RegionSync.Yaml.Block
import RegionSync.Yaml.Plain
import RegionSync.Yaml.Token

/-!
# Reading tokens

Two things cannot be seen from the characters at hand.  Indentation starts
and ends blocks: a level is one more than the column of the block in
progress, and zero outside all blocks.  And a colon may show that what stands
before it was a key; so the start of every node that could be one is kept as
a candidate, and the key token is put in front of it afterwards.

A candidate expires at the end of its line and after 1024 bytes.  In a block,
a candidate at the block's own column has to become a key, and the text is
refused if it expires.

Tokens behind a candidate may still change, so when the reading of the text
stops at an error, only the tokens before the first live candidate count.
-/

namespace RegionSync.Yaml

/-- The start of a node that may turn out to be a key. -/
structure KeyCandidate where
  /-- Whether the text is refused unless this becomes a key. -/
  isRequired : Bool
  /-- The number of tokens before the node. -/
  position : Nat
  place : Place
  deriving DecidableEq, Repr

namespace KeyCandidate

/-- The number of bytes within which the colon has to follow. -/
def maxLength : Nat :=
  1024

/-- Whether the colon can no longer follow at a place. -/
def isExpired (candidate : KeyCandidate) (place : Place) : Bool :=
  candidate.place.line < place.line
    || candidate.place.offset + maxLength < place.offset

/-- Drops an expired candidate, and refuses if it was required. -/
def expire? (place : Place) : Option KeyCandidate → Option (Option KeyCandidate)
  | none => some none
  | some candidate =>
      if candidate.isExpired place then
        if candidate.isRequired then none else some none
      else
        some (some candidate)

end KeyCandidate

/-- A text as far as its tokens have been read. -/
structure Lexer where
  cursor : Cursor
  /-- The level of the block in progress. -/
  level : Nat
  /-- The levels of the blocks around it, the innermost first. -/
  outerLevels : List Nat
  /-- The candidate inside the innermost brackets. -/
  candidate : Option KeyCandidate
  /-- The candidates around those brackets, one for each pair. -/
  outerCandidates : List (Option KeyCandidate)
  /-- Whether a node that starts here may be a key. -/
  keyAllowed : Bool
  /-- The tokens read so far, the latest first. -/
  reversed : List Token
  count : Nat
  isDone : Bool
  deriving DecidableEq, Repr

namespace Lexer

def start (text : Text) : Lexer :=
  { cursor := ⟨text, ⟨0, 0, 0⟩⟩, level := 0, outerLevels := [],
    candidate := none, outerCandidates := [], keyAllowed := true,
    reversed := [], count := 0, isDone := false }

def column (lexer : Lexer) : Nat :=
  lexer.cursor.place.column

/-- Whether the reading stands inside brackets. -/
def inBrackets (lexer : Lexer) : Bool :=
  !lexer.outerCandidates.isEmpty

/-- Adds a token. -/
def emit (lexer : Lexer) (token : Token) : Lexer :=
  { lexer with
    reversed := token :: lexer.reversed
    count := lexer.count + 1 }

/-- Puts a token behind the first `position` ones. -/
def insert (lexer : Lexer) (position : Nat) (token : Token) : Lexer :=
  let behind := lexer.count - position
  { lexer with
    reversed := lexer.reversed.take behind
      ++ token :: lexer.reversed.drop behind
    count := lexer.count + 1 }

/-- Moves behind the next `count` characters. -/
def skip (lexer : Lexer) (count : Nat) : Lexer :=
  { lexer with cursor := lexer.cursor.skip count }

/-- Moves to the rest of the text that a reading has left. -/
def moveTo (lexer : Lexer) (rest : Text) : Lexer :=
  lexer.skip (lexer.cursor.rest.length - rest.length)

def allowKey (lexer : Lexer) (allowed : Bool) : Lexer :=
  { lexer with keyAllowed := allowed }

/-- Skips white space and comments.

A tab is white space only where no key can start.  Outside brackets, a key
can start on every new line.  The byte order mark is skipped as the first
character of a line, where it takes a column. -/
def skipSpaceFrom
    (inBrackets : Bool) :
    (keyAllowed inComment : Bool) → Place → Text → Bool × Cursor
  | keyAllowed, _, place, [] => (keyAllowed, ⟨[], place⟩)
  | keyAllowed, inComment, place, char :: rest =>
      let next := place.after char
      if isBreak char then
        skipSpaceFrom inBrackets (keyAllowed || !inBrackets) false next rest
      else if inComment || char == ' '
          || (place.column == 0 && char == orderMark)
          || (char == '\t' && (inBrackets || !keyAllowed)) then
        skipSpaceFrom inBrackets keyAllowed inComment next rest
      else if char == '#' then
        skipSpaceFrom inBrackets keyAllowed true next rest
      else
        (keyAllowed, ⟨char :: rest, place⟩)

/-- Moves to the next character that belongs to a token. -/
def skipSpace (lexer : Lexer) : Lexer :=
  let (keyAllowed, cursor) := skipSpaceFrom lexer.inBrackets
    lexer.keyAllowed false lexer.cursor.place lexer.cursor.rest
  { lexer with cursor, keyAllowed }

/-- Drops the candidates that have expired, and refuses if one of them was
required. -/
def expire? (lexer : Lexer) : Option Lexer := do
  let place := lexer.cursor.place
  let outerCandidates ←
    lexer.outerCandidates.mapM (KeyCandidate.expire? place)
  let candidate ← KeyCandidate.expire? place lexer.candidate
  return { lexer with candidate, outerCandidates }

/-- Gives up the candidate, and refuses if it was required. -/
def dropCandidate? (lexer : Lexer) : Option Lexer :=
  if lexer.candidate.any KeyCandidate.isRequired then
    none
  else
    some { lexer with candidate := none }

/-- Makes the node that starts here a candidate, where keys are allowed. -/
def markCandidate? (lexer : Lexer) : Option Lexer :=
  if lexer.keyAllowed then do
    let cleared ← lexer.dropCandidate?
    let candidate : KeyCandidate :=
      { isRequired := !lexer.inBrackets && lexer.level == lexer.column + 1
        position := lexer.count
        place := lexer.cursor.place }
    return { cleared with candidate := some candidate }
  else
    some lexer

/-- Starts a block at a column, unless one is in progress there; its token
stands behind the first `position` ones. -/
def indent
    (lexer : Lexer)
    (column position : Nat)
    (token : Token) :
    Lexer :=
  if lexer.inBrackets || column < lexer.level then
    lexer
  else
    { lexer.insert position token with
      level := column + 1
      outerLevels := lexer.level :: lexer.outerLevels }

/-- Ends the blocks with levels above `level`; `outer` are the levels around
the one in progress. -/
def dedentFrom (level : Nat) : (outer : List Nat) → Lexer → Lexer
  | [], lexer => lexer
  | next :: outer, lexer =>
      if level < lexer.level then
        dedentFrom level outer
          { lexer.emit .blockEnd with level := next, outerLevels := outer }
      else
        lexer

/-- Ends the blocks with levels above `level`, outside brackets. -/
def dedent (lexer : Lexer) (level : Nat) : Lexer :=
  if lexer.inBrackets then lexer
  else dedentFrom level lexer.outerLevels lexer

/-- Ends the stream, with all its blocks. -/
def finish? (lexer : Lexer) : Option Lexer := do
  let place := lexer.cursor.place
  let place : Place :=
    if place.column = 0 then place else ⟨place.line + 1, 0, place.offset⟩
  let lexer := { lexer with cursor := ⟨lexer.cursor.rest, place⟩ }
  let lexer ← (lexer.dedent 0).dropCandidate?
  return { (lexer.allowKey false).emit .streamEnd with isDone := true }

/-- Reads a directive. -/
def directive? (lexer : Lexer) : Option Lexer := do
  let lexer ← (lexer.dedent 0).dropCandidate?
  let lexer := (lexer.allowKey false).skip 1
  let (token, rest) ← Token.directive? lexer.cursor.rest
  return (lexer.moveTo rest).emit token

/-- Reads a mark that starts or ends a document. -/
def documentMark? (lexer : Lexer) (token : Token) : Option Lexer := do
  let lexer ← (lexer.dedent 0).dropCandidate?
  return ((lexer.allowKey false).skip 3).emit token

def openBracket? (lexer : Lexer) (token : Token) : Option Lexer := do
  let lexer ← lexer.markCandidate?
  let lexer := { lexer with
    candidate := none
    outerCandidates := lexer.candidate :: lexer.outerCandidates }
  return ((lexer.allowKey true).skip 1).emit token

/-- Reads a closing bracket. -/
def closeBracket? (lexer : Lexer) (token : Token) : Option Lexer := do
  let lexer ← lexer.dropCandidate?
  let lexer := match lexer.outerCandidates with
    | [] => lexer
    | candidate :: outerCandidates =>
        { lexer with candidate, outerCandidates }
  return ((lexer.allowKey false).skip 1).emit token

/-- Reads a comma in brackets. -/
def separator? (lexer : Lexer) : Option Lexer := do
  let lexer ← lexer.dropCandidate?
  return ((lexer.allowKey true).skip 1).emit .separator

/-- Starts a block at the sign that the reading stands at.

Outside brackets a sign is refused where no key is allowed. -/
def startBlock? (lexer : Lexer) (token : Token) : Option Lexer :=
  if lexer.inBrackets then
    some lexer
  else if lexer.keyAllowed then
    some (lexer.indent lexer.column lexer.count token)
  else
    none

/-- Reads the dash of a block item. -/
def blockItem? (lexer : Lexer) : Option Lexer := do
  let lexer ← lexer.startBlock? .blockListStart
  let lexer ← lexer.dropCandidate?
  return ((lexer.allowKey true).skip 1).emit .blockItem

/-- Reads the question mark of an explicit key. -/
def explicitKey? (lexer : Lexer) : Option Lexer := do
  let lexer ← lexer.startBlock? .blockMapStart
  let lexer ← lexer.dropCandidate?
  return ((lexer.allowKey !lexer.inBrackets).skip 1).emit .key

/-- Reads a colon, which makes the candidate a key. -/
def value? (lexer : Lexer) : Option Lexer :=
  match lexer.candidate with
  | some candidate =>
      let keyed := (lexer.insert candidate.position .key).indent
        candidate.place.column candidate.position .blockMapStart
      let settled := { keyed with candidate := none }
      some (((settled.allowKey false).skip 1).emit .value)
  | none => do
      let lexer ← lexer.startBlock? .blockMapStart
      return ((lexer.allowKey !lexer.inBrackets).skip 1).emit .value

/-- Reads an anchor or an alias. -/
def named? (lexer : Lexer) (token : Text → Token) : Option Lexer := do
  let lexer ← lexer.markCandidate?
  let lexer := (lexer.allowKey false).skip 1
  let (name, rest) ← Token.anchorName? lexer.cursor.rest
  return (lexer.moveTo rest).emit (token name)

/-- Reads a tag, which has to stand apart from what follows. -/
def tag? (lexer : Lexer) : Option Lexer := do
  let lexer ← lexer.markCandidate?
  let (token, rest) ← Token.tag? lexer.cursor.rest
  if startsApart rest || (lexer.inBrackets && rest.head? = some ',') then
    some (((lexer.allowKey false).moveTo rest).emit token)
  else
    none

/-- Reads a block scalar. -/
def block? (lexer : Lexer) (isFolded : Bool) : Option Lexer := do
  let lexer ← lexer.dropCandidate?
  let scanned ← Block.scan isFolded lexer.level lexer.cursor
  return { (lexer.allowKey true).emit (.scalar scanned.text false) with
    cursor := scanned.cursor }

/-- Reads a quoted scalar. -/
def quoted? (lexer : Lexer) : Option Lexer := do
  let lexer ← lexer.markCandidate?
  let scanned ← Quoted.scan lexer.cursor
  return { (lexer.allowKey false).emit (.scalar scanned.text false) with
    cursor := scanned.cursor }

/-- Reads a plain scalar. -/
def plain? (lexer : Lexer) : Option Lexer := do
  let lexer ← lexer.markCandidate?
  let scanned ← Plain.scan lexer.inBrackets lexer.level lexer.cursor
  let lexer := lexer.allowKey scanned.onNewLine
  return { lexer.emit (.scalar scanned.text true) with
    cursor := scanned.cursor }

/-- Whether a plain scalar may start with a character. -/
def startsPlain (inBrackets : Bool) : Text → Bool
  | [] => false
  | '-' :: rest => !rest.head?.any isBlank
  | char :: rest =>
      if char == '?' || char == ':' then
        !inBrackets && !startsApart rest
      else
        !isBlank char && !isBreak char
          && !",[]\x7b\x7d#&*!|>'\"%@`".toList.contains char

/-- Reads the token at the cursor. -/
def token? (lexer : Lexer) : Option Lexer :=
  let text := lexer.cursor.rest
  let isFirst := lexer.column == 0
  match text with
  | [] => lexer.finish?
  | char :: rest =>
      let isSign := lexer.inBrackets || startsApart rest
      if isFirst && char == '%' then lexer.directive?
      else if isFirst && startsMark '-' text then
        lexer.documentMark? .documentStart
      else if isFirst && startsMark '.' text then
        lexer.documentMark? .documentEnd
      else if char == '[' then lexer.openBracket? .listStart
      else if char == '{' then lexer.openBracket? .mapStart
      else if char == ']' then lexer.closeBracket? .listEnd
      else if char == '}' then lexer.closeBracket? .mapEnd
      else if char == ',' then lexer.separator?
      else if char == '-' && startsApart rest then lexer.blockItem?
      else if char == '?' && isSign then lexer.explicitKey?
      else if char == ':' && isSign then lexer.value?
      else if char == '*' then lexer.named? .reference
      else if char == '&' then lexer.named? .anchor
      else if char == '!' then lexer.tag?
      else if char == '|' && !lexer.inBrackets then lexer.block? false
      else if char == '>' && !lexer.inBrackets then lexer.block? true
      else if char == '\'' || char == '"' then lexer.quoted?
      else if startsPlain lexer.inBrackets text then lexer.plain?
      else none

/-- Reads one token, with the block ends in front of it. -/
def step? (lexer : Lexer) : Option Lexer := do
  let lexer ← lexer.skipSpace.expire?
  let lexer ← (lexer.dedent (lexer.column + 1)).token?
  lexer.expire?

/-- The tokens that no candidate can change any more. -/
def settled (lexer : Lexer) : List Token :=
  let candidates := (lexer.candidate :: lexer.outerCandidates).filterMap id
  let positions := candidates.map KeyCandidate.position
  lexer.reversed.reverse.take (positions.foldl min lexer.count)

/-- The tokens of a text, and whether the reading came to the end of it.

Every step but the last one takes at least one character, so `fuel` above the
length of the text is enough. -/
def run : (fuel : Nat) → Lexer → List Token × Bool
  | 0, lexer => (lexer.settled, false)
  | fuel + 1, lexer =>
      match lexer.step? with
      | none => (lexer.settled, false)
      | some next =>
          if next.isDone then (next.reversed.reverse, true) else run fuel next

end Lexer

/-- The tokens of a text up to its end, or up to an error. -/
def Token.ofText (text : Text) : List Token × Bool :=
  if text.all isPermitted then
    let unified := unifyBreaks text
    Lexer.run (unified.length + 1) (Lexer.start unified)
  else
    ([], false)

end RegionSync.Yaml
