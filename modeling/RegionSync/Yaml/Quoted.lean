import RegionSync.Yaml.Folding

/-!
# Quoted scalars

Between single quotes only the quote itself is escaped, by writing it twice.
Between double quotes a backslash starts an escape: one of a fixed list of
letters, the code of a character in hexadecimal, or the end of a line that is
not to be folded.

No line of a quoted scalar may start with a document mark.
-/

namespace RegionSync.Yaml.Quoted

/-- What a one-letter escape stands for. -/
def escaped? : Char → Option Char
  | '0' => some '\x00'
  | 'a' => some '\x07'
  | 'b' => some '\x08'
  | 't' => some '\t'
  | '\t' => some '\t'
  | 'n' => some '\n'
  | 'v' => some '\x0b'
  | 'f' => some '\x0c'
  | 'r' => some '\r'
  | 'e' => some '\x1b'
  | ' ' => some ' '
  | '"' => some '"'
  | '/' => some '/'
  | '\\' => some '\\'
  | 'N' => some '\u0085'
  | '_' => some '\u00a0'
  | 'L' => some '\u2028'
  | 'P' => some '\u2029'
  | _ => none

/-- The number of hexadecimal digits that an escape letter asks for. -/
def codeLength? : Char → Option Nat
  | 'x' => some 2
  | 'u' => some 4
  | 'U' => some 8
  | _ => none

/-- The value of a hexadecimal digit. -/
def hexValue? (char : Char) : Option Nat :=
  if '0' ≤ char && char ≤ '9' then
    some (char.toNat - '0'.toNat)
  else if 'a' ≤ char && char ≤ 'f' then
    some (char.toNat - 'a'.toNat + 10)
  else if 'A' ≤ char && char ≤ 'F' then
    some (char.toNat - 'A'.toNat + 10)
  else
    none

def charOfCode? (code : Nat) : Option Char :=
  if code.isValidChar then some (Char.ofNat code) else none

/-- How far an escape has been read. -/
inductive Escape where
  | none
  /-- Behind the backslash. -/
  | begun
  /-- In a code with `left` digits to come. -/
  | code (left value : Nat)
  deriving DecidableEq, Repr

/-- Reads on between double quotes. -/
def scanDouble : Escape → Gap → Text → Place → Text → Option Scanned
  | _, _, _, _, [] => none
  | .begun, _, read, place, char :: rest =>
      let next := place.after char
      if isBreak char then
        scanDouble .none (.breaks none []) read next rest
      else
        match codeLength? char with
        | some digits => scanDouble (.code digits 0) .none read next rest
        | none =>
            match escaped? char with
            | some meant => scanDouble .none .none (meant :: read) next rest
            | none => none
  | .code left value, _, read, place, char :: rest =>
      let next := place.after char
      match hexValue? char with
      | none => none
      | some digit =>
          let code := 16 * value + digit
          if 1 < left then
            scanDouble (.code (left - 1) code) .none read next rest
          else
            match charOfCode? code with
            | some meant => scanDouble .none .none (meant :: read) next rest
            | none => none
  | .none, gap, read, place, char :: rest =>
      let next := place.after char
      if isBlank char then
        scanDouble .none (gap.pushBlank char) read next rest
      else if isBreak char then
        scanDouble .none (gap.pushBreak char) read next rest
      else if place.column == 0 && startsDocumentMark (char :: rest) then
        none
      else if char = '"' then
        some ⟨(gap.joinOnto read).reverse, ⟨rest, next⟩, false⟩
      else if char = '\\' then
        scanDouble .begun .none (gap.joinOnto read) next rest
      else
        scanDouble .none .none (char :: gap.joinOnto read) next rest

/-- Reads on between single quotes. -/
def scanSingle : Gap → Text → Place → Text → Option Scanned
  | _, _, _, [] => none
  | gap, read, place, '\'' :: '\'' :: rest =>
      scanSingle .none ('\'' :: gap.joinOnto read)
        ((place.after '\'').after '\'') rest
  | gap, read, place, char :: rest =>
      let next := place.after char
      if isBlank char then
        scanSingle (gap.pushBlank char) read next rest
      else if isBreak char then
        scanSingle (gap.pushBreak char) read next rest
      else if place.column == 0 && startsDocumentMark (char :: rest) then
        none
      else if char = '\'' then
        some ⟨(gap.joinOnto read).reverse, ⟨rest, next⟩, false⟩
      else
        scanSingle .none (char :: gap.joinOnto read) next rest

/-- The quoted scalar whose opening quote stands at a cursor. -/
def scan (cursor : Cursor) : Option Scanned :=
  match cursor.rest with
  | '"' :: rest => scanDouble .none .none [] (cursor.place.after '"') rest
  | '\'' :: rest => scanSingle .none [] (cursor.place.after '\'') rest
  | _ => none

end RegionSync.Yaml.Quoted
