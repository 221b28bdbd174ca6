import RegionSync.Yaml.Tag

/-!
# Tokens

The tokens of a YAML text are its signs and scalars, and the starts and ends
of blocks, which only indentation shows.  This module also reads the tokens
that stand for themselves: anchors, tags and directives.
-/

namespace RegionSync.Yaml

/-- A unit of a YAML text. -/
inductive Token where
  | streamEnd
  | versionDirective (major minor : Nat)
  | tagDirective (handle : Text) (head : Tag)
  | documentStart
  | documentEnd
  | blockListStart
  | blockMapStart
  | blockEnd
  | listStart
  | listEnd
  | mapStart
  | mapEnd
  /-- A dash in front of an item of a block. -/
  | blockItem
  /-- A comma between items in brackets. -/
  | separator
  | key
  | value
  /-- An alias. -/
  | reference (name : Text)
  | anchor (name : Text)
  /-- A tag with the handle that its start has to be looked up by. -/
  | tag (handle : Text) (suffix : Tag)
  | scalar (text : Text) (isPlain : Bool)
  deriving DecidableEq, Repr

namespace Token

/-- A token and the text behind it. -/
abbrev Split := Token × Text

/-- Whether a text may follow an anchor or an alias. -/
def endsName : Text → Bool
  | [] => true
  | char :: _ =>
      isBlank char || isBreak char || "?:,]\x7d%@`".toList.contains char

/-- The name of an anchor or an alias at the start of a text. -/
def anchorName? (text : Text) : Option (Text × Text) :=
  let name := text.takeWhile isWordChar
  let rest := text.dropWhile isWordChar
  if !name.isEmpty && endsName rest then some (name, rest) else none

def tag? (text : Text) : Option Split :=
  match text with
  | '!' :: '<' :: rest => do
      let (octets, rest) ← Tag.read? true rest
      match rest with
      | '>' :: rest =>
          if octets.isEmpty then none
          else some (.tag [] (Tag.counted octets), rest)
      | _ => none
  | '!' :: rest => do
      let word := rest.takeWhile isWordChar
      match rest.dropWhile isWordChar with
      | '!' :: rest =>
          let (octets, rest) ← Tag.read? false rest
          if octets.isEmpty then none
          else
            some (.tag (['!'] ++ word ++ ['!']) (Tag.counted octets), rest)
      | rest =>
          let (octets, rest) ← Tag.read? false rest
          let suffix := Tag.counted (Tag.ofText word ++ octets)
          if suffix.isEmpty then some (.tag [] Tag.mark, rest)
          else some (.tag ['!'] suffix, rest)
  | _ => none

/-- A text without the spaces and tabs at its start. -/
def dropBlanks (text : Text) : Text :=
  text.dropWhile isBlank

/-- A number of at most nine digits at the start of a text. -/
def versionNumber? (text : Text) : Option (Nat × Text) :=
  let digits := text.takeWhile Char.isDigit
  if digits.isEmpty || 9 < digits.length then
    none
  else
    some (Nat.ofDigitChars 10 digits 0, text.dropWhile Char.isDigit)

/-- What a version directive says behind its name. -/
def versionDirective? (text : Text) : Option Split := do
  let (major, rest) ← versionNumber? (dropBlanks text)
  match rest with
  | '.' :: rest =>
      let (minor, rest) ← versionNumber? rest
      return (.versionDirective major minor, rest)
  | _ => none

/-- The handle of a tag directive at the start of a text. -/
def tagHandle? (text : Text) : Option (Text × Text) :=
  match text with
  | '!' :: rest =>
      let word := rest.takeWhile isWordChar
      match rest.dropWhile isWordChar with
      | '!' :: rest => some (['!'] ++ word ++ ['!'], rest)
      | rest => if word.isEmpty then some (['!'], rest) else none
  | _ => none

/-- What a tag directive says behind its name. -/
def tagDirective? (text : Text) : Option Split := do
  let (handle, rest) ← tagHandle? (dropBlanks text)
  if rest.head?.any isBlank then
    let (octets, rest) ← Tag.read? true (dropBlanks rest)
    if !octets.isEmpty && startsApart rest then
      some (.tagDirective handle (Tag.counted octets), rest)
    else
      none
  else
    none

/-- The directive behind a percent sign, with the rest of its line. -/
def directive? (text : Text) : Option Split := do
  let name := text.takeWhile isWordChar
  let rest := text.dropWhile isWordChar
  let (token, rest) ←
    if !startsApart rest then none
    else if name = "YAML".toList then versionDirective? rest
    else if name = "TAG".toList then tagDirective? rest
    else none
  let rest := dropBlanks rest
  let rest :=
    if rest.head? = some '#' then
      rest.dropWhile (fun char => !isBreak char)
    else
      rest
  if startsLineEnd rest then some (token, rest.drop 1) else none

end Token

end RegionSync.Yaml
