import RegionSync.Text.Line

/-!
# Reports in JSON

A report in JSON is an object with one field a line, each with a truth value
or a list of texts.  A list that is not empty has one text a line.  In a text
the quote, the backslash and the control characters below the space are
escaped.
-/

namespace RegionSync.CommandLine

/-- The value of a field. -/
inductive FieldValue where
  | flag (value : Bool)
  | texts (values : List Text)
  deriving DecidableEq, Repr

namespace FieldValue

/-- A character of a text in JSON. -/
def escape (char : Char) : Text :=
  if char = '"' then ['\\', '"']
  else if char = '\\' then ['\\', '\\']
  else if char = '\n' then ['\\', 'n']
  else if char = '\r' then ['\\', 'r']
  else if char = '\t' then ['\\', 't']
  else if char = '\x08' then ['\\', 'b']
  else if char = '\x0c' then ['\\', 'f']
  else if char.toNat < 0x20 then
    ['\\', 'u', '0', '0', Nat.digitChar (char.toNat / 16),
      Nat.digitChar (char.toNat % 16)]
  else [char]

def quote (text : Text) : Text :=
  '"' :: text.flatMap escape ++ ['"']

/-- Rows with a comma behind each but the last. -/
def separate : List Text → List Text
  | [] => []
  | [last] => [last]
  | first :: next :: rest => (first ++ [',']) :: separate (next :: rest)

/-- Rows in brackets, deeper than `indentation`. -/
def enclose
    (opening closing : Char)
    (indentation : Text)
    (rows : List Text) :
    Text :=
  if rows.isEmpty then
    [opening, closing]
  else
    Text.joinLines <|
      [opening]
        :: (separate rows).map (fun row => indentation ++ "  ".toList ++ row)
        ++ [indentation ++ [closing]]

def print : FieldValue → Text
  | flag true => "true".toList
  | flag false => "false".toList
  | texts values => enclose '[' ']' "  ".toList (values.map quote)

/-- An object with the given fields in JSON. -/
def printObject (fields : List (String × FieldValue)) : Text :=
  enclose '\x7b' '\x7d' [] <|
    fields.map fun (name, value) =>
      quote name.toList ++ ": ".toList ++ value.print

end FieldValue

end RegionSync.CommandLine
