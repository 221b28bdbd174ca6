import RegionSync.Text.Hidden

/-!
# Quoted text

A text is quoted for a reader between double quotes.  The quote, the
backslash and four control characters have short escapes; any other character
that would not show is written `\u{…}` with its code in hexadecimal.
-/

namespace RegionSync.Text

/-- The lower-case hexadecimal digits of a number. -/
def hexDigits (number : Nat) : Text :=
  Nat.toDigits 16 number

/-- A character as it stands between the quotes. -/
def quotedChar (char : Char) : Text :=
  match char with
  | '\x00' => ['\\', '0']
  | '\t' => ['\\', 't']
  | '\n' => ['\\', 'n']
  | '\r' => ['\\', 'r']
  | '"' => ['\\', '"']
  | '\\' => ['\\', '\\']
  | _ =>
      if isHidden char then
        ['\\', 'u', '{'] ++ hexDigits char.toNat ++ ['}']
      else
        [char]

/-- The text between double quotes, so that each of its characters shows. -/
def quoted (text : Text) : Text :=
  ['"'] ++ text.flatMap quotedChar ++ ['"']

end RegionSync.Text
