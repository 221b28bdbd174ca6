/-!
# Text

A text is the list of its characters.  Documents, names, versions and bodies
are texts, so that every rule about them is a recursion over characters.

Positions inside a text are counted in bytes of its UTF-8 form, because that
is how an editor or a compiler names a place in a file.  `byteSize` measures
a text that way; it is additive over concatenation, which is what keeps a
running offset in step with the text already read.
-/

namespace RegionSync

/-- The characters of a document, a name, a version or a body, in order. -/
abbrev Text := List Char

namespace Text

/-- The number of bytes in the UTF-8 form of a text. -/
def byteSize : Text → Nat
  | [] => 0
  | first :: rest => first.utf8Size + byteSize rest

@[simp]
theorem byteSize_nil : byteSize [] = 0 :=
  rfl

@[simp]
theorem byteSize_cons
    (first : Char)
    (rest : Text) :
    byteSize (first :: rest) = first.utf8Size + byteSize rest :=
  rfl

@[simp]
theorem byteSize_append
    (left right : Text) :
    byteSize (left ++ right) = byteSize left + byteSize right := by
  induction left with
  | nil => simp
  | cons first rest ih => simp [ih, Nat.add_assoc]

/-- The part of a text before a byte offset, and the part from it on.

A character that straddles the offset belongs to the second part. -/
def splitAtByte : Nat → Text → Text × Text
  | _, [] => ([], [])
  | offset, first :: rest =>
      if first.utf8Size ≤ offset then
        let (before, after) := splitAtByte (offset - first.utf8Size) rest
        (first :: before, after)
      else
        ([], first :: rest)

/-- What follows `opening`, if the text starts with it. -/
def after? : (opening text : Text) → Option Text
  | [], text => some text
  | _ :: _, [] => none
  | expected :: opening, first :: rest =>
      if expected = first then after? opening rest else none

theorem after?_eq_some_iff
    {opening text rest : Text} :
    after? opening text = some rest ↔ text = opening ++ rest := by
  induction opening generalizing text with
  | nil => simp [after?, eq_comm]
  | cons expected opening ih =>
      cases text with
      | nil => simp [after?]
      | cons first tail =>
          by_cases same : expected = first
          · simp [after?, same, ih]
          · simp [after?, same, Ne.symm same]

/-- What precedes `closing`, if the text ends with it. -/
def before? (closing text : Text) : Option Text :=
  (after? closing.reverse text.reverse).map List.reverse

theorem before?_eq_some_iff
    {closing text rest : Text} :
    before? closing text = some rest ↔ text = rest ++ closing := by
  simp only [before?, Option.map_eq_some_iff, after?_eq_some_iff]
  constructor
  · rintro ⟨reversed, equality, rfl⟩
    simpa using congrArg List.reverse equality
  · rintro rfl
    exact ⟨rest.reverse, by simp⟩

/-- A text without its last character, if that is `char`. -/
def dropFinal (char : Char) (text : Text) : Text :=
  if text.getLast? = some char then text.dropLast else text

@[simp]
theorem dropFinal_nil (char : Char) : dropFinal char [] = [] :=
  rfl

@[simp]
theorem dropFinal_append_self
    (char : Char)
    (text : Text) :
    dropFinal char (text ++ [char]) = text := by
  simp [dropFinal]

/-- Whether a text is another one or comes before it, by the codes of their
characters. -/
def isAtMost : (left right : Text) → Bool
  | [], _ => true
  | _ :: _, [] => false
  | first :: left, second :: right =>
      if first = second then isAtMost left right
      else first.toNat < second.toNat

/-- The decimal digits of a number. -/
def ofNat (number : Nat) : Text :=
  Nat.toDigits 10 number

end Text

end RegionSync
