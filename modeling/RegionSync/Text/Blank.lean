import RegionSync.Text.Basic

/-!
# Blank characters and tokens

White space here is the Unicode property `White_Space`: twenty-five
characters, among them the no-break space and the ideographic space, and
without the zero-width characters.

A line is blank when white space is all it holds.  A token is the opposite:
at least one character and no white space, so that it survives being printed
between two spaces.
-/

namespace RegionSync.Text

/-- The Unicode property `White_Space`. -/
def isWhiteSpace (char : Char) : Bool :=
  let code := char.toNat
  (9 ≤ code && code ≤ 13) || code == 0x20 || code == 0x85 || code == 0xA0
    || code == 0x1680 || (0x2000 ≤ code && code ≤ 0x200A)
    || code == 0x2028 || code == 0x2029 || code == 0x202F
    || code == 0x205F || code == 0x3000

/-- Every character that core counts as white space has the property. -/
theorem isWhiteSpace_of_isWhitespace
    {char : Char}
    (white : char.isWhitespace) :
    isWhiteSpace char := by
  simp only [Char.isWhitespace, Bool.or_eq_true, decide_eq_true_eq]
    at white
  rcases white with ((rfl | rfl) | rfl) | rfl <;> decide

/-- A text of white space only, the empty text included. -/
def isBlank (text : Text) : Bool :=
  text.all isWhiteSpace

@[simp]
theorem isBlank_nil : isBlank [] = true :=
  rfl

/-- A text that can stand between spaces: not empty, without white space. -/
def isToken (text : Text) : Bool :=
  !text.isEmpty && text.all (fun char => !isWhiteSpace char)

theorem isToken_iff
    {text : Text} :
    isToken text = true ↔
      text ≠ [] ∧ ∀ char ∈ text, isWhiteSpace char = false := by
  cases text <;> simp [isToken]

theorem isToken_cons_iff
    {char : Char}
    {rest : Text} :
    isToken (char :: rest) = true ↔
      isWhiteSpace char = false ∧ (rest = [] ∨ isToken rest = true) := by
  cases rest <;> simp [isToken]

end RegionSync.Text
