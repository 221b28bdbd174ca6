import RegionSync.Text.Basic

/-!
# Sets of characters given by their borders

A set of characters is written down as the ascending list of the codes at
which membership changes: the set holds the codes from the first border up to
the second, from the third up to the fourth, and so on.
-/

namespace RegionSync.Text

/-- Whether a character is in the set with these borders. -/
def isBetween (borders : List Nat) (char : Char) : Bool :=
  borders.countP (fun border => border ≤ char.toNat) % 2 == 1

end RegionSync.Text
