import RegionSync.Text.Basic

/-!
# Writing over a text

A text on a screen is a row of cells with one character each.  What is
written into the row at a column takes the place of what stood there, and
spaces fill the cells that lie between the end of the row and the column.
-/

namespace RegionSync.Text

/-- A text with the characters of `ink` written over it from a column on. -/
def overlay : (column : Nat) → (ink text : Text) → Text
  | _, [], text => text
  | 0, ink, text => ink ++ text.drop ink.length
  | column + 1, ink, [] => ' ' :: overlay column ink []
  | column + 1, ink, char :: text => char :: overlay column ink text

@[simp]
theorem overlay_nil
    (column : Nat)
    (text : Text) :
    overlay column [] text = text := by
  cases column <;> cases text <;> rfl

theorem overlay_append
    (front ink text : Text)
    (column : Nat) :
    overlay (front.length + column) ink (front ++ text) =
      front ++ overlay column ink text := by
  cases ink with
  | nil => simp
  | cons first more =>
      induction front with
      | nil => simp
      | cons char front ih =>
          rw [List.length_cons, Nat.succ_add, List.cons_append]
          exact congrArg (List.cons char) ih

theorem overlay_behind
    {ink : Text}
    (written : ink ≠ [])
    (text : Text) :
    overlay (text.length + 1) ink text = text ++ ' ' :: ink := by
  have behind := overlay_append text ink [] 1
  rw [List.append_nil] at behind
  rw [behind]
  cases ink with
  | nil => exact absurd rfl written
  | cons first more => simp [overlay]

end RegionSync.Text
