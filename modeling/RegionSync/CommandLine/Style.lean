import RegionSync.Text.Basic

/-!
# Styles on a terminal

A styled text stands between two control sequences, one that switches the
style on and one that switches it off again.
-/

namespace RegionSync.CommandLine

/-- The ways in which a terminal sets off a text. -/
inductive Style where
  | bold
  | dim
  | red
  | green
  | yellow
  | cyan
  deriving DecidableEq, Repr

namespace Style

def onCode : Style → Nat
  | bold => 1
  | dim => 2
  | red => 31
  | green => 32
  | yellow => 33
  | cyan => 36

def offCode : Style → Nat
  | bold => 22
  | dim => 22
  | _ => 39

def control (code : Nat) : Text :=
  '\x1b' :: '[' :: Text.ofNat code ++ ['m']

def apply (style : Style) (text : Text) : Text :=
  control style.onCode ++ text ++ control style.offCode

end Style

end RegionSync.CommandLine
