import RegionSync.Text.Basic

/-!
# Malformed documents

Markers must pair up and must not nest.  There are four ways to break this,
and each is reported at one marker line: the number of the line, its place in
bytes without the terminator, and what is wrong with it.
-/

namespace RegionSync

/-- A range of byte offsets in a text. -/
structure Span where
  start : Nat
  stop : Nat
  deriving DecidableEq, Repr

/-- What is wrong with a marker. -/
inductive MarkerFault where
  /-- The region is opened and never closed. -/
  | unterminated (name : Text)
  /-- The region is opened while another is open. -/
  | nested (name outer : Text)
  /-- The region in progress is closed under another name. -/
  | mismatched (name opened : Text)
  /-- The region is closed while none is open. -/
  | unopened (name : Text)
  deriving DecidableEq, Repr

namespace MarkerFault

def name : MarkerFault → Text
  | unterminated name => name
  | nested name _ => name
  | mismatched name _ => name
  | unopened name => name

/-- The fault in words. -/
def message : MarkerFault → Text
  | unterminated name =>
      "region `".toList ++ name ++ "` is never closed".toList
  | nested name outer =>
      "region `".toList ++ name ++ "` opens inside region `".toList ++ outer
        ++ "`; nesting is not supported".toList
  | mismatched name opened =>
      "region `".toList ++ opened
        ++ "` is closed by an END marker for `".toList ++ name ++ "`".toList
  | unopened name =>
      "END marker for `".toList ++ name
        ++ "` has no matching BEGIN".toList

end MarkerFault

/-- A marker fault and the marker line it is reported at. -/
structure Malformed where
  /-- The number of the line, from 1. -/
  line : Nat
  /-- The line without its terminator, in bytes. -/
  span : Span
  fault : MarkerFault
  deriving DecidableEq, Repr

/-- The fault in words, with its line. -/
def Malformed.message (malformed : Malformed) : Text :=
  "malformed document at line ".toList ++ Text.ofNat malformed.line
    ++ ": ".toList ++ malformed.fault.message

end RegionSync
