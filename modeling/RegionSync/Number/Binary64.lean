/-!
# Finite numbers in the 64-bit binary format

A magnitude of the format is a significand below `2 ^ 53` times a power of
two.  The unit here is the least positive magnitude, `2 ^ (-1074)`, so that
every magnitude is the natural number `significand * 2 ^ shift` of units and
all arithmetic on it is exact.

`ofRatio?` takes a positive fraction to the nearest magnitude, and to the
one with an even significand if two are equally near.
-/

namespace RegionSync.Number

/-- The magnitude of a finite number, in units of `2 ^ (-1074)`. -/
structure Magnitude where
  significand : Nat
  shift : Nat
  deriving DecidableEq, Repr

namespace Magnitude

/-- The significand has at most this many bits. -/
def precision : Nat :=
  53

/-- The negated binary exponent of the unit. -/
def unitBits : Nat :=
  1074

/-- The shift of the largest magnitudes. -/
def maxShift : Nat :=
  2045

def zero : Magnitude :=
  ⟨0, 0⟩

/-- A quotient as a natural number, a half going to the even neighbour. -/
def roundedDiv (dividend divisor : Nat) : Nat :=
  let quotient := dividend / divisor
  let twice := 2 * (dividend % divisor)
  if divisor < twice || (twice == divisor && quotient % 2 == 1) then
    quotient + 1
  else
    quotient

/-- The magnitude nearest to a fraction, unless the fraction is too large for
the format. -/
def ofRatio? (dividend divisor : Nat) : Option Magnitude :=
  let units := dividend * Nat.pow 2 unitBits
  let shift := (units / divisor).log2 + 1 - precision
  let significand := roundedDiv units (divisor * Nat.pow 2 shift)
  let result : Magnitude :=
    if significand = Nat.pow 2 precision then
      ⟨Nat.pow 2 (precision - 1), shift + 1⟩
    else
      ⟨significand, shift⟩
  if result.shift ≤ maxShift then some result else none

/-- The magnitude nearest to `digits * 10 ^ exponent`, unless that is too
large for the format.

A decimal whose leading digit stands far beyond either end of the format is
decided by that alone. -/
def ofDecimal? (digits : Nat) (exponent : Int) : Option Magnitude :=
  let leading := exponent + (Nat.toDigits 10 digits).length
  if digits = 0 || leading < -330 then
    some zero
  else if 310 < leading then
    none
  else
    match exponent with
    | .ofNat power => ofRatio? (digits * Nat.pow 10 power) 1
    | .negSucc power => ofRatio? digits (Nat.pow 10 (power + 1))

end Magnitude

/-- A number of the format, infinite and undefined ones included. -/
inductive Binary64 where
  | finite (negative : Bool) (magnitude : Magnitude)
  | infinite (negative : Bool)
  | undefined
  deriving DecidableEq, Repr

end RegionSync.Number
