import RegionSync.Number.Binary64
import RegionSync.Text.Basic

/-!
# The shortest decimal of a binary number

Of all decimals that are nearer to a number than to any other number of its
format, the shortest is written, and of the shortest ones the nearest.  Two
such decimals can be equally near; then the larger one is written.

For one number of digits the decimals form a grid, and only the two points of
it around the number need a test.

A number from a ten-thousandth up to ten to the sixteenth is written in
positions, with at least one digit behind the point.  Others get an exponent.
-/

namespace RegionSync.Number

/-- A positive decimal: `digits * 10 ^ exponent`. -/
structure Decimal where
  digits : Nat
  exponent : Int
  deriving DecidableEq, Repr

namespace Magnitude

/-- Decimals are counted on a grid this many places behind the point, which
is finer than the unit. -/
def gridPlaces : Nat :=
  400

/-- A multiple of a quarter of the last place, on the decimal grid. -/
def quarters (number : Magnitude) (count : Nat) : Nat :=
  count * Nat.pow 2 number.shift * Nat.pow 10 gridPlaces

/-- The divisor that goes with `quarters`. -/
def quarterDivisor : Nat :=
  Nat.pow 2 (unitBits + 2)

/-- The lower end of what rounds to a number, in quarters.

Below a power of two the next number is only half as far away. -/
def lowerQuarters (number : Magnitude) : Nat :=
  if number.significand = Nat.pow 2 (precision - 1)
      && number.shift ≠ 0 then
    4 * number.significand - 1
  else
    4 * number.significand - 2

/-- The decimal of `count` digits that is nearest to a number, if it rounds
to the number.  `places` is the number of digits before the point of the
grid. -/
def decimalOf? (number : Magnitude) (places count : Nat) : Option Decimal :=
  let value := number.quarters (4 * number.significand)
  let lower := number.quarters number.lowerQuarters
  let upper := number.quarters (4 * number.significand + 2)
  let step := quarterDivisor * Nat.pow 10 (places - count)
  let below := value / step * step
  let above := below + step
  let isEven := number.significand % 2 == 0
  let takesBelow := lower < below || (isEven && below == lower)
  let takesAbove := above < upper || (isEven && above == upper)
  let exponent := (places - count : Nat) - (gridPlaces : Int)
  if takesAbove && (!takesBelow || above - value ≤ value - below) then
    some ⟨above / step, exponent⟩
  else if takesBelow then
    some ⟨below / step, exponent⟩
  else
    none

/-- The shortest decimal that rounds to a positive number.

Seventeen digits are always enough. -/
def shortest (number : Magnitude) : Decimal :=
  let value := number.quarters (4 * number.significand) / quarterDivisor
  let places := (Nat.toDigits 10 value).length
  let found := (List.range 17).findSome? fun shorter =>
    number.decimalOf? places (shorter + 1)
  found.getD ⟨value, -(gridPlaces : Int)⟩

end Magnitude

namespace Decimal

/-- The digits without zeros at the end. -/
def significantDigits (decimal : Decimal) : Text :=
  ((Text.ofNat decimal.digits).reverse.dropWhile (fun char => char == '0')
    ).reverse

/-- The power of ten of the first digit. -/
def leadingExponent (decimal : Decimal) : Int :=
  decimal.exponent + (Text.ofNat decimal.digits).length - 1

/-- The decimal in positions, with at least one digit behind the point. -/
def positional (decimal : Decimal) : Text :=
  let digits := decimal.significantDigits
  match decimal.leadingExponent with
  | .ofNat leading =>
      let whole := (digits ++ List.replicate (leading + 1) '0').take
        (leading + 1)
      let part := digits.drop (leading + 1)
      whole ++ ['.'] ++ (if part.isEmpty then ['0'] else part)
  | .negSucc zeros => ['0', '.'] ++ List.replicate zeros '0' ++ digits

/-- The decimal with an exponent, one digit before the point. -/
def scientific (decimal : Decimal) : Text :=
  let exponent := match decimal.leadingExponent with
    | .ofNat leading => Text.ofNat leading
    | .negSucc leading => '-' :: Text.ofNat (leading + 1)
  let mantissa := match decimal.significantDigits with
    | [] => []
    | [only] => [only]
    | first :: others => first :: '.' :: others
  mantissa ++ ['e'] ++ exponent

/-- The decimal as a number is written. -/
def text (decimal : Decimal) : Text :=
  let leading := decimal.leadingExponent
  if -4 ≤ leading && leading < 16 then
    decimal.positional
  else
    decimal.scientific

end Decimal

/-- A number in its shortest form. -/
def Binary64.text : Binary64 → Text
  | finite negative magnitude =>
      (if negative then ['-'] else [])
        ++ if magnitude.significand = 0 then "0.0".toList
          else magnitude.shortest.text
  | infinite negative => if negative then "-inf".toList else "inf".toList
  | undefined => "NaN".toList

end RegionSync.Number
