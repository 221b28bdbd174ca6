import RegionSync.Number.Binary64
import RegionSync.Yaml.Event

/-!
# The value of a scalar

A plain scalar without a tag is what it looks like: nothing, a truth value, a
whole number in one of four bases, a number with a point or an exponent, or
else text.  Digits behind a leading zero are text, and so is a number beyond
the binary format.

A standard tag asks for one of these kinds.  A tag of the author's own leaves
no value here, unless its octets spell no name; then it says nothing.  With
any other tag, or in quotes, a scalar is text.
-/

namespace RegionSync.Yaml

/-- The value of a scalar. -/
inductive Value where
  | nothing
  | truth
  | integer (value : Int)
  | number (value : Number.Binary64)
  | text (text : Text)
  deriving DecidableEq, Repr

namespace Value

/-- The value of a digit in a base up to sixteen. -/
def digit? (base : Nat) (char : Char) : Option Nat :=
  (Quoted.hexValue? char).filter (fun value => value < base)

/-- The number that a run of digits spells in a base. -/
def naturalFrom? (base : Nat) : (value : Nat) → Text → Option Nat
  | value, [] => some value
  | value, char :: rest => do
      naturalFrom? base (base * value + (← digit? base char)) rest

/-- The number that a text spells in a base. -/
def natural? (base : Nat) (text : Text) : Option Nat :=
  if text.isEmpty then none else naturalFrom? base 0 text

/-- A text without the sign at its start, if that is one of `signs`. -/
def dropSign (signs : List Char) : Text → Text
  | [] => []
  | char :: rest => if signs.contains char then rest else char :: rest

/-- Whether a text is a run of digits behind a leading zero. -/
def isZeroPadded (text : Text) : Bool :=
  match dropSign ['-', '+'] text with
  | '0' :: rest => !rest.isEmpty && rest.all Char.isDigit
  | _ => false

/-- The whole number that a text without a sign spells. -/
def unsigned? : Text → Option Nat
  | '0' :: 'x' :: rest => natural? 16 rest
  | '0' :: 'o' :: rest => natural? 8 rest
  | '0' :: 'b' :: rest => natural? 2 rest
  | digits => if isZeroPadded digits then none else natural? 10 digits

/-- The whole number that a text spells, within 128 bits. -/
def integer? : Text → Option Int
  | '-' :: rest => do
      let value ← unsigned? rest
      if value ≤ Nat.pow 2 127 then some (-(value : Int)) else none
  | unsigned => do
      let value ← unsigned? (dropSign ['+'] unsigned)
      if value < Nat.pow 2 128 then some (value : Int) else none

/-- The parts of a decimal number: the digits before and behind the point,
and the exponent. -/
structure Literal where
  whole : Text
  part : Text
  exponent : Int
  deriving DecidableEq, Repr

/-- The exponent at the end of a decimal number. -/
def exponent? : Text → Option Int
  | [] => some 0
  | char :: rest =>
      if char == 'e' || char == 'E' then
        match rest with
        | '-' :: digits => (natural? 10 digits).map (fun value => -(value : Int))
        | digits => (natural? 10 (dropSign ['+'] digits)).map Int.ofNat
      else
        none

/-- The decimal number that a text without a sign spells.

At least one digit stands before or behind the point. -/
def literal? (text : Text) : Option Literal := do
  let whole := text.takeWhile Char.isDigit
  let rest := text.dropWhile Char.isDigit
  let (part, rest) := match rest with
    | '.' :: rest => (rest.takeWhile Char.isDigit, rest.dropWhile Char.isDigit)
    | rest => ([], rest)
  if whole.isEmpty && part.isEmpty then
    none
  else
    return ⟨whole, part, ← exponent? rest⟩

/-- The magnitude nearest to a decimal number, unless it is too large. -/
def Literal.magnitude? (literal : Literal) : Option Number.Magnitude :=
  Number.Magnitude.ofDecimal?
    (Nat.ofDigitChars 10 (literal.whole ++ literal.part) 0)
    (literal.exponent - literal.part.length)

/-- The finite number that a text spells, with a minus sign if it is
`negative`. -/
def finite? (negative : Bool) (text : Text) : Option Number.Binary64 := do
  let literal ← literal? text
  let magnitude ← literal.magnitude?
  return .finite negative magnitude

/-- Whether a text spells infinity, without a sign. -/
def isInfinity (text : Text) : Bool :=
  [".inf".toList, ".Inf".toList, ".INF".toList].contains text

/-- Whether a text spells the undefined number. -/
def isUndefined (text : Text) : Bool :=
  [".nan".toList, ".NaN".toList, ".NAN".toList].contains text

/-- The number that a text spells, which may also be infinite or
undefined. -/
def number? (text : Text) : Option Number.Binary64 :=
  if isUndefined text then
    some .undefined
  else
    match text with
    | '-' :: rest =>
        if isInfinity rest then some (.infinite true) else finite? true rest
    | positive =>
        let unsigned := dropSign ['+'] positive
        if isInfinity unsigned then some (.infinite false)
        else finite? false unsigned

/-- Whether a text spells the absence of a value. -/
def isNothing (text : Text) : Bool :=
  ["".toList, "~".toList, "null".toList, "Null".toList,
    "NULL".toList].contains text

/-- Whether a text spells a truth value. -/
def isTruth (text : Text) : Bool :=
  ["true".toList, "True".toList, "TRUE".toList, "false".toList,
    "False".toList, "FALSE".toList].contains text

/-- The value of a plain scalar without a tag. -/
def ofPlain (text : Text) : Value :=
  if isNothing text then nothing
  else if isTruth text then truth
  else
    match integer? text with
    | some value => integer value
    | none =>
        match if isZeroPadded text then none else number? text with
        | some value => number value
        | none => .text text

def ofScalar? (scalar : Scalar) : Option Value :=
  let untagged := if scalar.isPlain then ofPlain scalar.text
    else text scalar.text
  match scalar.tag with
  | none => some untagged
  | some tag =>
      if tag.isNamed then none
      else if tag.isOwn then some untagged
      else if tag = Tag.standard "null" then
        if !scalar.text.isEmpty && isNothing scalar.text then some nothing
        else none
      else if tag = Tag.standard "bool" then
        if isTruth scalar.text then some truth else none
      else if tag = Tag.standard "int" then
        (integer? scalar.text).map integer
      else if tag = Tag.standard "float" then
        (number? scalar.text).map number
      else
        some (text scalar.text)

end Value

end RegionSync.Yaml
