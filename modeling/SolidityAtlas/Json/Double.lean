/-! Double-precision numbers, held exactly. Every finite one is a whole multiple of the least
positive one, so its size is a natural number of these units, and neither reading a literal nor
writing the shortest one needs anything but whole numbers.
-/

namespace SolidityAtlas

/-- A double-precision number. -/
inductive Double where
  /-- The value `± size · 2 ^ (-1074)`, with at most 53 significant bits in its size. -/
  | finite (negative : Bool) (size : Nat)
  /-- A value beyond the largest finite one. -/
  | infinite (negative : Bool)
  /-- Not a number. -/
  | undefined
  deriving DecidableEq, Repr

namespace Double

/-- The units in one. -/
def one : Nat :=
  Nat.pow 2 1074

/-- The units from which on a number is infinite. -/
def limit : Nat :=
  Nat.pow 2 2098

/-- A quotient rounded to the nearest whole number, in the middle to the even one. -/
def roundDiv (numerator denominator : Nat) : Nat :=
  let whole := numerator / denominator
  let rest := numerator % denominator
  if 2 * rest < denominator ∨ (2 * rest = denominator ∧ whole % 2 = 0) then whole else whole + 1

/-- A quotient rounded to 53 significant bits. -/
def roundToPrecision (numerator denominator : Nat) : Nat :=
  let step := Nat.pow 2 ((numerator / denominator).log2 + 1 - 53)
  roundDiv numerator (denominator * step) * step

/-- The number nearest to `± numerator / denominator`. -/
def ofRatio (negative : Bool) (numerator denominator : Nat) : Double :=
  let size := roundToPrecision (numerator * one) denominator
  if limit ≤ size then .infinite negative else .finite negative size

/-- How many decimal digits a number has. -/
def digitCount (n : Nat) : Nat :=
  (Nat.toDigits 10 n).length

/-- The number nearest to `± digits · 10 ^ exponent`. Literals far outside the range are decided by
where their first digit stands.
-/
def ofLiteral (negative : Bool) (digits : Nat) (exponent : Int) : Double :=
  let point : Int := exponent + digitCount digits
  if digits = 0 ∨ point < -330 then .finite negative 0
  else if 310 < point then .infinite negative
  else if 0 ≤ exponent then ofRatio negative (digits * Nat.pow 10 exponent.toNat) 1
  else ofRatio negative digits (Nat.pow 10 (-exponent).toNat)

/-- Zero, with either sign. -/
def isZero : Double → Bool
  | .finite _ size => size == 0
  | _ => false

/-- The integer a number equals, if it equals one. -/
def toInt? : Double → Option Int
  | .finite negative size =>
      if size % one = 0 then
        let value : Int := (size / one : Nat)
        some (if negative then -value else value)
      else none
  | _ => none

/-- Whether a number is below an integer; nothing compares with what is no number. -/
def lessThanInt : Double → Int → Bool
  | .finite negative size, value =>
      (if negative then -(size : Int) else (size : Int)) < value * one
  | .infinite negative, _ => negative
  | .undefined, _ => false

/-- Whether a number is above an integer; nothing compares with what is no number. -/
def greaterThanInt : Double → Int → Bool
  | .finite negative size, value =>
      value * one < (if negative then -(size : Int) else (size : Int))
  | .infinite negative, _ => !negative
  | .undefined, _ => false

/-- Where the first digit of a size that is not zero stands: in front of the decimal point by as
many places, or behind it.
-/
def pointOf (size : Nat) : Int :=
  if one ≤ size then digitCount (size / one) else 1 - (digitCount (one / size) : Int)

/-- The literal `digits · 10 ^ exponent` of a size that has a number of digits and is read as this
size, the nearer one if there are two.
-/
def literalOf? (size : Nat) (point : Int) (count : Nat) : Option (Nat × Int) :=
  let exponent : Int := point - count
  let numerator := if 0 ≤ exponent then size else size * Nat.pow 10 (-exponent).toNat
  let denominator := if 0 ≤ exponent then one * Nat.pow 10 exponent.toNat else one
  let nearest := roundDiv numerator denominator
  let below := numerator / denominator
  let other := if nearest = below then below + 1 else below
  ([nearest, other].find? fun digits => ofLiteral false digits exponent = .finite false size).map
    fun digits => (digits, exponent)

/-- The shortest literal of a size: its digits and its exponent. Seventeen digits always do. -/
def shortest (size : Nat) : Nat × Int :=
  if size = 0 then (0, 0)
  else
    ((List.range' 1 17).findSome? (literalOf? size (pointOf size))).getD (0, 0)

/-- Digits without trailing zeros, and the exponent that makes up for them. The fuel bounds the
number of zeros by the number of digits.
-/
def stripZeros : Nat → Nat → Int → Nat × Int
  | 0, digits, exponent => (digits, exponent)
  | fuel + 1, digits, exponent =>
      if digits ≠ 0 ∧ digits % 10 = 0 then stripZeros fuel (digits / 10) (exponent + 1)
      else (digits, exponent)

/-- An exponent with its sign and at least two digits. -/
def exponentText (exponent : Int) : String :=
  let size := toString exponent.natAbs
  (if exponent < 0 then "-" else "+") ++ (if size.length < 2 then "0" ++ size else size)

/-- Positional from 1e-4 up to 1e16, and always with a fraction; scientific elsewhere. -/
def literalText (digits : Nat) (exponent : Int) : String :=
  let (digits, exponent) := stripZeros (digitCount digits) digits exponent
  let written := toString digits
  let point : Int := exponent + written.length
  if digits = 0 then "0.0"
  else if -4 < point ∧ point ≤ 16 then
    if point ≤ 0 then "0." ++ String.ofList (List.replicate (-point).toNat '0') ++ written
    else if 0 ≤ exponent then
      written ++ String.ofList (List.replicate exponent.toNat '0') ++ ".0"
    else
      String.ofList (written.toList.take point.toNat) ++ "." ++
        String.ofList (written.toList.drop point.toNat)
  else
    let fraction := String.ofList (written.toList.drop 1)
    String.ofList (written.toList.take 1) ++ (if fraction = "" then "" else "." ++ fraction) ++
      "e" ++ exponentText (point - 1)

/-- The shortest literal of a number that is read as this number. -/
def text : Double → String
  | .finite negative size =>
      let (digits, exponent) := shortest size
      (if negative then "-" else "") ++ literalText digits exponent
  | .infinite negative => if negative then "-inf" else "inf"
  | .undefined => "nan"

end Double

end SolidityAtlas
