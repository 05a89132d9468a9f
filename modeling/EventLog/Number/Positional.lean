import EventLog.Number.Shortest

/-!
# Written forms of doubles

A double is written with its shortest digits, positionally or with an exponent. Where the point
stands, and whether a whole number keeps a fraction of zero, is for each format to say.
-/

namespace EventLog.Number

def decimalDigits (n : Nat) : List Char := Nat.toDigits 10 n

/-- How a format writes doubles. -/
structure RealFormat where
  tie : Tie
  /-- Whether a whole number is followed by a point and a zero. -/
  keepsFraction : Bool
  /-- The powers of ten of the first digit for which no exponent is written. -/
  isPositional : Int → Bool

/-- Digits with the point at its place, and zeros up to it where digits are missing. -/
def positional (keepsFraction : Bool) (digits : Digits) : List Char :=
  let coefficient := decimalDigits digits.coefficient
  if 0 ≤ digits.exponent then
    coefficient ++ List.replicate digits.exponent.toNat '0' ++
      if keepsFraction then ['.', '0'] else []
  else
    let places := (-digits.exponent).toNat
    let padded := List.replicate (places + 1 - coefficient.length) '0' ++ coefficient
    padded.take (padded.length - places) ++ '.' :: padded.drop (padded.length - places)

/-- Digits with the point after the first one, and an exponent with its sign. -/
def scientific (digits : Digits) : List Char :=
  let coefficient := decimalDigits digits.coefficient
  let power := digits.exponent + coefficient.length - 1
  coefficient.take 1 ++ (if coefficient.length = 1 then [] else '.' :: coefficient.drop 1) ++
    ['e', if power < 0 then '-' else '+'] ++ decimalDigits power.natAbs

namespace RealFormat

def size (format : RealFormat) (size : Magnitude) : List Char :=
  let digits := size.shortest format.tie
  let power := digits.exponent + (decimalDigits digits.coefficient).length - 1
  if digits.coefficient = 0 || format.isPositional power then
    positional format.keepsFraction digits
  else
    scientific digits

def render (format : RealFormat) : Binary64 → String
  | .nan => "NaN"
  | .infinite negative => if negative then "-inf" else "inf"
  | .finite negative size => String.ofList ((if negative then ['-'] else []) ++ format.size size)

/-- Without exponents: as many zeros as it takes, and a fraction only where there is one. -/
def plain : RealFormat := ⟨.up, false, fun _ => true⟩

/-- Without exponents, a whole number with a fraction of zero. -/
def plainReal : RealFormat := ⟨.up, true, fun _ => true⟩

/-- With an exponent from sixteen whole digits on and below a hundred-thousandth. -/
def compact : RealFormat := ⟨.even, true, fun power => -5 ≤ power && power ≤ 15⟩

end RealFormat

end EventLog.Number
