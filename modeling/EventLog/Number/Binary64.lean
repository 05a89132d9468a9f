import EventLog.Number.Word

/-!
# Double-precision numbers

A double is not a number, an infinity, or a signed dyadic fraction: a whole mantissa times a power
of two. All arithmetic here is exact on fractions of natural numbers and is rounded once, to the
nearest double, a tie going to the even mantissa.
-/

namespace EventLog.Number

/-- The fraction `mantissa * 2 ^ exponent`. -/
structure Magnitude where
  mantissa : Nat
  exponent : Int
deriving DecidableEq, Repr

namespace Magnitude

/-- The numerator of the fraction over `denominator`. -/
def numerator (size : Magnitude) : Nat := size.mantissa * Nat.pow 2 size.exponent.toNat

/-- A power of two over which the fraction can be written. -/
def denominator (size : Magnitude) : Nat := Nat.pow 2 (-size.exponent).toNat

def floor (size : Magnitude) : Nat := size.numerator / size.denominator

theorem denominator_pos (size : Magnitude) : 0 < size.denominator := Nat.two_pow_pos _

end Magnitude

inductive Binary64 where
  | nan
  | infinite (negative : Bool)
  | finite (negative : Bool) (size : Magnitude)
deriving DecidableEq, Repr

namespace Binary64

/-- The number of mantissa bits. -/
def precision : Nat := 53

/-- The exponent of the least positive double. -/
def leastExponent : Int := -1074

/-- The exponent of the greatest doubles. -/
def greatestExponent : Int := 971

/-! ## Rounding -/

/-- The whole number nearest to a quotient, the even one if two are. -/
def roundQuotient (num den : Nat) : Nat :=
  let quotient := num / den
  let twice := 2 * (num % den)
  if twice < den || (twice == den && quotient % 2 == 0) then quotient else quotient + 1

/-- The numerator and denominator of `num / den / 2 ^ exponent`. -/
def dividePower (num den : Nat) (exponent : Int) : Nat × Nat :=
  (num * Nat.pow 2 (-exponent).toNat, den * Nat.pow 2 exponent.toNat)

/-- The exponent of the greatest power of two that is not above `num / den`. -/
def binade (num den : Nat) : Int :=
  let guess : Int := (Nat.log2 num : Int) - Nat.log2 den
  let (a, b) := dividePower num den guess
  if b ≤ a then guess else guess - 1

/-- The double nearest to a fraction. -/
def ofRatio (negative : Bool) (num den : Nat) : Binary64 :=
  if num = 0 then
    finite negative ⟨0, leastExponent⟩
  else
    let exponent := max (binade num den - (precision - 1)) leastExponent
    let (a, b) := dividePower num den exponent
    let mantissa := roundQuotient a b
    let size : Magnitude :=
      if mantissa = Nat.pow 2 precision then ⟨Nat.pow 2 (precision - 1), exponent + 1⟩
      else ⟨mantissa, exponent⟩
    if greatestExponent < size.exponent then infinite negative else finite negative size

def ofNat (n : Nat) : Binary64 := ofRatio false n 1

def ofInt (n : Int) : Binary64 := ofRatio (n < 0) n.natAbs 1

/-! ## Arithmetic -/

def withSign (negative : Bool) : Binary64 → Binary64
  | nan => nan
  | infinite _ => infinite negative
  | finite _ size => finite negative size

def isZero : Binary64 → Bool
  | finite _ size => size.mantissa == 0
  | _ => false

def isInfinite : Binary64 → Bool
  | infinite _ => true
  | _ => false

/-- The double nearest to the product with a positive fraction. -/
def times (x : Binary64) (factor : Magnitude) : Binary64 :=
  match x with
  | finite negative size =>
      ofRatio negative (size.numerator * factor.numerator) (size.denominator * factor.denominator)
  | other => other

/-- The double nearest to the quotient by a positive fraction. -/
def dividedBy (x : Binary64) (divisor : Magnitude) : Binary64 :=
  match x with
  | finite negative size =>
      ofRatio negative (size.numerator * divisor.denominator)
        (size.denominator * divisor.numerator)
  | other => other

/-! ## Whole numbers -/

/-- The double with its fraction cut off, if that is a 64-bit integer. The test is on the double
    itself: it must be at least `-2 ^ 63` and less than `2 ^ 63`. -/
def toInt64? : Binary64 → Option Int64
  | finite false size =>
      if size.numerator < signedBound * size.denominator then some (Int64.ofInt size.floor)
      else none
  | finite true size =>
      if size.numerator ≤ signedBound * size.denominator then some (Int64.ofInt (-size.floor))
      else none
  | _ => none

theorem toInt64?_nan : toInt64? nan = none := rfl

theorem toInt64?_infinite (negative : Bool) : toInt64? (infinite negative) = none := rfl

end Binary64

end EventLog.Number
