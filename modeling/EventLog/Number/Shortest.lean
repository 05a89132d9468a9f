import EventLog.Number.Binary64

/-!
# The fewest digits that read back

The reals that are rounded to a double form an interval around it, its ends included if the
mantissa is even. Of the decimal numbers in that interval, the shortest is the one with the fewest
digits, and of several with equally many the one nearest to the double. Which of two equally near
ones is taken is a matter of the format, and a parameter here.
-/

namespace EventLog.Number

/-- The number `coefficient * 10 ^ exponent`. -/
structure Digits where
  coefficient : Nat
  exponent : Int
deriving DecidableEq, Repr

namespace Shortest

/-- A positive fraction. -/
structure Fraction where
  num : Nat
  den : Nat

def Fraction.below (a b : Fraction) : Bool := a.num * b.den < b.num * a.den

def Fraction.atMost (a b : Fraction) : Bool := a.num * b.den ≤ b.num * a.den

def ofBinary (n : Nat) (exponent : Int) : Fraction :=
  ⟨n * Nat.pow 2 exponent.toNat, Nat.pow 2 (-exponent).toNat⟩

def ofDecimal (n : Nat) (exponent : Int) : Fraction :=
  ⟨n * Nat.pow 10 exponent.toNat, Nat.pow 10 (-exponent).toNat⟩

/-- The interval that is rounded to a double. Below a power of two the doubles lie closer. -/
structure Interval where
  low : Fraction
  high : Fraction
  closed : Bool

def Interval.around (size : Magnitude) : Interval where
  low :=
    -- Below a power of two the next double is only half as far away.
    if size.mantissa = Nat.pow 2 (Binary64.precision - 1) ∧
        Binary64.leastExponent < size.exponent then
      ofBinary (4 * size.mantissa - 1) (size.exponent - 2)
    else
      ofBinary (4 * size.mantissa - 2) (size.exponent - 2)
  high := ofBinary (4 * size.mantissa + 2) (size.exponent - 2)
  closed := size.mantissa % 2 == 0

def Interval.holds (interval : Interval) (x : Fraction) : Bool :=
  if interval.closed then interval.low.atMost x && x.atMost interval.high
  else interval.low.below x && x.below interval.high

/-- The power of ten of the first digit of a positive fraction. -/
def leadingPower (x : Fraction) : Int :=
  if x.den ≤ x.num then
    ((Nat.toDigits 10 (x.num / x.den)).length : Int) - 1
  else
    match (List.range 400).find? fun k => x.den ≤ x.num * Nat.pow 10 k with
    | some k => -(k : Int)
    | none => 0

/-- The best number of the interval on the grid of a power of ten, if there is one. -/
def onGrid (tieUp : Bool → Bool) (value : Fraction) (interval : Interval) (exponent : Int) :
    Option Digits :=
  let unit := ofDecimal 1 exponent
  let below := value.num * unit.den / (value.den * unit.num)
  let lowFits := 0 < below && interval.holds (ofDecimal below exponent)
  let highFits := interval.holds (ofDecimal (below + 1) exponent)
  -- Twice the value against the sum of its two neighbours tells which one is nearer.
  let twice : Fraction := ⟨2 * value.num, value.den⟩
  let sum := ofDecimal (2 * below + 1) exponent
  let nearerHigh :=
    if sum.below twice then true
    else if twice.below sum then false
    else tieUp (below % 2 == 0)
  if highFits && (nearerHigh || !lowFits) then some ⟨below + 1, exponent⟩
  else if lowFits then some ⟨below, exponent⟩
  else none

/-- Moves trailing zeros of the coefficient into the exponent. -/
def dropZeros : (fuel : Nat) → Digits → Digits
  | 0, digits => digits
  | fuel + 1, digits =>
      if digits.coefficient ≠ 0 ∧ digits.coefficient % 10 = 0 then
        dropZeros fuel ⟨digits.coefficient / 10, digits.exponent + 1⟩
      else
        digits

end Shortest

/-- What a format does when two shortest numbers are equally near. -/
inductive Tie where
  /-- The greater one is taken. -/
  | up
  /-- The one with the even last digit is taken. -/
  | even
deriving DecidableEq, Repr

/-- Says whether the greater neighbour is taken, given whether the lesser one is even. -/
def Tie.takesGreater : Tie → Bool → Bool
  | up, _ => true
  | even, lesserEven => !lesserEven

/-- The shortest decimal number that is rounded to a finite double. Seventeen digits always do. -/
def Magnitude.shortest (tie : Tie) (size : Magnitude) : Digits :=
  if size.mantissa = 0 then
    ⟨0, 0⟩
  else
    let value := Shortest.ofBinary size.mantissa size.exponent
    let interval := Shortest.Interval.around size
    let top := Shortest.leadingPower value
    match (List.range 17).findSome? fun (count : Nat) =>
        Shortest.onGrid tie.takesGreater value interval (top - count) with
    | some digits => Shortest.dropZeros 20 digits
    | none => ⟨0, 0⟩

end EventLog.Number
