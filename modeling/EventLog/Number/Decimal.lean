import EventLog.Number.Binary64
import EventLog.Number.Digit

/-!
# Reading decimal numbers

Whole numbers of 64 bits and doubles as they are written in plain text: an optional sign and
decimal digits, for doubles also a point and an exponent. A double is read as the one nearest to
what is written.
-/

namespace EventLog.Number

/-! ## Whole numbers -/

/-- Why a text is not a 64-bit integer. -/
inductive IntegerFault where
  | empty
  | invalidDigit
  | tooLarge
  | tooSmall
deriving DecidableEq, Repr

def IntegerFault.message : IntegerFault → String
  | empty => "cannot parse integer from empty string"
  | invalidDigit => "invalid digit found in string"
  | tooLarge => "number too large to fit in target type"
  | tooSmall => "number too small to fit in target type"

/-- Reads digits after those that make up `size`, and stops at the first that is none or that
    leads out of range. -/
def readMagnitude (negative : Bool) (size : Nat) : List Char → Except IntegerFault Nat
  | [] => .ok size
  | c :: rest =>
      match digit? c with
      | none => .error .invalidDigit
      | some d =>
          let next := 10 * size + d
          if negative then
            if signedBound < next then .error .tooSmall else readMagnitude negative next rest
          else
            if signedBound ≤ next then .error .tooLarge else readMagnitude negative next rest

/-- Reads a 64-bit integer with an optional sign. -/
def readInt64 : List Char → Except IntegerFault Int64
  | [] => .error .empty
  | ['-'] => .error .invalidDigit
  | ['+'] => .error .invalidDigit
  | '-' :: digits => (readMagnitude true 0 digits).map fun size => Int64.ofInt (-size)
  | '+' :: digits => (readMagnitude false 0 digits).map fun size => Int64.ofInt size
  | digits => (readMagnitude false 0 digits).map fun size => Int64.ofInt size

/-! ## Doubles -/

/-- The number `± coefficient * 10 ^ exponent`. -/
structure Decimal where
  negative : Bool
  coefficient : Nat
  exponent : Int
deriving DecidableEq, Repr

/-- The double nearest to a decimal number. Powers of ten that lead out of the range of doubles
    whatever the coefficient are not computed. -/
def Decimal.nearest (decimal : Decimal) : Binary64 :=
  if decimal.coefficient = 0 then
    .ofRatio decimal.negative 0 1
  else if 310 < decimal.exponent then
    .infinite decimal.negative
  else if (decimal.coefficient.log2 : Int) + 3 * decimal.exponent < -1100 then
    .ofRatio decimal.negative 0 1
  else
    .ofRatio decimal.negative (decimal.coefficient * Nat.pow 10 decimal.exponent.toNat)
      (Nat.pow 10 (-decimal.exponent).toNat)

/-- Reads an exponent with an optional sign. At least one digit must stand there, and nothing
    else. -/
def readPower : List Char → Option Int
  | '-' :: digits => (readSize digits).map fun size => -(size : Int)
  | '+' :: digits => (readSize digits).map fun size => (size : Int)
  | digits => (readSize digits).map fun size => (size : Int)
where
  readSize (digits : List Char) : Option Nat :=
    if digits.isEmpty || !digits.all Char.isDigit then none else some (readDigits 0 digits)

/-- Reads an unsigned decimal number: digits with at most one point among them, and perhaps an
    exponent. -/
def readDecimal (negative : Bool) (text : List Char) : Option Decimal := do
  let whole := text.takeWhile Char.isDigit
  let afterWhole := text.dropWhile Char.isDigit
  let (fraction, afterFraction) :=
    match afterWhole with
    | '.' :: rest => (rest.takeWhile Char.isDigit, rest.dropWhile Char.isDigit)
    | rest => ([], rest)
  guard !(whole.isEmpty && fraction.isEmpty)
  let power ←
    match afterFraction with
    | [] => some 0
    | c :: rest => if c = 'e' ∨ c = 'E' then readPower rest else none
  return ⟨negative, readDigits 0 (whole ++ fraction), power - fraction.length⟩

/-- Reads the size of a double, the names of infinity and of the absent number included. -/
def readUnsigned (negative : Bool) (text : List Char) : Option Binary64 :=
  match String.ofList (text.map Char.toLower) with
  | "inf" => some (.infinite negative)
  | "infinity" => some (.infinite negative)
  | "nan" => some .nan
  | _ => (readDecimal negative text).map Decimal.nearest

def readBinary64 : List Char → Option Binary64
  | '-' :: text => readUnsigned true text
  | '+' :: text => readUnsigned false text
  | text => readUnsigned false text

end EventLog.Number
