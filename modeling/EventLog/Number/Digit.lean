/-!
# Digits

The values of decimal and hexadecimal digits, and the whole numbers that rows of digits stand for.
-/

namespace EventLog.Number

def digit? (c : Char) : Option Nat := if c.isDigit then some (c.toNat - '0'.toNat) else none

def hexDigit? (c : Char) : Option Nat :=
  if c.isDigit then some (c.toNat - '0'.toNat)
  else if 'a' ≤ c ∧ c ≤ 'f' then some (c.toNat - 'a'.toNat + 10)
  else if 'A' ≤ c ∧ c ≤ 'F' then some (c.toNat - 'A'.toNat + 10)
  else none

def appendDigit (value : Nat) (c : Char) : Nat := 10 * value + (c.toNat - '0'.toNat)

/-- Reads decimal digits after those that make up `start`. -/
def readDigits (start : Nat) (digits : List Char) : Nat := digits.foldl appendDigit start

theorem readDigits_append (start : Nat) (first second : List Char) :
    readDigits start (first ++ second) = readDigits (readDigits start first) second := by
  simp [readDigits]

end EventLog.Number
