/-!
# Ranges of characters

A character property is written as the list of the ranges of code points that have it.
-/

namespace EventLog.Text

/-- The code points from `first` to `last`, both included. -/
structure CharRange where
  first : Nat
  last : Nat
deriving DecidableEq, Repr

def CharRange.holds (range : CharRange) (n : Nat) : Bool :=
  range.first ≤ n && n ≤ range.last

def inRanges (ranges : List CharRange) (c : Char) : Bool :=
  ranges.any (·.holds c.toNat)

end EventLog.Text
