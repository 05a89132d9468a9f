/-!
# Machine words

The bounds of 64-bit words.
-/

namespace EventLog.Number

/-- One more than the greatest signed word, `2 ^ 63`. -/
def signedBound : Nat := 0x8000000000000000

/-- One more than the greatest unsigned word, `2 ^ 64`. -/
def unsignedBound : Nat := 0x10000000000000000

def fitsSigned (n : Int) : Bool := -(signedBound : Int) ≤ n && n < signedBound

end EventLog.Number
