import EventLog.Number.Positional
import EventLog.Number.Decimal
import EventLog.Text.Blank

/-!
# Time stamps

A time stamp arrives as a whole number, as a double, or as text that spells either. It stands for
whole milliseconds, a fraction being cut off, and for nothing if those do not fit a 64-bit
integer.
-/

namespace EventLog

open Number (Binary64 RealFormat)

/-- The time of a record as it is written. -/
inductive Stamp where
  | whole (millis : Int64)
  | real (millis : Binary64)
  | text (millis : String)
deriving DecidableEq

namespace Stamp

/-- The milliseconds that a text spells, blanks around them apart. -/
def millisOfText (text : List Char) : Option Int64 :=
  let trimmed := Text.trim text
  match Number.readInt64 trimmed with
  | .ok millis => some millis
  | .error _ => (Number.readBinary64 trimmed).bind Binary64.toInt64?

def millis? : Stamp → Option Int64
  | whole millis => some millis
  | real millis => millis.toInt64?
  | text millis => millisOfText millis.toList

def describe : Stamp → String
  | whole millis => toString millis.toInt
  | real millis => RealFormat.plain.render millis
  | text millis => millis

end Stamp

end EventLog
