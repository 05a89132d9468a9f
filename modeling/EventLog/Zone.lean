import EventLog.Number.Digit

/-!
# Zones

The offset of a time zone from its description: a name, and the time to add to the clocks of the
zone to get universal time.
-/

namespace EventLog.Zone

/-- Reads one or two digits. -/
def readPart (text : List Char) : Option Nat :=
  if (text.length = 1 ∨ text.length = 2) ∧ text.all Char.isDigit then
    some (Number.readDigits 0 text)
  else
    none

/-- The seconds of hours with perhaps minutes and seconds. -/
def readSpan (text : List Char) : Option Nat :=
  match (text.splitOn ':').mapM readPart with
  | some [hours] => some (hours * 3600)
  | some [hours, minutes] => some (hours * 3600 + minutes * 60)
  | some [hours, minutes, seconds] => some (hours * 3600 + minutes * 60 + seconds)
  | _ => none

/-- The offset, in milliseconds, of a zone that is described by a name and the time to add to its
    clocks to get universal time, such as UTC-05:30. The name stands in angle brackets if it holds
    other characters than letters. -/
def offset? (description : List Char) : Option Int :=
  let span :=
    match description with
    | '<' :: rest => (rest.dropWhile (· != '>')).drop 1
    | _ => description.dropWhile Char.isAlpha
  match span with
  | [] => none
  | '-' :: rest => (readSpan rest).map fun seconds => (seconds : Int) * 1000
  | '+' :: rest => (readSpan rest).map fun seconds => -(seconds : Int) * 1000
  | rest => (readSpan rest).map fun seconds => -(seconds : Int) * 1000

end EventLog.Zone
