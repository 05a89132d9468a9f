/-!
# Clock times

The time of day of a moment, as HH:MM:SS.mmm. Moments are milliseconds since the beginning of 1970
in universal time, and a zone shifts them by a fixed offset. A moment whose date has a year that
the calendar cannot hold is written as its plain number of milliseconds.
-/

namespace EventLog.Clock

/-- The first second of the calendar, at the beginning of the year -262143. -/
def firstSecond : Int := -8334601228800

/-- The last second of the calendar, at the end of the year 262142. -/
def lastSecond : Int := 8210266876799

def inCalendar (millis : Int) : Bool :=
  firstSecond ≤ millis.fdiv 1000 && millis.fdiv 1000 ≤ lastSecond

def dayLength : Int := 86400000

/-- A number with zeros in front, at least `width` digits in all. -/
def pad (width n : Nat) : List Char :=
  let digits := Nat.toDigits 10 n
  List.replicate (width - digits.length) '0' ++ digits

def timeOfDay (millis : Nat) : List Char :=
  pad 2 (millis / 3600000) ++ [':'] ++ pad 2 (millis / 60000 % 60) ++ [':'] ++
    pad 2 (millis / 1000 % 60) ++ ['.'] ++ pad 3 (millis % 1000)

/-- A moment as it is shown on the clocks of a zone, whose offset is in milliseconds. -/
def render (offset millis : Int) : String :=
  if inCalendar millis then
    String.ofList (timeOfDay ((millis + offset).fmod dayLength).toNat)
  else
    toString millis

end EventLog.Clock
