import EventLog.Clock
import EventLog.Highlight
import EventLog.Tally
import EventLog.Text.Padding
import EventLog.View

/-!
# Printed logs

A view is printed as one line for each visible entry: the clock time, the level, the step and the
message, in columns. The matches of an active query may be marked in front of the line, and the
words of the query may be highlighted in the message. A tally is printed as one line for each
level and one for the total.
-/

namespace EventLog

/-- How lines are printed. -/
structure Layout where
  conventions : Conventions := Conventions.standard
  /-- The offset of the clock, in milliseconds. -/
  zone : Int := 0
  /-- The words that are highlighted. -/
  highlighter : Highlighter := {}
  /-- Whether each line says if it is a match. -/
  marksMatches : Bool := false

namespace Layout

/-- Switches to bold yellow. -/
def highlightStart : List Char := "\x1b[1;33m".toList

/-- Switches back. -/
def highlightEnd : List Char := "\x1b[0m".toList

def message (layout : Layout) (message : String) : String :=
  String.ofList
    ((layout.highlighter.cut message.toList).mark highlightStart highlightEnd)

def line (layout : Layout) (record : Record) : String :=
  Clock.render layout.zone record.timestamp.toInt ++ " " ++
    Text.padRight 8 (layout.conventions.levelOf record).name ++ " " ++
    Text.padRight 24 (record.stepKey.getD "-") ++ " " ++
    layout.message record.message ++ "\n"

def marker (layout : Layout) (isMatch : Bool) : String :=
  if layout.marksMatches then (if isMatch then "* " else "  ") else ""

/-- The lines of a view, one for each visible entry. -/
def lines (layout : Layout) (view : View) : List String :=
  view.marked.map fun (entry, isMatch) => layout.marker isMatch ++ layout.line entry.record

def print (layout : Layout) (view : View) : String :=
  String.join (layout.lines view)

end Layout

def countLine (name : String) (count : Nat) : String :=
  Text.padRight 8 name ++ " " ++ toString count ++ "\n"

/-- The lines of a tally, one for each level and one for the total. -/
def Tally.lines (tally : Tally) : List String :=
  (Level.all.map fun level => countLine level.name (tally.count level)) ++
    [countLine "TOTAL" tally.total]

def Tally.print (tally : Tally) : String :=
  String.join tally.lines

end EventLog
