import EventLog.Record
import EventLog.RecordText
import EventLog.Text.Lines

/-!
# Reading logs

A log is written as lines with one record each. Blank lines are passed over but counted. The first
line that is no record makes the whole log unreadable.
-/

namespace EventLog

/-- What is wrong with the text of a record. -/
inductive Complaint where
  | flaw (flaw : Json.Flaw)
  | mismatch (mismatch : Mismatch)
deriving DecidableEq

def Complaint.message : Complaint → String
  | .flaw found => found.message
  | .mismatch found => found.message

/-- Why a log cannot be read. Lines are counted from one. -/
inductive LogFault where
  /-- The line is no record. The place is within the line. -/
  | malformed (line : Nat) (complaint : Complaint) (place : Json.Place)
  /-- The line is a record, but its time is no number of milliseconds. -/
  | timestamp (line : Nat) (value : String)
deriving DecidableEq

namespace LogFault

def line : LogFault → Nat
  | malformed line _ _ => line
  | timestamp line _ => line

/-- What a malformed line suffers from, and where. -/
def cause? : LogFault → Option String
  | malformed _ complaint place =>
      some (complaint.message ++ " at line " ++ toString place.line ++ " column " ++
        toString place.column)
  | timestamp _ _ => none

def message (fault : LogFault) : String :=
  match fault with
  | malformed line _ _ =>
      "line " ++ toString line ++ ": invalid record: " ++ fault.cause?.getD ""
  | timestamp line value =>
      "line " ++ toString line ++ ": invalid timestamp " ++ Text.quote value

end LogFault

/-- The fault of a line in which a reader gave up. -/
def Stop.toFault (line : Nat) (text : List Char) : Stop → LogFault
  | .flaw fault => .malformed line (.flaw fault.flaw) (Json.place text fault.left)
  | .mismatch found left => .malformed line (.mismatch found) (Json.place text left)

/-- The record of complete fields and a time. A level that has no known name is left out. -/
def Fields.toRecord (fields : Fields) (timestamp : Int64) : Record where
  kind := Kind.ofTypeName fields.typeName
  timestamp := timestamp
  stepKey := fields.stepKey
  eventType := fields.eventType
  message := fields.message.getD ""
  level := fields.level.bind Level.parse?

/-- Reads a line, blanks around its record apart. -/
def parseLine (line : Nat) (text : List Char) : Except LogFault Record :=
  let trimmed := Text.trim text
  match readRecord trimmed with
  | .error stop => .error (stop.toFault line trimmed)
  | .ok fields =>
      match fields.stamp.millis? with
      | some timestamp => .ok (fields.toRecord timestamp)
      | none => .error (.timestamp line fields.stamp.describe)

def parseRecord (text : String) : Except LogFault Record := parseLine 1 text.toList

/-- The lines of a text that are not blank, with their numbers. -/
def numberedLines (text : List Char) : List (List Char × Nat) :=
  ((Text.lines text).zipIdx 1).filter fun (line, _) => !(Text.trim line).isEmpty

def parseRecords (text : String) : Except LogFault (List Record) :=
  (numberedLines text.toList).mapM fun (line, number) => parseLine number line

end EventLog
