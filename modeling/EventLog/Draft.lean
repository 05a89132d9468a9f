import EventLog.Json.Nested
import EventLog.Stamp
import EventLog.Text.Quoted

/-!
# Records as written

A record is written as a JSON object whose members are its fields, in any order and among any
other members, or as a list of its six fields in their order. The reader fills a draft field by
field. What can be wrong is a flaw of the text, or a mismatch between a sound text and the shape of
a record. A mismatch of a single value is reported where the value ends; one of the record as a
whole is reported where the reader stands after trying to close the record.
-/

namespace EventLog

open Json (Flaw Fault Care)
open Number (Binary64 RealFormat)

/-! ## Mismatches -/

/-- A value that was found where another kind was wanted. -/
inductive Found where
  | null
  | boolean (value : Bool)
  | whole (value : Int)
  | real (value : Binary64)
  | string (value : String)
  | list
  | object
deriving DecidableEq

def Found.describe : Found → String
  | null => "null"
  | boolean value => if value then "boolean `true`" else "boolean `false`"
  | whole value => "integer `" ++ toString value ++ "`"
  | real value => "floating point `" ++ RealFormat.compact.render value ++ "`"
  | string value => "string " ++ Text.quote value
  | list => "sequence"
  | object => "map"

/-- The fields of a record, in the order of the list form. -/
inductive Field where
  | typeName
  | timestamp
  | stepKey
  | eventType
  | message
  | level
deriving DecidableEq, Repr

namespace Field

def all : List Field := [typeName, timestamp, stepKey, eventType, message, level]

/-- The key under which a field is reported. -/
def key : Field → String
  | typeName => "__typename"
  | timestamp => "timestamp"
  | stepKey => "stepKey"
  | eventType => "eventType"
  | message => "message"
  | level => "level"

/-- The field of a key. The type name has a second key. -/
def ofKey? : String → Option Field
  | "__typename" => some typeName
  | "kind" => some typeName
  | "timestamp" => some timestamp
  | "stepKey" => some stepKey
  | "eventType" => some eventType
  | "message" => some message
  | "level" => some level
  | _ => none

end Field

/-- How a sound text fails to be a record. -/
inductive Mismatch where
  /-- A string was wanted. -/
  | notString (found : Found)
  /-- A record was wanted. -/
  | notRecord (found : Found)
  /-- The time stamp is neither a number nor a string. -/
  | notStamp
  | missing (field : Field)
  | repeated (field : Field)
  /-- The list form has only so many elements. -/
  | tooShort (length : Nat)
deriving DecidableEq

def Mismatch.message : Mismatch → String
  | notString found => "invalid type: " ++ found.describe ++ ", expected a string"
  | notRecord found => "invalid type: " ++ found.describe ++ ", expected struct RawRecord"
  | notStamp => "data did not match any variant of untagged enum RawTimestamp"
  | missing field => "missing field `" ++ field.key ++ "`"
  | repeated field => "duplicate field `" ++ field.key ++ "`"
  | tooShort length =>
      "invalid length " ++ toString length ++ ", expected struct RawRecord with 6 elements"

/-- Why a reader gives up, and how many bytes were left then. -/
inductive Stop where
  | flaw (fault : Fault)
  | mismatch (mismatch : Mismatch) (left : Nat)
deriving DecidableEq

/-! ## Values -/

/-- Reads a value of another kind than the wanted one far enough to name it. -/
def readFound (text : List Char) : Except Fault (Found × List Char) :=
  match text with
  | [] => .error (Flaw.expectedValue.at [])
  | c :: rest =>
      if c = 'n' then (Json.readWord ['u', 'l', 'l'] rest).map (.null, ·)
      else if c = 't' then (Json.readWord ['r', 'u', 'e'] rest).map (.boolean true, ·)
      else if c = 'f' then (Json.readWord ['a', 'l', 's', 'e'] rest).map (.boolean false, ·)
      else if c = '"' then
        (Json.readString .full rest).map fun (content, after) =>
          (.string (String.ofList content), after)
      else if c = '-' ∨ c.isDigit then
        (Json.Amount.read (c :: rest)).map fun (amount, after) =>
          match amount with
          | .whole n => (.whole n, after)
          | .real x => (.real x, after)
      else if c = '[' then .ok (.list, c :: rest)
      else if c = '{' then .ok (.object, c :: rest)
      else .error (Flaw.expectedValue.at (c :: rest))

def refuse {α : Type} (mismatch : Found → Mismatch) (text : List Char) : Except Stop α :=
  match readFound text with
  | .error fault => .error (.flaw fault)
  | .ok (found, rest) => .error (.mismatch (mismatch found) (Text.byteSize rest))

def readText (text : List Char) : Except Stop (String × List Char) :=
  match Json.skipSpace text with
  | [] => .error (.flaw (Flaw.endOfValue.before []))
  | c :: rest =>
      if c = '"' then
        match Json.readString .full rest with
        | .error fault => .error (.flaw fault)
        | .ok (content, after) => .ok (String.ofList content, after)
      else
        refuse .notString (c :: rest)

def readOptionalText (text : List Char) : Except Stop (Option String × List Char) :=
  match Json.skipSpace text with
  | 'n' :: rest =>
      match Json.readWord ['u', 'l', 'l'] rest with
      | .error fault => .error (.flaw fault)
      | .ok after => .ok (none, after)
  | _ => (readText text).map fun (content, after) => (some content, after)

/-- The stamp of a number. A whole number that is no 64-bit integer counts as a double. -/
def Stamp.ofAmount : Json.Amount → Stamp
  | .whole n =>
      if Number.fitsSigned n then .whole (Int64.ofInt n) else .real (Binary64.ofInt n)
  | .real x => .real x

/-- Reads a value as a time stamp. A value of any other kind is read in full, and is none. -/
def readStamp (text : List Char) : Except Fault (Option Stamp × List Char) :=
  match Json.skipSpace text with
  | [] => .error (Flaw.endOfValue.before [])
  | c :: rest =>
      if c = '"' then
        (Json.readString .full rest).map fun (content, after) =>
          (some (.text (String.ofList content)), after)
      else if c = '-' ∨ c.isDigit then
        (Json.Amount.read (c :: rest)).map fun (amount, after) =>
          (some (Stamp.ofAmount amount), after)
      else
        (Json.skipValue .full [] (c :: rest)).map (none, ·)

/-! ## Drafts -/

/-- The fields of a record that were read so far. A field that may be null is there once it was
    read. -/
structure Draft where
  typeName : Option String := none
  stamp : Option Stamp := none
  stepKey : Option (Option String) := none
  eventType : Option (Option String) := none
  message : Option (Option String) := none
  level : Option (Option String) := none

/-- The fields of a record, complete. -/
structure Fields where
  typeName : String
  stamp : Stamp
  stepKey : Option String := none
  eventType : Option String := none
  message : Option String := none
  level : Option String := none

namespace Draft

def has (draft : Draft) : Field → Bool
  | .typeName => draft.typeName.isSome
  | .timestamp => draft.stamp.isSome
  | .stepKey => draft.stepKey.isSome
  | .eventType => draft.eventType.isSome
  | .message => draft.message.isSome
  | .level => draft.level.isSome

/-- Puts a value that was read into a draft. -/
def fill {α : Type} (place : α → Draft) :
    Except Stop (α × List Char) → Except Stop (Except Mismatch Draft × List Char)
  | .error stop => .error stop
  | .ok (value, rest) => .ok (.ok (place value), rest)

def readField (draft : Draft) (field : Field) (text : List Char) :
    Except Stop (Except Mismatch Draft × List Char) :=
  match field with
  | .typeName => fill (fun value => { draft with typeName := some value }) (readText text)
  | .timestamp =>
      match readStamp text with
      | .error fault => .error (.flaw fault)
      | .ok (none, rest) => .ok (.error .notStamp, rest)
      | .ok (some stamp, rest) => .ok (.ok { draft with stamp := some stamp }, rest)
  | .stepKey => fill (fun value => { draft with stepKey := some value }) (readOptionalText text)
  | .eventType => fill (fun value => { draft with eventType := some value }) (readOptionalText text)
  | .message => fill (fun value => { draft with message := some value }) (readOptionalText text)
  | .level => fill (fun value => { draft with level := some value }) (readOptionalText text)

theorem exists_of_fill_ok {α : Type} {place : α → Draft} {read : Except Stop (α × List Char)}
    {result : Except Mismatch Draft} {rest : List Char}
    (filled : fill place read = .ok (result, rest)) :
    ∃ value, read = .ok (value, rest) := by
  cases read with
  | error stop => cases filled
  | ok pair =>
      cases filled
      exact ⟨pair.1, rfl⟩

/-- The fields of a draft. A type name and a time stamp must be among them. -/
def complete (draft : Draft) : Except Mismatch Fields :=
  match draft.typeName, draft.stamp with
  | none, _ => .error (.missing .typeName)
  | some _, none => .error (.missing .timestamp)
  | some typeName, some stamp =>
      .ok {
        typeName, stamp
        stepKey := draft.stepKey.getD none
        eventType := draft.eventType.getD none
        message := draft.message.getD none
        level := draft.level.getD none }

end Draft

end EventLog
