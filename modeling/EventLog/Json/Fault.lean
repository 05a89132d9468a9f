import EventLog.Text.Size

/-!
# Faults of JSON texts

A fault is a flaw of the text together with how much of the text was still unread when it was
found. Counting what is left, in bytes, lets every reader say where it stands by looking at its
own rest of the text alone; `place` turns the count into a line and a column.
-/

namespace EventLog.Json

open Text (byteSize)

/-- What is wrong with a text. -/
inductive Flaw where
  | endOfList
  | endOfObject
  | endOfString
  | endOfValue
  | expectedColon
  | expectedListEnd
  | expectedObjectEnd
  | expectedWord
  | expectedValue
  | invalidEscape
  | invalidNumber
  | numberOutOfRange
  | controlCharacter
  | keyNotString
  | loneSurrogate
  | trailingComma
  | trailingCharacters
  | brokenSurrogatePair
  | nestedTooDeeply
deriving DecidableEq, Repr

namespace Flaw

/-- Says whether the text was fine as far as it went. -/
def isEarlyEnd : Flaw → Bool
  | endOfList => true
  | endOfObject => true
  | endOfString => true
  | endOfValue => true
  | _ => false

def message : Flaw → String
  | endOfList => "EOF while parsing a list"
  | endOfObject => "EOF while parsing an object"
  | endOfString => "EOF while parsing a string"
  | endOfValue => "EOF while parsing a value"
  | expectedColon => "expected `:`"
  | expectedListEnd => "expected `,` or `]`"
  | expectedObjectEnd => "expected `,` or `\x7d`"
  | expectedWord => "expected ident"
  | expectedValue => "expected value"
  | invalidEscape => "invalid escape"
  | invalidNumber => "invalid number"
  | numberOutOfRange => "number out of range"
  | controlCharacter => "control character (\\u0000-\\u001F) found while parsing a string"
  | keyNotString => "key must be a string"
  | loneSurrogate => "lone leading surrogate in hex escape"
  | trailingComma => "trailing comma"
  | trailingCharacters => "trailing characters"
  | brokenSurrogatePair => "unexpected end of hex escape"
  | nestedTooDeeply => "recursion limit exceeded"

end Flaw

/-- A flaw, and the number of bytes that were not read yet. -/
structure Fault where
  flaw : Flaw
  left : Nat
deriving DecidableEq, Repr

/-- A flaw found before the first character of `rest`. -/
def Flaw.before (flaw : Flaw) (rest : List Char) : Fault := ⟨flaw, byteSize rest⟩

/-- A flaw found at the first byte of `rest`, which counts as read. -/
def Flaw.at (flaw : Flaw) (rest : List Char) : Fault := ⟨flaw, byteSize rest - 1⟩

/-- A line of a text, counted from one, and a number of bytes into it. -/
structure Place where
  line : Nat
  column : Nat
deriving DecidableEq, Repr

/-- The place reached from another after a number of bytes. -/
def Place.advance (place : Place) (bytes : Nat) : List Char → Place
  | [] => place
  | c :: rest =>
      if bytes < c.utf8Size then
        ⟨place.line, place.column + bytes⟩
      else if c = '\n' then
        Place.advance ⟨place.line + 1, 0⟩ (bytes - 1) rest
      else
        Place.advance ⟨place.line, place.column + c.utf8Size⟩ (bytes - c.utf8Size) rest

def place (text : List Char) (left : Nat) : Place :=
  Place.advance ⟨1, 0⟩ (byteSize text - left) text

/-- How closely a value is read. -/
inductive Care where
  /-- The value is wanted: strings are decoded, numbers must be in range, nesting is limited. -/
  | full
  /-- Only the end of the value is wanted. -/
  | outline
deriving DecidableEq, Repr

end EventLog.Json
