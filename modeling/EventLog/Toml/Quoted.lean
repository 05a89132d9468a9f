import EventLog.Number.Digit

/-!
# Quoted TOML text

Text stands between double quotes, with escapes, or between single quotes, as it is. Tripled
quotes let it run over several lines; a line break right after them does not count, and a backslash
at the end of a line takes all the white space after it away.
-/

namespace EventLog.Toml

/-- Says whether a character may stand in text and in comments. -/
def isPlain (c : Char) : Bool := c == '\t' || (0x20 ≤ c.toNat && c.toNat ≠ 0x7F)

/-- The character of a number written in hexadecimal digits. -/
def charOfHex (digits : List Char) : Option Char := do
  let value ← digits.foldlM (fun n c => (Number.hexDigit? c).map (16 * n + ·)) 0
  if value.isValidChar then some (Char.ofNat value) else none

def escaped? : Char → Option Char
  | 'b' => some '\x08'
  | 't' => some '\t'
  | 'n' => some '\n'
  | 'f' => some '\x0c'
  | 'r' => some '\r'
  | '"' => some '"'
  | '\\' => some '\\'
  | _ => none

def consRead (c : Char) (read : Option (List Char × List Char)) :
    Option (List Char × List Char) :=
  read.map fun (content, rest) => (c :: content, rest)

/-- Reads text with escapes up to its double quote. -/
def readBasic : List Char → Option (List Char × List Char)
  | [] => none
  | '"' :: rest => some ([], rest)
  | '\\' :: 'u' :: a :: b :: c :: d :: rest => do
      consRead (← charOfHex [a, b, c, d]) (readBasic rest)
  | '\\' :: 'U' :: a :: b :: c :: d :: e :: f :: g :: h :: rest => do
      consRead (← charOfHex [a, b, c, d, e, f, g, h]) (readBasic rest)
  | '\\' :: c :: rest => do consRead (← escaped? c) (readBasic rest)
  | c :: rest => if isPlain c then consRead c (readBasic rest) else none

/-- Reads text up to its single quote. -/
def readLiteral : List Char → Option (List Char × List Char)
  | [] => none
  | '\'' :: rest => some ([], rest)
  | c :: rest => if isPlain c then consRead c (readLiteral rest) else none

def dropBreak : List Char → List Char
  | '\n' :: rest => rest
  | '\r' :: '\n' :: rest => rest
  | text => text

/-- The quotes that still belong to a text whose three closing quotes have been passed. -/
def closeTriple (quote : Char) : List Char → List Char × List Char
  | a :: b :: rest =>
      if a = quote ∧ b = quote then ([quote, quote], rest)
      else if a = quote then ([quote], b :: rest)
      else ([], a :: b :: rest)
  | [a] => if a = quote then ([quote], []) else ([], [a])
  | [] => ([], [])

/-- Where a reader of several lines stands. -/
inductive LineState where
  /-- Within a line. -/
  | inside
  /-- After a backslash, which only spaces may follow on its line. -/
  | ending
  /-- In the white space after such a line. -/
  | trimming
deriving DecidableEq, Repr

/-- Reads text of several lines with escapes up to its three double quotes. -/
def readBasicLines (state : LineState) : List Char → Option (List Char × List Char)
  | [] => none
  | '\r' :: '\n' :: rest =>
      if state = .inside then consRead '\n' (readBasicLines .inside rest)
      else readBasicLines .trimming rest
  | '"' :: '"' :: '"' :: rest =>
      if state = .ending then none else some (closeTriple '"' rest)
  | '\\' :: 'u' :: a :: b :: c :: d :: rest => do
      guard (state ≠ .ending)
      consRead (← charOfHex [a, b, c, d]) (readBasicLines .inside rest)
  | '\\' :: 'U' :: a :: b :: c :: d :: e :: f :: g :: h :: rest => do
      guard (state ≠ .ending)
      consRead (← charOfHex [a, b, c, d, e, f, g, h]) (readBasicLines .inside rest)
  | '\\' :: c :: rest => do
      guard (state ≠ .ending)
      if c = ' ' ∨ c = '\t' ∨ c = '\n' ∨ c = '\r' then readBasicLines .ending (c :: rest)
      else consRead (← escaped? c) (readBasicLines .inside rest)
  | c :: rest =>
      if c = '\n' then
        if state = .inside then consRead '\n' (readBasicLines .inside rest)
        else readBasicLines .trimming rest
      else if state ≠ .inside ∧ (c = ' ' ∨ c = '\t') then readBasicLines state rest
      else if state ≠ .ending ∧ isPlain c then consRead c (readBasicLines .inside rest)
      else none

/-- Reads text of several lines up to its three single quotes. -/
def readLiteralLines : List Char → Option (List Char × List Char)
  | [] => none
  | '\r' :: '\n' :: rest => consRead '\n' (readLiteralLines rest)
  | '\'' :: '\'' :: '\'' :: rest => some (closeTriple '\'' rest)
  | c :: rest => if c = '\n' ∨ isPlain c then consRead c (readLiteralLines rest) else none

def readQuoted (text : List Char) : Option (List Char × List Char) :=
  match text with
  | '"' :: '"' :: '"' :: rest => readBasicLines .inside (dropBreak rest)
  | '\'' :: '\'' :: '\'' :: rest => readLiteralLines (dropBreak rest)
  | '"' :: rest => readBasic rest
  | '\'' :: rest => readLiteral rest
  | _ => none

end EventLog.Toml
