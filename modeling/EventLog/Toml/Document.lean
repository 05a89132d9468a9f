import EventLog.Toml.Quoted
import EventLog.Toml.Scalar

/-!
# TOML documents

The reader of whole documents. Nothing is said about a document that cannot be read; `parse?` gives
the entries of one that can. Brackets may be nested, and keys may be dotted, only so deep.
-/

namespace EventLog.Toml

/-- No more levels of brackets, and no more parts of a key, than this are read. -/
def depthLimit : Nat := 80

/-! ## Spaces and comments -/

def skipSpaces (text : List Char) : List Char := text.dropWhile fun c => c == ' ' || c == '\t'

/-- Passes over spaces, line breaks and comments. A comment that is not ended by a line break stops
    it. -/
def skipFiller (inComment : Bool) : List Char → List Char
  | [] => []
  | '\r' :: '\n' :: rest => skipFiller false rest
  | c :: rest =>
      if c = '\n' then skipFiller false rest
      else if inComment then (if isPlain c then skipFiller true rest else c :: rest)
      else if c = ' ' ∨ c = '\t' then skipFiller false rest
      else if c = '#' then skipFiller true rest
      else c :: rest

/-- Passes over the rest of a line, which may hold only spaces and a comment. -/
def endLine (text : List Char) : Option (List Char) :=
  let rest :=
    match skipSpaces text with
    | '#' :: comment => comment.dropWhile isPlain
    | rest => rest
  match rest with
  | [] => some []
  | '\n' :: rest => some rest
  | '\r' :: '\n' :: rest => some rest
  | _ => none

/-! ## Keys -/

def isBareKeyChar (c : Char) : Bool := c.isAlphanum || c == '_' || c == '-'

def readKeyPart (text : List Char) : Option (String × List Char) :=
  match text with
  | '"' :: rest => (readBasic rest).map fun (content, rest) => (String.ofList content, rest)
  | '\'' :: rest => (readLiteral rest).map fun (content, rest) => (String.ofList content, rest)
  | _ =>
      let name := text.takeWhile isBareKeyChar
      if name.isEmpty then none
      else some (String.ofList name, text.dropWhile isBareKeyChar)

/-- Reads the parts of a key, at most so many, with the spaces around them. -/
def readKeyParts (limit : Nat) (text : List Char) : Option (List String × List Char) :=
  match limit with
  | 0 => none
  | limit + 1 => do
      let (part, rest) ← readKeyPart (skipSpaces text)
      match skipSpaces rest with
      | '.' :: more => do
          let (parts, rest) ← readKeyParts limit more
          return (part :: parts, rest)
      | rest => return ([part], rest)

/-- Reads a key. The last part comes apart from the path before it. -/
def readKey (text : List Char) : Option (List String × String × List Char) := do
  let (parts, rest) ← readKeyParts (depthLimit - 1) text
  return (parts.dropLast, ← parts.getLast?, rest)

/-! ## Values -/

mutual

/-- Reads a value within `depth` more levels of brackets. A level takes two calls and two brackets,
    and an item one call and one character, so twice the length of the text is `fuel` enough. -/
def readValue (fuel depth : Nat) (text : List Char) : Option (Value × List Char) :=
  match fuel with
  | 0 => none
  | fuel + 1 =>
      match text with
      | [] => none
      | c :: rest =>
          if c = '"' ∨ c = '\'' then
            (readQuoted text).map fun (content, rest) => (.text (String.ofList content), rest)
          else if c = '[' then
            match depth with
            | 0 => none
            | depth + 1 =>
                match skipFiller false rest with
                | ']' :: rest => some (.list [], rest)
                | rest => (readItems fuel depth rest).map fun (items, rest) => (.list items, rest)
          else if c = '{' then
            match depth with
            | 0 => none
            | depth + 1 =>
                match skipSpaces rest with
                | '}' :: rest => some (.table .braces [], rest)
                | rest => do
                    let (pairs, rest) ← readPairs fuel depth rest
                    return (← Value.ofBraces pairs, rest)
          else
            readBare text

/-- Reads the items of a list, of which there is at least one, and the closing bracket. -/
def readItems (fuel depth : Nat) (text : List Char) : Option (List Value × List Char) :=
  match fuel with
  | 0 => none
  | fuel + 1 => do
      let (item, rest) ← readValue fuel depth text
      match skipFiller false rest with
      | ']' :: rest => return ([item], rest)
      | ',' :: rest =>
          match skipFiller false rest with
          -- A comma may stand behind the last item.
          | ']' :: rest => return ([item], rest)
          | rest => do
              let (items, rest) ← readItems fuel depth rest
              return (item :: items, rest)
      | _ => none

/-- Reads the pairs of a table in braces, of which there is at least one, and the closing brace. -/
def readPairs (fuel depth : Nat) (text : List Char) : Option (List Pair × List Char) :=
  match fuel with
  | 0 => none
  | fuel + 1 => do
      let (path, key, rest) ← readKey text
      let rest ← expect '=' rest
      let (value, rest) ← readValue fuel depth (skipSpaces rest)
      match skipSpaces rest with
      | '}' :: rest => return ([⟨path, key, value⟩], rest)
      | ',' :: rest => do
          let (pairs, rest) ← readPairs fuel depth rest
          return (⟨path, key, value⟩ :: pairs, rest)
      | _ => none

end

/-! ## Lines -/

/-- One line of a document, or several if a value runs over them. -/
inductive Statement where
  | pair (pair : Pair)
  | header (header : Header)

/-- Reads a key and its value, up to the end of the line. -/
def readPair (text : List Char) : Option (Statement × List Char) := do
  let (path, key, rest) ← readKey text
  let rest := skipSpaces (← expect '=' rest)
  let (value, rest) ← readValue (2 * rest.length + 2) (depthLimit - 1) rest
  return (.pair ⟨path, key, value⟩, ← endLine rest)

/-- Reads a header, up to the end of the line. -/
def readHeader (text : List Char) : Option (Statement × List Char) :=
  match text with
  | '[' :: '[' :: rest => do
      let (path, key, rest) ← readKey rest
      let rest ← expect ']' (← expect ']' rest)
      return (.header ⟨true, path, key⟩, ← endLine rest)
  | '[' :: rest => do
      let (path, key, rest) ← readKey rest
      return (.header ⟨false, path, key⟩, ← endLine (← expect ']' rest))
  | _ => none

/-- Reads the statements of a document. Each takes at least one character. -/
def readStatements (fuel : Nat) (text : List Char) : Option (List Statement) :=
  match fuel with
  | 0 => none
  | fuel + 1 =>
      match skipSpaces text with
      | [] => some []
      | c :: rest =>
          if c = '#' ∨ c = '\n' ∨ c = '\r' then
            (endLine (c :: rest)).bind (readStatements fuel)
          else do
            let (statement, rest) ←
              if c = '[' then readHeader (c :: rest) else readPair (c :: rest)
            return statement :: (← readStatements fuel rest)

/-- The pairs before the first header, and the blocks after it. -/
def blocks : List Statement → List Pair × List Block
  | [] => ([], [])
  | .pair pair :: statements =>
      let (pairs, others) := blocks statements
      (pair :: pairs, others)
  | .header header :: statements =>
      let (pairs, others) := blocks statements
      ([], ⟨header, pairs⟩ :: others)

/-- The entries of a document. A byte-order mark in front does not count. -/
def parse? (text : List Char) : Option Entries := do
  let text :=
    match text with
    | '\uFEFF' :: rest => rest
    | _ => text
  let statements ← readStatements (text.length + 1) text
  let (pairs, blocks) := blocks statements
  Entries.ofBlocks pairs blocks

end EventLog.Toml
