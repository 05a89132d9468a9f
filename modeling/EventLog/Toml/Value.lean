import EventLog.Number.Binary64

/-!
# TOML values and tables

A document is a tree of tables. How a table came about decides what may still be added to it: one
that was written out in braces is complete, one that a header or a dotted key only passed through
can be filled later. Tables keep the order in which their keys were first written.
-/

namespace EventLog.Toml

/-- How a table came about. -/
inductive Origin where
  /-- Written in braces. -/
  | braces
  /-- Passed through by a dotted key within braces. -/
  | dottedInBraces
  /-- Opened by a header of its own, or the document itself. -/
  | header
  /-- Passed through by the header of another table. -/
  | implied
  /-- Passed through by a dotted key. -/
  | dotted
deriving DecidableEq, Repr

inductive Value where
  | text (value : String)
  | integer (value : Int64)
  | real (value : Number.Binary64)
  | boolean (value : Bool)
  /-- A date, a time or both. -/
  | moment
  | list (items : List Value)
  | table (origin : Origin) (entries : List (String × Value))
  /-- The tables of a header in double brackets, in order. -/
  | tables (items : List Value)

/-- The keys of a table and their values, in order. -/
abbrev Entries := List (String × Value)

namespace Entries

def replace (entries : Entries) (key : String) (value : Value) : Entries :=
  entries.map fun entry => if entry.1 = key then (key, value) else entry

def erase (entries : Entries) (key : String) : Entries := entries.filter (·.1 ≠ key)

def add (entries : Entries) (key : String) (value : Value) : Option Entries :=
  if (entries.lookup key).isSome then none else some (entries ++ [(key, value)])

end Entries

/-- How a path of keys is followed down to a table. -/
structure Descent where
  /-- How the tables come about that are not there yet. -/
  creates : Origin
  /-- Which tables may be passed through. -/
  enters : Origin → Bool

namespace Descent

/-- The path of a header. -/
def ofHeader : Descent where
  creates := .implied
  enters
    | .header => true
    | .implied => true
    | .dotted => true
    | _ => false

/-- The path of a dotted key. -/
def ofKey : Descent where
  creates := .dotted
  enters
    | .implied => true
    | .dotted => true
    | _ => false

/-- The path of a dotted key within braces. -/
def ofKeyInBraces : Descent where
  creates := .dottedInBraces
  enters
    | .dottedInBraces => true
    | _ => false

/-- Changes the table at the end of a path, and passes on what the change gives besides. A path
    through tables of double brackets leads into the last of them. -/
def follow {α : Type} (descent : Descent) (change : Origin → Entries → Option (Entries × α)) :
    (path : List String) → Origin → Entries → Option (Entries × α)
  | [], origin, entries => change origin entries
  | key :: path, _, entries =>
      match entries.lookup key with
      | none => do
          let (inner, result) ← descent.follow change path descent.creates []
          return (entries ++ [(key, .table descent.creates inner)], result)
      | some (.table origin inner) => do
          guard (descent.enters origin)
          let (inner, result) ← descent.follow change path origin inner
          return (entries.replace key (.table origin inner), result)
      | some (.tables items) =>
          match items.getLast? with
          | some (.table origin inner) => do
              let (inner, result) ← descent.follow change path origin inner
              return (entries.replace key (.tables (items.dropLast ++ [.table origin inner])),
                result)
          | _ => none
      | some _ => none

/-- Adds a value under a key, below the tables of a path. Below a path, only a table that came about
    by dotted keys takes it. -/
def add (descent : Descent) (entries : Entries) (path : List String) (key : String)
    (value : Value) : Option Entries := do
  let (entries, ()) ← descent.follow
    (fun origin entries => do
      guard (path.isEmpty || origin = descent.creates)
      return (← entries.add key value, ()))
    path .header entries
  return entries

end Descent

/-- A key with the path before it, and its value. -/
structure Pair where
  path : List String
  key : String
  value : Value

/-- The table of the pairs written in braces. -/
def Value.ofBraces (pairs : List Pair) : Option Value := do
  let entries ← pairs.foldlM
    (fun entries pair => Descent.ofKeyInBraces.add entries pair.path pair.key pair.value) []
  return .table .braces entries

/-! ## Documents -/

/-- A header of a document. -/
structure Header where
  /-- Whether it stands in double brackets. -/
  isDouble : Bool
  path : List String
  key : String

/-- A header and the pairs below it. -/
structure Block where
  header : Header
  pairs : List Pair

namespace Entries

def fill (entries : Entries) (pairs : List Pair) : Option Entries :=
  pairs.foldlM
    (fun entries pair => Descent.ofKey.add entries pair.path pair.key pair.value) entries

/-- Makes room for the table of a header. A single header takes out what other headers have implied
    of its table; anything else under its key is in the way. -/
def openBlock (root : Entries) (header : Header) : Option (Entries × Entries) :=
  Descent.ofHeader.follow
    (fun _ entries =>
      match header.isDouble, entries.lookup header.key with
      | false, none => some (entries, [])
      | false, some (.table .implied inner) => some (entries.erase header.key, inner)
      | true, none => some (entries ++ [(header.key, .tables [])], [])
      | true, some (.tables _) => some (entries, [])
      | _, _ => none)
    header.path .header root

/-- Puts the table of a header at its place. -/
def closeBlock (root : Entries) (header : Header) (table : Entries) : Option Entries := do
  let (root, ()) ← Descent.ofHeader.follow
    (fun _ entries =>
      match header.isDouble, entries.lookup header.key with
      | false, none => some (entries ++ [(header.key, .table .header table)], ())
      | true, some (.tables items) =>
          some (entries.replace header.key (.tables (items ++ [.table .header table])), ())
      | _, _ => none)
    header.path .header root
  return root

def addBlock (root : Entries) (block : Block) : Option Entries := do
  let (root, held) ← root.openBlock block.header
  let table ← held.fill block.pairs
  root.closeBlock block.header table

/-- The document of the pairs before the first header and the blocks after it. -/
def ofBlocks (pairs : List Pair) (blocks : List Block) : Option Entries := do
  let root ← fill [] pairs
  blocks.foldlM addBlock root

end Entries

end EventLog.Toml
