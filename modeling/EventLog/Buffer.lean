import EventLog.Record

/-!
# Buffers

The store of one run's records. Records are appended in the order of their arrival, singly or in
pages, and a page may bring the place where its provider goes on. Clearing a buffer drops its
records and starts a new generation, so that the generation and the number of records together
tell what the buffer holds.
-/

namespace EventLog

/-- Tells the contents of a buffer from its contents at other times. -/
structure Version where
  /-- The number of times the buffer was cleared, as a machine word. -/
  generation : UInt64 := 0
  length : Nat := 0
deriving DecidableEq, Repr

/-- The records of one run so far. -/
structure Buffer where
  records : List Record := []
  /-- Where the provider of the latest page goes on. -/
  cursor : Option String := none
  generation : UInt64 := 0
deriving DecidableEq

namespace Buffer

def push (buffer : Buffer) (record : Record) : Buffer :=
  { buffer with records := buffer.records ++ [record] }

/-- Appends a page. A page without a cursor leaves the cursor as it is. -/
def pushPage (buffer : Buffer) (page : List Record) (cursor : Option String) : Buffer :=
  { buffer with records := buffer.records ++ page, cursor := cursor <|> buffer.cursor }

/-- Drops the records and the cursor and starts a new generation. -/
def clear (buffer : Buffer) : Buffer := { generation := buffer.generation + 1 }

def length (buffer : Buffer) : Nat := buffer.records.length

def isEmpty (buffer : Buffer) : Bool := buffer.records.isEmpty

def version (buffer : Buffer) : Version := ⟨buffer.generation, buffer.records.length⟩

end Buffer

end EventLog
