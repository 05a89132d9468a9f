import EventLog.Record

/-!
# Level counts

How many records of a log there are at each level. Planning records are not counted.
-/

namespace EventLog

/-- The number of records at each level. -/
structure Tally where
  count : Level → Nat

namespace Tally

def zero : Tally := ⟨fun _ => 0⟩

def add (tally : Tally) (level : Level) : Tally :=
  ⟨fun other => if other = level then tally.count other + 1 else tally.count other⟩

def total (tally : Tally) : Nat := Level.all.foldr (fun level sum => tally.count level + sum) 0

def ofRecords (conventions : Conventions) (records : List Record) : Tally :=
  records.foldl
    (fun tally record =>
      if record.isPlanning then tally else tally.add (conventions.levelOf record))
    zero

end Tally

end EventLog
