import EventLog.Buffer
import EventLog.View

/-!
# Cached views

The last view of a buffer, kept with the filter, the relevant steps and the version it was made
from. It is made again only when one of the three has changed.
-/

namespace EventLog

/-- A view that is kept between two looks at a buffer. -/
structure Cache where
  /-- The filter of the kept view. There is none before the first look and after invalidation. -/
  filter : Option Filter := none
  keys : StepKeys := []
  version : Version := {}
  visible : List Record := []
  textMatched : List Record := []
deriving DecidableEq

namespace Cache

/-- Says whether the kept view does not answer the question any more. -/
def isStale (cache : Cache) (filter : Filter) (keys : StepKeys) (version : Version) : Bool :=
  match cache.filter with
  | none => true
  | some kept => kept ≠ filter || !cache.keys.same keys || cache.version ≠ version

/-- Brings the kept view up to date, and says whether it had to be made again. -/
def refresh (cache : Cache) (conventions : Conventions) (buffer : Buffer) (filter : Filter)
    (keys : StepKeys) : Cache × Bool :=
  if cache.isStale filter keys buffer.version then
    let view := filter.view conventions keys buffer.records
    (⟨some filter, keys, buffer.version, view.visibleRecords, view.matchedRecords⟩, true)
  else
    (cache, false)

/-- Forgets what the kept view was made from. The records stay. -/
def invalidate (cache : Cache) : Cache := { cache with filter := none }

end Cache

end EventLog
