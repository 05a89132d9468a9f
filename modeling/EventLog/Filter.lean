import EventLog.Record
import EventLog.Query
import EventLog.Text.Occurrence

/-!
# Filters

A filter decides which records are shown. Planning records never are. The others must be at a
level that is switched on and not earlier than the time floor; a query then picks out those that
meet all of its terms, and either hides the others or leaves them in view.
-/

namespace EventLog

structure Filter where
  levels : LevelMap := LevelMap.every true
  /-- Records emitted before this time are dropped. -/
  since : Option Int64 := none
  query : List Term := []
  /-- Whether an active query hides the records that do not meet it. -/
  hideNonMatches : Bool := true
deriving DecidableEq

/-- The keys of the steps that scope terms refer to. Their order and repetition mean nothing. -/
abbrev StepKeys := List String

def StepKeys.same (a b : StepKeys) : Bool := a.all b.contains && b.all a.contains

theorem StepKeys.same_iff {a b : StepKeys} : a.same b = true ↔ ∀ key, key ∈ a ↔ key ∈ b := by
  simp only [StepKeys.same, Bool.and_eq_true, List.all_eq_true, List.contains_iff_mem]
  constructor
  · rintro ⟨left, right⟩ key
    exact ⟨left key, right key⟩
  · intro both
    exact ⟨fun key => (both key).mp, fun key => (both key).mpr⟩

/-! ## Terms -/

def Term.holds (conventions : Conventions) (keys : StepKeys) (record : Record) (term : Term) :
    Bool :=
  match term.token with
  | .scope => record.stepKey.any keys.contains
  | .step => record.stepKey.any (· == term.value)
  | .eventType => record.eventType.any (conventions.displayName · == term.value)
  | .text => Text.occursIn (Text.lower term.value.toList) (Text.lower record.message.toList)

def meetsQuery (conventions : Conventions) (keys : StepKeys) (terms : List Term)
    (record : Record) : Bool :=
  terms.all (·.holds conventions keys record)

namespace Filter

/-- A query is active when its first term has a value. -/
def isActive (filter : Filter) : Bool := filter.query.head?.any (!·.value.isEmpty)

/-- Says whether a record passes everything but the query. -/
def survives (filter : Filter) (conventions : Conventions) (record : Record) : Bool :=
  !record.isPlanning && filter.levels.enabled (conventions.levelOf record) &&
    filter.since.all (· ≤ record.timestamp)

/-- Says whether a record is picked out by an active query. -/
def picks (filter : Filter) (conventions : Conventions) (keys : StepKeys) (record : Record) :
    Bool :=
  filter.isActive && filter.survives conventions record &&
    meetsQuery conventions keys filter.query record

def shows (filter : Filter) (conventions : Conventions) (keys : StepKeys) (record : Record) :
    Bool :=
  filter.survives conventions record &&
    (!(filter.isActive && filter.hideNonMatches) ||
      meetsQuery conventions keys filter.query record)

end Filter

end EventLog
