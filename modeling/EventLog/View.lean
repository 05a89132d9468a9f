import EventLog.Filter

/-!
# Views

What a filter makes of a log: the entries in view, and among them those that an active query picks
out. An entry is a record at its place in the log, so equal records stay apart. The main
definition is `Filter.view`; `View.marked` says of each visible entry whether it is a match.
-/

namespace EventLog

/-- A record at its place in a log. -/
structure Entry where
  position : Nat
  record : Record
deriving DecidableEq

/-- The entries of a log, numbered from zero. -/
def entries (records : List Record) : List Entry :=
  records.zipIdx.map fun (record, position) => ⟨position, record⟩

/-- The entries in view and the entries that an active query picks out. -/
structure View where
  visible : List Entry
  textMatched : List Entry
deriving DecidableEq

/-- Pairs each visible entry with whether it is the next match that is still awaited. -/
def markAlong : (visible matched : List Entry) → List (Entry × Bool)
  | [], _ => []
  | entry :: visible, [] => (entry, false) :: markAlong visible []
  | entry :: visible, awaited :: matched =>
      if awaited.position = entry.position then
        (entry, true) :: markAlong visible matched
      else
        (entry, false) :: markAlong visible (awaited :: matched)

namespace View

/-- The visible entries, each with whether it is a match. -/
def marked (view : View) : List (Entry × Bool) := markAlong view.visible view.textMatched

def visibleRecords (view : View) : List Record := view.visible.map (·.record)

def matchedRecords (view : View) : List Record := view.textMatched.map (·.record)

end View

def Filter.view (filter : Filter) (conventions : Conventions) (keys : StepKeys)
    (records : List Record) : View :=
  let surviving := (entries records).filter fun entry => filter.survives conventions entry.record
  if filter.isActive then
    let matched :=
      surviving.filter fun entry => meetsQuery conventions keys filter.query entry.record
    ⟨if filter.hideNonMatches then matched else surviving, matched⟩
  else
    ⟨surviving, []⟩

theorem markAlong_map_fst (visible matched : List Entry) :
    (markAlong visible matched).map Prod.fst = visible := by
  induction visible generalizing matched with
  | nil => rfl
  | cons entry visible ih =>
      cases matched with
      | nil => simp [markAlong, ih]
      | cons awaited matched =>
          unfold markAlong
          split <;> simp [ih]

end EventLog
