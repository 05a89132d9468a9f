import EventLog.View

/-!
# What a filter selects

What it takes for a record to meet a term, to survive everything but the query and to be wanted by
the query is stated here as propositions on the record, and the tests of a filter are shown to
decide them. `view_selects` says which positions of a log a view shows and which it takes for
matches: both in rising order, and exactly those whose records the propositions hold of.
-/

namespace EventLog

/-! ## Terms -/

/-- What it takes for a record to meet a term. A record without a step meets no term about steps,
    and a record without an event type meets no term about types. -/
def Term.Met (conventions : Conventions) (keys : StepKeys) (record : Record) (term : Term) : Prop :=
  match term.token with
  | .scope => ∃ key, record.stepKey = some key ∧ key ∈ keys
  | .step => record.stepKey = some term.value
  | .eventType =>
      ∃ eventType, record.eventType = some eventType ∧
        conventions.displayName eventType = term.value
  | .text => Text.lower term.value.toList <:+: Text.lower record.message.toList

theorem Term.holds_iff {conventions : Conventions} {keys : StepKeys} {record : Record}
    {term : Term} :
    term.holds conventions keys record = true ↔ term.Met conventions keys record := by
  unfold Term.holds Term.Met
  cases term.token with
  | scope => simp [Option.any_eq_true]
  | step => simp [Option.any_eq_true]
  | eventType => simp [Option.any_eq_true]
  | text => exact Text.occursIn_iff

instance (conventions : Conventions) (keys : StepKeys) (record : Record) (term : Term) :
    Decidable (term.Met conventions keys record) :=
  decidable_of_iff _ Term.holds_iff

theorem meetsQuery_iff {conventions : Conventions} {keys : StepKeys} {terms : List Term}
    {record : Record} :
    meetsQuery conventions keys terms record = true ↔
      ∀ term ∈ terms, term.Met conventions keys record := by
  simp only [meetsQuery, List.all_eq_true, Term.holds_iff]

/-- Terms look at the relevant steps as a set. -/
theorem meetsQuery_congr {a b : StepKeys} (same : ∀ key, key ∈ a ↔ key ∈ b)
    (conventions : Conventions) (terms : List Term) :
    meetsQuery conventions a terms = meetsQuery conventions b terms := by
  funext record
  rw [Bool.eq_iff_iff, meetsQuery_iff, meetsQuery_iff]
  simp only [Term.Met, same]

/-! ## Filters -/

theorem Kind.isPlanning_iff {kind : Kind} :
    kind.isPlanning = true ↔ kind = .materializationPlanned ∨ kind = .checkEvaluationPlanned := by
  cases kind <;> simp [Kind.isPlanning]

namespace Filter

/-- What it takes for a record to pass everything but the query. A level without an entry does not
    count as switched on, and a record at the very time of the floor is in time. -/
structure Survivor (filter : Filter) (conventions : Conventions) (record : Record) : Prop where
  unplanned : ¬(record.kind = .materializationPlanned ∨ record.kind = .checkEvaluationPlanned)
  enabled : filter.levels (conventions.levelOf record) = some true
  inTime : ∀ since, filter.since = some since → since.toInt ≤ record.timestamp.toInt

/-- A survivor that meets every term of the query. -/
def Match (filter : Filter) (conventions : Conventions) (keys : StepKeys) (record : Record) :
    Prop :=
  filter.Survivor conventions record ∧ ∀ term ∈ filter.query, term.Met conventions keys record

/-- What it takes for a query to be active. Only its first term counts. -/
def Active (filter : Filter) : Prop :=
  ∃ first others, filter.query = first :: others ∧ first.value ≠ ""

theorem survives_iff {filter : Filter} {conventions : Conventions} {record : Record} :
    filter.survives conventions record = true ↔ filter.Survivor conventions record := by
  have planned : record.isPlanning = false ↔
      ¬(record.kind = .materializationPlanned ∨ record.kind = .checkEvaluationPlanned) := by
    rw [← Kind.isPlanning_iff, Bool.not_eq_true]
    rfl
  have inTime : filter.since.all (· ≤ record.timestamp) = true ↔
      ∀ since, filter.since = some since → since.toInt ≤ record.timestamp.toInt := by
    cases filter.since with
    | none => simp
    | some since => simp [Int64.le_iff_toInt_le]
  rw [survives, Bool.and_eq_true, Bool.and_eq_true, Bool.not_eq_true', planned,
    LevelMap.enabled_iff, inTime]
  exact ⟨fun ⟨⟨kind, level⟩, time⟩ => ⟨kind, level, time⟩,
    fun survivor => ⟨⟨survivor.unplanned, survivor.enabled⟩, survivor.inTime⟩⟩

instance (filter : Filter) (conventions : Conventions) (record : Record) :
    Decidable (filter.Survivor conventions record) :=
  decidable_of_iff _ survives_iff

theorem isActive_iff {filter : Filter} : filter.isActive = true ↔ filter.Active := by
  unfold isActive Active
  cases filter.query with
  | nil => simp
  | cons first others => simp

instance (filter : Filter) : Decidable filter.Active :=
  decidable_of_iff _ isActive_iff

theorem picks_iff {filter : Filter} {conventions : Conventions} {keys : StepKeys}
    {record : Record} :
    filter.picks conventions keys record = true ↔
      filter.Active ∧ filter.Match conventions keys record := by
  rw [picks, Bool.and_eq_true, Bool.and_eq_true, isActive_iff, survives_iff, meetsQuery_iff,
    and_assoc]
  rfl

theorem shows_iff {filter : Filter} {conventions : Conventions} {keys : StepKeys}
    {record : Record} :
    filter.shows conventions keys record = true ↔
      filter.Survivor conventions record ∧
        (filter.Active → filter.hideNonMatches = true →
          ∀ term ∈ filter.query, term.Met conventions keys record) := by
  rw [shows, Bool.and_eq_true, Bool.or_eq_true, Bool.not_eq_true', Bool.and_eq_false_iff,
    survives_iff, meetsQuery_iff, ← Bool.not_eq_true filter.isActive, isActive_iff]
  by_cases active : filter.Active
  · cases filter.hideNonMatches <;> simp [active]
  · simp [active]

end Filter

/-! ## Entries -/

def positions (entries : List Entry) : List Nat := entries.map (·.position)

/-- A position of a log at which a proposition holds of the record. -/
def HoldsAt (records : List Record) (property : Record → Prop) (position : Nat) : Prop :=
  ∃ record, records[position]? = some record ∧ property record

theorem mem_entries {records : List Record} {entry : Entry} :
    entry ∈ entries records ↔ records[entry.position]? = some entry.record := by
  rw [entries, List.mem_map]
  constructor
  · rintro ⟨numbered, present, rfl⟩
    exact List.mem_zipIdx_iff_getElem?.mp present
  · intro present
    exact ⟨(entry.record, entry.position), List.mem_zipIdx_iff_getElem?.mpr present, rfl⟩

theorem positions_entries (records : List Record) :
    positions (entries records) = List.range records.length := by
  rw [positions, entries, List.map_map, List.range_eq_range', ← List.zipIdx_map_snd 0 records]
  rfl

theorem map_record_entries (records : List Record) :
    (entries records).map (·.record) = records := by
  rw [entries, List.map_map]
  exact List.zipIdx_map_fst 0 records

/-- Picking entries by their records picks these records. -/
theorem map_record_filter (records : List Record) (test : Record → Bool) :
    ((entries records).filter fun entry => test entry.record).map (·.record) =
      records.filter test := by
  calc ((entries records).filter fun entry => test entry.record).map (·.record)
    _ = ((entries records).map (·.record)).filter test := List.filter_map.symm
    _ = records.filter test := by rw [map_record_entries]

theorem positions_rise {records : List Record} {chosen : List Entry}
    (sublist : chosen.Sublist (entries records)) : (positions chosen).Pairwise (· < ·) := by
  have rising : (positions (entries records)).Pairwise (· < ·) := by
    rw [positions_entries]
    exact List.pairwise_lt_range
  exact rising.sublist (sublist.map _)

theorem mem_positions_filter {records : List Record} {test : Record → Bool} {position : Nat} :
    position ∈ positions ((entries records).filter fun entry => test entry.record) ↔
      HoldsAt records (fun record => test record = true) position := by
  simp only [positions, List.mem_map, List.mem_filter, mem_entries]
  constructor
  · rintro ⟨entry, ⟨present, passed⟩, rfl⟩
    exact ⟨entry.record, present, passed⟩
  · rintro ⟨record, present, passed⟩
    exact ⟨⟨position, record⟩, ⟨present, passed⟩, rfl⟩

/-! ## Views -/

namespace Filter

theorem visible_view (filter : Filter) (conventions : Conventions) (keys : StepKeys)
    (records : List Record) :
    (filter.view conventions keys records).visible =
      (entries records).filter fun entry => filter.shows conventions keys entry.record := by
  unfold view shows
  cases filter.isActive <;> cases filter.hideNonMatches <;>
    simp [List.filter_filter, Bool.and_comm]

theorem textMatched_view (filter : Filter) (conventions : Conventions) (keys : StepKeys)
    (records : List Record) :
    (filter.view conventions keys records).textMatched =
      (entries records).filter fun entry => filter.picks conventions keys entry.record := by
  unfold view picks
  cases filter.isActive <;> simp [List.filter_filter, Bool.and_comm]

theorem visibleRecords_view (filter : Filter) (conventions : Conventions) (keys : StepKeys)
    (records : List Record) :
    (filter.view conventions keys records).visibleRecords =
      records.filter (filter.shows conventions keys) := by
  rw [View.visibleRecords, visible_view, map_record_filter]

theorem matchedRecords_view (filter : Filter) (conventions : Conventions) (keys : StepKeys)
    (records : List Record) :
    (filter.view conventions keys records).matchedRecords =
      records.filter (filter.picks conventions keys) := by
  rw [View.matchedRecords, textMatched_view, map_record_filter]

/-- A view takes the relevant steps as a set. -/
theorem view_congr (filter : Filter) (conventions : Conventions) {a b : StepKeys}
    (same : ∀ key, key ∈ a ↔ key ∈ b) (records : List Record) :
    filter.view conventions a records = filter.view conventions b records := by
  unfold view
  rw [meetsQuery_congr same conventions filter.query]

theorem mem_positions_visible {filter : Filter} {conventions : Conventions} {keys : StepKeys}
    {records : List Record} {position : Nat} :
    position ∈ positions (filter.view conventions keys records).visible ↔
      HoldsAt records (fun record => filter.Survivor conventions record ∧
        (filter.Active → filter.hideNonMatches = true →
          ∀ term ∈ filter.query, term.Met conventions keys record)) position := by
  rw [visible_view, mem_positions_filter]
  simp only [HoldsAt, shows_iff]

theorem mem_positions_textMatched {filter : Filter} {conventions : Conventions} {keys : StepKeys}
    {records : List Record} {position : Nat} :
    position ∈ positions (filter.view conventions keys records).textMatched ↔
      filter.Active ∧ HoldsAt records (filter.Match conventions keys) position := by
  rw [textMatched_view, mem_positions_filter]
  simp only [HoldsAt, picks_iff]
  constructor
  · rintro ⟨record, present, active, found⟩
    exact ⟨active, record, present, found⟩
  · rintro ⟨active, record, present, found⟩
    exact ⟨record, present, active, found⟩

/-- Views only pick from the entries of a log. -/
theorem mem_entries_of_mem_view {filter : Filter} {conventions : Conventions} {keys : StepKeys}
    {records : List Record} {entry : Entry}
    (chosen : entry ∈ (filter.view conventions keys records).visible ∨
      entry ∈ (filter.view conventions keys records).textMatched) :
    entry ∈ entries records := by
  rw [visible_view, textMatched_view, List.mem_filter, List.mem_filter] at chosen
  rcases chosen with shown | picked
  · exact shown.1
  · exact picked.1

theorem textMatched_of_inactive {filter : Filter} {conventions : Conventions} {keys : StepKeys}
    {records : List Record} (inactive : ¬filter.Active) :
    (filter.view conventions keys records).textMatched = [] := by
  rw [textMatched_view, List.filter_eq_nil_iff]
  intro entry _ picked
  exact inactive (picks_iff.mp picked).1

/-- An active query that hides everything else shows its matches. -/
theorem visible_of_hiding {filter : Filter} {conventions : Conventions} {keys : StepKeys}
    {records : List Record} (active : filter.Active) (hides : filter.hideNonMatches = true) :
    (filter.view conventions keys records).visible =
      (filter.view conventions keys records).textMatched := by
  rw [visible_view, textMatched_view]
  apply List.filter_congr
  intro entry _
  rw [Bool.eq_iff_iff, shows_iff, picks_iff]
  simp only [active, hides, Match, true_implies, true_and]

/-- Without an active query, or with one that hides nothing, all survivors are in view. -/
theorem mem_positions_visible_of_open {filter : Filter} {conventions : Conventions}
    {keys : StepKeys} {records : List Record} {position : Nat}
    (shown : filter.Active → filter.hideNonMatches = false) :
    position ∈ positions (filter.view conventions keys records).visible ↔
      HoldsAt records (filter.Survivor conventions) position := by
  have unhidden : ¬(filter.Active ∧ filter.hideNonMatches = true) := by
    rintro ⟨active, hides⟩
    rw [shown active] at hides
    cases hides
  rw [mem_positions_visible]
  simp only [← and_imp, unhidden, false_implies, and_true]

/-- A view shows positions of the log in rising order, each with the record that stands there.
    Without an active query it shows the survivors and takes none for a match; with one it takes
    the survivors that meet every term for matches, and shows these alone or all survivors. -/
theorem view_selects (filter : Filter) (conventions : Conventions) (keys : StepKeys)
    (records : List Record) :
    let view := filter.view conventions keys records
    (∀ entry, entry ∈ view.visible ∨ entry ∈ view.textMatched →
      records[entry.position]? = some entry.record) ∧
    (positions view.visible).Pairwise (· < ·) ∧ (positions view.textMatched).Pairwise (· < ·) ∧
    (¬filter.Active →
      view.textMatched = [] ∧
      ∀ position, position ∈ positions view.visible ↔
        HoldsAt records (filter.Survivor conventions) position) ∧
    (filter.Active →
      (∀ position, position ∈ positions view.textMatched ↔
        HoldsAt records (filter.Match conventions keys) position) ∧
      (filter.hideNonMatches = true → view.visible = view.textMatched) ∧
      (filter.hideNonMatches = false →
        ∀ position, position ∈ positions view.visible ↔
          HoldsAt records (filter.Survivor conventions) position)) := by
  refine ⟨?_, ?_, ?_, ?_, ?_⟩
  · intro entry chosen
    exact mem_entries.mp (mem_entries_of_mem_view chosen)
  · rw [visible_view]
    exact positions_rise List.filter_sublist
  · rw [textMatched_view]
    exact positions_rise List.filter_sublist
  · intro inactive
    refine ⟨textMatched_of_inactive inactive, fun position => ?_⟩
    exact mem_positions_visible_of_open fun active => absurd active inactive
  · intro active
    refine ⟨fun position => ?_, visible_of_hiding active, fun shown position => ?_⟩
    · rw [mem_positions_textMatched]
      exact and_iff_right active
    · exact mem_positions_visible_of_open fun _ => shown

end Filter

end EventLog
