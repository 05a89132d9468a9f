import EventLog.Proofs.Selection
import Mathlib.Data.List.Basic

/-!
# Views of a view

To filter what a filter shows is to filter the log once, by a filter that joins the two
(`Filter.both`). Of each query only the terms count that a filter demands of every record in view
(`Filter.demands`), so that the joint query is active exactly if one of the two narrows the view
(`selective_both_iff`). Main result: `view_narrowed`.
-/

namespace EventLog

/-- The later of two time floors. One that is not set holds nothing back. -/
def laterFloor : Option Int64 → Option Int64 → Option Int64
  | some floor, some other => some (if floor ≤ other then other else floor)
  | some floor, none => some floor
  | none, other => other

theorem inTime_laterFloor_iff {floor other : Option Int64} {time : Int64} :
    (∀ since, laterFloor floor other = some since → since.toInt ≤ time.toInt) ↔
      (∀ since, floor = some since → since.toInt ≤ time.toInt) ∧
        ∀ since, other = some since → since.toInt ≤ time.toInt := by
  cases floor with
  | none => simp [laterFloor]
  | some floor =>
      cases other with
      | none => simp [laterFloor]
      | some other =>
          simp only [laterFloor, Option.some.injEq, forall_eq', Int64.le_iff_toInt_le]
          split <;> omega

namespace Filter

/-- What it takes for a query to narrow the view: it is active, and it hides what does not meet
    it. -/
def Selective (filter : Filter) : Prop := filter.Active ∧ filter.hideNonMatches = true

instance (filter : Filter) : Decidable filter.Selective := inferInstanceAs (Decidable (_ ∧ _))

/-- The terms that every record in view has to meet. -/
def demands (filter : Filter) : List Term := if filter.Selective then filter.query else []

/-- One filter for two. It switches on the levels that both switch on, and demands what either
    demands. -/
def both (first second : Filter) : Filter where
  levels := fun level => some (first.levels.enabled level && second.levels.enabled level)
  since := laterFloor first.since second.since
  query := first.demands ++ second.demands
  hideNonMatches := true

variable {filter first second : Filter} {conventions : Conventions} {keys : StepKeys}
  {record : Record}

/-! ## Demands -/

theorem shows_iff_demands :
    filter.shows conventions keys record = true ↔
      filter.Survivor conventions record ∧
        ∀ term ∈ filter.demands, term.Met conventions keys record := by
  rw [shows_iff]
  refine and_congr_right fun _ => ?_
  rw [demands]
  by_cases selective : filter.Selective
  · rw [if_pos selective, imp_iff_right selective.1, imp_iff_right selective.2]
  · rw [if_neg selective]
    exact iff_of_true (fun active hides => absurd ⟨active, hides⟩ selective)
      fun _ never => absurd never List.not_mem_nil

/-- Demands that are not empty begin with a term that has a value. -/
theorem demands_of_selective (selective : filter.Selective) :
    ∃ first others, filter.demands = first :: others ∧ first.value ≠ "" := by
  rw [demands, if_pos selective]
  exact selective.1

/-- The joint query is active exactly if one of the two narrows the view. -/
theorem selective_both_iff :
    (first.both second).Selective ↔ first.Selective ∨ second.Selective := by
  constructor
  · rintro ⟨⟨term, others, begun, _⟩, _⟩
    by_cases selective : first.Selective
    · exact .inl selective
    · by_cases alsoSelective : second.Selective
      · exact .inr alsoSelective
      · rw [both, demands, demands, if_neg selective, if_neg alsoSelective] at begun
        cases begun
  · intro either
    refine ⟨?_, rfl⟩
    by_cases selective : first.Selective
    · obtain ⟨term, others, begun, filled⟩ := demands_of_selective selective
      exact ⟨term, others ++ second.demands, by rw [both, begun, List.cons_append], filled⟩
    · obtain ⟨term, others, begun, filled⟩ :=
        demands_of_selective (either.resolve_left selective)
      exact ⟨term, others, by rw [both, begun, demands, if_neg selective, List.nil_append], filled⟩

theorem demands_both : (first.both second).demands = first.demands ++ second.demands := by
  by_cases either : (first.both second).Selective
  · rw [demands, if_pos either, both]
  · obtain ⟨idle, alsoIdle⟩ := not_or.mp (mt selective_both_iff.mpr either)
    rw [demands, demands, demands, if_neg either, if_neg idle, if_neg alsoIdle, List.append_nil]

/-! ## Records in both views -/

theorem survivor_both_iff :
    (first.both second).Survivor conventions record ↔
      first.Survivor conventions record ∧ second.Survivor conventions record := by
  have enabled : (first.both second).levels (conventions.levelOf record) = some true ↔
      first.levels (conventions.levelOf record) = some true ∧
        second.levels (conventions.levelOf record) = some true := by
    simp [both, LevelMap.enabled_iff]
  constructor
  · rintro ⟨unplanned, switched, time⟩
    obtain ⟨early, late⟩ := inTime_laterFloor_iff.mp time
    obtain ⟨one, other⟩ := enabled.mp switched
    exact ⟨⟨unplanned, one, early⟩, ⟨unplanned, other, late⟩⟩
  · rintro ⟨one, other⟩
    exact ⟨one.unplanned, enabled.mpr ⟨one.enabled, other.enabled⟩,
      inTime_laterFloor_iff.mpr ⟨one.inTime, other.inTime⟩⟩

/-- The filter for both shows what the second shows of what the first shows. -/
theorem shows_both :
    (first.both second).shows conventions keys = fun record =>
      second.shows conventions keys record && first.shows conventions keys record := by
  funext record
  rw [Bool.eq_iff_iff, Bool.and_eq_true]
  simp only [shows_iff_demands, survivor_both_iff, demands_both, List.forall_mem_append]
  exact and_and_and_comm.trans and_comm

end Filter

/-! ## Entries of a narrowed view -/

/-- The entries of a log that a filter shows of the visible records of a view, each traced back to
    its place in the log. -/
def View.narrow (view : View) (filter : Filter) (conventions : Conventions) (keys : StepKeys) :
    List Entry :=
  (filter.view conventions keys view.visibleRecords).visible.filterMap fun entry =>
    view.visible[entry.position]?

/-- Numbering chosen entries anew and picking some of them by their records picks these entries. -/
theorem filterMap_getElem?_entries (chosen : List Entry) (test : Record → Bool) :
    ((entries (chosen.map (·.record))).filter fun entry => test entry.record).filterMap
        (fun entry => chosen[entry.position]?) =
      chosen.filter fun entry => test entry.record := by
  have numbered : entries (chosen.map (·.record)) =
      chosen.zipIdx.map fun (entry, position) => ⟨position, entry.record⟩ := by
    rw [entries, List.zipIdx_map, List.map_map]
    rfl
  calc ((entries (chosen.map (·.record))).filter fun entry => test entry.record).filterMap
        (fun entry => chosen[entry.position]?)
    _ = (chosen.zipIdx.filter fun (entry, _) => test entry.record).filterMap
          fun (_, position) => chosen[position]? := by
      rw [numbered, List.filter_map, List.filterMap_map]
      rfl
    _ = (chosen.zipIdx.filter fun (entry, _) => test entry.record).filterMap
          fun (entry, _) => some entry := by
      refine List.filterMap_congr fun pair picked => ?_
      exact List.mem_zipIdx_iff_getElem?.mp (List.mem_of_mem_filter picked)
    _ = (chosen.zipIdx.map (·.1)).filter fun entry => test entry.record := by
      rw [List.filterMap_eq_map', List.filter_map]
      rfl
    _ = chosen.filter fun entry => test entry.record := by rw [List.zipIdx_map_fst]

namespace Filter

theorem filter_shows_both (first second : Filter) (conventions : Conventions) (keys : StepKeys)
    (records : List Record) :
    (records.filter (first.shows conventions keys)).filter (second.shows conventions keys) =
      records.filter ((first.both second).shows conventions keys) := by
  rw [List.filter_filter, shows_both]

theorem narrow_view (first second : Filter) (conventions : Conventions) (keys : StepKeys)
    (records : List Record) :
    (first.view conventions keys records).narrow second conventions keys =
      ((first.both second).view conventions keys records).visible := by
  rw [View.narrow, visible_view second, View.visibleRecords, filterMap_getElem?_entries,
    visible_view, visible_view, List.filter_filter, shows_both]

/-- Filtering the visible records of one filter by another leaves what the filter for both shows:
    the same records in the same order, and each from the same place in the log. Filtering by the
    same filter again leaves everything, and two filters may change places. -/
theorem view_narrowed (first second : Filter) (conventions : Conventions) (keys : StepKeys)
    (records : List Record) :
    let shown := (first.view conventions keys records).visibleRecords
    let otherShown := (second.view conventions keys records).visibleRecords
    (second.view conventions keys shown).visibleRecords =
      ((first.both second).view conventions keys records).visibleRecords ∧
    (first.view conventions keys records).narrow second conventions keys =
      ((first.both second).view conventions keys records).visible ∧
    (first.view conventions keys shown).visibleRecords = shown ∧
    (second.view conventions keys shown).visibleRecords =
      (first.view conventions keys otherShown).visibleRecords := by
  simp only [visibleRecords_view]
  refine ⟨filter_shows_both .., narrow_view .., ?_, ?_⟩
  · rw [List.filter_filter]
    simp only [Bool.and_self]
  · rw [List.filter_filter, List.filter_filter]
    simp only [Bool.and_comm]

/-- A query that is not active demands nothing, whatever stands behind its first term. -/
example :
    let idle : Filter := { query := [⟨.text, ""⟩, ⟨.text, "rows"⟩] }
    let lenient : Filter := { query := [⟨.text, "rows"⟩], hideNonMatches := false }
    let loading : Filter := { query := [⟨.step, "load"⟩, ⟨.text, ""⟩] }
    (idle.both loading).query = loading.query ∧ (loading.both lenient).query = loading.query := by
  decide

end Filter

end EventLog
