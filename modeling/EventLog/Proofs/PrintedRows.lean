import EventLog.Proofs.Marks
import EventLog.Report

/-!
# Printed rows

What a layout prints of a log, record by record: the line of each record in view, with the marker
that says whether the query picks it out. Showing the records that a query does not pick out only
adds lines to those of the records that it does (`print_unhidden`).
-/

namespace EventLog

namespace Filter

variable {filter : Filter} {conventions : Conventions} {keys : StepKeys} {record : Record}

/-- Surviving is no matter of what the query hides. -/
theorem survivor_hiding_iff (hides : Bool) :
    { filter with hideNonMatches := hides }.Survivor conventions record ↔
      filter.Survivor conventions record := by
  rw [← survives_iff, ← survives_iff]
  rfl

/-- A query that hides nothing leaves all survivors in view. -/
theorem shows_unhidden_iff :
    { filter with hideNonMatches := false }.shows conventions keys record = true ↔
      filter.Survivor conventions record := by
  rw [shows_iff, survivor_hiding_iff]
  simp

/-- An active query that hides the other records leaves its matches in view. -/
theorem shows_hidden_iff (active : filter.Active) :
    { filter with hideNonMatches := true }.shows conventions keys record = true ↔
      filter.Match conventions keys record := by
  have still : { filter with hideNonMatches := true }.Active := active
  rw [shows_iff, survivor_hiding_iff, Match, imp_iff_right still, imp_iff_right rfl]

theorem picks_iff_of_survivor (active : filter.Active)
    (survivor : filter.Survivor conventions record) :
    filter.picks conventions keys record = true ↔
      ∀ term ∈ filter.query, term.Met conventions keys record := by
  rw [picks_iff, Match, and_iff_right active, and_iff_right survivor]

end Filter

namespace Layout

variable (conventions : Conventions) (keys : StepKeys) (records : List Record)

/-- The rows that are printed of a view, each with the record that it is about. -/
def rows (layout : Layout) (view : View) : List (Record × String) :=
  view.marked.map fun (entry, isMatch) =>
    (entry.record, layout.marker isMatch ++ layout.line entry.record)

theorem print_eq_rows (layout : Layout) (view : View) :
    layout.print view = String.join ((layout.rows view).map (·.2)) := by
  rw [print, lines, rows, List.map_map]
  rfl

theorem rows_view (layout : Layout) (filter : Filter) :
    layout.rows (filter.view conventions keys records) =
      (records.filter (filter.shows conventions keys)).map fun record =>
        (record, layout.marker (filter.picks conventions keys record) ++ layout.line record) := by
  rw [rows, Filter.marked_view, List.map_map, ← Filter.visibleRecords_view, View.visibleRecords,
    List.map_map]
  rfl

/-- A view is printed record by record. -/
theorem print_view (layout : Layout) (filter : Filter) :
    layout.print (filter.view conventions keys records) =
      String.join ((records.filter (filter.shows conventions keys)).map fun record =>
        layout.marker (filter.picks conventions keys record) ++ layout.line record) := by
  rw [print_eq_rows, rows_view, List.map_map]
  rfl

/-- With marks, the survivors of an active query that hides nothing are printed with an asterisk in
    front of those that meet every term. -/
theorem print_marked (layout : Layout) {filter : Filter} (active : filter.Active) :
    { layout with marksMatches := true }.print
        ({ filter with hideNonMatches := false }.view conventions keys records) =
      String.join ((records.filter fun record => filter.Survivor conventions record).map
        fun record =>
          (if ∀ term ∈ filter.query, term.Met conventions keys record then "* " else "  ") ++
            layout.line record) := by
  have shown : records.filter ({ filter with hideNonMatches := false }.shows conventions keys) =
      records.filter fun record => filter.Survivor conventions record := by
    refine List.filter_congr fun record _ => ?_
    rw [Bool.eq_iff_iff, Filter.shows_unhidden_iff, decide_eq_true_iff]
  rw [print_view, shown]
  congr 1
  refine List.map_congr_left fun record survived => ?_
  have survivor : filter.Survivor conventions record :=
    of_decide_eq_true (List.mem_filter.mp survived).2
  have meets : filter.picks conventions keys record = true ↔
      ∀ term ∈ filter.query, term.Met conventions keys record :=
    Filter.picks_iff_of_survivor active survivor
  simp only [← meets]
  rfl

/-- Without marks, an active query that hides the other records has only the lines of those
    survivors printed that meet every term. -/
theorem print_unmarked (layout : Layout) {filter : Filter} (active : filter.Active) :
    { layout with marksMatches := false }.print
        ({ filter with hideNonMatches := true }.view conventions keys records) =
      String.join
        (((records.filter fun record => filter.Survivor conventions record).filter fun record =>
          ∀ term ∈ filter.query, term.Met conventions keys record).map layout.line) := by
  have shown : records.filter ({ filter with hideNonMatches := true }.shows conventions keys) =
      (records.filter fun record => filter.Survivor conventions record).filter fun record =>
        ∀ term ∈ filter.query, term.Met conventions keys record := by
    rw [List.filter_filter]
    refine List.filter_congr fun record _ => ?_
    rw [Bool.eq_iff_iff, Filter.shows_hidden_iff active, Bool.and_eq_true, decide_eq_true_iff,
      decide_eq_true_iff, and_comm, Filter.Match]
  rw [print_view, shown]
  rfl

/-- Showing the records that an active query does not pick out only adds rows. The marked text has
    a row for each survivor, in the order of the log, with an asterisk in front of those that meet
    every term; the lines of the rows with an asterisk are the text of the matches alone. -/
theorem print_unhidden (layout : Layout) {filter : Filter} (active : filter.Active) :
    let survivors := records.filter fun record => filter.Survivor conventions record
    let rows := survivors.map fun record =>
      (if ∀ term ∈ filter.query, term.Met conventions keys record then "* " else "  ",
        layout.line record)
    { layout with marksMatches := true }.print
        ({ filter with hideNonMatches := false }.view conventions keys records) =
      String.join (rows.map fun (marker, line) => marker ++ line) ∧
    { layout with marksMatches := false }.print
        ({ filter with hideNonMatches := true }.view conventions keys records) =
      String.join ((rows.filter fun (marker, _) => marker = "* ").map fun (_, line) => line) := by
  intro survivors rows
  constructor
  · rw [print_marked conventions keys records layout active, List.map_map]
    rfl
  · have apart : "* " ≠ "  " := by decide
    rw [print_unmarked conventions keys records layout active, List.filter_map, List.map_map]
    simp only [Function.comp_def, apart.ite_eq_left_iff]
    rfl

/-- Of three records the middle one does not meet the query, and the others are equal. -/
theorem print_unhidden_of_equal_records :
    let same : Record := { kind := .logMessage, timestamp := 1, message := "Beta" }
    let records := [same, { same with message := "alpha" }, same]
    let filter : Filter := { query := [⟨.text, "beta"⟩] }
    let layout : Layout := {}
    filter.Active ∧
    { layout with marksMatches := true }.print
        ({ filter with hideNonMatches := false }.view .standard [] records) =
      "* 00:00:00.001 INFO     -                        Beta\n" ++
        "  00:00:00.001 INFO     -                        alpha\n" ++
        "* 00:00:00.001 INFO     -                        Beta\n" ∧
    { layout with marksMatches := false }.print
        ({ filter with hideNonMatches := true }.view .standard [] records) =
      "00:00:00.001 INFO     -                        Beta\n" ++
        "00:00:00.001 INFO     -                        Beta\n" := by
  intro same records filter layout
  have active : filter.Active := ⟨_, _, rfl, by decide⟩
  obtain ⟨marked, plain⟩ := print_unhidden .standard [] records layout active
  refine ⟨active, marked.trans ?_, plain.trans ?_⟩
  · decide +kernel
  · decide +kernel

end Layout

end EventLog
