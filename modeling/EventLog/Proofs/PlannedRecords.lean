import EventLog.Proofs.PrintedRows
import EventLog.Proofs.RunStages
import EventLog.Session

/-!
# Planned records

Records that only announce what a run plans to do leave no trace in anything that is shown. Views,
tallies and printed lines are the same with and without them (`filter_shows_unplanned`,
`ofRecords_unplanned`, `report_unplanned`), so two logs that differ in nothing else cannot be told
apart (`indistinguishable_of_unplanned_eq`).
-/

namespace EventLog

def Record.Planned (record : Record) : Prop :=
  record.kind = .materializationPlanned ∨ record.kind = .checkEvaluationPlanned

instance (record : Record) : Decidable record.Planned := inferInstanceAs (Decidable (_ ∨ _))

theorem Record.isPlanning_iff {record : Record} : record.isPlanning = true ↔ record.Planned :=
  Kind.isPlanning_iff

def unplanned (records : List Record) : List Record :=
  records.filter fun record => ¬record.Planned

/-- A test that no planned record passes picks the same records of a log without these. -/
theorem filter_unplanned {test : Record → Bool}
    (strict : ∀ record, test record = true → ¬record.Planned) (records : List Record) :
    (unplanned records).filter test = records.filter test := by
  rw [unplanned, List.filter_filter]
  refine List.filter_congr fun record _ => ?_
  rw [Bool.eq_iff_iff, Bool.and_eq_true, decide_eq_true_iff]
  exact and_iff_left_of_imp (strict record)

variable (conventions : Conventions) (keys : StepKeys) (records : List Record)

/-! ## Views -/

namespace Filter

variable (filter : Filter)

theorem filter_shows_unplanned :
    (unplanned records).filter (filter.shows conventions keys) =
      records.filter (filter.shows conventions keys) :=
  filter_unplanned (fun _ shown => (shows_iff.mp shown).1.unplanned) records

theorem filter_picks_unplanned :
    (unplanned records).filter (filter.picks conventions keys) =
      records.filter (filter.picks conventions keys) :=
  filter_unplanned (fun _ picked => (picks_iff.mp picked).2.1.unplanned) records

end Filter

theorem Layout.print_unplanned (layout : Layout) (filter : Filter) :
    layout.print (filter.view conventions keys (unplanned records)) =
      layout.print (filter.view conventions keys records) := by
  rw [print_view, print_view, filter.filter_shows_unplanned]

/-! ## Tallies -/

/-- A tally counts the records that are not planned, one by one. -/
theorem Tally.ofRecords_eq_foldl :
    Tally.ofRecords conventions records =
      (unplanned records).foldl
        (fun tally record => tally.add (conventions.levelOf record)) zero := by
  unfold Tally.ofRecords unplanned
  rw [List.foldl_filter]
  congr 1
  funext tally record
  simp only [Record.isPlanning_iff]
  by_cases planned : record.Planned <;> simp [planned]

theorem Tally.ofRecords_unplanned :
    Tally.ofRecords conventions (unplanned records) = Tally.ofRecords conventions records := by
  have once : unplanned (unplanned records) = unplanned records :=
    filter_unplanned (fun _ kept => of_decide_eq_true kept) records
  rw [ofRecords_eq_foldl, once, ofRecords_eq_foldl]

/-! ## Reports -/

theorem Arguments.report_unplanned (arguments : Arguments) (settings : Settings) (zone : Int) :
    arguments.report settings zone (unplanned records) =
      arguments.report settings zone records := by
  unfold report view
  rw [Tally.ofRecords_unplanned, Layout.print_unplanned]

/-! ## Logs that differ in planned records -/

section

variable {records others : List Record} (same : unplanned records = unplanned others)

include same

theorem Tally.ofRecords_eq_of_unplanned_eq (conventions : Conventions) :
    Tally.ofRecords conventions records = Tally.ofRecords conventions others := by
  calc Tally.ofRecords conventions records
    _ = Tally.ofRecords conventions (unplanned records) := (ofRecords_unplanned ..).symm
    _ = Tally.ofRecords conventions (unplanned others) := by rw [same]
    _ = Tally.ofRecords conventions others := ofRecords_unplanned ..

namespace Arguments

variable {arguments : Arguments}

theorem report_eq_of_unplanned_eq (settings : Settings) (zone : Int) :
    arguments.report settings zone records = arguments.report settings zone others := by
  calc arguments.report settings zone records
    _ = arguments.report settings zone (unplanned records) := (report_unplanned ..).symm
    _ = arguments.report settings zone (unplanned others) := by rw [same]
    _ = arguments.report settings zone others := report_unplanned ..

theorem run_eq_of_unplanned_eq {files otherFiles : Files}
    (configured : arguments.settings files = arguments.settings otherFiles)
    (read : arguments.ReadsRecords files records)
    (readOther : arguments.ReadsRecords otherFiles others) (zone : Int) :
    arguments.run files zone = arguments.run otherFiles zone := by
  cases chosen : arguments.settings files with
  | error fault =>
      have fails : arguments.run files zone = .error fault :=
        run_eq_error_iff.mpr (.inl chosen)
      have failsToo : arguments.run otherFiles zone = .error fault :=
        run_eq_error_iff.mpr (.inl (configured ▸ chosen))
      rw [fails, failsToo]
  | ok settings =>
      have prints : arguments.run files zone = .ok (arguments.report settings zone records) :=
        run_eq_ok_iff.mpr ⟨settings, records, settings_eq_ok_iff.mp chosen, read, rfl⟩
      have printsToo :
          arguments.run otherFiles zone = .ok (arguments.report settings zone others) :=
        run_eq_ok_iff.mpr
          ⟨settings, others, settings_eq_ok_iff.mp (configured ▸ chosen), readOther, rfl⟩
      rw [prints, printsToo, report_eq_of_unplanned_eq same]

end Arguments

end

/-- Logs that are equal without their planned records cannot be told apart. A command line with the
    same settings makes the same outcome of both, buffers that hold them are tallied alike, and
    views of them hold the same records in the same order. -/
theorem indistinguishable_of_unplanned_eq {records others : List Record}
    (same : unplanned records = unplanned others) :
    (∀ (words : List String) (arguments : Arguments) (files otherFiles : Files) (zone : Int),
      Arguments.parse words = .ok arguments →
      arguments.settings files = arguments.settings otherFiles →
      arguments.ReadsRecords files records → arguments.ReadsRecords otherFiles others →
      process words files zone = process words otherFiles zone) ∧
    (∀ (conventions : Conventions) (session otherSession : Session) (handle otherHandle : String),
      (session.buffer handle).records = records →
      (otherSession.buffer otherHandle).records = others →
      (session.step conventions (.tally handle)).2 =
        (otherSession.step conventions (.tally otherHandle)).2) ∧
    ∀ (filter : Filter) (conventions : Conventions) (keys : StepKeys),
      (filter.view conventions keys records).visibleRecords =
        (filter.view conventions keys others).visibleRecords ∧
      (filter.view conventions keys records).matchedRecords =
        (filter.view conventions keys others).matchedRecords := by
  refine ⟨?_, ?_, ?_⟩
  · intro words arguments files otherFiles zone accepted configured read readOther
    rw [Arguments.process_of_accepted accepted, Arguments.process_of_accepted accepted,
      Arguments.run_eq_of_unplanned_eq same configured read readOther]
  · rintro conventions session otherSession handle otherHandle rfl rfl
    exact congrArg Answer.tally (Tally.ofRecords_eq_of_unplanned_eq same conventions)
  · intro filter conventions keys
    constructor
    · rw [Filter.visibleRecords_view, Filter.visibleRecords_view,
        ← filter.filter_shows_unplanned, same, filter.filter_shows_unplanned]
    · rw [Filter.matchedRecords_view, Filter.matchedRecords_view,
        ← filter.filter_picks_unplanned, same, filter.filter_picks_unplanned]

/-- One log announces a step that the other is silent about. -/
theorem indistinguishable_of_announcement :
    let ran : Record := { kind := .logMessage, timestamp := 1, message := "ran" }
    let announced : Record :=
      { kind := .materializationPlanned, timestamp := 2, stepKey := some "load", message := "ran" }
    let words := ["--counts", "--query", "ran", "run.log"]
    let line := "\x7b\"kind\":\"Log\",\"timestamp\":1,\"message\":\"ran\"\x7d"
    let announcement := "\x7b\"kind\":\"AssetMaterializationPlannedEvent\",\"timestamp\":2," ++
      "\"stepKey\":\"load\",\"message\":\"ran\"\x7d"
    let files := Files.ofReadings [("run.log", .ok (line ++ "\n" ++ announcement))]
    let otherFiles := Files.ofReadings [("run.log", .ok line)]
    let arguments : Arguments := { file := "run.log", query := "ran", counts := true }
    unplanned [ran, announced] = unplanned [ran] ∧
    Arguments.parse words = .ok arguments ∧
    arguments.settings files = arguments.settings otherFiles ∧
    arguments.ReadsRecords files [ran, announced] ∧ arguments.ReadsRecords otherFiles [ran] ∧
    process words files 0 = process words otherFiles 0 := by
  intro ran announced words line announcement files otherFiles arguments
  have same : unplanned [ran, announced] = unplanned [ran] := by decide
  have accepted : Arguments.parse words = .ok arguments := by decide +kernel
  have configured : arguments.settings files = arguments.settings otherFiles := by decide +kernel
  have read : arguments.ReadsRecords files [ran, announced] :=
    ⟨line ++ "\n" ++ announcement, by decide +kernel, by decide +kernel⟩
  have readOther : arguments.ReadsRecords otherFiles [ran] :=
    ⟨line, by decide +kernel, by decide +kernel⟩
  obtain ⟨outcomes, _⟩ := indistinguishable_of_unplanned_eq same
  exact ⟨same, accepted, configured, read, readOther,
    outcomes words arguments files otherFiles 0 accepted configured read readOther⟩

end EventLog
