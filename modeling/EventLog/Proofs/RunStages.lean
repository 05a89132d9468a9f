import EventLog.Proofs.Selection
import EventLog.Run
import Mathlib.Data.List.Basic

/-!
# Stages of a run

A run reads its settings, reads the text of its log and parses it. What can stop it at each of these
stages is stated on its own (`Obstacle`), and so is what it has read when nothing does. A run fails
exactly if there is an obstacle, with the first in the order of the stages, and then no write has
come before it (`perform_faultsFirst`); otherwise it prints the report of the whole log
(`prints_all_or_nothing`).
-/

namespace EventLog

/-! ## Reading and parsing -/

/-- Parses a text that is to be read first. Both have faults of their own. -/
def readAs {α β γ δ : Type} (text : Except α String) (parse : String → Except β γ)
    (unreadable : α → δ) (bad : β → δ) : Except δ γ :=
  (text.mapError unreadable).bind fun content => (parse content).mapError bad

section

variable {α β γ δ : Type} {text : Except α String} {parse : String → Except β γ}
  {unreadable : α → δ} {bad : β → δ}

theorem readAs_eq_ok_iff {value : γ} :
    readAs text parse unreadable bad = .ok value ↔
      ∃ content, text = .ok content ∧ parse content = .ok value := by
  cases text with
  | error cause => simp [readAs, Except.mapError, Except.bind]
  | ok content =>
      cases parsed : parse content <;> simp [readAs, Except.mapError, Except.bind, parsed]

theorem readAs_eq_error_iff {fault : δ} :
    readAs text parse unreadable bad = .error fault ↔
      (∃ cause, text = .error cause ∧ unreadable cause = fault) ∨
        ∃ content cause, text = .ok content ∧ parse content = .error cause ∧ bad cause = fault := by
  cases text with
  | error cause => simp [readAs, Except.mapError, Except.bind]
  | ok content =>
      cases parsed : parse content <;> simp [readAs, Except.mapError, Except.bind, parsed]

end

/-! ## Obstacles -/

inductive Stage where
  | settings
  | reading
  | parsing
deriving DecidableEq, Repr

/-- The place of a stage in the order in which a run goes through them. -/
def Stage.rank : Stage → Nat
  | settings => 0
  | reading => 1
  | parsing => 2

namespace Arguments

/-- The file that a run takes its settings from: the one that the command line names, or else the
    default one, if it is a regular file. -/
inductive TakesSettingsFrom (arguments : Arguments) (files : Files) : String → Prop
  | named {path : String} (named : arguments.config = some path) :
      TakesSettingsFrom arguments files path
  | default (unnamed : arguments.config = none)
      (present : files.isFile defaultSettingsFile = true) :
      TakesSettingsFrom arguments files defaultSettingsFile

/-- What can stop a run, whatever else may: the stage that it belongs to, and what is said about it,
    the outermost context first. -/
inductive Obstacle (arguments : Arguments) (files : Files) : Stage → List String → Prop
  | unreadableSettings {path : String} {fault : FileFault}
      (taken : arguments.TakesSettingsFrom files path) (refused : files.read path = .error fault) :
      Obstacle arguments files .settings ["reading config " ++ path, fault.message]
  | badSettings {path text : String} {fault : SettingsFault}
      (taken : arguments.TakesSettingsFrom files path) (read : files.read path = .ok text)
      (refused : Settings.parse text = .error fault) :
      Obstacle arguments files .settings ["parsing config " ++ path, fault.message]
  | unreadableLog {fault : FileFault} (refused : files.read arguments.file = .error fault) :
      Obstacle arguments files .reading ["reading event log " ++ arguments.file, fault.message]
  | badLog {text : String} {fault : LogFault} (read : files.read arguments.file = .ok text)
      (refused : parseRecords text = .error fault) :
      Obstacle arguments files .parsing
        (["parsing event log " ++ arguments.file, fault.message] ++ fault.cause?.toList)

/-- What the settings of a run are when nothing stops it: those of the file that it takes them from,
    or the standard ones where there is none. -/
inductive ReadsSettings (arguments : Arguments) (files : Files) : Settings → Prop
  | ofFile {path text : String} {settings : Settings}
      (taken : arguments.TakesSettingsFrom files path) (read : files.read path = .ok text)
      (parsed : Settings.parse text = .ok settings) : ReadsSettings arguments files settings
  | standard (untaken : ∀ path, ¬arguments.TakesSettingsFrom files path) :
      ReadsSettings arguments files {}

def ReadsRecords (arguments : Arguments) (files : Files) (records : List Record) : Prop :=
  ∃ text, files.read arguments.file = .ok text ∧ parseRecords text = .ok records

variable {arguments : Arguments} {files : Files}

/-! ## Settings -/

theorem readSettings_eq (path : String) :
    readSettings files path =
      readAs (files.read path) Settings.parse (.unreadableSettings path) (.badSettings path) := by
  unfold readSettings
  cases files.read path with
  | error cause => rfl
  | ok text =>
      simp only [readAs, Except.mapError, Except.bind]
      cases Settings.parse text <;> rfl

theorem settings_of_takes {path : String} (taken : arguments.TakesSettingsFrom files path) :
    arguments.settings files =
      readAs (files.read path) Settings.parse (.unreadableSettings path) (.badSettings path) := by
  rw [← readSettings_eq]
  cases taken with
  | named named => rw [settings, named]
  | default unnamed present => rw [settings, unnamed, if_pos present]

theorem settings_of_untaken (untaken : ∀ path, ¬arguments.TakesSettingsFrom files path) :
    arguments.settings files = .ok {} := by
  unfold settings
  cases named : arguments.config with
  | some path => exact absurd (.named named) (untaken path)
  | none => exact if_neg fun present => untaken _ (.default named present)

theorem settings_eq_ok_iff {settings : Settings} :
    arguments.settings files = .ok settings ↔ arguments.ReadsSettings files settings := by
  constructor
  · intro succeeds
    by_cases taken : ∃ path, arguments.TakesSettingsFrom files path
    · obtain ⟨path, taken⟩ := taken
      rw [settings_of_takes taken] at succeeds
      obtain ⟨text, read, parsed⟩ := readAs_eq_ok_iff.mp succeeds
      exact .ofFile taken read parsed
    · rw [not_exists] at taken
      rw [settings_of_untaken taken, Except.ok.injEq] at succeeds
      exact succeeds ▸ .standard taken
  · rintro (⟨taken, read, parsed⟩ | untaken)
    · rw [settings_of_takes taken]
      exact readAs_eq_ok_iff.mpr ⟨_, read, parsed⟩
    · exact settings_of_untaken untaken

theorem exists_settings_fault_iff {chain : List String} :
    (∃ fault, arguments.settings files = .error fault ∧ fault.chain = chain) ↔
      arguments.Obstacle files .settings chain := by
  constructor
  · rintro ⟨fault, fails, rfl⟩
    by_cases taken : ∃ path, arguments.TakesSettingsFrom files path
    · obtain ⟨path, taken⟩ := taken
      rw [settings_of_takes taken] at fails
      obtain ⟨cause, refused, rfl⟩ | ⟨text, cause, read, refused, rfl⟩ :=
        readAs_eq_error_iff.mp fails
      · exact .unreadableSettings taken refused
      · exact .badSettings taken read refused
    · rw [settings_of_untaken (not_exists.mp taken)] at fails
      cases fails
  · intro obstacle
    cases obstacle with
    | @unreadableSettings path cause taken refused =>
        refine ⟨.unreadableSettings path cause, ?_, rfl⟩
        rw [settings_of_takes taken]
        exact readAs_eq_error_iff.mpr (.inl ⟨cause, refused, rfl⟩)
    | @badSettings path text cause taken read refused =>
        refine ⟨.badSettings path cause, ?_, rfl⟩
        rw [settings_of_takes taken]
        exact readAs_eq_error_iff.mpr (.inr ⟨text, cause, read, refused, rfl⟩)

/-! ## Records -/

theorem records_eq :
    arguments.records files =
      readAs (files.read arguments.file) parseRecords (.unreadableLog arguments.file)
        (.badLog arguments.file) := by
  unfold records
  cases files.read arguments.file with
  | error cause => rfl
  | ok text =>
      simp only [readAs, Except.mapError, Except.bind]
      cases parseRecords text <;> rfl

theorem records_eq_ok_iff {records : List Record} :
    arguments.records files = .ok records ↔ arguments.ReadsRecords files records := by
  rw [records_eq]
  exact readAs_eq_ok_iff

theorem exists_records_fault_iff {chain : List String} :
    (∃ fault, arguments.records files = .error fault ∧ fault.chain = chain) ↔
      arguments.Obstacle files .reading chain ∨ arguments.Obstacle files .parsing chain := by
  rw [records_eq]
  constructor
  · rintro ⟨fault, fails, rfl⟩
    obtain ⟨cause, refused, rfl⟩ | ⟨text, cause, read, refused, rfl⟩ :=
      readAs_eq_error_iff.mp fails
    · exact .inl (.unreadableLog refused)
    · exact .inr (.badLog read refused)
  · rintro (obstacle | obstacle)
    · cases obstacle with
      | @unreadableLog cause refused =>
          exact ⟨.unreadableLog _ cause, readAs_eq_error_iff.mpr (.inl ⟨cause, refused, rfl⟩), rfl⟩
    · cases obstacle with
      | @badLog text cause read refused =>
          exact ⟨.badLog _ cause,
            readAs_eq_error_iff.mpr (.inr ⟨text, cause, read, refused, rfl⟩), rfl⟩

/-! ## Writes -/

/-- The writes of a report add up to it. -/
theorem runAfter_writeReport (settings : Settings) (zone : Int) (records : List Record)
    (written : String) :
    (arguments.writeReport settings zone records).runAfter written =
      (.ok (), written ++ arguments.report settings zone records) := by
  unfold writeReport report
  by_cases counted : arguments.counts = true
  · simp only [if_pos counted]
    rw [Printing.runAfter_bind_of_ok (Printing.runAfter_writeAll _ _),
      Printing.runAfter_bind_of_ok (Printing.runAfter_write _ _), Printing.runAfter_writeAll,
      Tally.print, Layout.print]
    simp only [String.append_assoc]
  · rw [if_neg counted, if_neg counted, String.empty_append]
    exact Printing.runAfter_writeAll _ written

/-- Whatever was written before a run, no write of its own comes before a failure. -/
theorem perform_faultsFirst (zone : Int) : (arguments.perform files zone).FaultsFirst := by
  refine .lift_bind _ fun settings => .lift_bind _ fun records => .of_succeeds fun written => ?_
  exact ⟨(), _, runAfter_writeReport settings zone records written⟩

/-! ## Runs -/

theorem run_eq (zone : Int) :
    arguments.run files zone = do
      let settings ← arguments.settings files
      let records ← arguments.records files
      return arguments.report settings zone records := by
  unfold run perform
  cases arguments.settings files with
  | error fault =>
      rw [Printing.runAfter_bind_of_error (Printing.runAfter_lift _ _)]
      rfl
  | ok settings =>
      rw [Printing.runAfter_bind_of_ok (Printing.runAfter_lift _ _)]
      cases arguments.records files with
      | error fault =>
          rw [Printing.runAfter_bind_of_error (Printing.runAfter_lift _ _)]
          rfl
      | ok records =>
          rw [Printing.runAfter_bind_of_ok (Printing.runAfter_lift _ _), runAfter_writeReport,
            String.empty_append]
          rfl

theorem process_of_accepted {words : List String} (accepted : Arguments.parse words = .ok arguments)
    (zone : Int) :
    process words files zone =
      match arguments.run files zone with
      | .ok output => { exitCode := 0, output }
      | .error fault => { exitCode := 1, errors := fault.report } := by
  simp only [process, run, accepted]
  -- What is left behind by a run that fails is what was there before it.
  cases ends : (arguments.perform files zone).runAfter "" with
  | mk result written =>
      cases result with
      | ok _ => rfl
      | error fault =>
          have unwritten : written = "" := perform_faultsFirst zone "" fault written ends
          rw [unwritten]
          rfl

theorem run_eq_error_iff {zone : Int} {fault : RunFault} :
    arguments.run files zone = .error fault ↔
      arguments.settings files = .error fault ∨
        (∃ settings, arguments.settings files = .ok settings) ∧
          arguments.records files = .error fault := by
  rw [run_eq]
  cases arguments.settings files with
  | error cause => simp [bind, Except.bind]
  | ok settings => cases arguments.records files <;> simp [bind, Except.bind, pure, Except.pure]

theorem run_eq_ok_iff {zone : Int} {output : String} :
    arguments.run files zone = .ok output ↔
      ∃ settings records, arguments.ReadsSettings files settings ∧
        arguments.ReadsRecords files records ∧
        arguments.report settings zone records = output := by
  simp only [← settings_eq_ok_iff, ← records_eq_ok_iff, run_eq]
  cases arguments.settings files with
  | error cause => simp [bind, Except.bind]
  | ok settings => cases arguments.records files <;> simp [bind, Except.bind, pure, Except.pure]

/-- Settings that were read are no obstacle. -/
theorem Obstacle.not_settings_of_ok {settings : Settings}
    (read : arguments.settings files = .ok settings) (chain : List String) :
    ¬arguments.Obstacle files .settings chain := by
  intro obstacle
  obtain ⟨fault, fails, _⟩ := exists_settings_fault_iff.mpr obstacle
  rw [read] at fails
  cases fails

/-- A log that cannot be read is not parsed. -/
theorem Obstacle.not_reading_of_parsing {chain others : List String}
    (parsing : arguments.Obstacle files .parsing chain) :
    ¬arguments.Obstacle files .reading others := by
  intro reading
  cases parsing with
  | badLog read _ =>
      cases reading with
      | unreadableLog refused =>
          rw [read] at refused
          cases refused

theorem exists_fault_iff {zone : Int} :
    (∃ fault, arguments.run files zone = .error fault) ↔
      ∃ stage chain, arguments.Obstacle files stage chain := by
  constructor
  · rintro ⟨fault, fails⟩
    obtain fails | ⟨_, fails⟩ := run_eq_error_iff.mp fails
    · exact ⟨.settings, _, exists_settings_fault_iff.mp ⟨fault, fails, rfl⟩⟩
    · obtain reading | parsing := exists_records_fault_iff.mp ⟨fault, fails, rfl⟩
      · exact ⟨.reading, _, reading⟩
      · exact ⟨.parsing, _, parsing⟩
  · rintro ⟨stage, chain, obstacle⟩
    cases read : arguments.settings files with
    | error fault => exact ⟨fault, run_eq_error_iff.mpr (.inl read)⟩
    | ok settings =>
        have later : arguments.Obstacle files .reading chain ∨
            arguments.Obstacle files .parsing chain := by
          cases stage with
          | settings => exact absurd obstacle (Obstacle.not_settings_of_ok read chain)
          | reading => exact .inl obstacle
          | parsing => exact .inr obstacle
        obtain ⟨fault, fails, _⟩ := exists_records_fault_iff.mpr later
        exact ⟨fault, run_eq_error_iff.mpr (.inr ⟨⟨settings, read⟩, fails⟩)⟩

/-- A run fails with an obstacle of the earliest stage that has one. -/
theorem first_obstacle_of_fault {zone : Int} {fault : RunFault}
    (fails : arguments.run files zone = .error fault) :
    ∃ stage, arguments.Obstacle files stage fault.chain ∧
      ∀ other others, arguments.Obstacle files other others → stage.rank ≤ other.rank := by
  obtain fails | ⟨⟨settings, read⟩, fails⟩ := run_eq_error_iff.mp fails
  · exact ⟨.settings, exists_settings_fault_iff.mp ⟨fault, fails, rfl⟩, fun _ _ _ => Nat.zero_le _⟩
  · have settled := Obstacle.not_settings_of_ok read
    obtain reading | parsing := exists_records_fault_iff.mp ⟨fault, fails, rfl⟩
    · refine ⟨.reading, reading, fun other others obstacle => ?_⟩
      cases other with
      | settings => exact absurd obstacle (settled others)
      | reading => exact Nat.le_refl 1
      | parsing => exact Nat.le_succ 1
    · refine ⟨.parsing, parsing, fun other others obstacle => ?_⟩
      cases other with
      | settings => exact absurd obstacle (settled others)
      | reading => exact absurd obstacle parsing.not_reading_of_parsing
      | parsing => exact Nat.le_refl 2

/-- How the lines of a run are laid out. Its matches are marked exactly if the query is active and
    hides nothing, and the words of the query are highlighted exactly if the command line asks for
    it. -/
def lineLayout (arguments : Arguments) (settings : Settings) (zone : Int) : Layout where
  zone := if settings.localTime then zone else 0
  highlighter :=
    if arguments.highlight then Highlighter.ofQuery (parseQuery arguments.query) else {}
  marksMatches :=
    decide ((arguments.filter settings).Active ∧
      (arguments.filter settings).hideNonMatches = false)

theorem layout_eq (arguments : Arguments) (settings : Settings) (zone : Int) :
    arguments.layout settings zone = arguments.lineLayout settings zone := by
  have marks : ((arguments.filter settings).isActive &&
      !(arguments.filter settings).hideNonMatches) =
        (arguments.lineLayout settings zone).marksMatches := by
    rw [Bool.eq_iff_iff, Bool.and_eq_true, Bool.not_eq_true', Filter.isActive_iff, lineLayout,
      decide_eq_true_iff]
  rw [layout, marks]
  rfl

/-- The report of a log, with the relevant steps as a set. -/
theorem report_eq (arguments : Arguments) (settings : Settings) (zone : Int)
    (records : List Record) {keys : StepKeys}
    (union : ∀ key, key ∈ keys ↔ key ∈ settings.relevantStepKeys ∨ key ∈ arguments.scopeSteps) :
    arguments.report settings zone records =
      (if arguments.counts then (Tally.ofRecords .standard records).print ++ "\n" else "") ++
        (arguments.lineLayout settings zone).print
          ((arguments.filter settings).view .standard keys records) := by
  have same : ∀ key, key ∈ arguments.stepKeys settings ↔ key ∈ keys := by
    intro key
    rw [union, stepKeys, List.mem_append]
  rw [report, layout_eq, view, (arguments.filter settings).view_congr .standard same records]

/-- A run prints everything or nothing. It fails exactly if there is an obstacle, and then says what
    the first one is, the outermost context first, and prints nothing. Otherwise it prints the
    counts of all records with an empty line behind them, if they are wanted, and the lines of the
    view that its filter makes of all records, where the relevant steps are those of the settings
    and those of the command line. What is said about settings that cannot be parsed is worded as
    `SettingsFault.message` has it, without their place in the file. -/
theorem prints_all_or_nothing {words : List String} {arguments : Arguments}
    (accepted : Arguments.parse words = .ok arguments) (files : Files) (zone : Int) :
    ((∃ fault, arguments.run files zone = .error fault) ↔
      ∃ stage chain, arguments.Obstacle files stage chain) ∧
    (∀ fault, arguments.run files zone = .error fault →
      (∃ stage, arguments.Obstacle files stage fault.chain ∧
        ∀ other others, arguments.Obstacle files other others → stage.rank ≤ other.rank) ∧
      process words files zone = { exitCode := 1, output := "", errors := fault.report }) ∧
    ∀ output, arguments.run files zone = .ok output →
      process words files zone = { exitCode := 0, output := output, errors := "" } ∧
      ∃ settings records, arguments.ReadsSettings files settings ∧
        arguments.ReadsRecords files records ∧
        ∀ keys : StepKeys,
          (∀ key, key ∈ keys ↔ key ∈ settings.relevantStepKeys ∨ key ∈ arguments.scopeSteps) →
          output =
            (if arguments.counts then (Tally.ofRecords .standard records).print ++ "\n" else "") ++
              (arguments.lineLayout settings zone).print
                ((arguments.filter settings).view .standard keys records) := by
  refine ⟨exists_fault_iff, fun fault fails => ⟨first_obstacle_of_fault fails, ?_⟩,
    fun output succeeds => ⟨?_, ?_⟩⟩
  · rw [process_of_accepted accepted, fails]
  · rw [process_of_accepted accepted, succeeds]
  · obtain ⟨settings, records, readsSettings, readsRecords, rfl⟩ := run_eq_ok_iff.mp succeeds
    exact ⟨settings, records, readsSettings, readsRecords, fun keys union =>
      report_eq arguments settings zone records union⟩

/-- Neither the settings nor the log can be read, and the settings come first. -/
theorem prints_all_or_nothing_of_two_obstacles :
    let arguments : Arguments := { file := "absent" }
    let files := Files.ofReadings [("runlog.toml", .ok "local_time = 1")]
    let chain :=
      ["parsing config runlog.toml", "invalid type: integer `1`, expected a boolean"]
    Arguments.parse ["absent"] = .ok arguments ∧
    arguments.Obstacle files .reading
      ["reading event log absent", "No such file or directory (os error 2)"] ∧
    (∃ stage, arguments.Obstacle files stage chain ∧
      ∀ other others, arguments.Obstacle files other others → stage.rank ≤ other.rank) ∧
    (process ["absent"] files 0).output = "" := by
  intro arguments files chain
  have accepted : Arguments.parse ["absent"] = .ok arguments := by decide +kernel
  have fails : arguments.run files 0 =
      .error (.badSettings "runlog.toml" (.wrongKind "integer `1`" .boolean)) := by decide +kernel
  have missing : files.read "absent" = .error .missing := by decide +kernel
  obtain ⟨_, failing, _⟩ := prints_all_or_nothing accepted files 0
  obtain ⟨first, outcome⟩ := failing _ fails
  have said : (RunFault.badSettings "runlog.toml" (.wrongKind "integer `1`" .boolean)).chain =
      chain := by decide +kernel
  exact ⟨accepted, @Obstacle.unreadableLog arguments files _ missing, said ▸ first, by rw [outcome]⟩

end Arguments

end EventLog
