import EventLog.CommandLine.Help
import EventLog.Files
import EventLog.LogText
import EventLog.Printing
import EventLog.Report
import EventLog.Settings

/-!
# Runs

A run reads the settings, then the log, and then writes what the command line asks for, line by
line. It fails with the first thing that cannot be read, and what it has written by then is what it
leaves behind. `Arguments.report` is all that is written of a log.
-/

namespace EventLog

/-- The file that settings are taken from if there is one and the command line names no other. -/
def defaultSettingsFile : String := "runlog.toml"

inductive RunFault where
  | unreadableSettings (path : String) (fault : FileFault)
  | badSettings (path : String) (fault : SettingsFault)
  | unreadableLog (path : String) (fault : FileFault)
  | badLog (path : String) (fault : LogFault)
deriving DecidableEq

namespace RunFault

/-- What was being done, and what went wrong, the outermost first. -/
def chain : RunFault → List String
  | unreadableSettings path fault => ["reading config " ++ path, fault.message]
  | badSettings path fault => ["parsing config " ++ path, fault.message]
  | unreadableLog path fault => ["reading event log " ++ path, fault.message]
  | badLog path fault => ["parsing event log " ++ path, fault.message] ++ fault.cause?.toList

/-- The causes of a fault, one a line, numbered if there are several. -/
def causeLines (causes : List String) : String :=
  if causes.length = 1 then
    String.join (causes.map fun cause => "    " ++ cause ++ "\n")
  else
    String.join (causes.zipIdx.map fun (cause, number) =>
      "    " ++ toString number ++ ": " ++ cause ++ "\n")

/-- What is said about a failed run: everything on one line, then the causes apart. Of settings that
    cannot be parsed it gives the bare `SettingsFault.message`, which is less than what a TOML
    parser says: no line, no column, no excerpt, and one wording for all syntax errors. -/
def report (fault : RunFault) : String :=
  let chain := fault.chain
  let causes := chain.drop 1
  "Error: " ++ ": ".intercalate chain ++ "\n" ++
    "Error: " ++ chain.headD "" ++ "\n" ++
    (if causes.isEmpty then "" else "\nCaused by:\n" ++ causeLines causes)

end RunFault

namespace Arguments

def filter (arguments : Arguments) (settings : Settings) : Filter where
  levels :=
    let shown :=
      if arguments.levels.isEmpty then
        match settings.levels with
        | some levels => LevelMap.only levels
        | none => LevelMap.every true
      else
        LevelMap.only arguments.levels
    arguments.hideLevels.foldl (fun map level => map.set level (some false)) shown
  since := arguments.since
  query := parseQuery arguments.query
  hideNonMatches :=
    if arguments.showNonMatches then false else settings.hideNonMatches.getD true

def stepKeys (arguments : Arguments) (settings : Settings) : StepKeys :=
  settings.relevantStepKeys ++ arguments.scopeSteps

def highlighter (arguments : Arguments) (filter : Filter) : Highlighter :=
  if arguments.highlight then Highlighter.ofQuery filter.query else {}

/-- How the lines of a run are printed. The zone is that of local time. -/
def layout (arguments : Arguments) (settings : Settings) (zone : Int) : Layout :=
  let filter := arguments.filter settings
  { zone := if settings.localTime then zone else 0
    highlighter := arguments.highlighter filter
    marksMatches := filter.isActive && !filter.hideNonMatches }

/-- The part of a log that is printed. -/
def view (arguments : Arguments) (settings : Settings) (records : List Record) : View :=
  (arguments.filter settings).view .standard (arguments.stepKeys settings) records

/-- The report of a log: the counts, if they are wanted, with an empty line behind them, and the
    lines of what is visible. -/
def report (arguments : Arguments) (settings : Settings) (zone : Int) (records : List Record) :
    String :=
  let counts :=
    if arguments.counts then (Tally.ofRecords .standard records).print ++ "\n" else ""
  counts ++ (arguments.layout settings zone).print (arguments.view settings records)

/-- Writes the report of a log, line by line. -/
def writeReport (arguments : Arguments) (settings : Settings) (zone : Int)
    (records : List Record) : Printing RunFault Unit := do
  if arguments.counts then
    Printing.writeAll (Tally.ofRecords .standard records).lines
    Printing.write "\n"
  Printing.writeAll ((arguments.layout settings zone).lines (arguments.view settings records))

def readSettings (files : Files) (path : String) : Except RunFault Settings :=
  match files.read path with
  | .error fault => .error (.unreadableSettings path fault)
  | .ok text =>
      match Settings.parse text with
      | .error fault => .error (.badSettings path fault)
      | .ok settings => .ok settings

def settings (arguments : Arguments) (files : Files) : Except RunFault Settings :=
  match arguments.config with
  | some path => readSettings files path
  | none =>
      if files.isFile defaultSettingsFile then readSettings files defaultSettingsFile else .ok {}

def records (arguments : Arguments) (files : Files) : Except RunFault (List Record) :=
  match files.read arguments.file with
  | .error fault => .error (.unreadableLog arguments.file fault)
  | .ok text =>
      match parseRecords text with
      | .error fault => .error (.badLog arguments.file fault)
      | .ok records => .ok records

def paths (arguments : Arguments) : List String :=
  [arguments.config.getD defaultSettingsFile, arguments.file]

/-- Reads the settings and then the log, and writes its report. -/
def perform (arguments : Arguments) (files : Files) (zone : Int) : Printing RunFault Unit := do
  let settings ← arguments.settings files
  let records ← arguments.records files
  -- From here on nothing fails, so that no part of a report is ever left behind.
  arguments.writeReport settings zone records

/-- What a run has written in the end, if it does not fail. -/
def run (arguments : Arguments) (files : Files) (zone : Int) : Except RunFault String :=
  let (result, written) := (arguments.perform files zone).runAfter ""
  result.map fun _ => written

theorem settings_congr {arguments : Arguments} {files others : Files}
    (agree : files.AgreeOn arguments.paths others) :
    arguments.settings files = arguments.settings others := by
  have first : arguments.config.getD defaultSettingsFile ∈ arguments.paths := by
    simp [paths]
  obtain ⟨read, isFile⟩ := agree _ first
  unfold settings
  cases chosen : arguments.config with
  | some path =>
      rw [chosen, Option.getD_some] at read
      simp [readSettings, read]
  | none =>
      rw [chosen, Option.getD_none] at read isFile
      simp [readSettings, read, isFile]

theorem records_congr {arguments : Arguments} {files others : Files}
    (agree : files.AgreeOn arguments.paths others) :
    arguments.records files = arguments.records others := by
  have last : arguments.file ∈ arguments.paths := by
    simp [paths]
  obtain ⟨read, _⟩ := agree _ last
  simp [records, read]

/-- A run depends on nothing but what is at its paths. -/
theorem perform_congr {arguments : Arguments} {files others : Files}
    (agree : files.AgreeOn arguments.paths others) (zone : Int) :
    arguments.perform files zone = arguments.perform others zone := by
  unfold perform
  rw [settings_congr agree, records_congr agree]

end Arguments

structure Outcome where
  exitCode : UInt8
  output : String := ""
  errors : String := ""
deriving DecidableEq

/-- The outcome of a fault of the command line. Help and the version are no failures. -/
def UsageFault.outcome : UsageFault → Outcome
  | help => { exitCode := 0, output := helpText }
  | version => { exitCode := 0, output := versionText }
  | fault =>
      { exitCode := 2
        errors := "error: " ++ fault.message ++ "\n\n" ++ usageText ++
          "\nFor more information, try '--help'.\n" }

/-- The outcome of a whole process. Its output is all that the run has written, also where the run
    fails. -/
def process (words : List String) (files : Files) (zone : Int) : Outcome :=
  match Arguments.parse words with
  | .error fault => fault.outcome
  | .ok arguments =>
      match (arguments.perform files zone).runAfter "" with
      | (.ok (), output) => { exitCode := 0, output }
      | (.error fault, output) => { exitCode := 1, output, errors := fault.report }

end EventLog
