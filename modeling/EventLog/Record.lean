import EventLog.Level

/-!
# Records

One record of a run's event log: what happened, when, in which step, and with which text. The
kinds of events that a run is known to emit have names of their own; any other type name is kept
as it is. Two kinds only announce what a run plans to do, and are never shown.
-/

namespace EventLog

/-- The category of a record. -/
inductive Kind where
  | logMessage
  | runStart
  | runSuccess
  | runFailure
  | stepStart
  | stepSuccess
  | stepFailure
  | materialization
  | observation
  | checkEvaluation
  | materializationPlanned
  | checkEvaluationPlanned
  | other (typeName : String)
deriving DecidableEq, Repr

namespace Kind

/-- The kind that a type name stands for. Plain log messages have two type names. -/
def ofTypeName : String → Kind
  | "LogMessageEvent" => logMessage
  | "Log" => logMessage
  | "RunStartEvent" => runStart
  | "RunSuccessEvent" => runSuccess
  | "RunFailureEvent" => runFailure
  | "ExecutionStepStartEvent" => stepStart
  | "ExecutionStepSuccessEvent" => stepSuccess
  | "ExecutionStepFailureEvent" => stepFailure
  | "MaterializationEvent" => materialization
  | "ObservationEvent" => observation
  | "AssetCheckEvaluationEvent" => checkEvaluation
  | "AssetMaterializationPlannedEvent" => materializationPlanned
  | "AssetCheckEvaluationPlannedEvent" => checkEvaluationPlanned
  | typeName => other typeName

def typeName : Kind → String
  | logMessage => "LogMessageEvent"
  | runStart => "RunStartEvent"
  | runSuccess => "RunSuccessEvent"
  | runFailure => "RunFailureEvent"
  | stepStart => "ExecutionStepStartEvent"
  | stepSuccess => "ExecutionStepSuccessEvent"
  | stepFailure => "ExecutionStepFailureEvent"
  | materialization => "MaterializationEvent"
  | observation => "ObservationEvent"
  | checkEvaluation => "AssetCheckEvaluationEvent"
  | materializationPlanned => "AssetMaterializationPlannedEvent"
  | checkEvaluationPlanned => "AssetCheckEvaluationPlannedEvent"
  | other typeName => typeName

theorem ofTypeName_typeName (typeName : String) :
    ofTypeName (ofTypeName typeName).typeName = ofTypeName typeName := by
  cases known : ofTypeName typeName with
  | other name =>
      have same : name = typeName := by
        unfold ofTypeName at known
        split at known <;> cases known
        rfl
      subst same
      exact known
  | _ => rfl

/-- Says whether a kind only announces what a run plans to do. -/
def isPlanning : Kind → Bool
  | materializationPlanned => true
  | checkEvaluationPlanned => true
  | _ => false

end Kind

structure Record where
  kind : Kind
  /-- When the record was emitted, in milliseconds. -/
  timestamp : Int64
  /-- The step that emitted the record. A record of the whole run has none. -/
  stepKey : Option String := none
  /-- The type of a structured event. -/
  eventType : Option String := none
  message : String := ""
  /-- The severity that a log message states itself. -/
  level : Option Level := none
deriving DecidableEq

def Record.isPlanning (record : Record) : Bool := record.kind.isPlanning

/-! ## Conventions -/

/-- How records are ranked and how event types are named to the user. -/
structure Conventions where
  levelOf : Record → Level
  displayName : String → String

namespace Conventions

/-- A log message has the level that it states, or `info`. Any other record is an event. -/
def standardLevel (record : Record) : Level :=
  match record.kind with
  | .logMessage => record.level.getD .info
  | _ => .event

/-- Asset events are shown by shorter names, all others by their own. -/
def standardName : String → String
  | "ASSET_MATERIALIZATION" => "MATERIALIZATION"
  | "ASSET_OBSERVATION" => "OBSERVATION"
  | "STEP_EXPECTATION_RESULT" => "EXPECTATION"
  | "ASSET_CHECK_EVALUATION" => "CHECK_EVALUATION"
  | eventType => eventType

/-- The conventions of the command line. -/
def standard : Conventions := ⟨standardLevel, standardName⟩

end Conventions

end EventLog
