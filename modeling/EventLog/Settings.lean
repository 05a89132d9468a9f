import EventLog.Level
import EventLog.Number.Positional
import EventLog.Text.Quoted
import EventLog.Toml.Document

/-!
# Settings

The defaults that a user keeps in a file: the levels to show, whether an active query hides the
other records, the relevant steps, and whether times are local. The entries of the file are taken
in its order, and the first that does not fit is reported.
-/

namespace EventLog

open Toml (Value)

/-- The user's defaults. -/
structure Settings where
  /-- The levels that are shown, unless the command line names others. -/
  levels : Option (List Level) := none
  /-- Whether an active query hides the records that do not meet it. -/
  hideNonMatches : Option Bool := none
  relevantStepKeys : List String := []
  localTime : Bool := false
deriving DecidableEq

/-- The keys of a settings file. -/
inductive Setting where
  | levels
  | hideNonMatches
  | relevantStepKeys
  | localTime
deriving DecidableEq, Repr

namespace Setting

def all : List Setting := [levels, hideNonMatches, relevantStepKeys, localTime]

def key : Setting → String
  | levels => "levels"
  | hideNonMatches => "hide_non_matches"
  | relevantStepKeys => "relevant_step_keys"
  | localTime => "local_time"

def ofKey? (key : String) : Option Setting := all.find? (·.key == key)

end Setting

/-- The kind of value that a setting takes. -/
inductive Wanted where
  | boolean
  | list
  | string
deriving DecidableEq, Repr

def Wanted.describe : Wanted → String
  | boolean => "a boolean"
  | list => "a sequence"
  | string => "a string"

inductive SettingsFault where
  /-- The file is no TOML document. -/
  | unreadable
  | unknownKey (key : String)
  /-- The value is of another kind than the wanted one. -/
  | wrongKind (found : String) (wanted : Wanted)
  | unknownLevel (name : String)
  /-- A level is neither a string nor a table. -/
  | notLevel
  /-- A level is a table with no entry or with several. -/
  | emptyLevel
  | crowdedLevel
  /-- A level is a table whose entry is a table or list with contents, or no table at all. -/
  | filledTable
  | filledTables
  | notTable (found : String)
deriving DecidableEq

namespace SettingsFault

/-- Names between backquotes, with commas. -/
def listed (names : List String) : String :=
  ", ".intercalate (names.map fun name => "`" ++ name ++ "`")

/-- What is said about a fault. The place in the file and the excerpt that a TOML parser shows with
    it are left out, and its many syntax errors have one wording here, that of `unreadable`. -/
def message : SettingsFault → String
  | unreadable => "the text is no TOML document"
  | unknownKey key =>
      "unknown field `" ++ key ++ "`, expected one of " ++ listed (Setting.all.map Setting.key)
  | wrongKind found wanted => "invalid type: " ++ found ++ ", expected " ++ wanted.describe
  | unknownLevel name =>
      "unknown variant `" ++ name ++ "`, expected one of " ++ listed (Level.all.map Level.name)
  | notLevel => "wanted string or table"
  | emptyLevel => "wanted exactly 1 element, found 0 elements"
  | crowdedLevel => "wanted exactly 1 element, more than 1 element"
  | filledTable => "expected empty table"
  | filledTables => "expected empty array"
  | notTable found => "expected table, found " ++ found

end SettingsFault

/-! ## Values -/

def Toml.Value.describe : Value → String
  | .text value => "string " ++ Text.quote value
  | .integer value => "integer `" ++ toString value.toInt ++ "`"
  | .real value => "floating point `" ++ Number.RealFormat.plainReal.render value ++ "`"
  | .boolean value => if value then "boolean `true`" else "boolean `false`"
  | .moment => "map"
  | .list _ => "sequence"
  | .table _ _ => "map"
  | .tables _ => "sequence"

namespace Settings

/-- Refuses a value of another kind than the wanted one. -/
def refuse {α : Type} (value : Value) (wanted : Wanted) : Except SettingsFault α :=
  .error (.wrongKind value.describe wanted)

def readBoolean : Value → Except SettingsFault Bool
  | .boolean value => .ok value
  | value => refuse value .boolean

def readString : Value → Except SettingsFault String
  | .text value => .ok value
  | value => refuse value .string

/-- Reads a list. The tables of a header in double brackets are one. -/
def readList {α : Type} (readItem : Value → Except SettingsFault α) :
    Value → Except SettingsFault (List α)
  | .list items => items.mapM readItem
  | .tables items => items.mapM readItem
  | value => refuse value .list

def readLevelName (name : String) : Except SettingsFault Level :=
  match Level.ofName? name with
  | some level => .ok level
  | none => .error (.unknownLevel name)

/-- Checks that nothing is said about a level. -/
def checkEmpty : Value → Except SettingsFault Unit
  | .tables items => if items.isEmpty then .ok () else .error .filledTables
  | .list items => if items.isEmpty then .ok () else .error .filledTable
  | .table _ entries => if entries.isEmpty then .ok () else .error .filledTable
  | .text _ => .error (.notTable "string")
  | .integer _ => .error (.notTable "integer")
  | .real _ => .error (.notTable "float")
  | .boolean _ => .error (.notTable "boolean")
  | .moment => .error (.notTable "datetime")

/-- Reads a level, which is its name, or a table with its name as the only key. -/
def readLevel : Value → Except SettingsFault Level
  | .text name => readLevelName name
  | .table _ [] => .error .emptyLevel
  | .table _ [(name, value)] =>
      match readLevelName name with
      | .error fault => .error fault
      | .ok level => (checkEmpty value).map fun _ => level
  | .table _ _ => .error .crowdedLevel
  | _ => .error .notLevel

/-- Takes one entry into the settings. -/
def take (settings : Settings) (key : String) (value : Value) : Except SettingsFault Settings :=
  match Setting.ofKey? key with
  | none => .error (.unknownKey key)
  | some .levels =>
      (readList readLevel value).map fun levels => { settings with levels := some levels }
  | some .hideNonMatches =>
      (readBoolean value).map fun hide => { settings with hideNonMatches := some hide }
  | some .relevantStepKeys =>
      (readList readString value).map fun keys => { settings with relevantStepKeys := keys }
  | some .localTime => (readBoolean value).map fun isLocal => { settings with localTime := isLocal }

def parse (text : String) : Except SettingsFault Settings :=
  match Toml.parse? text.toList with
  | none => .error .unreadable
  | some entries =>
      entries.foldlM (fun settings (key, value) => settings.take key value) {}

end Settings

end EventLog
