import EventLog.Level
import EventLog.Number.Decimal

/-!
# The command line

The words of a command line name one file and any number of options. An option that takes a value
has it in the same word, or the next word is its value unless it begins like an option. A value is
only read when the next option or the end of the line shows that nothing more belongs to it, so of
several mistakes the one that is met first in this order is reported. After a bare double hyphen
every word is a file.
-/

namespace EventLog

/-- What the command line asks for. -/
structure Arguments where
  file : String
  query : String := ""
  levels : List Level := []
  hideLevels : List Level := []
  since : Option Int64 := none
  showNonMatches : Bool := false
  scopeSteps : List String := []
  config : Option String := none
  counts : Bool := false
  highlight : Bool := false
deriving DecidableEq

/-- Why a command line asks for no run. Asking for help or for the version is among the reasons. -/
inductive UsageFault where
  | unknownWord (word : String)
  /-- A value is missing, or empty where it must not be. -/
  | noValue
  /-- A value cannot be read. -/
  | badValue (reason : String)
  /-- A flag was given a value. -/
  | needlessValue
  /-- An option was given twice that may be given once. -/
  | repeated
  | noFile
  | help
  | version
deriving DecidableEq, Repr

namespace CommandLine

/-- What takes a value. -/
inductive Slot where
  | file
  | query
  | levels
  | hideLevels
  | since
  | scopeStep
  | config
deriving DecidableEq, Repr

/-- What takes no value. -/
inductive Flag where
  | showNonMatches
  | counts
  | highlight
  | help
  | version
deriving DecidableEq, Repr

/-- What an option stands for. -/
inductive Switch where
  | slot (slot : Slot)
  | flag (flag : Flag)
deriving DecidableEq, Repr

/-- The option of a long name, spelled in full. -/
def ofLong? : String → Option Switch
  | "query" => some (.slot .query)
  | "levels" => some (.slot .levels)
  | "hide-levels" => some (.slot .hideLevels)
  | "since" => some (.slot .since)
  | "scope-step" => some (.slot .scopeStep)
  | "config" => some (.slot .config)
  | "show-non-matches" => some (.flag .showNonMatches)
  | "counts" => some (.flag .counts)
  | "highlight" => some (.flag .highlight)
  | "help" => some (.flag .help)
  | "version" => some (.flag .version)
  | _ => none

def ofShort? : Char → Option Switch
  | 'q' => some (.slot .query)
  | 'h' => some (.flag .help)
  | 'V' => some (.flag .version)
  | _ => none

/-- The values that were read so far. -/
structure Values where
  file : Option String := none
  query : Option String := none
  levels : List Level := []
  hideLevels : List Level := []
  since : Option Int64 := none
  scopeSteps : List String := []
  config : Option String := none
  showNonMatches : Bool := false
  counts : Bool := false
  highlight : Bool := false

def readLevel (name : List Char) : Except UsageFault Level :=
  match Level.parse? (String.ofList name) with
  | some level => .ok level
  | none => .error (.badValue ("unknown level '" ++ String.ofList name ++ "'"))

/-- Reads levels between commas. -/
def readLevels (text : String) : Except UsageFault (List Level) :=
  (text.toList.splitOn ',').mapM readLevel

namespace Values

def put (values : Values) (slot : Slot) (value : String) : Except UsageFault Values :=
  match slot with
  | .file =>
      if values.file.isSome then .error .repeated
      else if value.isEmpty then .error .noValue
      else .ok { values with file := some value }
  | .query =>
      if values.query.isSome then .error .repeated
      else .ok { values with query := some value }
  | .levels =>
      (readLevels value).map fun levels => { values with levels := values.levels ++ levels }
  | .hideLevels =>
      (readLevels value).map fun levels =>
        { values with hideLevels := values.hideLevels ++ levels }
  | .since =>
      if values.since.isSome then .error .repeated
      else
        match Number.readInt64 value.toList with
        | .ok since => .ok { values with since := some since }
        | .error fault => .error (.badValue fault.message)
  | .scopeStep => .ok { values with scopeSteps := values.scopeSteps ++ [value] }
  | .config =>
      if values.config.isSome then .error .repeated
      else if value.isEmpty then .error .noValue
      else .ok { values with config := some value }

def raise (values : Values) : Flag → Except UsageFault Values
  | .showNonMatches =>
      if values.showNonMatches then .error .repeated
      else .ok { values with showNonMatches := true }
  | .counts =>
      if values.counts then .error .repeated else .ok { values with counts := true }
  | .highlight =>
      if values.highlight then .error .repeated else .ok { values with highlight := true }
  | .help => .error .help
  | .version => .error .version

/-- What the values ask for. A file must be among them. -/
def arguments (values : Values) : Except UsageFault Arguments :=
  match values.file with
  | none => .error .noFile
  | some file =>
      .ok {
        file
        query := values.query.getD ""
        levels := values.levels
        hideLevels := values.hideLevels
        since := values.since
        showNonMatches := values.showNonMatches
        scopeSteps := values.scopeSteps
        config := values.config
        counts := values.counts
        highlight := values.highlight }

end Values

/-- A slot whose value has not been read, and the value if there was a word for it. -/
structure Pending where
  slot : Slot
  value : Option String

/-- Where a reader of words stands. -/
structure State where
  values : Values := {}
  pending : Option Pending := none

namespace State

/-- Reads the value that is pending. -/
def settle (state : State) : Except UsageFault Values :=
  match state.pending with
  | none => .ok state.values
  | some ⟨_, none⟩ => .error .noValue
  | some ⟨slot, some value⟩ => state.values.put slot value

def hasFile (state : State) : Bool :=
  state.values.file.isSome || state.pending.any (·.slot = .file)

def takeFile (state : State) (word : String) : Except UsageFault State :=
  if state.hasFile then
    .error (.unknownWord word)
  else
    state.settle.map fun values => ⟨values, some ⟨.file, some word⟩⟩

/-- Takes an option, with its value if it stands in the same word. -/
def takeOption (state : State) (option : Switch) (value : Option String) :
    Except UsageFault State :=
  match option, value with
  | .flag _, some _ => .error .needlessValue
  | .flag flag, none => do
      let values ← (← state.settle).raise flag
      return ⟨values, none⟩
  | .slot slot, some value => do
      let values ← (← state.settle).put slot value
      return ⟨values, none⟩
  | .slot slot, none => state.settle.map fun values => ⟨values, some ⟨slot, none⟩⟩

/-- Takes a word that begins with two hyphens. Its value stands after an equals sign. -/
def takeLong (state : State) (word : String) (text : List Char) : Except UsageFault State :=
  let name := text.takeWhile (· != '=')
  let value :=
    match text.dropWhile (· != '=') with
    | [] => none
    | _ :: value => some (String.ofList value)
  match ofLong? (String.ofList name) with
  | none => .error (.unknownWord word)
  | some option => state.takeOption option value

/-- Takes a word that begins with one hyphen. The value stands right after the letter, or after an
    equals sign. -/
def takeShort (state : State) (word : String) (letter : Char) (text : List Char) :
    Except UsageFault State :=
  match ofShort? letter with
  | none => .error (.unknownWord word)
  | some (.flag flag) => state.takeOption (.flag flag) none
  | some (.slot slot) =>
      match text with
      | [] => state.takeOption (.slot slot) none
      | '=' :: value => state.takeOption (.slot slot) (some (String.ofList value))
      | value => state.takeOption (.slot slot) (some (String.ofList value))

/-- Takes a word that begins like no option. -/
def takePlain (state : State) (word : String) : Except UsageFault State :=
  match state.pending with
  | some ⟨slot, none⟩ => .ok { state with pending := some ⟨slot, some word⟩ }
  | _ => state.takeFile word

/-- Takes a word before any bare double hyphen. -/
def take (state : State) (word : String) : Except UsageFault State :=
  match word.toList with
  | '-' :: '-' :: text => state.takeLong word text
  | '-' :: letter :: text => state.takeShort word letter text
  | _ => state.takePlain word

end State

def readWords (state : State) : List String → Except UsageFault Arguments
  | [] => do (← state.settle).arguments
  | word :: words =>
      if word = "--" then do
        -- All that follows are files, whatever it begins with.
        let state ← words.foldlM State.takeFile state
        (← state.settle).arguments
      else do
        readWords (← state.take word) words

end CommandLine

/-- Reads a command line, the name of the program apart. -/
def Arguments.parse (words : List String) : Except UsageFault Arguments :=
  CommandLine.readWords {} words

end EventLog
