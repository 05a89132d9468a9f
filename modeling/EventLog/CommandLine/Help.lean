import EventLog.CommandLine

/-!
# Help

What the program says about itself and about a command line that asks for no run.
-/

namespace EventLog

def programName : String := "runlog"

def versionText : String := programName ++ " 0.1.0\n"

def usageText : String := "Usage: " ++ programName ++ " [OPTIONS] <FILE>\n"

def helpText : String :=
  "Filter and print a run's event log\n\n" ++ usageText ++
  "\nArguments:\n" ++
  "  <FILE>  JSON-lines file with one event record per line\n" ++
  "\nOptions:\n" ++
  "  -q, --query <QUERY>              " ++
    "Query, e.g. `step:load_users type:MATERIALIZATION failed` [default: ]\n" ++
  "      --levels <LEVELS>            Show only these levels\n" ++
  "      --hide-levels <HIDE_LEVELS>  Hide these levels\n" ++
  "      --since <SINCE>              " ++
    "Drop records emitted before this time (ms since epoch)\n" ++
  "      --show-non-matches           " ++
    "Keep records that do not match the query, marking matches with `*`\n" ++
  "      --scope-step <STEP_KEY>      " ++
    "Step key considered relevant for `query:` terms (repeatable)\n" ++
  "      --config <CONFIG>            " ++
    "Config file (defaults to ./runlog.toml if present)\n" ++
  "      --counts                     Print per-level record counts before the records\n" ++
  "      --highlight                  Highlight text matches with ANSI colors\n" ++
  "  -h, --help                       Print help\n" ++
  "  -V, --version                    Print version\n"

/-- What is said about a fault of the command line, in words of this library. -/
def UsageFault.message : UsageFault → String
  | unknownWord word => "unexpected argument '" ++ word ++ "'"
  | noValue => "a value is required"
  | badValue reason => "invalid value: " ++ reason
  | needlessValue => "unexpected value"
  | repeated => "an option cannot be used several times"
  | noFile => "the file is missing"
  | help => helpText
  | version => versionText

end EventLog
