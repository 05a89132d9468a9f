import EventLog.Text.Blank
import EventLog.Text.LowerCase

/-!
# Severity levels

The six levels of a record. `event` is the level of every structured record; the other five occur
on plain log messages. A level is written by its upper-case name and read in any case.
-/

namespace EventLog

inductive Level where
  | debug
  | info
  | warning
  | error
  | critical
  | event
deriving DecidableEq, Repr

namespace Level

def all : List Level := [debug, info, warning, error, critical, event]

theorem mem_all (level : Level) : level ∈ all := by
  cases level <;> decide

def name : Level → String
  | debug => "DEBUG"
  | info => "INFO"
  | warning => "WARNING"
  | error => "ERROR"
  | critical => "CRITICAL"
  | event => "EVENT"

/-- The level of an upper-case name, spelled exactly. -/
def ofName? (name : String) : Option Level := all.find? (·.name == name)

/-- The level that a text names, whatever its case and the blanks around it. -/
def parse? (text : String) : Option Level :=
  match String.ofList (Text.lower (Text.trim text.toList)) with
  | "debug" => some debug
  | "info" => some info
  | "warning" => some warning
  | "warn" => some warning
  | "error" => some error
  | "critical" => some critical
  | "event" => some event
  | _ => none

theorem parse?_name (level : Level) : parse? level.name = some level := by
  cases level <;> decide +kernel

end Level

/-- What is switched on for each level. A level without an entry counts as off. -/
abbrev LevelMap := Level → Option Bool

namespace LevelMap

/-- Equal maps have equal entries at the six levels. -/
theorem eq_iff {a b : LevelMap} : a = b ↔ ∀ level ∈ Level.all, a level = b level := by
  constructor
  · rintro rfl level _
    rfl
  · intro entries
    funext level
    exact entries level (Level.mem_all level)

instance : DecidableEq LevelMap := fun _ _ => decidable_of_iff _ eq_iff.symm

def every (enabled : Bool) : LevelMap := fun _ => some enabled

def set (map : LevelMap) (level : Level) (entry : Option Bool) : LevelMap :=
  fun other => if other = level then entry else map other

/-- The map that switches on the listed levels and no others. -/
def only (levels : List Level) : LevelMap :=
  levels.foldl (fun map level => map.set level (some true)) (every false)

def enabled (map : LevelMap) (level : Level) : Bool := (map level).getD false

theorem enabled_iff {map : LevelMap} {level : Level} :
    map.enabled level = true ↔ map level = some true := by
  unfold enabled
  rcases map level with _ | _ | _ <;> simp

end LevelMap

end EventLog
