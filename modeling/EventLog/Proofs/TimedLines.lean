import EventLog.Proofs.ListReading
import EventLog.Proofs.WholeTimes

/-!
# Whole numbers as the times of lines

A line that is a record stays one when another time is put in the place of its own, as long as that
stands for a time, and changes in nothing else (`Describes.retimed`). A whole number that is put
there gives the time that it is taken for, in an object as well as in a list
(`parseRecord_whole_time`).
-/

namespace EventLog

open Json (Datum Piece Space Value Padded Member)
open Number (signedBound)
open Text (AllBlank)

/-! ## Lines without their time -/

/-- A record as it is written, but for the value of its time. -/
inductive UntimedForm where
  | object (space : Space) (front : List Member) (beforeKey : Space) (key : List Piece)
      (named : Json.decode key = some "timestamp".toList) (beforeColon before after : Space)
      (back : List Member)
  | list (space : Space) (typeName : Padded) (before after : Space) (others : List Padded)

namespace UntimedForm

def fill : UntimedForm → Value → Value
  | object space front beforeKey key _ beforeColon before after back, value =>
      .object ⟨space, front ++ ⟨beforeKey, key, beforeColon, ⟨before, value, after⟩⟩ :: back⟩
  | list space typeName before after others, value =>
      .list space (typeName :: ⟨before, value, after⟩ :: others)

/-- What is said before the time and after it. -/
def around? : UntimedForm → Option (List (String × Datum) × List (String × Datum))
  | object _ front _ _ _ _ _ _ back =>
      (front.mapM Member.entry?).bind fun first =>
        (back.mapM Member.entry?).map fun last => (first, last)
  | list _ typeName _ _ others =>
      if others.length = 4 then
        some (elementEntries [.typeName] [typeName],
          elementEntries [.stepKey, .eventType, .message, .level] others)
      else none

end UntimedForm

/-- A line that holds a record but for the value of its time, with blanks around it. -/
structure UntimedLine where
  before : List Char
  form : UntimedForm
  after : List Char
  blankBefore : AllBlank before
  blankAfter : AllBlank after

def UntimedLine.text (line : UntimedLine) (value : Value) : List Char :=
  line.before ++ (line.form.fill value).text ++ line.after

/-- A line is the record that its time and what stands around it describe. -/
theorem UntimedLine.parseRecord_text (line : UntimedLine) (value : Value) (record : Record) :
    parseRecord (String.ofList (line.text value)) = .ok record ↔
      ∃ front back, line.form.around? = some (front, back) ∧
        Describes (front ++ ("timestamp", value.datum) :: back) record := by
  obtain ⟨before, form, after, blank, alsoBlank⟩ := line
  cases form with
  | object space front beforeKey key named beforeColon spaceBefore spaceAfter back =>
      have read := parseRecord_objectLine ⟨before, ⟨space, front ++
        ⟨beforeKey, key, beforeColon, ⟨spaceBefore, value, spaceAfter⟩⟩ :: back⟩, after, blank,
        alsoBlank⟩ record
      have entry : Member.entry? ⟨beforeKey, key, beforeColon, ⟨spaceBefore, value, spaceAfter⟩⟩ =
          some ("timestamp", value.datum) := by
        rw [Member.entry?, named]
        rfl
      refine read.trans ?_
      simp only [Json.Object.entries?, List.mapM_append, List.mapM_cons, entry,
        UntimedForm.around?]
      cases front.mapM Member.entry? <;> cases back.mapM Member.entry? <;> simp
  | list space typeName spaceBefore spaceAfter others =>
      refine (parseRecord_list space (typeName :: ⟨spaceBefore, value, spaceAfter⟩ :: others) blank
        alsoBlank record).trans ?_
      simp only [UntimedForm.around?]
      have entries : elementEntries Field.all
          (typeName :: ⟨spaceBefore, value, spaceAfter⟩ :: others) =
            elementEntries [.typeName] [typeName] ++ ("timestamp", value.datum) ::
              elementEntries [.stepKey, .eventType, .message, .level] others := rfl
      have length : (typeName :: ⟨spaceBefore, value, spaceAfter⟩ :: others).length =
          Field.all.length ↔ others.length = 4 := by
        simp [Field.all]
      rw [entries, length]
      by_cases full : others.length = 4 <;> simp [full]

/-! ## Another time -/

theorem dataUnder_around (keys : List String) (front back : List (String × Datum)) (key : String)
    (datum : Datum) :
    dataUnder keys (front ++ (key, datum) :: back) =
      dataUnder keys front ++ (if key ∈ keys then [datum] else []) ++ dataUnder keys back := by
  rw [dataUnder_append, List.append_assoc]
  congr 1
  split
  · rename_i named
    exact dataUnder_cons_of_mem named back
  · rename_i other
    exact dataUnder_cons_of_not_mem other back

section Retiming

variable {front back : List (String × Datum)} {datum second : Datum} {record : Record}

/-- A record that has one time has no other. -/
theorem Describes.millis?_eq
    (describes : Describes (front ++ ("timestamp", datum) :: back) record) :
    datum.millis? = some record.timestamp := by
  obtain ⟨only, under, timed⟩ := describes.timestamp
  have present : datum ∈ [only] := by
    rw [← under, dataUnder_around]
    simp
  rw [List.mem_singleton.mp present, timed]

/-- A record with another time is the same record at that time. -/
theorem Describes.retimed
    (describes : Describes (front ++ ("timestamp", datum) :: back) record) {time : Int64}
    (timed : second.millis? = some time) :
    Describes (front ++ ("timestamp", second) :: back) { record with timestamp := time } := by
  have same (keys : List String) (apart : "timestamp" ∉ keys) :
      dataUnder keys (front ++ ("timestamp", second) :: back) =
        dataUnder keys (front ++ ("timestamp", datum) :: back) := by
    rw [dataUnder_around, dataUnder_around, if_neg apart, if_neg apart]
  have alone : dataUnder ["timestamp"] (front ++ ("timestamp", second) :: back) = [second] := by
    obtain ⟨only, under, _⟩ := describes.timestamp
    rw [dataUnder_around, if_pos List.mem_cons_self] at under ⊢
    have length := congrArg List.length under
    simp only [List.length_append, List.length_singleton] at length
    rw [List.eq_nil_of_length_eq_zero (by omega : (dataUnder ["timestamp"] front).length = 0),
      List.eq_nil_of_length_eq_zero (by omega : (dataUnder ["timestamp"] back).length = 0)]
    rfl
  exact {
    kind := same ["__typename", "kind"] (by decide) ▸ describes.kind
    timestamp := ⟨second, alone, timed⟩
    stepKey := same ["stepKey"] (by decide) ▸ describes.stepKey
    eventType := same ["eventType"] (by decide) ▸ describes.eventType
    message := same ["message"] (by decide) ▸ describes.message
    level := same ["level"] (by decide) ▸ describes.level }

end Retiming

namespace UntimedLine

variable {line : UntimedLine} {valid value : Value} {record : Record}

/-- Where a line is a record with one time, it is the same record with another. -/
theorem parseRecord_retimed (otherwise : parseRecord (String.ofList (line.text valid)) = .ok record)
    {time : Int64} (timed : value.datum.millis? = some time) :
    parseRecord (String.ofList (line.text value)) = .ok { record with timestamp := time } := by
  obtain ⟨front, back, around, describes⟩ := (line.parseRecord_text valid record).mp otherwise
  exact (line.parseRecord_text value _).mpr ⟨front, back, around, describes.retimed timed⟩

/-- Without a time no line is a record. -/
theorem parseRecord_untimed (line : UntimedLine) (untimed : value.datum.millis? = none) :
    ∃ fault, parseRecord (String.ofList (line.text value)) = .error fault := by
  cases read : parseRecord (String.ofList (line.text value)) with
  | error fault => exact ⟨fault, rfl⟩
  | ok record =>
      obtain ⟨front, back, _, describes⟩ := (line.parseRecord_text value record).mp read
      rw [describes.millis?_eq] at untimed
      cases untimed

end UntimedLine

/-- A whole number in the place of the time of a record is read exactly if it fits a 64-bit integer.
    The numbers up to 1024 below the least such integer are read as that integer, and all others
    are refused. -/
theorem parseRecord_whole_time {line : UntimedLine} {valid value : Value} {record : Record}
    {n : Int}
    (otherwise : parseRecord (String.ofList (line.text valid)) = .ok record)
    (spells : Json.SpellsWhole value n) :
    let read := parseRecord (String.ofList (line.text value))
    (-2 ^ 63 ≤ n → n < 2 ^ 63 →
      ∃ time : Int64, time.toInt = n ∧ read = .ok { record with timestamp := time }) ∧
    (-2 ^ 63 - 1024 ≤ n → n < -2 ^ 63 →
      read = .ok { record with timestamp := Int64.minValue }) ∧
    (n < -2 ^ 63 - 1024 ∨ 2 ^ 63 ≤ n → ∃ fault, read = .error fault) := by
  have timed := spells.millis?_eq
  have bound : (signedBound : Int) = 2 ^ 63 := rfl
  refine ⟨?_, ?_, ?_⟩
  · intro low high
    rw [wholeTime?_of_fits (by omega) (by omega)] at timed
    exact ⟨_, Int64.toInt_ofInt_of_le low high, UntimedLine.parseRecord_retimed otherwise timed⟩
  · intro near below
    rw [wholeTime?, if_pos (by omega), max_eq_right (by omega)] at timed
    exact UntimedLine.parseRecord_retimed otherwise timed
  · intro far
    rw [wholeTime?, if_neg (by omega)] at timed
    exact line.parseRecord_untimed timed

def startLine : UntimedLine where
  before := []
  form := .object .none [.ofText "__typename" (.ofText "RunStartEvent")] .none
    ("timestamp".toList.map Piece.ofChar) (Json.decode_map_ofChar _) .none .none .none []
  after := []
  blankBefore := Text.allBlank_nil
  blankAfter := Text.allBlank_nil

theorem describes_start {datum : Datum} {time : Int64} (timed : datum.millis? = some time) :
    Describes ([("__typename", .text "RunStartEvent")] ++ [("timestamp", datum)])
      { kind := .runStart, timestamp := time } where
  kind := ⟨"RunStartEvent", by rfl, by rfl⟩
  timestamp := ⟨datum, by rfl, timed⟩
  stepKey := .absent
  eventType := .absent
  message := ⟨none, .absent, rfl⟩
  level := ⟨none, .absent, rfl⟩

theorem startLine_eq_ok {value : Value} {time : Int64} (timed : value.datum.millis? = some time) :
    parseRecord (String.ofList (startLine.text value)) =
      .ok { kind := .runStart, timestamp := time } :=
  (startLine.parseRecord_text value _).mpr ⟨_, _, by rfl, describes_start timed⟩

/-- The least time, as a string with blanks around it. -/
theorem parseRecord_whole_time_of_least :
    let line (content : String) := String.ofList (startLine.text (.ofText content))
    parseRecord (line "1e3") = .ok { kind := .runStart, timestamp := 1000 } ∧
      ∃ time : Int64, time.toInt = -2 ^ 63 ∧
        parseRecord (line "\u3000-9223372036854775808 ") =
          .ok { kind := .runStart, timestamp := time } := by
  have otherwise : parseRecord (String.ofList (startLine.text (.ofText "1e3"))) =
      .ok { kind := .runStart, timestamp := 1000 } := startLine_eq_ok (by decide +kernel)
  have blank : AllBlank ['\u3000'] := by decide
  have alsoBlank : AllBlank [' '] := by decide
  have spells : Json.SpellsWhole (.ofText "\u3000-9223372036854775808 ") (-2 ^ 63) :=
    .ofText blank alsoBlank (by decide +kernel)
  exact ⟨otherwise, (parseRecord_whole_time otherwise spells).1 (by decide) (by decide)⟩

/-- The start of a run at a time that is one below the least. -/
def belowLeast : String :=
  "\x7b\"__typename\":\"RunStartEvent\",\"timestamp\":\"-9223372036854775809\"\x7d"

/-- The number below the least time is read as the least time. -/
theorem parseRecord_belowLeast :
    parseRecord belowLeast = .ok { kind := .runStart, timestamp := Int64.minValue } ∧
      Int64.minValue.toInt ≠ -9223372036854775809 := by
  have spelled : belowLeast =
      String.ofList (startLine.text (.ofText "-9223372036854775809")) := by
    decide +kernel
  rw [spelled]
  exact ⟨startLine_eq_ok (by decide +kernel), by decide⟩

end EventLog
