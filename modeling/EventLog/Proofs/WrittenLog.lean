import EventLog.Proofs.DecimalTime
import EventLog.Proofs.LogLines
import EventLog.Proofs.RecordObject

/-!
# Written logs

A log is written by writing each record as an object on a line of its own. A record may be written
in many ways (`Writes`): with its fields in any order and any layout, with any escapes, and with
its time as a number or as a string. Whatever way is chosen, the records are read back
(`parseRecords_of_writes`).
-/

namespace EventLog

open Json (Value Member Piece)

/-! ## Ways to write a record -/

def Json.Value.IsText (value : Value) (content : String) : Prop :=
  ∃ pieces, value = .string pieces ∧ Json.decode pieces = some content.toList

/-- What it takes for a value to be a time: its decimal digits as a number or as a string. -/
def Json.Value.IsTime (value : Value) (time : Int64) : Prop :=
  (∃ literal, value = .number literal ∧ literal.text = (toString time.toInt).toList) ∨
    value.IsText (toString time.toInt)

/-- The values that a field has which may be missing: none, a null or a string. -/
inductive WritesOptional : Option String → List Value → Prop
  | absent : WritesOptional none []
  | null : WritesOptional none [.null]
  | text {content : String} {value : Value} (isText : value.IsText content) :
      WritesOptional (some content) [value]

/-- The values that a field of a record has. -/
def WritesField (record : Record) : Field → List Value → Prop
  | .typeName, values => ∃ value, values = [value] ∧ value.IsText record.kind.typeName
  | .timestamp, values => ∃ value, values = [value] ∧ value.IsTime record.timestamp
  | .stepKey, values => WritesOptional record.stepKey values
  | .eventType, values => WritesOptional record.eventType values
  | .message, values => ∃ value, values = [value] ∧ value.IsText record.message
  | .level, values => WritesOptional (record.level.map Level.name) values

/-- What it takes for a line to be a written record: it is one line, and its object has the fields
    of the record for members, in any order. -/
structure Writes (record : Record) (line : ObjectLine) : Prop where
  fields : ∃ parts : Field → List Member, line.object.members.Perm (Field.all.flatMap parts) ∧
    (∀ field, ∀ member ∈ parts field, Json.decode member.key = some field.key.toList) ∧
    ∀ field, WritesField record field ((parts field).map fun member => member.content.value)
  oneLine : '\n' ∉ line.text

/-! ## Reading one record -/

theorem Json.Value.IsText.datum {value : Value} {content : String} (isText : value.IsText content) :
    value.datum = .text content := by
  obtain ⟨pieces, rfl, decoded⟩ := isText
  rw [Value.datum, decoded, Option.elim_some, String.ofList_toList]

theorem Json.Value.IsTime.millis? {value : Value} {time : Int64} (isTime : value.IsTime time) :
    value.datum.millis? = some time := by
  obtain ⟨literal, rfl, spelled⟩ | isText := isTime
  · have low := time.le_toInt
    have high := time.toInt_lt
    have signed : (Number.signedBound : Int) = 2 ^ 63 := rfl
    have unsigned : (Number.unsignedBound : Int) = 2 ^ 64 := rfl
    have numeral : literal.numeral = (Json.Literal.ofInt time.toInt).numeral :=
      Json.Literal.numeral_eq_of_text_eq (spelled.trans (Json.Literal.text_ofInt _).symm)
    rw [Value.datum, numeral, Json.Amount.ofNumeral?_ofInt (by omega) (by omega), Option.elim_some]
    exact Json.Stamp.millis?_ofAmount_whole time
  · rw [isText.datum]
    exact Stamp.millisOfText_toString time

theorem WritesOptional.saysOptional {value : Option String} {values : List Value}
    (writes : WritesOptional value values) : SaysOptional (values.map Value.datum) value := by
  cases writes with
  | absent => exact .absent
  | null => exact .null
  | text isText =>
      rw [List.map_singleton, isText.datum]
      exact .text _

theorem Field.key_mem_keys_iff {field other : Field} : field.key ∈ other.keys ↔ field = other := by
  cases field <;> cases other <;> decide

theorem dataUnder_of_keyed {field : Field} {members : List Member}
    (keyed : ∀ member ∈ members, Json.decode member.key = some field.key.toList) (other : Field) :
    dataUnder other.keys (members.filterMap Member.entry?) =
      if field = other then members.map (fun member => member.content.value.datum) else [] := by
  induction members with
  | nil => simp [dataUnder]
  | cons member members ih =>
      rw [List.forall_mem_cons] at keyed
      have entry : member.entry? = some (field.key, member.content.value.datum) := by
        rw [Member.entry?, keyed.1, Option.map_some, String.ofList_toList]
      rw [List.filterMap_cons_some entry]
      by_cases same : field = other
      · rw [dataUnder_cons_of_mem (Field.key_mem_keys_iff.mpr same), ih keyed.2, if_pos same,
          if_pos same, List.map_cons]
      · rw [dataUnder_cons_of_not_mem (fun named => same (Field.key_mem_keys_iff.mp named)),
          ih keyed.2, if_neg same, if_neg same]

theorem mapM_eq_some_filterMap {α β : Type} {f : α → Option β} {list : List α}
    (all : ∀ a ∈ list, (f a).isSome = true) : list.mapM f = some (list.filterMap f) := by
  induction list with
  | nil => rfl
  | cons a list ih =>
      rw [List.forall_mem_cons] at all
      obtain ⟨b, found⟩ := Option.isSome_iff_exists.mp all.1
      rw [List.mapM_cons, found, ih all.2, List.filterMap_cons_some found]
      rfl

/-- A written record is read back. -/
theorem parseRecord_of_writes {record : Record} {line : ObjectLine} (writes : Writes record line)
    (known : ∃ typeName, record.kind = Kind.ofTypeName typeName) :
    parseRecord (String.ofList line.text) = .ok record := by
  obtain ⟨⟨parts, same, keyed, written⟩, _⟩ := writes
  have decodes : ∀ member ∈ line.object.members, member.entry?.isSome = true := by
    intro member present
    obtain ⟨field, _, listed⟩ := List.mem_flatMap.mp (same.mem_iff.mp present)
    rw [Member.entry?, keyed field member listed]
    rfl
  -- Under the keys of a field stand its own members only.
  have under (field : Field) :
      dataUnder field.keys ((Field.all.flatMap parts).filterMap Member.entry?) =
        ((parts field).map fun member => member.content.value).map Value.datum := by
    simp only [Field.all, List.flatMap_cons, List.flatMap_nil, List.filterMap_append,
      List.filterMap_nil, dataUnder_append, dataUnder_of_keyed (keyed _)]
    cases field <;> simp [dataUnder]
  have describes :
      Describes ((Field.all.flatMap parts).filterMap Member.entry?) record := by
    obtain ⟨typeName, kindName⟩ := known
    obtain ⟨kind, onlyKind, isName⟩ := written .typeName
    obtain ⟨time, onlyTime, isTime⟩ := written .timestamp
    obtain ⟨message, onlyMessage, isMessage⟩ := written .message
    have kindUnder := (under .typeName).trans (by rw [onlyKind, List.map_singleton, isName.datum])
    have timeUnder := (under .timestamp).trans (by rw [onlyTime, List.map_singleton])
    have messageUnder :=
      (under .message).trans (by rw [onlyMessage, List.map_singleton, isMessage.datum])
    exact {
      kind := ⟨record.kind.typeName, kindUnder, by rw [kindName, Kind.ofTypeName_typeName]⟩
      timestamp := ⟨time.datum, timeUnder, isTime.millis?⟩
      stepKey := under .stepKey ▸ (written .stepKey).saysOptional
      eventType := under .eventType ▸ (written .eventType).saysOptional
      message := ⟨some record.message, messageUnder ▸ .text record.message, rfl⟩
      level := ⟨record.level.map Level.name, under .level ▸ (written .level).saysOptional, by
        cases record.level <;> simp [Level.parse?_name]⟩ }
  rw [parseRecord_objectLine]
  exact ⟨_, mapM_eq_some_filterMap decodes, describes.of_perm ((same.filterMap _).filter _)⟩

/-! ## Reading a log -/

theorem ObjectLine.not_allBlank (line : ObjectLine) : ¬Text.AllBlank line.text := by
  obtain ⟨before, ⟨space, members⟩, after, _, _⟩ := line
  intro blank
  have brace := blank '{' (by simp [text, Json.Object.text])
  exact absurd brace (by decide)

/-- Lines that are not blank are read one after the other. -/
theorem parseFrom_of_writes {records : List Record} {lines : List ObjectLine}
    (written : List.Forall₂ Writes records lines)
    (known : ∀ record ∈ records, ∃ typeName, record.kind = Kind.ofTypeName typeName)
    (number : Nat) :
    parseFrom number (Text.lines (['\n'].intercalate (lines.map ObjectLine.text))) =
      .ok records := by
  induction written generalizing number with
  | nil => rfl
  | @cons record line records lines writes _ ih =>
      rw [List.forall_mem_cons] at known
      have filled : line.text ≠ [] := by
        intro empty
        exact line.not_allBlank (empty ▸ Text.allBlank_nil)
      -- The line may lose a carriage return, which trimming takes off in any case.
      obtain ⟨first, trimmed, read⟩ := Text.exists_lines_intercalate filled writes.oneLine
        (lines.map ObjectLine.text)
      have ink : ¬Text.AllBlank first := by
        rw [← Text.trim_eq_nil_iff, trimmed, Text.trim_eq_nil_iff]
        exact line.not_allBlank
      rw [List.map_cons, read, parseFrom_cons ink, parseLine_congr trimmed, parseLine_eq,
        parseRecord_of_writes writes known.1, ih known.2]
      rfl

/-! ## Lines without a line feed -/

namespace Json

theorem Piece.feed_not_mem_text (piece : Piece) : '\n' ∉ piece.text := by
  cases piece with
  | plain c allowed =>
      rw [text, List.mem_singleton]
      rintro rfl
      exact absurd allowed.1 (by decide)
  | short letter c stands =>
      simp only [text, List.mem_cons, List.not_mem_nil, or_false, not_or]
      refine ⟨by decide, ?_⟩
      rintro rfl
      cases stands
  | long unit =>
      have other (digit : HexDigit) : '\n' ≠ digit.digit := by
        intro same
        have stands := digit.stands
        rw [← same] at stands
        cases stands
      simp [text, CodeUnit.text, other]

/-- A string never breaks a line. -/
theorem feed_not_mem_quoted (pieces : List Piece) : '\n' ∉ quoted pieces := by
  simp [quoted, Piece.feed_not_mem_text]

theorem Member.feed_not_mem_ofText {value : Value} (unbroken : '\n' ∉ value.text) (key : String) :
    '\n' ∉ (ofText key value).text := by
  simp [ofText, text, Padded.text, Space.none, feed_not_mem_quoted, unbroken]

theorem feed_not_mem_intercalate {texts : List (List Char)}
    (unbroken : ∀ text ∈ texts, '\n' ∉ text) :
    '\n' ∉ [','].intercalate texts := by
  induction texts with
  | nil => exact List.not_mem_nil
  | cons text texts ih =>
      rw [List.forall_mem_cons] at unbroken
      cases texts with
      | nil => simpa using unbroken.1
      | cons second texts =>
        rw [List.intercalate_cons_cons]
        simp [unbroken.1, ih unbroken.2]

end Json

/-! ## Writing a log -/

theorem Json.Value.isText_ofText (content : String) : (Value.ofText content).IsText content :=
  ⟨_, rfl, Json.decode_map_ofChar _⟩

/-- The members for a field that may be missing. -/
def Json.Member.ofOptional (key : String) (value : Option String) : List Member :=
  value.toList.map fun content => .ofText key (.ofText content)

/-- The members that a field of a record is written as. -/
def Record.parts (record : Record) : Field → List Member
  | .typeName => [.ofText "__typename" (.ofText record.kind.typeName)]
  | .timestamp => [.ofText "timestamp" (.number (.ofInt record.timestamp.toInt))]
  | .stepKey => Member.ofOptional "stepKey" record.stepKey
  | .eventType => Member.ofOptional "eventType" record.eventType
  | .message => [.ofText "message" (.ofText record.message)]
  | .level => Member.ofOptional "level" (record.level.map Level.name)

/-- The line of a record: the fields that are there, in their order and without any space. -/
def Record.line (record : Record) : ObjectLine where
  before := []
  object := ⟨.none, Field.all.flatMap record.parts⟩
  after := []
  blankBefore := Text.allBlank_nil
  blankAfter := Text.allBlank_nil

theorem Record.exists_ofText_of_mem_parts {record : Record} {field : Field} {member : Member}
    (present : member ∈ record.parts field) :
    ∃ value, member = .ofText field.key value ∧ '\n' ∉ value.text := by
  have ofText (content : String) : '\n' ∉ (Value.ofText content).text :=
    Json.feed_not_mem_quoted _
  have ofOptional {key : String} {content : Option String}
      (present : member ∈ Member.ofOptional key content) :
      ∃ value, member = .ofText key value ∧ '\n' ∉ value.text := by
    obtain ⟨text, _, rfl⟩ := List.mem_map.mp present
    exact ⟨_, rfl, ofText text⟩
  cases field with
  | typeName => exact ⟨_, List.mem_singleton.mp present, ofText _⟩
  | timestamp =>
      refine ⟨_, List.mem_singleton.mp present, fun feed => ?_⟩
      rw [Value.text, Json.Literal.text_ofInt] at feed
      exact absurd (isBlank_of_mem_toString feed) (by decide)
  | stepKey => exact ofOptional present
  | eventType => exact ofOptional present
  | message => exact ⟨_, List.mem_singleton.mp present, ofText _⟩
  | level => exact ofOptional present

theorem writesOptional_ofOptional (key : String) (value : Option String) :
    WritesOptional value
      ((Member.ofOptional key value).map fun member => member.content.value) := by
  cases value with
  | none => exact .absent
  | some content => exact .text (Json.Value.isText_ofText content)

theorem Record.writesField_parts (record : Record) (field : Field) :
    WritesField record field ((record.parts field).map fun member => member.content.value) := by
  cases field with
  | typeName => exact ⟨_, rfl, Json.Value.isText_ofText _⟩
  | timestamp => exact ⟨_, rfl, .inl ⟨_, rfl, Json.Literal.text_ofInt _⟩⟩
  | stepKey => exact writesOptional_ofOptional _ _
  | eventType => exact writesOptional_ofOptional _ _
  | message => exact ⟨_, rfl, Json.Value.isText_ofText _⟩
  | level => exact writesOptional_ofOptional _ _

theorem Record.writes_line (record : Record) : Writes record record.line where
  fields := by
    refine ⟨record.parts, .refl _, fun field member present => ?_, record.writesField_parts⟩
    obtain ⟨value, rfl, _⟩ := exists_ofText_of_mem_parts present
    exact Json.decode_map_ofChar _
  oneLine := by
    have unbroken :
        '\n' ∉ [','].intercalate (Json.memberTexts (Field.all.flatMap record.parts)) := by
      rw [Json.memberTexts_eq_map]
      apply Json.feed_not_mem_intercalate
      intro text listed
      obtain ⟨member, present, rfl⟩ := List.mem_map.mp listed
      obtain ⟨field, _, inField⟩ := List.mem_flatMap.mp present
      obtain ⟨value, rfl, unbroken⟩ := exists_ofText_of_mem_parts inField
      exact Member.feed_not_mem_ofText unbroken _
    simpa [line, ObjectLine.text, Json.Object.text, Json.Space.none] using unbroken

/-- Every log can be written, and however it is written it is read back: the records that stand on
    the lines, if their kinds are those of type names. -/
theorem parseRecords_of_writes (records : List Record) :
    (∃ lines, List.Forall₂ Writes records lines) ∧
      ∀ lines, List.Forall₂ Writes records lines →
        (∀ record ∈ records, ∃ typeName, record.kind = Kind.ofTypeName typeName) →
        parseRecords (String.ofList (['\n'].intercalate (lines.map ObjectLine.text))) =
          .ok records := by
  constructor
  · refine ⟨records.map Record.line, ?_⟩
    rw [List.forall₂_map_right_iff]
    exact List.forall₂_same.mpr fun record _ => record.writes_line
  · intro lines written known
    rw [parseRecords_eq_parseFrom, String.toList_ofList]
    exact parseFrom_of_writes written known 1

/-- A record whose texts need escapes, at the greatest time. -/
def quotingRecord : Record :=
  ⟨.logMessage, Int64.maxValue, some "a\"b\\", none, "two\nlines", some .warning⟩

def bareRecord : Record := ⟨.other "Custom", Int64.minValue, none, none, "😀", none⟩

/-- The bare record with its time as a string, a null, a surrogate pair and blanks around it. -/
def bareLine : ObjectLine where
  before := ['\u2003']
  object := ⟨.single '\t' (by decide), [.ofText "timestamp" (.ofText "-9223372036854775808"),
    .ofText "__typename" (.ofText "Custom"),
    .ofText "message" (.string [.long (.ofNat 0xD83D), .long (.ofNat 0xDE00)]),
    .ofText "level" .null]⟩
  after := ['\r']
  blankBefore := by decide
  blankAfter := by decide

theorem writes_bareLine : Writes bareRecord bareLine where
  fields := by
    refine ⟨fun
      | .typeName => [.ofText "__typename" (.ofText "Custom")]
      | .timestamp => [.ofText "timestamp" (.ofText "-9223372036854775808")]
      | .message =>
          [.ofText "message" (.string [.long (.ofNat 0xD83D), .long (.ofNat 0xDE00)])]
      | .level => [.ofText "level" .null]
      | .stepKey => []
      | .eventType => [], .swap _ _ _, ?_, ?_⟩
    · intro field member present
      cases field with
      | stepKey | eventType => exact absurd present List.not_mem_nil
      | typeName | timestamp | message | level =>
          rw [List.mem_singleton.mp present]
          exact Json.decode_map_ofChar _
    · intro field
      cases field with
      | typeName => exact ⟨_, rfl, Json.Value.isText_ofText _⟩
      | timestamp => exact ⟨_, rfl, .inr (Json.Value.isText_ofText _)⟩
      | stepKey => exact .absent
      | eventType => exact .absent
      | message => exact ⟨_, rfl, _, rfl, by decide⟩
      | level => exact .null
  oneLine := by decide

theorem parseRecords_of_writes_escaped :
    List.Forall₂ Writes [quotingRecord, bareRecord] [quotingRecord.line, bareLine] ∧
      (∀ record ∈ [quotingRecord, bareRecord], ∃ typeName, record.kind = Kind.ofTypeName typeName) ∧
      parseRecords (String.ofList (['\n'].intercalate
        ([quotingRecord.line, bareLine].map ObjectLine.text))) =
          .ok [quotingRecord, bareRecord] := by
  have written : List.Forall₂ Writes [quotingRecord, bareRecord] [quotingRecord.line, bareLine] :=
    .cons quotingRecord.writes_line (.cons writes_bareLine .nil)
  have known : ∀ record ∈ [quotingRecord, bareRecord],
      ∃ typeName, record.kind = Kind.ofTypeName typeName := by
    rw [List.forall_mem_cons, List.forall_mem_singleton]
    exact ⟨⟨"Log", by rfl⟩, ⟨"Custom", by rfl⟩⟩
  exact ⟨written, known, (parseRecords_of_writes _).2 _ written known⟩

end EventLog
