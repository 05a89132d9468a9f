import EventLog.Json.Canonical
import EventLog.Proofs.ObjectReading

/-!
# Records written as objects

What an object has to say to be a record, and which record it then is (`Describes`). That depends
on the members that are fields, each of which must be there at most once and hold a value of its
kind. It depends neither on the order of the members nor on other members, and not on layout
(`parseRecord_eq_ok_iff_describes`).
-/

namespace EventLog

open Json (Datum)
open Text (AllBlank)

/-! ## What an object says -/

/-- The data of the members that have one of some keys. -/
def dataUnder (keys : List String) (entries : List (String × Datum)) : List Datum :=
  (entries.filter fun entry => entry.1 ∈ keys).map Prod.snd

/-- What a field that may be missing says: nothing, if it is missing or null. -/
inductive SaysOptional : List Datum → Option String → Prop
  | absent : SaysOptional [] none
  | null : SaysOptional [.null] none
  | text (content : String) : SaysOptional [.text content] (some content)

/-- The milliseconds that a value stands for as a time. -/
def Json.Datum.millis? : Datum → Option Int64
  | .number amount => (Stamp.ofAmount amount).millis?
  | .text content => Stamp.millisOfText content.toList
  | _ => none

/-- What the entries of an object must be for the object to be a record. -/
structure Describes (entries : List (String × Datum)) (record : Record) : Prop where
  kind : ∃ typeName, dataUnder ["__typename", "kind"] entries = [.text typeName] ∧
    record.kind = Kind.ofTypeName typeName
  timestamp : ∃ datum, dataUnder ["timestamp"] entries = [datum] ∧
    datum.millis? = some record.timestamp
  stepKey : SaysOptional (dataUnder ["stepKey"] entries) record.stepKey
  eventType : SaysOptional (dataUnder ["eventType"] entries) record.eventType
  message : ∃ message, SaysOptional (dataUnder ["message"] entries) message ∧
    record.message = message.getD ""
  level : ∃ level, SaysOptional (dataUnder ["level"] entries) level ∧
    record.level = level.bind Level.parse?

/-! ## Slots of a draft -/

section Slots

variable {α : Type} {read : Datum → Option α}

/-- Fills a slot that must be empty. -/
def fillSlot (read : Datum → Option α) (slot : Option α) (datum : Datum) : Option (Option α) :=
  if slot.isSome then none else (read datum).map some

/-- An empty slot is filled by at most one value. -/
theorem foldlM_fillSlot_none {data : List Datum} {slot : Option α} :
    data.foldlM (fillSlot read) none = some slot ↔
      data = [] ∧ slot = none ∨
        ∃ datum value, data = [datum] ∧ read datum = some value ∧ slot = some value := by
  match data with
  | [] => simp [eq_comm]
  | [datum] => cases value : read datum <;> simp [fillSlot, value, eq_comm]
  | datum :: second :: data => cases value : read datum <;> simp [fillSlot, value]

theorem foldlM_fillSlot_eq_some {data : List Datum} {value : α} :
    data.foldlM (fillSlot read) none = some (some value) ↔
      ∃ datum, data = [datum] ∧ read datum = some value := by
  simp [foldlM_fillSlot_none]

end Slots

def Field.keys : Field → List String
  | .typeName => ["__typename", "kind"]
  | field => [field.key]

theorem Field.ofKey?_eq_some_iff {key : String} {field : Field} :
    Field.ofKey? key = some field ↔ key ∈ field.keys := by
  unfold Field.ofKey?
  split <;> cases field <;> simp_all [keys, Field.key]

theorem dataUnder_cons_of_mem {keys : List String} {entry : String × Datum}
    (named : entry.1 ∈ keys) (entries : List (String × Datum)) :
    dataUnder keys (entry :: entries) = entry.2 :: dataUnder keys entries := by
  simp [dataUnder, named]

theorem dataUnder_cons_of_not_mem {keys : List String} {entry : String × Datum}
    (other : entry.1 ∉ keys) (entries : List (String × Datum)) :
    dataUnder keys (entry :: entries) = dataUnder keys entries := by
  simp [dataUnder, other]

theorem dataUnder_append (keys : List String) (entries others : List (String × Datum)) :
    dataUnder keys (entries ++ others) = dataUnder keys entries ++ dataUnder keys others := by
  rw [dataUnder, List.filter_append, List.map_append]
  rfl

/-- A member that is a field fills the slot of that field. -/
theorem Draft.take?_of_field {entry : String × Datum} {field : Field}
    (known : Field.ofKey? entry.1 = some field) (draft : Draft) :
    fillSlot field.value? (draft.slot field) entry.2 = none ∧ draft.take? entry = none ∨
      ∃ value, fillSlot field.value? (draft.slot field) entry.2 = some (some value) ∧
        draft.take? entry = some (draft.set field value) := by
  simp only [Draft.take?, known, Draft.has_eq_isSome_slot, Draft.put?, fillSlot]
  cases draft.slot field with
  | some value => exact .inl ⟨rfl, rfl⟩
  | none =>
      cases field.value? entry.2 with
      | none => exact .inl ⟨rfl, rfl⟩
      | some value => exact .inr ⟨value, rfl, rfl⟩

/-- Each slot of a draft is filled by the members with the keys of its field. -/
theorem takeAll?_eq_some_iff {draft result : Draft} {entries : List (String × Datum)} :
    draft.takeAll? entries = some result ↔
      ∀ field : Field, (dataUnder field.keys entries).foldlM (fillSlot field.value?)
        (draft.slot field) = some (result.slot field) := by
  induction entries generalizing draft with
  | nil =>
      constructor
      · intro same
        cases same
        exact fun field => rfl
      · intro slots
        exact congrArg some (Draft.ext_slot fun field => Option.some.inj (slots field))
  | cons entry entries ih =>
      rw [Draft.takeAll?, List.foldlM_cons]
      cases known : Field.ofKey? entry.1 with
      | none =>
          -- A member that is no field fills no slot.
          have other (field : Field) : entry.1 ∉ field.keys := fun named => by
            rw [← Field.ofKey?_eq_some_iff, known] at named
            cases named
          simp only [Draft.take?, known, dataUnder_cons_of_not_mem (other _)]
          exact ih
      | some field =>
          have named : entry.1 ∈ field.keys := Field.ofKey?_eq_some_iff.mp known
          obtain ⟨refused, stops⟩ | ⟨value, filled, goesOn⟩ := draft.take?_of_field known
          · -- The slot of its field refuses the member, so no draft has all slots filled.
            rw [stops]
            constructor
            · intro never
              cases never
            · intro slots
              have never := slots field
              rw [dataUnder_cons_of_mem named, List.foldlM_cons, refused] at never
              cases never
          · rw [goesOn]
            refine ih.trans (forall_congr' fun other => ?_)
            by_cases same : other = field
            · subst same
              rw [Draft.slot_set_self, dataUnder_cons_of_mem named, List.foldlM_cons, filled]
              rfl
            · have apart : entry.1 ∉ other.keys := fun alsoNamed => by
                rw [← Field.ofKey?_eq_some_iff, known] at alsoNamed
                exact same (Option.some.inj alsoNamed).symm
              rw [Draft.slot_set_of_ne draft value same, dataUnder_cons_of_not_mem apart]

/-! ## Records -/

theorem saysOptional_iff {data : List Datum} {value : Option String} :
    SaysOptional data value ↔
      ∃ slot, data.foldlM (fillSlot Datum.optionalText?) none = some slot ∧
        slot.getD none = value := by
  simp only [foldlM_fillSlot_none]
  constructor
  · rintro (_ | _ | content)
    · exact ⟨none, .inl ⟨rfl, rfl⟩, rfl⟩
    · exact ⟨some none, .inr ⟨_, _, rfl, rfl, rfl⟩, rfl⟩
    · exact ⟨some (some content), .inr ⟨_, _, rfl, rfl, rfl⟩, rfl⟩
  · rintro ⟨slot, ⟨rfl, rfl⟩ | ⟨datum, held, rfl, read, rfl⟩, rfl⟩
    · exact .absent
    · cases datum <;> cases read
      · exact .null
      · exact .text _

theorem Json.Datum.millis?_eq_some_iff {datum : Datum} {time : Int64} :
    datum.millis? = some time ↔ ∃ stamp, datum.stamp? = some stamp ∧ stamp.millis? = some time := by
  cases datum <;> simp [millis?, stamp?, Stamp.millis?]

theorem Draft.record?_eq_some_iff {draft : Draft} {record : Record} :
    draft.record? = some record ↔
      ∃ typeName stamp time, draft.typeName = some typeName ∧ draft.stamp = some stamp ∧
        stamp.millis? = some time ∧
        record = Fields.toRecord ⟨typeName, stamp, draft.stepKey.getD none,
          draft.eventType.getD none, draft.message.getD none, draft.level.getD none⟩ time := by
  rw [record?, complete]
  cases draft.typeName with
  | none => simp [Except.toOption]
  | some typeName =>
      cases draft.stamp with
      | none => simp [Except.toOption]
      | some stamp =>
          constructor
          · intro complete
            obtain ⟨time, timed, rfl⟩ := Option.map_eq_some_iff.mp complete
            exact ⟨typeName, stamp, time, rfl, rfl, timed, rfl⟩
          · rintro ⟨_, _, time, ⟨⟩, ⟨⟩, timed, rfl⟩
            exact Option.map_eq_some_iff.mpr ⟨time, timed, rfl⟩

theorem Json.Datum.text?_eq_some_iff {datum : Datum} {content : String} :
    datum.text? = some content ↔ datum = .text content := by
  cases datum <;> simp [text?]

/-- The draft of some entries is a record exactly if the entries describe it. -/
theorem record?_takeAll?_eq_some_iff {entries : List (String × Datum)} {record : Record} :
    (({} : Draft).takeAll? entries).bind Draft.record? = some record ↔
      Describes entries record := by
  simp only [Option.bind_eq_some_iff, takeAll?_eq_some_iff, Draft.slot_empty,
    Draft.record?_eq_some_iff]
  constructor
  · rintro ⟨draft, slots, typeName, stamp, time, named, stamped, timed, rfl⟩
    have typeNames := slots .typeName
    have stamps := slots .timestamp
    rw [Draft.slot, named] at typeNames
    rw [Draft.slot, stamped] at stamps
    obtain ⟨nameDatum, onlyName, isName⟩ := foldlM_fillSlot_eq_some.mp typeNames
    obtain ⟨stampDatum, onlyStamp, isStamp⟩ := foldlM_fillSlot_eq_some.mp stamps
    cases Json.Datum.text?_eq_some_iff.mp isName
    exact {
      kind := ⟨typeName, onlyName, rfl⟩
      timestamp := ⟨stampDatum, onlyStamp,
        Json.Datum.millis?_eq_some_iff.mpr ⟨stamp, isStamp, timed⟩⟩
      stepKey := saysOptional_iff.mpr ⟨_, slots .stepKey, rfl⟩
      eventType := saysOptional_iff.mpr ⟨_, slots .eventType, rfl⟩
      message := ⟨_, saysOptional_iff.mpr ⟨_, slots .message, rfl⟩, rfl⟩
      level := ⟨_, saysOptional_iff.mpr ⟨_, slots .level, rfl⟩, rfl⟩ }
  · -- The draft is put together from what each field says.
    rintro ⟨⟨typeName, onlyName, kind⟩, ⟨stampDatum, onlyStamp, timed⟩, stepKey, eventType,
      ⟨message, saysMessage, hasMessage⟩, ⟨level, saysLevel, hasLevel⟩⟩
    obtain ⟨stamp, isStamp, timed⟩ := Json.Datum.millis?_eq_some_iff.mp timed
    obtain ⟨stepKeySlot, stepKey, hasStepKey⟩ := saysOptional_iff.mp stepKey
    obtain ⟨eventTypeSlot, eventType, hasEventType⟩ := saysOptional_iff.mp eventType
    obtain ⟨messageSlot, message, rfl⟩ := saysOptional_iff.mp saysMessage
    obtain ⟨levelSlot, level, rfl⟩ := saysOptional_iff.mp saysLevel
    refine ⟨⟨some typeName, some stamp, stepKeySlot, eventTypeSlot, messageSlot, levelSlot⟩, ?_,
      typeName, stamp, record.timestamp, rfl, rfl, timed, ?_⟩
    · intro field
      cases field with
      | typeName => exact foldlM_fillSlot_eq_some.mpr ⟨_, onlyName, rfl⟩
      | timestamp => exact foldlM_fillSlot_eq_some.mpr ⟨_, onlyStamp, isStamp⟩
      | stepKey => exact stepKey
      | eventType => exact eventType
      | message => exact message
      | level => exact level
    · obtain ⟨_, _, _, _, _, _⟩ := record
      simp only at kind hasMessage hasLevel hasStepKey hasEventType
      simp only [Fields.toRecord, kind, hasMessage, hasLevel, hasStepKey, hasEventType]

/-! ## Lines -/

/-- A line that holds an object, with blanks around it. -/
structure ObjectLine where
  before : List Char
  object : Json.Object
  after : List Char
  blankBefore : AllBlank before
  blankAfter : AllBlank after

def ObjectLine.text (line : ObjectLine) : List Char :=
  line.before ++ line.object.text ++ line.after

theorem parseRecord_objectLine (line : ObjectLine) (record : Record) :
    parseRecord (String.ofList line.text) = .ok record ↔
      ∃ entries, line.object.entries? = some entries ∧ Describes entries record := by
  rw [← Json.toOption_eq_some_iff, ObjectLine.text,
    toOption_parseRecord line.object line.blankBefore line.blankAfter, Draft.ofObject?,
    Option.bind_assoc, Option.bind_eq_some_iff]
  simp only [record?_takeAll?_eq_some_iff]

/-- The entries whose keys are keys of fields. -/
def fieldEntries (entries : List (String × Datum)) : List (String × Datum) :=
  entries.filter fun entry =>
    entry.1 ∈ ["__typename", "kind", "timestamp", "stepKey", "eventType", "message", "level"]

theorem dataUnder_fieldEntries (field : Field) (entries : List (String × Datum)) :
    dataUnder field.keys (fieldEntries entries) = dataUnder field.keys entries := by
  rw [dataUnder, fieldEntries, List.filter_filter, dataUnder]
  congr 1
  apply List.filter_congr
  intro entry _
  cases field <;> simp [Field.keys, Field.key] <;> grind

theorem SaysOptional.of_perm {data others : List Datum} {value : Option String}
    (said : SaysOptional data value) (same : others.Perm data) : SaysOptional others value := by
  cases said with
  | absent =>
      rw [List.perm_nil.mp same]
      exact .absent
  | null =>
      rw [List.perm_singleton.mp same]
      exact .null
  | text content =>
      rw [List.perm_singleton.mp same]
      exact .text content

/-- What some entries describe depends on the entries of fields, in any order. -/
theorem Describes.of_perm {entries others : List (String × Datum)} {record : Record}
    (describes : Describes entries record)
    (same : (fieldEntries others).Perm (fieldEntries entries)) : Describes others record := by
  have under (field : Field) :
      (dataUnder field.keys others).Perm (dataUnder field.keys entries) := by
    rw [← dataUnder_fieldEntries field others, ← dataUnder_fieldEntries field entries]
    exact (same.filter _).map _
  obtain ⟨⟨typeName, onlyName, kind⟩, ⟨datum, onlyStamp, timed⟩, stepKey, eventType,
    ⟨message, saysMessage, hasMessage⟩, ⟨level, saysLevel, hasLevel⟩⟩ := describes
  exact {
    kind := ⟨typeName, List.perm_singleton.mp (onlyName ▸ under .typeName), kind⟩
    timestamp := ⟨datum, List.perm_singleton.mp (onlyStamp ▸ under .timestamp), timed⟩
    stepKey := stepKey.of_perm (under .stepKey)
    eventType := eventType.of_perm (under .eventType)
    message := ⟨message, saysMessage.of_perm (under .message), hasMessage⟩
    level := ⟨level, saysLevel.of_perm (under .level), hasLevel⟩ }

/-- An object on a line is a record exactly if its entries describe one, whatever else it holds and
    however it is laid out. Objects with the same fields are the same record, or none. -/
theorem parseRecord_eq_ok_iff_describes :
    (∀ (line : ObjectLine) (record : Record),
      parseRecord (String.ofList line.text) = .ok record ↔
        ∃ entries, line.object.entries? = some entries ∧ Describes entries record) ∧
    ∀ (line other : ObjectLine) (entries others : List (String × Datum)),
      line.object.entries? = some entries → other.object.entries? = some others →
      (fieldEntries entries).Perm (fieldEntries others) → ∀ record,
        (parseRecord (String.ofList line.text) = .ok record ↔
          parseRecord (String.ofList other.text) = .ok record) := by
  refine ⟨parseRecord_objectLine, fun line other entries others read alsoRead same record => ?_⟩
  rw [parseRecord_objectLine, parseRecord_objectLine, read, alsoRead]
  simp only [Option.some.injEq, exists_eq_left']
  exact ⟨fun describes => describes.of_perm same.symm, fun describes => describes.of_perm same⟩

/-- A line with a nested member that is no field, and wide blanks around it. -/
def crowdedLine : ObjectLine where
  before := ['\u3000']
  object := ⟨.none, [.ofText "kind" (.ofText "Log"),
    .ofText "extra" (.list .none [⟨.none, .object ⟨.none, [.ofText "a" .null]⟩, .none⟩]),
    .ofText "timestamp" (.ofText "1e3"), .ofText "level" .null]⟩
  after := [' ']
  blankBefore := by decide
  blankAfter := by decide

/-- The same record in another order and with spaces. -/
def spacedLine : ObjectLine where
  before := []
  object := ⟨.single ' ' (by decide), [.ofText "timestamp" (.ofText "1e3"), .ofText "level" .null,
    .ofText "kind" (.ofText "Log")]⟩
  after := []
  blankBefore := Text.allBlank_nil
  blankAfter := Text.allBlank_nil

theorem parseRecord_eq_ok_iff_describes_of_reordered :
    ∃ entries others record, crowdedLine.object.entries? = some entries ∧
      spacedLine.object.entries? = some others ∧
      (fieldEntries entries).Perm (fieldEntries others) ∧
      record.timestamp = 1000 ∧ parseRecord (String.ofList spacedLine.text) = .ok record ∧
      parseRecord (String.ofList crowdedLine.text) = .ok record := by
  have crowded : crowdedLine.object.entries? = some [("kind", .text "Log"), ("extra", .other),
      ("timestamp", .text "1e3"), ("level", .null)] := by rfl
  have spaced : spacedLine.object.entries? = some [("timestamp", .text "1e3"), ("level", .null),
      ("kind", .text "Log")] := by rfl
  have describes : Describes [("timestamp", .text "1e3"), ("level", .null), ("kind", .text "Log")]
      ⟨.logMessage, 1000, none, none, "", none⟩ := {
    kind := ⟨"Log", by rfl, by rfl⟩
    timestamp := ⟨.text "1e3", by rfl, by decide +kernel⟩
    stepKey := .absent
    eventType := .absent
    message := ⟨none, .absent, rfl⟩
    level := ⟨none, .null, rfl⟩ }
  obtain ⟨means, depends⟩ := parseRecord_eq_ok_iff_describes
  have read := (means spacedLine _).mpr ⟨_, spaced, describes⟩
  exact ⟨_, _, _, crowded, spaced, by decide, rfl, read,
    (depends _ _ _ _ crowded spaced (by decide) _).mpr read⟩

end EventLog
