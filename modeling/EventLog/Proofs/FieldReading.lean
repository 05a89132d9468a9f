import EventLog.Draft
import EventLog.Proofs.JsonSkipping

/-!
# Reading fields

What the reader of a draft makes of a written value. Each field wants values of some kind, and a
value of another kind is never taken (`Draft.outcome_readField`). The six fields are treated alike:
a draft has a slot for each.
-/

namespace EventLog

open Json (Datum Value EndsNumber)

/-! ## Values of fields -/

namespace Json.Datum

def text? : Datum → Option String
  | text content => some content
  | _ => none

def optionalText? : Datum → Option (Option String)
  | null => some none
  | text content => some (some content)
  | _ => none

def stamp? : Datum → Option Stamp
  | text content => some (.text content)
  | number amount => some (.ofAmount amount)
  | _ => none

end Json.Datum

def Field.Value : Field → Type
  | .typeName => String
  | .timestamp => Stamp
  | .stepKey => Option String
  | .eventType => Option String
  | .message => Option String
  | .level => Option String

def Field.value? : (field : Field) → Datum → Option field.Value
  | .typeName => Datum.text?
  | .timestamp => Datum.stamp?
  | .stepKey => Datum.optionalText?
  | .eventType => Datum.optionalText?
  | .message => Datum.optionalText?
  | .level => Datum.optionalText?

namespace Draft

def slot (draft : Draft) : (field : Field) → Option field.Value
  | .typeName => draft.typeName
  | .timestamp => draft.stamp
  | .stepKey => draft.stepKey
  | .eventType => draft.eventType
  | .message => draft.message
  | .level => draft.level

def set (draft : Draft) : (field : Field) → field.Value → Draft
  | .typeName, value => { draft with typeName := some value }
  | .timestamp, value => { draft with stamp := some value }
  | .stepKey, value => { draft with stepKey := some value }
  | .eventType, value => { draft with eventType := some value }
  | .message, value => { draft with message := some value }
  | .level, value => { draft with level := some value }

/-- The draft with the value of a field, if the value is of the kind that the field wants. -/
def put? (draft : Draft) (field : Field) (datum : Datum) : Option Draft :=
  (field.value? datum).map (draft.set field)

theorem has_eq_isSome_slot (draft : Draft) (field : Field) :
    draft.has field = (draft.slot field).isSome := by
  cases field <;> rfl

theorem slot_empty (field : Field) : ({} : Draft).slot field = none := by
  cases field <;> rfl

theorem slot_set_self (draft : Draft) (field : Field) (value : field.Value) :
    (draft.set field value).slot field = some value := by
  cases field <;> rfl

theorem slot_set_of_ne (draft : Draft) {field other : Field} (value : field.Value)
    (different : other ≠ field) : (draft.set field value).slot other = draft.slot other := by
  cases field <;> cases other <;> first | rfl | exact absurd rfl different

theorem ext_slot {draft other : Draft} (same : ∀ field, draft.slot field = other.slot field) :
    draft = other := by
  obtain ⟨_, _, _, _, _, _⟩ := draft
  obtain ⟨_, _, _, _, _, _⟩ := other
  rw [Draft.mk.injEq]
  exact ⟨same .typeName, same .timestamp, same .stepKey, same .eventType, same .message,
    same .level⟩

/-- What a reader of a draft leaves, unless it gives up or finds a mismatch. -/
def outcome : Except Stop (Except Mismatch Draft × List Char) → Option (Draft × List Char)
  | .ok (.ok draft, rest) => some (draft, rest)
  | _ => none

end Draft

theorem toOption_refuse {α : Type} (mismatch : Found → Mismatch) (text : List Char) :
    (refuse mismatch text : Except Stop α).toOption = none := by
  unfold refuse
  split <;> rfl

section Readers

variable {text rest : List Char}

/-! Each reader looks at the character that a value begins with. -/

theorem readText_quote (reached : Json.skipSpace text = '"' :: rest) :
    (readText text).toOption = (Json.readString .full rest).toOption.map
      fun (content, after) => (String.ofList content, after) := by
  simp only [readText, reached, if_true]
  cases Json.readString .full rest <;> rfl

theorem readText_other {c : Char} (reached : Json.skipSpace text = c :: rest) (other : c ≠ '"') :
    (readText text).toOption = none := by
  simp only [readText, reached, if_neg other]
  exact toOption_refuse _ _

theorem readOptionalText_null (reached : Json.skipSpace text = 'n' :: rest) :
    (readOptionalText text).toOption =
      (Json.readWord ['u', 'l', 'l'] rest).toOption.map (none, ·) := by
  simp only [readOptionalText, reached]
  cases Json.readWord ['u', 'l', 'l'] rest <;> rfl

theorem readOptionalText_other {c : Char} (reached : Json.skipSpace text = c :: rest)
    (other : c ≠ 'n') :
    (readOptionalText text).toOption =
      (readText text).toOption.map fun (content, after) => (some content, after) := by
  unfold readOptionalText
  split
  · rename_i same
    rw [reached] at same
    cases same
    exact absurd rfl other
  · exact Json.toOption_map _ _

theorem readStamp_quote (reached : Json.skipSpace text = '"' :: rest) :
    (readStamp text).toOption = (Json.readString .full rest).toOption.map
      fun (content, after) => (some (.text (String.ofList content)), after) := by
  simp only [readStamp, reached, if_true]
  exact Json.toOption_map _ _

theorem readStamp_number {c : Char} (reached : Json.skipSpace text = c :: rest)
    (number : c = '-' ∨ c.isDigit = true) :
    (readStamp text).toOption = (Json.Amount.read (c :: rest)).toOption.map
      fun (amount, after) => (some (.ofAmount amount), after) := by
  have other : c ≠ '"' := by
    rintro rfl
    simp at number
  simp only [readStamp, reached, if_neg other, if_pos number]
  exact Json.toOption_map _ _

theorem readStamp_other {c : Char} (reached : Json.skipSpace text = c :: rest) (notText : c ≠ '"')
    (notNumber : ¬(c = '-' ∨ c.isDigit = true)) :
    (readStamp text).toOption =
      (Json.skipValue .full [] (c :: rest)).toOption.map (none, ·) := by
  simp only [readStamp, reached, if_neg notText, if_neg notNumber]
  exact Json.toOption_map _ _

end Readers

theorem Json.Amount.toOption_read (literal : Json.Literal) {rest : List Char}
    (ends : EndsNumber rest) :
    (Json.Amount.read (literal.text ++ rest)).toOption =
      (Json.Amount.ofNumeral? literal.numeral).map (·, rest) := by
  rw [Json.Amount.read, Json.Numeral.read_text literal ends]
  simp only
  cases Json.Amount.ofNumeral? literal.numeral <;> rfl

/-- A value that is no null, no string and no number is told from these by how it begins. -/
theorem Json.Value.cases_begins (value : Value) :
    value = .null ∨ (∃ pieces, value = .string pieces) ∨ (∃ literal, value = .number literal) ∨
      ∃ c rest, value.text = c :: rest ∧ value.datum = .other ∧
        c ≠ 'n' ∧ c ≠ '"' ∧ ¬(c = '-' ∨ c.isDigit = true) := by
  cases value with
  | null => exact .inl rfl
  | string pieces => exact .inr (.inl ⟨pieces, rfl⟩)
  | number literal => exact .inr (.inr (.inl ⟨literal, rfl⟩))
  | boolean value =>
      cases value <;> exact .inr (.inr (.inr ⟨_, _, rfl, rfl, by decide, by decide, by decide⟩))
  | list space elements =>
      exact .inr (.inr (.inr ⟨_, _, rfl, rfl, by decide, by decide, by decide⟩))
  | object object =>
      obtain ⟨space, members⟩ := object
      exact .inr (.inr (.inr ⟨_, _, rfl, rfl, by decide, by decide, by decide⟩))

theorem Json.Literal.not_begins {literal : Json.Literal} {c : Char} {rest : List Char}
    (begins : literal.text = c :: rest) : c ≠ 'n' ∧ c ≠ '"' := by
  obtain ⟨d, later, alsoBegins, first⟩ := literal.exists_cons
  obtain ⟨rfl, rfl⟩ := List.cons.inj (begins.symm.trans alsoBegins)
  constructor
  · rintro rfl
    simp at first
  · rintro rfl
    simp at first

section Values

variable {text rest : List Char}

theorem toOption_readText (value : Value) (reached : Json.skipSpace text = value.text ++ rest) :
    (readText text).toOption = value.datum.text?.map (·, rest) := by
  obtain rfl | ⟨pieces, rfl⟩ | ⟨literal, rfl⟩ | ⟨c, later, begins, nothing, other⟩ :=
    value.cases_begins
  · exact readText_other reached (by decide)
  · rw [Value.text, Json.quoted, List.append_assoc, List.cons_append, List.singleton_append]
      at reached
    rw [readText_quote reached, Json.toOption_readString, Value.datum]
    cases Json.decode pieces <;> rfl
  · obtain ⟨c, later, begins, _⟩ := literal.exists_cons
    rw [Value.text, begins, List.cons_append] at reached
    rw [readText_other reached (Json.Literal.not_begins begins).2, Value.datum]
    cases Json.Amount.ofNumeral? literal.numeral <;> rfl
  · rw [begins, List.cons_append] at reached
    rw [readText_other reached other.2.1, nothing]
    rfl

theorem toOption_readOptionalText (value : Value)
    (reached : Json.skipSpace text = value.text ++ rest) :
    (readOptionalText text).toOption = value.datum.optionalText?.map (·, rest) := by
  have asText := toOption_readText value reached
  obtain rfl | ⟨pieces, rfl⟩ | ⟨literal, rfl⟩ | ⟨c, later, begins, nothing, other⟩ :=
    value.cases_begins
  · have word := Json.readWord_append ['u', 'l', 'l'] rest
    rw [Value.text, List.cons_append] at reached
    rw [readOptionalText_null reached, word]
    rfl
  · rw [readOptionalText_other reached (by decide), asText, Value.datum]
    cases Json.decode pieces <;> rfl
  · obtain ⟨c, later, begins, _⟩ := literal.exists_cons
    rw [Value.text, begins, List.cons_append] at reached
    rw [readOptionalText_other reached (Json.Literal.not_begins begins).1, asText, Value.datum]
    cases Json.Amount.ofNumeral? literal.numeral <;> rfl
  · rw [begins, List.cons_append] at reached
    rw [readOptionalText_other reached other.1, asText, nothing]
    rfl

end Values

namespace Draft

/-- A value that is read as its field wants it gets into the draft. -/
theorem outcome_fill (draft : Draft) (field : Field) {read : Except Stop (field.Value × List Char)}
    {datum : Datum} {rest : List Char} (same : read.toOption = (field.value? datum).map (·, rest)) :
    outcome (fill (draft.set field) read) = (draft.put? field datum).map (·, rest) := by
  have filled : outcome (fill (draft.set field) read) =
      read.toOption.map fun (value, rest) => (draft.set field value, rest) := by
    cases read <;> rfl
  rw [filled, same, put?]
  cases field.value? datum <;> rfl

theorem outcome_readField_timestamp (draft : Draft) (text : List Char) :
    outcome (draft.readField .timestamp text) =
      (readStamp text).toOption.bind fun (stamp, rest) =>
        stamp.map fun stamp => ({ draft with stamp := some stamp }, rest) := by
  unfold readField
  simp only
  cases readStamp text with
  | error fault => rfl
  | ok pair =>
      obtain ⟨stamp, rest⟩ := pair
      cases stamp <;> rfl

/-- The value of a field gets into the draft, if it is of the kind that the field wants. -/
theorem outcome_readField (draft : Draft) (field : Field) (value : Value) {text rest : List Char}
    (reached : Json.skipSpace text = value.text ++ rest) (ends : EndsNumber rest) :
    outcome (draft.readField field text) = (draft.put? field value.datum).map (·, rest) := by
  cases field with
  | typeName => exact draft.outcome_fill .typeName (toOption_readText value reached)
  | timestamp =>
      rw [outcome_readField_timestamp]
      simp only [put?, Field.value?]
      obtain rfl | ⟨pieces, rfl⟩ | ⟨literal, rfl⟩ | ⟨c, later, begins, nothing, other⟩ :=
        value.cases_begins
      · -- A null is passed over before it is refused, which may fail but never yields a time.
        rw [Value.text, List.cons_append] at reached
        rw [readStamp_other reached (by decide) (by decide)]
        cases Json.skipValue .full [] ('n' :: (['u', 'l', 'l'] ++ rest)) <;> rfl
      · rw [Value.text, Json.quoted, List.append_assoc, List.cons_append, List.singleton_append]
          at reached
        rw [readStamp_quote reached, Json.toOption_readString, Value.datum]
        cases Json.decode pieces <;> rfl
      · obtain ⟨c, later, begins, number⟩ := literal.exists_cons
        rw [Value.text, begins, List.cons_append] at reached
        rw [readStamp_number reached number, ← List.cons_append, ← begins,
          Json.Amount.toOption_read literal ends, Value.datum]
        cases Json.Amount.ofNumeral? literal.numeral <;> rfl
      · rw [begins, List.cons_append] at reached
        rw [readStamp_other reached other.2.1 other.2.2, nothing]
        cases Json.skipValue .full [] (c :: (later ++ rest)) <;> rfl
  | stepKey => exact draft.outcome_fill .stepKey (toOption_readOptionalText value reached)
  | eventType => exact draft.outcome_fill .eventType (toOption_readOptionalText value reached)
  | message => exact draft.outcome_fill .message (toOption_readOptionalText value reached)
  | level => exact draft.outcome_fill .level (toOption_readOptionalText value reached)

end Draft

end EventLog
