import EventLog.Proofs.RecordObject

/-!
# Records written as lists

A record may be written as a list of the values of its fields, in their order. Such a list is read
as an object with these fields would be: it must be as long as there are fields, and its values
must describe the record under the keys of the fields (`parseRecord_list`).
-/

namespace EventLog

open Json (Datum Space Value Padded EndsNumber remainder elementTexts)
open Text (AllBlank)

/-! ## Elements -/

/-- The draft after the elements of a list, one for each field. -/
def Draft.takeElements? (draft : Draft) : List Field → List Padded → Option Draft
  | [], [] => some draft
  | field :: fields, element :: elements =>
      (draft.put? field element.value.datum).bind fun draft => draft.takeElements? fields elements
  | _, _ => none

/-- The fields of a list whose elements were read, and what stands behind its bracket. -/
def closeElements (read : Draft × List Char) : Option (Fields × List Char) :=
  (closeRecord read.1.complete (closeList read.2)).toOption

section Elements

variable {text rest : List Char}

theorem nextElement_first (value : Value) (reached : Json.skipSpace text = value.text ++ rest) :
    nextElement true text = .ok (true, value.text ++ rest) := by
  obtain ⟨c, later, begins, _, inside⟩ := value.exists_cons
  rw [begins, List.cons_append] at reached ⊢
  simp only [nextElement, reached, if_neg inside, if_true]

theorem nextElement_comma (value : Value) {after : List Char}
    (reached : Json.skipSpace text = ',' :: after)
    (opened : Json.skipSpace after = value.text ++ rest) :
    nextElement false text = .ok (true, value.text ++ rest) := by
  obtain ⟨c, later, begins, _, inside⟩ := value.exists_cons
  rw [begins, List.cons_append] at opened ⊢
  have comma : Json.afterComma .full ']' after = .ok (c :: (later ++ rest)) := by
    rw [Json.afterComma, opened]
    simp [inside]
  simp [nextElement, reached, comma]

theorem nextElement_close (first : Bool) (reached : Json.skipSpace text = ']' :: rest) :
    nextElement first text = .ok (false, ']' :: rest) := by
  simp [nextElement, reached]

theorem outcome_readElements_close {count : Nat}
    (closed : nextElement (count == 0) text = .ok (false, rest)) (draft : Draft) (field : Field)
    (fields : List Field) :
    Draft.outcome (readElements count draft text (field :: fields)) = none := by
  rw [readElements, closed]
  rfl

theorem outcome_readElements_field {count : Nat} {after : List Char}
    (next : nextElement (count == 0) text = .ok (true, after)) (draft : Draft) (field : Field)
    (fields : List Field) :
    Draft.outcome (readElements count draft text (field :: fields)) =
      (Draft.outcome (draft.readField field after)).bind fun (draft, beyond) =>
        Draft.outcome (readElements (count + 1) draft beyond fields) := by
  rw [readElements, next]
  simp only
  cases draft.readField field after with
  | error stop => rfl
  | ok pair =>
      obtain ⟨result, beyond⟩ := pair
      cases result <;> rfl

/-- An element changes the draft by the field that it stands for. -/
theorem outcome_readElements_value (count : Nat) (value : Value)
    (next : nextElement (count == 0) text = .ok (true, value.text ++ rest))
    (ends : EndsNumber rest) (draft : Draft) (field : Field) (fields : List Field) :
    Draft.outcome (readElements count draft text (field :: fields)) =
      (draft.put? field value.datum).bind fun draft =>
        Draft.outcome (readElements (count + 1) draft rest fields) := by
  rw [outcome_readElements_field next,
    draft.outcome_readField field value (value.skipSpace_text rest) ends]
  cases draft.put? field value.datum <;> rfl

theorem closeElements_end (draft : Draft) (reached : Json.skipSpace text = ']' :: rest) :
    closeElements (draft, text) = draft.complete.toOption.map (·, rest) := by
  have closed : closeList text = (.ok (), rest) := by
    simp only [closeList, reached]
  rw [closeElements, closed]
  cases draft.complete <;> rfl

/-- A list that goes on behind its last field is no record. -/
theorem closeElements_comma (draft : Draft) (reached : Json.skipSpace text = ',' :: rest) :
    closeElements (draft, text) = none := by
  have refused : ∃ fault after, closeList text = (.error fault, after) := by
    simp only [closeList, reached]
    split <;> exact ⟨_, _, rfl⟩
  obtain ⟨fault, after, closed⟩ := refused
  rw [closeElements, closed]
  cases draft.complete <;> rfl

/-- Behind an element, what is left of a list gives its values to the fields that are left. -/
theorem closeElements_remainder (elements : List Padded) (fields : List Field) (draft : Draft)
    (count : Nat) (space : Space) (rest : List Char) :
    (Draft.outcome (readElements (count + 1) draft
        (space.text ++ remainder ']' rest (elementTexts elements)) fields)).bind closeElements =
      (draft.takeElements? fields elements).bind fun draft =>
        draft.complete.toOption.map (·, rest) := by
  induction elements generalizing fields draft count space with
  | nil =>
      have reached : Json.skipSpace (space.text ++ ']' :: rest) = ']' :: rest := by
        rw [Json.skipSpace_append, Json.skipSpace_cons (by decide)]
      cases fields with
      | nil => exact closeElements_end draft reached
      | cons field fields =>
          -- The list ends before the fields do, so it is too short.
          rw [elementTexts, remainder, outcome_readElements_close (nextElement_close _ reached)]
          rfl
  | cons element elements ih =>
      have reached (later : List Char) :
          Json.skipSpace (space.text ++ ',' :: (element.text ++ later)) =
            ',' :: (element.text ++ later) := by
        rw [Json.skipSpace_append, Json.skipSpace_cons (by decide)]
      have opened (later : List Char) :
          Json.skipSpace (element.text ++ later) =
            element.value.text ++ (element.after.text ++ later) := by
        rw [Padded.text_append, Json.skipSpace_append, Value.skipSpace_text]
      rw [elementTexts, remainder]
      cases fields with
      | nil =>
          -- No field is left for the element behind the comma.
          exact closeElements_comma draft (reached _)
      | cons field fields =>
          have ends :
              EndsNumber (element.after.text ++ remainder ']' rest (elementTexts elements)) :=
            (EndsNumber.remainder (.inl rfl) _ _).space_append _
          have next := nextElement_comma element.value
            (reached (remainder ']' rest (elementTexts elements))) (opened _)
          rw [outcome_readElements_value (count + 1) element.value next ends,
            Draft.takeElements?, Option.bind_assoc, Option.bind_assoc]
          simp only [ih]

end Elements

/-- A list is read element by element. -/
theorem closeElements_list (space : Space) (elements : List Padded) (rest : List Char) :
    ∃ inner, (Value.list space elements).text ++ rest = '[' :: inner ∧
      (Draft.outcome (readElements 0 {} inner Field.all)).bind closeElements =
        (({} : Draft).takeElements? Field.all elements).bind fun draft =>
          draft.complete.toOption.map (·, rest) := by
  cases elements with
  | nil =>
      have reached : Json.skipSpace (space.text ++ ']' :: rest) = ']' :: rest := by
        rw [Json.skipSpace_append, Json.skipSpace_cons (by decide)]
      refine ⟨_, Value.text_list_nil space rest, ?_⟩
      rw [Field.all, outcome_readElements_close (nextElement_close _ reached)]
      rfl
  | cons element elements =>
      have reached (later : List Char) :
          Json.skipSpace (space.text ++ (element.text ++ later)) =
            element.value.text ++ (element.after.text ++ later) := by
        rw [Json.skipSpace_append, Padded.text_append, Json.skipSpace_append, Value.skipSpace_text]
      have ends : EndsNumber (element.after.text ++ remainder ']' rest (elementTexts elements)) :=
        (EndsNumber.remainder (.inl rfl) _ _).space_append _
      refine ⟨_, Value.text_list_cons space element elements rest, ?_⟩
      have next := nextElement_first element.value
        (reached (remainder ']' rest (elementTexts elements)))
      rw [Field.all, outcome_readElements_value 0 element.value next ends,
        Draft.takeElements?, Option.bind_assoc, Option.bind_assoc]
      simp only [closeElements_remainder]

/-! ## Records -/

theorem toOption_readFields_list {text inner : List Char}
    (reached : Json.skipSpace text = '[' :: inner) :
    (readFields text).toOption =
      (Draft.outcome (readElements 0 {} inner Field.all)).bind closeElements := by
  simp only [readFields, reached]
  cases readElements 0 {} inner Field.all with
  | error stop => rfl
  | ok pair =>
      obtain ⟨result, after⟩ := pair
      cases result <;> rfl

/-- A text that is a list holds the fields of its draft, if those are complete. -/
theorem toOption_readRecord_list (space : Space) (elements : List Padded) :
    (readRecord (Value.list space elements).text).toOption =
      (({} : Draft).takeElements? Field.all elements).bind fun draft =>
        draft.complete.toOption := by
  obtain ⟨inner, begins, read⟩ := closeElements_list space elements []
  rw [List.append_nil] at begins
  have reached : Json.skipSpace (Value.list space elements).text = '[' :: inner := by
    rw [begins, Json.skipSpace_cons (by decide)]
  rw [toOption_readRecord_eq, toOption_readFields_list reached, read]
  cases ({} : Draft).takeElements? Field.all elements with
  | none => rfl
  | some draft =>
      simp only [Option.bind_some]
      cases draft.complete <;> rfl

theorem toOption_parseRecord_list (space : Space) (elements : List Padded)
    {before after : List Char} (blank : AllBlank before) (alsoBlank : AllBlank after) :
    (parseRecord (String.ofList (before ++ (Value.list space elements).text ++ after))).toOption =
      (({} : Draft).takeElements? Field.all elements).bind Draft.record? := by
  have trimmed : Text.trim (before ++ (Value.list space elements).text ++ after) =
      (Value.list space elements).text :=
    Text.trim_append blank alsoBlank (by decide) (by decide) rfl rfl
  rw [parseRecord, String.toList_ofList, toOption_parseLine, trimmed, toOption_readRecord_list,
    Option.bind_assoc]
  rfl

/-! ## What a list says -/

theorem Field.ofKey?_key (field : Field) : Field.ofKey? field.key = some field := by
  cases field <;> rfl

/-- The values of a list under the keys of the fields that they stand for. -/
def elementEntries (fields : List Field) (elements : List Padded) : List (String × Datum) :=
  (fields.map Field.key).zip (elements.map fun element => element.value.datum)

/-- A list gives a draft as an object with the same fields does. -/
theorem Draft.takeElements?_eq_some_iff {fields : List Field} {elements : List Padded}
    {draft result : Draft} (different : fields.Nodup)
    (empty : ∀ field ∈ fields, draft.slot field = none) :
    draft.takeElements? fields elements = some result ↔
      elements.length = fields.length ∧
        draft.takeAll? (elementEntries fields elements) = some result := by
  induction fields generalizing draft elements with
  | nil => cases elements <;> simp [takeElements?, elementEntries, takeAll?]
  | cons field fields ih =>
      cases elements with
      | nil => simp [takeElements?]
      | cons element elements =>
          rw [List.nodup_cons] at different
          rw [List.forall_mem_cons] at empty
          have taken : draft.take? (field.key, element.value.datum) =
              draft.put? field element.value.datum := by
            simp only [take?, Field.ofKey?_key, has_eq_isSome_slot, empty.1]
            rfl
          have entries : draft.takeAll? (elementEntries (field :: fields) (element :: elements)) =
              (draft.put? field element.value.datum).bind fun draft =>
                draft.takeAll? (elementEntries fields elements) := by
            rw [← taken]
            rfl
          rw [entries, takeElements?, put?]
          cases field.value? element.value.datum with
          | none => simp
          | some value =>
              have rest : ∀ other ∈ fields, (draft.set field value).slot other = none := by
                intro other present
                have apart : other ≠ field := fun same => different.1 (same ▸ present)
                rw [slot_set_of_ne draft value apart, empty.2 other present]
              simp only [Option.map_some, Option.bind_some, List.length_cons,
                Nat.add_right_cancel_iff]
              exact ih different.2 rest

/-- A list on a line is a record exactly if it has a value for each field and these describe one
    under the keys of the fields. -/
theorem parseRecord_list (space : Space) (elements : List Padded) {before after : List Char}
    (blank : AllBlank before) (alsoBlank : AllBlank after) (record : Record) :
    parseRecord (String.ofList (before ++ (Value.list space elements).text ++ after)) =
        .ok record ↔
      elements.length = Field.all.length ∧
        Describes (elementEntries Field.all elements) record := by
  have empty : ∀ field ∈ Field.all, ({} : Draft).slot field = none := fun field _ =>
    Draft.slot_empty field
  rw [← Json.toOption_eq_some_iff, toOption_parseRecord_list space elements blank alsoBlank,
    ← record?_takeAll?_eq_some_iff, Option.bind_eq_some_iff, Option.bind_eq_some_iff]
  simp only [Draft.takeElements?_eq_some_iff (by decide : Field.all.Nodup) empty, and_assoc,
    exists_and_left]

end EventLog
