import EventLog.Draft

/-!
# Reading one record

The object form and the list form of a record, each read from its opening bracket to its closing
one. `readRecord` takes a whole text, which must hold nothing behind the record.
-/

namespace EventLog

open Json (Flaw Fault)

/-! ## The object form -/

/-- Reads the next key of an object, or nothing before its closing brace. -/
def nextKey (first : Bool) (text : List Char) : Except Fault (Option String × List Char) :=
  match Json.skipSpace text with
  | [] => .error (Flaw.endOfObject.before [])
  | c :: rest =>
      if c = '}' then .ok (none, c :: rest)
      else if first then key (c :: rest)
      else if c = ',' then
        match Json.afterComma .full '}' rest with
        | .error fault => .error fault
        | .ok after => key after
      else .error (Flaw.expectedObjectEnd.at (c :: rest))
where
  key (text : List Char) : Except Fault (Option String × List Char) :=
    match text with
    | [] => .error (Flaw.endOfValue.before [])
    | c :: rest =>
        if c = '"' then
          (Json.readString .full rest).map fun (content, after) =>
            (some (String.ofList content), after)
        else .error (Flaw.keyNotString.at (c :: rest))

/-- Reads the value of a member into a draft. Members that are no fields are passed over. -/
def readMember (draft : Draft) (field : Option Field) (text : List Char) :
    Except Stop (Except Mismatch Draft × List Char) :=
  match field with
  | some field => draft.readField field text
  | none =>
      match Json.skipValue .outline [] text with
      | .error fault => .error (.flaw fault)
      | .ok rest => .ok (.ok draft, rest)

theorem length_nextKey_key_lt {text rest : List Char} {key : String}
    (read : nextKey.key text = .ok (some key, rest)) : rest.length < text.length := by
  unfold nextKey.key at read
  split at read
  · cases read
  · split at read
    · obtain ⟨pair, found, same⟩ := Json.exists_of_map_ok read
      simp only [Prod.mk.injEq] at same
      obtain ⟨_, rfl⟩ := same
      exact Nat.lt_succ_of_lt (Json.length_readString_lt found)
    · cases read

theorem length_nextKey_lt {first : Bool} {text rest : List Char} {key : String}
    (read : nextKey first text = .ok (some key, rest)) : rest.length < text.length := by
  unfold nextKey at read
  split at read
  · cases read
  · rename_i c tail reached
    have past := Json.length_lt_of_skipSpace reached
    split at read
    · cases read
    · split at read
      · have taken := length_nextKey_key_lt read
        rw [List.length_cons] at taken
        omega
      · split at read
        · split at read
          · cases read
          · rename_i comma
            have beyond := Json.length_afterComma_le comma
            have taken := length_nextKey_key_lt read
            omega
        · cases read

/-- A string read as a value is taken off the text. -/
theorem length_readText_lt {text rest : List Char} {content : String}
    (read : readText text = .ok (content, rest)) : rest.length < text.length := by
  unfold readText at read
  split at read
  · cases read
  · rename_i c tail reached
    have past := Json.length_lt_of_skipSpace reached
    split at read
    · split at read
      · cases read
      · rename_i found
        cases read
        have taken := Json.length_readString_lt found
        omega
    · unfold refuse at read
      split at read <;> cases read

theorem length_readOptionalText_lt {text rest : List Char} {content : Option String}
    (read : readOptionalText text = .ok (content, rest)) : rest.length < text.length := by
  unfold readOptionalText at read
  split at read
  · rename_i tail reached
    have past := Json.length_lt_of_skipSpace reached
    split at read
    · cases read
    · rename_i word
      cases read
      have taken := Json.length_readWord_le word
      omega
  · obtain ⟨pair, found, same⟩ := Json.exists_of_map_ok read
    simp only [Prod.mk.injEq] at same
    obtain ⟨_, rfl⟩ := same
    exact length_readText_lt found

theorem length_readStamp_lt {text rest : List Char} {stamp : Option Stamp}
    (read : readStamp text = .ok (stamp, rest)) : rest.length < text.length := by
  unfold readStamp at read
  split at read
  · cases read
  · rename_i c tail reached
    have past := Json.length_lt_of_skipSpace reached
    split at read
    · obtain ⟨pair, found, same⟩ := Json.exists_of_map_ok read
      simp only [Prod.mk.injEq] at same
      obtain ⟨_, rfl⟩ := same
      have taken := Json.length_readString_lt found
      omega
    · split at read
      · obtain ⟨pair, found, same⟩ := Json.exists_of_map_ok read
        simp only [Prod.mk.injEq] at same
        obtain ⟨_, rfl⟩ := same
        have taken := Json.Amount.length_read_lt found
        rw [List.length_cons] at taken
        omega
      · obtain ⟨after, found, same⟩ := Json.exists_of_map_ok read
        simp only [Prod.mk.injEq] at same
        obtain ⟨_, rfl⟩ := same
        have taken := Json.length_skipValue_lt found
        rw [List.length_cons] at taken
        omega

theorem length_readField_lt {draft : Draft} {field : Field} {text rest : List Char}
    {result : Except Mismatch Draft} (read : draft.readField field text = .ok (result, rest)) :
    rest.length < text.length := by
  have optional : ∀ {place : Option String → Draft},
      Draft.fill place (readOptionalText text) = .ok (result, rest) →
      rest.length < text.length := by
    intro place filled
    obtain ⟨value, found⟩ := Draft.exists_of_fill_ok filled
    exact length_readOptionalText_lt found
  cases field with
  | typeName =>
      obtain ⟨value, found⟩ := Draft.exists_of_fill_ok read
      exact length_readText_lt found
  | timestamp =>
      unfold Draft.readField at read
      simp only at read
      split at read
      · cases read
      · rename_i found
        cases read
        exact length_readStamp_lt found
      · rename_i found
        cases read
        exact length_readStamp_lt found
  | stepKey => exact optional read
  | eventType => exact optional read
  | message => exact optional read
  | level => exact optional read

theorem length_readMember_lt {draft : Draft} {field : Option Field} {text rest : List Char}
    {result : Except Mismatch Draft} (read : readMember draft field text = .ok (result, rest)) :
    rest.length < text.length := by
  unfold readMember at read
  split at read
  · exact length_readField_lt read
  · split at read
    · cases read
    · rename_i found
      cases read
      exact Json.length_skipValue_lt found

/-- Reads the members of an object into a draft, up to the closing brace. -/
def readMembers (first : Bool) (draft : Draft) (text : List Char) :
    Except Stop (Except Mismatch Draft × List Char) :=
  match _keyed : nextKey first text with
  | .error fault => .error (.flaw fault)
  | .ok (none, rest) => .ok (.ok draft, rest)
  | .ok (some key, rest) =>
      let field := Field.ofKey? key
      -- A second value of a field is not even looked at.
      if field.any draft.has then
        .ok (.error (.repeated (field.getD .typeName)), rest)
      else
        match _colon : Json.skipColon rest with
        | .error fault => .error (.flaw fault)
        | .ok after =>
            match _member : readMember draft field after with
            | .error stop => .error stop
            | .ok (.error mismatch, beyond) => .ok (.error mismatch, beyond)
            | .ok (.ok draft, beyond) => readMembers false draft beyond
termination_by text.length
decreasing_by
  have first := length_nextKey_lt _keyed
  have second := Json.length_skipColon_lt _colon
  have third := length_readMember_lt _member
  omega

/-- Closes an object. The rest is where the reader stands whether or not that goes well. -/
def closeObject (text : List Char) : Except Fault Unit × List Char :=
  match Json.skipSpace text with
  | [] => (.error (Flaw.endOfObject.before []), [])
  | '}' :: rest => (.ok (), rest)
  | ',' :: rest => (.error (Flaw.trailingComma.at (',' :: rest)), ',' :: rest)
  | rest => (.error (Flaw.trailingCharacters.at rest), rest)

/-! ## The list form -/

/-- Says whether a list goes on, and stands before its next element or its closing bracket. -/
def nextElement (first : Bool) (text : List Char) : Except Fault (Bool × List Char) :=
  match Json.skipSpace text with
  | [] => .error (Flaw.endOfList.before [])
  | c :: rest =>
      if c = ']' then .ok (false, c :: rest)
      else if first then .ok (true, c :: rest)
      else if c = ',' then
        match Json.afterComma .full ']' rest with
        | .error fault => .error fault
        | .ok [] => .error (Flaw.endOfValue.before [])
        | .ok after => .ok (true, after)
      else .error (Flaw.expectedListEnd.at (c :: rest))

/-- Reads the elements of a list into the given fields of a draft, `count` of which were read. -/
def readElements (count : Nat) (draft : Draft) (text : List Char) :
    List Field → Except Stop (Except Mismatch Draft × List Char)
  | [] => .ok (.ok draft, text)
  | field :: fields =>
      match nextElement (count == 0) text with
      | .error fault => .error (.flaw fault)
      | .ok (false, rest) => .ok (.error (.tooShort count), rest)
      | .ok (true, rest) =>
          match draft.readField field rest with
          | .error stop => .error stop
          | .ok (.error mismatch, after) => .ok (.error mismatch, after)
          | .ok (.ok draft, after) => readElements (count + 1) draft after fields

/-- Closes a list. The rest is where the reader stands whether or not that goes well. -/
def closeList (text : List Char) : Except Fault Unit × List Char :=
  match Json.skipSpace text with
  | [] => (.error (Flaw.endOfList.before []), [])
  | ']' :: rest => (.ok (), rest)
  | ',' :: rest =>
      match Json.skipSpace rest with
      | ']' :: after => (.error (Flaw.trailingComma.at (']' :: after)), ']' :: after)
      | after => (.error (Flaw.trailingCharacters.at after), after)
  | rest => (.error (Flaw.trailingCharacters.at rest), rest)

/-! ## Records -/

/-- Closes a record. A mismatch of the record goes before a flaw of its end, but is reported
    there. -/
def closeRecord (result : Except Mismatch Fields) (closed : Except Fault Unit × List Char) :
    Except Stop (Fields × List Char) :=
  match result, closed with
  | .error mismatch, (_, rest) => .error (.mismatch mismatch (Text.byteSize rest))
  | .ok _, (.error fault, _) => .error (.flaw fault)
  | .ok fields, (.ok (), rest) => .ok (fields, rest)

/-- Reads a record in either form. -/
def readFields (text : List Char) : Except Stop (Fields × List Char) :=
  match Json.skipSpace text with
  | [] => .error (.flaw (Flaw.endOfValue.before []))
  | '{' :: rest =>
      match readMembers true {} rest with
      | .error stop => .error stop
      | .ok (result, after) => closeRecord (result.bind Draft.complete) (closeObject after)
  | '[' :: rest =>
      match readElements 0 {} rest Field.all with
      | .error stop => .error stop
      | .ok (result, after) => closeRecord (result.bind Draft.complete) (closeList after)
  | rest => refuse .notRecord rest

/-- Reads a text that holds one record and nothing else. -/
def readRecord (text : List Char) : Except Stop Fields :=
  match readFields text with
  | .error stop => .error stop
  | .ok (fields, rest) =>
      match Json.skipSpace rest with
      | [] => .ok fields
      | rest => .error (.flaw (Flaw.trailingCharacters.at rest))

end EventLog
