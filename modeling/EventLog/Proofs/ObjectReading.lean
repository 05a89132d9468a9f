import EventLog.LogText
import EventLog.Proofs.FieldReading

/-!
# Reading objects

An object is read into a draft member by member, wherever the spaces are
(`outcome_readMembers_object`). A line that holds an object is read as the record of that draft
(`toOption_parseRecord`).
-/

namespace EventLog

open Json (Datum Piece Space Value Member EndsNumber remainder memberTexts)
open Text (AllBlank)

/-! ## Members -/

def Draft.take? (draft : Draft) (entry : String × Datum) : Option Draft :=
  match Field.ofKey? entry.1 with
  | none => some draft
  | some field => if draft.has field then none else draft.put? field entry.2

section Members

variable {text rest : List Char}

theorem outcome_readMember (draft : Draft) (field : Option Field) (value : Value)
    (reached : Json.skipSpace text = value.text ++ rest) (ends : EndsNumber rest) :
    Draft.outcome (readMember draft field text) =
      (field.elim (some draft) (draft.put? · value.datum)).map (·, rest) := by
  cases field with
  | some field => exact Draft.outcome_readField draft field value reached ends
  | none =>
      have passed : Json.skipValue .outline [] text = .ok rest := by
        rw [Json.skipValue_text value reached ends, Json.skipRest]
      rw [readMember, passed]
      rfl

theorem toOption_key (key : List Piece) (rest : List Char) :
    (nextKey.key (Json.quoted key ++ rest)).toOption =
      (Json.decode key).map fun content => (some (String.ofList content), rest) := by
  rw [Json.quoted, List.append_assoc, List.cons_append, List.singleton_append, nextKey.key,
    if_pos rfl, Json.toOption_map, Json.toOption_readString, Option.map_map]
  rfl

theorem nextKey_first {key : List Piece} (reached : Json.skipSpace text = Json.quoted key ++ rest) :
    nextKey true text = nextKey.key (Json.quoted key ++ rest) := by
  rw [Json.quoted, List.append_assoc, List.cons_append] at reached ⊢
  unfold nextKey
  simp only [reached, if_true]
  rfl

theorem nextKey_comma {key : List Piece} {after : List Char}
    (reached : Json.skipSpace text = ',' :: after)
    (opened : Json.skipSpace after = Json.quoted key ++ rest) :
    nextKey false text = nextKey.key (Json.quoted key ++ rest) := by
  have comma : Json.afterComma .full '}' after = .ok (Json.quoted key ++ rest) := by
    rw [Json.afterComma, opened]
    rfl
  unfold nextKey
  simp only [reached, comma]
  rfl

theorem nextKey_close (first : Bool) (reached : Json.skipSpace text = '}' :: rest) :
    nextKey first text = .ok (none, '}' :: rest) := by
  unfold nextKey
  simp only [reached, if_true]

theorem outcome_readMembers_refused {first : Bool} {fault : Json.Fault}
    (refused : nextKey first text = .error fault) (draft : Draft) :
    Draft.outcome (readMembers first draft text) = none := by
  rw [readMembers]
  split <;> rename_i same <;> rw [refused] at same <;> cases same
  rfl

theorem outcome_readMembers_close {first : Bool} (closed : nextKey first text = .ok (none, rest))
    (draft : Draft) : Draft.outcome (readMembers first draft text) = some (draft, rest) := by
  rw [readMembers]
  split <;> rename_i same <;> rw [closed] at same <;> cases same
  rfl

theorem outcome_readMembers_key {first : Bool} {key : String} {after : List Char}
    (keyed : nextKey first text = .ok (some key, rest)) (colon : Json.skipColon rest = .ok after)
    (draft : Draft) :
    Draft.outcome (readMembers first draft text) =
      if (Field.ofKey? key).any draft.has then none
      else (Draft.outcome (readMember draft (Field.ofKey? key) after)).bind fun (draft, beyond) =>
        Draft.outcome (readMembers false draft beyond) := by
  rw [readMembers]
  split <;> rename_i same <;> rw [keyed] at same <;> cases same
  simp only
  split
  · rfl
  · split <;> rename_i same <;> rw [colon] at same <;> cases same
    split <;> rename_i read <;> rw [read] <;> rfl

/-- A member changes the draft by its entry. -/
theorem outcome_readMembers_member {first : Bool} {member : Member}
    (keyed : nextKey first text =
      nextKey.key (Json.quoted member.key ++
        (member.beforeColon.text ++ ':' :: (member.content.text ++ rest))))
    (ends : EndsNumber rest) (draft : Draft) :
    Draft.outcome (readMembers first draft text) =
      member.entry?.bind fun entry => (draft.take? entry).bind fun draft =>
        Draft.outcome (readMembers false draft (member.content.after.text ++ rest)) := by
  have read := toOption_key member.key
    (member.beforeColon.text ++ ':' :: (member.content.text ++ rest))
  have reached : Json.skipSpace (member.content.text ++ rest) =
      member.content.value.text ++ (member.content.after.text ++ rest) := by
    rw [Json.Padded.text_append, Json.skipSpace_append, Value.skipSpace_text]
  rw [← keyed] at read
  rw [Member.entry?]
  cases decoded : Json.decode member.key with
  | none =>
      rw [decoded] at read
      -- A key without a content ends the reading, so that no draft comes of it.
      obtain ⟨fault, refused⟩ := Json.exists_error_of_toOption read
      exact outcome_readMembers_refused refused draft
  | some content =>
      rw [decoded] at read
      rw [outcome_readMembers_key (Json.toOption_eq_some_iff.mp read) (Json.skipColon_space _ _),
        outcome_readMember draft _ _ reached (ends.space_append _)]
      simp only [Option.map_some, Option.bind_some, Draft.take?]
      cases Field.ofKey? (String.ofList content) with
      | none => rfl
      | some field =>
          simp only [Option.any_some, Option.elim_some]
          by_cases repeated : draft.has field = true
          · rw [if_pos repeated, if_pos repeated]
            rfl
          · rw [if_neg repeated, if_neg repeated]
            cases draft.put? field member.content.value.datum <;> rfl

end Members

/-- The draft that the entries of members give, one after the other. -/
def Draft.takeAll? (draft : Draft) (entries : List (String × Datum)) : Option Draft :=
  entries.foldlM Draft.take? draft

theorem Draft.bind_takeAll?_cons {α : Type} (draft : Draft) (member : Member)
    (members : List Member) (next : Draft → α) :
    ((member :: members).mapM Member.entry?).bind (fun entries =>
        (draft.takeAll? entries).map next) =
      member.entry?.bind fun entry => (draft.take? entry).bind fun draft =>
        (members.mapM Member.entry?).bind fun entries => (draft.takeAll? entries).map next := by
  rw [List.mapM_cons]
  cases member.entry? with
  | none => rfl
  | some entry =>
      simp only [Option.bind_eq_bind, Option.pure_def, Option.bind_some]
      cases members.mapM Member.entry? with
      | none => cases draft.take? entry <;> rfl
      | some entries =>
          simp only [Option.bind_some, Draft.takeAll?, List.foldlM_cons]
          cases draft.take? entry <;> rfl

/-- Behind a member, what is left of an object gives the entries of its members to the draft. -/
theorem outcome_readMembers_remainder (members : List Member) (draft : Draft) (space : Space)
    (rest : List Char) :
    Draft.outcome (readMembers false draft
        (space.text ++ remainder '}' rest (memberTexts members))) =
      (members.mapM Member.entry?).bind fun entries =>
        (draft.takeAll? entries).map (·, '}' :: rest) := by
  induction members generalizing draft space with
  | nil =>
      have closed : Json.skipSpace (space.text ++ '}' :: rest) = '}' :: rest := by
        rw [Json.skipSpace_append, Json.skipSpace_cons (by decide)]
      exact outcome_readMembers_close (nextKey_close false closed) draft
  | cons member members ih =>
      have reached (later : List Char) :
          Json.skipSpace (space.text ++ ',' :: (member.text ++ later)) =
            ',' :: (member.text ++ later) := by
        rw [Json.skipSpace_append, Json.skipSpace_cons (by decide)]
      have opened (later : List Char) :
          Json.skipSpace (member.text ++ later) = Json.quoted member.key ++
            (member.beforeColon.text ++ ':' :: (member.content.text ++ later)) := by
        rw [Member.text_append, Json.skipSpace_append, Json.skipSpace_quoted]
      rw [memberTexts, remainder, outcome_readMembers_member
        (nextKey_comma (reached _) (opened _)) (.remainder (.inr rfl) _ _),
        Draft.bind_takeAll?_cons]
      simp only [ih]

def Draft.ofObject? (object : Json.Object) : Option Draft :=
  object.entries?.bind fun entries => ({} : Draft).takeAll? entries

/-- An object is read member by member. -/
theorem outcome_readMembers_object (object : Json.Object) (rest : List Char) :
    ∃ inner, object.text ++ rest = '{' :: inner ∧
      Draft.outcome (readMembers true {} inner) =
        (Draft.ofObject? object).map (·, '}' :: rest) := by
  rw [Draft.ofObject?, Option.map_bind]
  obtain ⟨space, members⟩ := object
  cases members with
  | nil =>
      have closed : Json.skipSpace (space.text ++ '}' :: rest) = '}' :: rest := by
        rw [Json.skipSpace_append, Json.skipSpace_cons (by decide)]
      exact ⟨_, Json.Object.text_nil space rest,
        outcome_readMembers_close (nextKey_close true closed) {}⟩
  | cons member members =>
      have reached (later : List Char) :
          Json.skipSpace (space.text ++ (member.text ++ later)) = Json.quoted member.key ++
            (member.beforeColon.text ++ ':' :: (member.content.text ++ later)) := by
        rw [Json.skipSpace_append, Member.text_append, Json.skipSpace_append, Json.skipSpace_quoted]
      refine ⟨_, Json.Object.text_cons space member members rest, ?_⟩
      rw [outcome_readMembers_member (nextKey_first (reached _)) (.remainder (.inr rfl) _ _)]
      simp only [outcome_readMembers_remainder]
      exact (Draft.bind_takeAll?_cons _ member members _).symm

/-! ## Records -/

theorem toOption_closeRecord (result : Except Mismatch Fields) (rest : List Char) :
    (closeRecord result (closeObject ('}' :: rest))).toOption =
      result.toOption.map (·, rest) := by
  cases result <;> rfl

theorem toOption_readFields {text inner rest : List Char}
    (reached : Json.skipSpace text = '{' :: inner) {draft? : Option Draft}
    (read : Draft.outcome (readMembers true {} inner) = draft?.map (·, '}' :: rest)) :
    (readFields text).toOption =
      draft?.bind fun draft => draft.complete.toOption.map (·, rest) := by
  simp only [readFields, reached]
  -- The reader stops short of a draft exactly if the object gives none.
  cases found : readMembers true {} inner with
  | error stop =>
      rw [found] at read
      cases draft? with
      | none => rfl
      | some draft => cases read
  | ok pair =>
      obtain ⟨result, after⟩ := pair
      rw [found] at read
      cases result with
      | error mismatch =>
          cases draft? with
          | none => rfl
          | some draft => cases read
      | ok draft =>
          cases draft? with
          | none => cases read
          | some other =>
              cases read
              exact toOption_closeRecord _ _

/-- Nothing but spaces may stand behind a record. -/
theorem toOption_readRecord_eq (text : List Char) :
    (readRecord text).toOption =
      (readFields text).toOption.bind fun (fields, rest) =>
        if Json.skipSpace rest = [] then some fields else none := by
  unfold readRecord
  cases readFields text with
  | error stop => rfl
  | ok pair =>
      simp only [Except.toOption, Option.bind_some]
      cases Json.skipSpace pair.2 <;> rfl

/-- A text that is an object holds the fields of its draft, if those are complete. -/
theorem toOption_readRecord (object : Json.Object) :
    (readRecord object.text).toOption =
      (Draft.ofObject? object).bind fun draft => draft.complete.toOption := by
  obtain ⟨inner, begins, read⟩ := outcome_readMembers_object object []
  rw [List.append_nil] at begins
  have reached : Json.skipSpace object.text = '{' :: inner := by
    rw [begins, Json.skipSpace_cons (by decide)]
  rw [toOption_readRecord_eq, toOption_readFields reached read]
  cases Draft.ofObject? object with
  | none => rfl
  | some draft =>
      simp only [Option.bind_some]
      cases draft.complete <;> rfl

/-- The record of a draft, if the draft is complete and its time stamp stands for a time. -/
def Draft.record? (draft : Draft) : Option Record :=
  draft.complete.toOption.bind fun fields => fields.stamp.millis?.map fields.toRecord

theorem toOption_parseLine (line : Nat) (text : List Char) :
    (parseLine line text).toOption =
      (readRecord (Text.trim text)).toOption.bind fun fields =>
        fields.stamp.millis?.map fields.toRecord := by
  simp only [parseLine]
  cases readRecord (Text.trim text) with
  | error stop => rfl
  | ok fields =>
      simp only [Except.toOption, Option.bind_some]
      cases fields.stamp.millis? <;> rfl

theorem toOption_parseRecord (object : Json.Object) {before after : List Char}
    (blank : AllBlank before) (alsoBlank : AllBlank after) :
    (parseRecord (String.ofList (before ++ object.text ++ after))).toOption =
      (Draft.ofObject? object).bind Draft.record? := by
  have trimmed : Text.trim (before ++ object.text ++ after) = object.text := by
    obtain ⟨space, members⟩ := object
    exact Text.trim_append blank alsoBlank (by decide) (by decide) rfl rfl
  rw [parseRecord, String.toList_ofList, toOption_parseLine, trimmed, toOption_readRecord,
    Option.bind_assoc]
  rfl

end EventLog
