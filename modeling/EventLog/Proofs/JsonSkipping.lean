import EventLog.Proofs.JsonReading

/-!
# Passing over written values

A value that is not wanted is passed over to its end, however deeply it is nested
(`skipValue_text`). The reader keeps a stack of what is open, so a list or an object is followed
through what is left of it behind each of its elements (`remainder`).
-/

namespace EventLog.Json

/-! ## Steps of the reader -/

theorem mayOpen_outline (frames : List Frame) : mayOpen .outline frames = true := rfl

theorem afterComma_outline (close : Char) (text : List Char) :
    afterComma .outline close text = .ok (skipSpace text) := by
  unfold afterComma
  split
  · rename_i reached
    simp [reached]
  · rename_i nothing
    rw [nothing]

theorem skipSpace_quoted (pieces : List Piece) (rest : List Char) :
    skipSpace (quoted pieces ++ rest) = quoted pieces ++ rest :=
  skipSpace_cons (by decide) _

theorem skipColon_space (space : Space) (rest : List Char) :
    skipColon (space.text ++ ':' :: rest) = .ok rest := by
  have reached : skipSpace (space.text ++ ':' :: rest) = ':' :: rest := by
    rw [skipSpace_append, skipSpace_cons (by decide)]
  simp only [skipColon, reached]

theorem skipKey_quoted (key : List Piece) (space : Space) (rest : List Char) :
    skipKey .outline (quoted key ++ (space.text ++ ':' :: rest)) = .ok rest := by
  obtain ⟨content, read⟩ := readString_outline key (space.text ++ ':' :: rest)
  rw [quoted, List.append_assoc, List.cons_append, List.singleton_append, skipKey, read]
  exact skipColon_space space rest

section Steps

variable {frames : List Frame} {text rest : List Char}

theorem skipValue_scalar {c : Char} {after : List Char} (reached : skipSpace text = c :: rest)
    (notList : c ≠ '[') (notObject : c ≠ '{')
    (scalar : skipScalar .outline (c :: rest) = .ok after) :
    skipValue .outline frames text = skipRest .outline frames after := by
  rw [skipValue]
  split <;> rename_i same <;> rw [reached] at same <;> cases same
  rw [if_neg notList, if_neg notObject]
  split <;> rename_i same <;> rw [scalar] at same <;> cases same
  rfl

theorem skipValue_emptyList {after : List Char} (reached : skipSpace text = '[' :: rest)
    (closed : skipSpace rest = ']' :: after) :
    skipValue .outline frames text = skipRest .outline frames after := by
  rw [skipValue]
  split <;> rename_i same <;> rw [reached] at same <;> cases same
  rw [if_pos rfl, if_pos (mayOpen_outline frames)]
  split <;> simp_all

theorem skipValue_list {c : Char} {inner : List Char} (reached : skipSpace text = '[' :: rest)
    (opened : skipSpace rest = c :: inner) (filled : c ≠ ']') :
    skipValue .outline frames text = skipValue .outline (.list :: frames) (c :: inner) := by
  rw [skipValue]
  split <;> rename_i same <;> rw [reached] at same <;> cases same
  rw [if_pos rfl, if_pos (mayOpen_outline frames)]
  split
  · rename_i nothing
    rw [opened] at nothing
    cases nothing
  · rename_i after closed
    rw [opened] at closed
    cases closed
    exact absurd rfl filled
  · rw [opened]

theorem skipValue_emptyObject {after : List Char} (reached : skipSpace text = '{' :: rest)
    (closed : skipSpace rest = '}' :: after) :
    skipValue .outline frames text = skipRest .outline frames after := by
  rw [skipValue]
  split <;> rename_i same <;> rw [reached] at same <;> cases same
  rw [if_neg (by decide), if_pos rfl, if_pos (mayOpen_outline frames)]
  split <;> simp_all

theorem skipValue_object {key : List Piece} {space : Space} {after : List Char}
    (reached : skipSpace text = '{' :: rest)
    (opened : skipSpace rest = quoted key ++ (space.text ++ ':' :: after)) :
    skipValue .outline frames text = skipValue .outline (.object :: frames) after := by
  have keyed := skipKey_quoted key space after
  rw [skipValue]
  split <;> rename_i same <;> rw [reached] at same <;> cases same
  rw [if_neg (by decide), if_pos rfl, if_pos (mayOpen_outline frames)]
  split
  · rename_i nothing
    rw [opened] at nothing
    cases nothing
  · rename_i other closed
    rw [opened] at closed
    cases closed
  · split <;> rename_i same <;> rw [opened, keyed] at same <;> cases same
    rfl

theorem skipRest_list_comma (reached : skipSpace text = ',' :: rest) :
    skipRest .outline (.list :: frames) text =
      skipValue .outline (.list :: frames) (skipSpace rest) := by
  rw [skipRest]
  split <;> rename_i same <;> rw [reached] at same <;> cases same
  rw [if_pos rfl]
  split <;> rename_i same <;> rw [afterComma_outline] at same <;> cases same
  rfl

theorem skipRest_list_end (reached : skipSpace text = ']' :: rest) :
    skipRest .outline (.list :: frames) text = skipRest .outline frames rest := by
  rw [skipRest]
  split <;> rename_i same <;> rw [reached] at same <;> cases same
  rw [if_neg (by decide), if_pos rfl]

theorem skipRest_object_comma {key : List Piece} {space : Space} {after : List Char}
    (reached : skipSpace text = ',' :: rest)
    (opened : skipSpace rest = quoted key ++ (space.text ++ ':' :: after)) :
    skipRest .outline (.object :: frames) text = skipValue .outline (.object :: frames) after := by
  have keyed := skipKey_quoted key space after
  rw [skipRest]
  split <;> rename_i same <;> rw [reached] at same <;> cases same
  rw [if_pos rfl]
  split <;> rename_i same <;> rw [afterComma_outline] at same <;> cases same
  split <;> rename_i same <;> rw [opened, keyed] at same <;> cases same
  rfl

theorem skipRest_object_end (reached : skipSpace text = '}' :: rest) :
    skipRest .outline (.object :: frames) text = skipRest .outline frames rest := by
  rw [skipRest]
  split <;> rename_i same <;> rw [reached] at same <;> cases same
  rw [if_neg (by decide), if_pos rfl]

end Steps

/-! ## Whole values -/

theorem skipSpace_remainder {close : Char} (closes : close = ']' ∨ close = '}')
    (rest : List Char) (texts : List (List Char)) :
    skipSpace (remainder close rest texts) = remainder close rest texts := by
  cases texts with
  | nil => obtain rfl | rfl := closes <;> exact skipSpace_cons (by decide) _
  | cons text texts => exact skipSpace_cons (by decide) _

theorem EndsNumber.remainder {close : Char} (closes : close = ']' ∨ close = '}')
    (rest : List Char) (texts : List (List Char)) :
    EndsNumber (Json.remainder close rest texts) := by
  cases texts with
  | nil => obtain rfl | rfl := closes <;> exact .cons (by decide) _
  | cons text texts => exact .cons (by decide) _

theorem skipScalar_number (literal : Literal) {rest : List Char} (ends : EndsNumber rest) :
    skipScalar .outline (literal.text ++ rest) = .ok rest := by
  have read := Numeral.read_text literal ends .outline
  obtain ⟨c, later, begins, first⟩ := literal.exists_cons
  have other : ∀ d, d.isDigit = false → d ≠ '-' → c ≠ d := by
    rintro d notDigit notMinus rfl
    simp [notDigit, notMinus] at first
  rw [begins, List.cons_append] at read ⊢
  simp [skipScalar, other, first, read, Except.map]

theorem skipValue_string {frames : List Frame} {pieces : List Piece} {text rest : List Char}
    (reached : skipSpace text = quoted pieces ++ rest) :
    skipValue .outline frames text = skipRest .outline frames rest := by
  obtain ⟨content, read⟩ := readString_outline pieces rest
  rw [quoted, List.append_assoc, List.cons_append, List.singleton_append] at reached
  apply skipValue_scalar reached (by decide) (by decide)
  simp [skipScalar, read, Except.map]

theorem skipValue_number {frames : List Frame} {literal : Literal} {text rest : List Char}
    (reached : skipSpace text = literal.text ++ rest) (ends : EndsNumber rest) :
    skipValue .outline frames text = skipRest .outline frames rest := by
  have read := skipScalar_number literal ends
  obtain ⟨c, later, begins, first⟩ := literal.exists_cons
  rw [begins, List.cons_append] at reached read
  apply skipValue_scalar reached ?_ ?_ read
  all_goals
    rintro rfl
    simp at first

theorem Value.skipSpace_text (value : Value) (rest : List Char) :
    skipSpace (value.text ++ rest) = value.text ++ rest := by
  obtain ⟨c, later, begins, ink, _⟩ := value.exists_cons
  rw [begins, List.cons_append, skipSpace_cons ink]

mutual

/-- A value that is not wanted is passed over to its end. -/
theorem skipValue_text (value : Value) {frames : List Frame} {text rest : List Char}
    (reached : skipSpace text = value.text ++ rest) (ends : EndsNumber rest) :
    skipValue .outline frames text = skipRest .outline frames rest := by
  cases value with
  | null =>
      exact skipValue_scalar reached (by decide) (by decide) (readWord_append ['u', 'l', 'l'] rest)
  | boolean value =>
      cases value with
      | true =>
          exact skipValue_scalar reached (by decide) (by decide)
            (readWord_append ['r', 'u', 'e'] rest)
      | false =>
          exact skipValue_scalar reached (by decide) (by decide)
            (readWord_append ['a', 'l', 's', 'e'] rest)
  | string pieces =>
      rw [Value.text] at reached
      exact skipValue_string reached
  | number literal =>
      rw [Value.text] at reached
      exact skipValue_number reached ends
  | list space elements =>
      cases elements with
      | nil =>
          rw [Value.text_list_nil] at reached
          exact skipValue_emptyList reached (by rw [skipSpace_append, skipSpace_cons (by decide)])
      | cons element elements =>
          obtain ⟨before, value, after⟩ := element
          -- An element follows the bracket, as the value does not begin with the closing one.
          obtain ⟨c, later, begins, _, filled⟩ := value.exists_cons
          have opened (rest : List Char) :
              skipSpace (space.text ++ (before.text ++ (value.text ++ rest))) =
                value.text ++ rest := by
            rw [skipSpace_append, skipSpace_append, value.skipSpace_text]
          rw [Value.text_list_cons, Padded.text_append] at reached
          rw [← skipRest_elements elements frames after rest]
          simp only [begins, List.cons_append] at reached opened
          rw [skipValue_list reached (opened _) filled]
          apply skipValue_text value
          · rw [← List.cons_append, ← begins, value.skipSpace_text]
          · exact (EndsNumber.remainder (.inl rfl) _ _).space_append after
  | object object =>
      obtain ⟨space, members⟩ := object
      cases members with
      | nil =>
          rw [Value.text, Object.text_nil] at reached
          exact skipValue_emptyObject reached (by rw [skipSpace_append, skipSpace_cons (by decide)])
      | cons member members =>
          obtain ⟨before, key, beforeColon, ⟨beforeValue, value, after⟩⟩ := member
          rw [Value.text, Object.text_cons, Member.text_append, Padded.text_append] at reached
          have opened (rest : List Char) :
              skipSpace (space.text ++ (before.text ++ (quoted key ++ rest))) =
                quoted key ++ rest := by
            rw [skipSpace_append, skipSpace_append, skipSpace_quoted]
          rw [skipValue_object reached (opened _), ← skipRest_members members frames after rest]
          apply skipValue_text value
          · rw [skipSpace_append, value.skipSpace_text]
          · exact (EndsNumber.remainder (.inr rfl) _ _).space_append after

theorem skipRest_elements (elements : List Padded) (frames : List Frame) (space : Space)
    (rest : List Char) :
    skipRest .outline (.list :: frames)
      (space.text ++ remainder ']' rest (elementTexts elements)) =
        skipRest .outline frames rest := by
  have reached : skipSpace (space.text ++ remainder ']' rest (elementTexts elements)) =
      remainder ']' rest (elementTexts elements) := by
    rw [skipSpace_append, skipSpace_remainder (.inl rfl)]
  cases elements with
  | nil => exact skipRest_list_end reached
  | cons element elements =>
      obtain ⟨before, value, after⟩ := element
      rw [skipRest_list_comma reached, ← skipRest_elements elements frames after rest]
      apply skipValue_text value
      · rw [Padded.text_append, skipSpace_append, value.skipSpace_text, value.skipSpace_text]
      · exact (EndsNumber.remainder (.inl rfl) _ _).space_append after

theorem skipRest_members (members : List Member) (frames : List Frame) (space : Space)
    (rest : List Char) :
    skipRest .outline (.object :: frames)
      (space.text ++ remainder '}' rest (memberTexts members)) =
        skipRest .outline frames rest := by
  have reached : skipSpace (space.text ++ remainder '}' rest (memberTexts members)) =
      remainder '}' rest (memberTexts members) := by
    rw [skipSpace_append, skipSpace_remainder (.inr rfl)]
  cases members with
  | nil => exact skipRest_object_end reached
  | cons member members =>
      obtain ⟨before, key, beforeColon, ⟨beforeValue, value, after⟩⟩ := member
      have opened (rest : List Char) :
          skipSpace (before.text ++ (quoted key ++ rest)) = quoted key ++ rest := by
        rw [skipSpace_append, skipSpace_quoted]
      rw [memberTexts, remainder, Member.text_append, Padded.text_append] at reached ⊢
      rw [skipRest_object_comma reached (opened _), ← skipRest_members members frames after rest]
      apply skipValue_text value
      · rw [skipSpace_append, value.skipSpace_text]
      · exact (EndsNumber.remainder (.inr rfl) _ _).space_append after

end

end EventLog.Json
