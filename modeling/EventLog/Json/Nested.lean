import EventLog.Json.Numeral

/-!
# Passing over values

A value whose contents are not wanted is passed over with a stack of the lists and objects that
are open around it. `skipValue` stands before a value and `skipRest` behind one; each call takes at
least one character, so nesting has no bound of its own. Where a value is read in full its
brackets may be nested only so deep.
-/

namespace EventLog.Json

/-- What a bracket has opened. -/
inductive Frame where
  | list
  | object
deriving DecidableEq, Repr

/-- The number of brackets that may be open at once in a value that is read in full. -/
def nestingLimit : Nat := 126

def mayOpen (care : Care) (opened : List Frame) : Bool :=
  care = .outline || opened.length < nestingLimit

def skipColon (text : List Char) : Except Fault (List Char) :=
  match skipSpace text with
  | [] => .error (Flaw.endOfObject.before [])
  | ':' :: rest => .ok rest
  | rest => .error (Flaw.expectedColon.at rest)

/-- Passes over a key and its colon. -/
def skipKey (care : Care) (text : List Char) : Except Fault (List Char) :=
  match text with
  | '"' :: rest =>
      match readString care rest with
      | .error fault => .error fault
      | .ok (_, after) => skipColon after
  | [] => .error (if care = .full then Flaw.endOfValue.before [] else Flaw.endOfObject.before [])
  | rest => .error (Flaw.keyNotString.at rest)

/-- Passes over a value that is neither a list nor an object. -/
def skipScalar (care : Care) (text : List Char) : Except Fault (List Char) :=
  match text with
  | [] => .error (Flaw.endOfValue.before [])
  | c :: rest =>
      if c = 'n' then readWord ['u', 'l', 'l'] rest
      else if c = 't' then readWord ['r', 'u', 'e'] rest
      else if c = 'f' then readWord ['a', 'l', 's', 'e'] rest
      else if c = '"' then (readString care rest).map Prod.snd
      else if c = '-' ∨ c.isDigit then
        match care with
        | .full => (Amount.read (c :: rest)).map Prod.snd
        | .outline => (Numeral.read .outline (c :: rest)).map Prod.snd
      else .error (Flaw.expectedValue.at (c :: rest))

/-- The text after a comma. Where a value is read in full, the end of what was open must not
    follow. -/
def afterComma (care : Care) (close : Char) (text : List Char) : Except Fault (List Char) :=
  match skipSpace text with
  | c :: rest =>
      if care = .full ∧ c = close then .error (Flaw.trailingComma.at (c :: rest))
      else .ok (c :: rest)
  | [] => .ok []

/-! ## Lengths -/

theorem length_skipColon_lt {text rest : List Char} (read : skipColon text = .ok rest) :
    rest.length < text.length := by
  unfold skipColon at read
  split at read
  · cases read
  · rename_i reached
    cases read
    exact length_lt_of_skipSpace reached
  · cases read

theorem length_skipKey_lt {care : Care} {text rest : List Char}
    (read : skipKey care text = .ok rest) : rest.length < text.length := by
  unfold skipKey at read
  split at read
  · split at read
    · cases read
    · rename_i found
      have first := length_readString_lt found
      have second := length_skipColon_lt read
      simp only [List.length_cons]
      omega
  · cases read
  · cases read

theorem length_skipScalar_lt {care : Care} {text rest : List Char}
    (read : skipScalar care text = .ok rest) : rest.length < text.length := by
  unfold skipScalar at read
  split at read
  · cases read
  · rename_i c after
    split at read
    · exact Nat.lt_succ_of_le (length_readWord_le read)
    · split at read
      · exact Nat.lt_succ_of_le (length_readWord_le read)
      · split at read
        · exact Nat.lt_succ_of_le (length_readWord_le read)
        · split at read
          · obtain ⟨pair, found, rfl⟩ := exists_of_map_ok read
            exact Nat.lt_succ_of_lt (length_readString_lt found)
          · split at read
            · split at read
              · obtain ⟨pair, found, rfl⟩ := exists_of_map_ok read
                exact Amount.length_read_lt found
              · obtain ⟨pair, found, rfl⟩ := exists_of_map_ok read
                exact Numeral.length_read_lt found
            · cases read

theorem length_afterComma_le {care : Care} {close : Char} {text rest : List Char}
    (read : afterComma care close text = .ok rest) : rest.length ≤ text.length := by
  have spaces := length_skipSpace_le text
  unfold afterComma at read
  split at read
  · rename_i reached
    split at read
    · cases read
    · cases read
      rw [reached] at spaces
      exact spaces
  · cases read
    exact Nat.zero_le _

/-! ## Values -/

mutual

/-- Passes over a value and the rest of what is open around it. -/
def skipValue (care : Care) (frames : List Frame) (text : List Char) :
    Except Fault (List Char) :=
  match _space : skipSpace text with
  | [] => .error (Flaw.endOfValue.before [])
  | c :: rest =>
      if c = '[' then
        if mayOpen care frames then
          match _inner : skipSpace rest with
          | [] => .error (Flaw.endOfList.before [])
          | ']' :: after => skipRest care frames after
          | inner => skipValue care (.list :: frames) inner
        else
          .error (Flaw.nestedTooDeeply.at (c :: rest))
      else if c = '{' then
        if mayOpen care frames then
          match _inner : skipSpace rest with
          | [] => .error (Flaw.endOfObject.before [])
          | '}' :: after => skipRest care frames after
          | inner =>
              match _key : skipKey care inner with
              | .error fault => .error fault
              | .ok after => skipValue care (.object :: frames) after
        else
          .error (Flaw.nestedTooDeeply.at (c :: rest))
      else
        match _scalar : skipScalar care (c :: rest) with
        | .error fault => .error fault
        | .ok after => skipRest care frames after
termination_by text.length
decreasing_by
  all_goals
    have past := length_lt_of_skipSpace _space
  · -- Behind an empty list.
    have within := length_lt_of_skipSpace _inner
    omega
  · -- The first element of a list.
    have within := length_skipSpace_le rest
    rw [_inner] at within
    omega
  · -- Behind an empty object.
    have within := length_lt_of_skipSpace _inner
    omega
  · -- The first value of an object.
    have within := length_skipSpace_le rest
    have beyond := length_skipKey_lt _key
    rw [_inner] at within
    omega
  · -- Behind a scalar.
    have beyond := length_skipScalar_lt _scalar
    simp only [List.length_cons] at beyond
    omega

/-- Passes over what is still open behind a value. -/
def skipRest (care : Care) (frames : List Frame) (text : List Char) :
    Except Fault (List Char) :=
  match frames with
  | [] => .ok text
  | .list :: outer =>
      match _space : skipSpace text with
      | [] => .error (Flaw.endOfList.before [])
      | c :: rest =>
          if c = ',' then
            match _comma : afterComma care ']' rest with
            | .error fault => .error fault
            | .ok after => skipValue care (.list :: outer) after
          else if c = ']' then skipRest care outer rest
          else .error (Flaw.expectedListEnd.at (c :: rest))
  | .object :: outer =>
      match _space : skipSpace text with
      | [] => .error (Flaw.endOfObject.before [])
      | c :: rest =>
          if c = ',' then
            match _comma : afterComma care '}' rest with
            | .error fault => .error fault
            | .ok inner =>
                match _key : skipKey care inner with
                | .error fault => .error fault
                | .ok after => skipValue care (.object :: outer) after
          else if c = '}' then skipRest care outer rest
          else .error (Flaw.expectedObjectEnd.at (c :: rest))
termination_by text.length
decreasing_by
  all_goals
    have past := length_lt_of_skipSpace _space
  · -- The next element of a list.
    have beyond := length_afterComma_le _comma
    omega
  · -- Behind a list.
    omega
  · -- The next value of an object.
    have beyond := length_afterComma_le _comma
    have further := length_skipKey_lt _key
    omega
  · -- Behind an object.
    omega

end

/-! ## Progress -/

section

variable {care : Care} {frames outer : List Frame} {text tail rest : List Char} {c : Char}

/-- Further on in the text, something is passed over up to the same end: a value, or what is open
    behind one. -/
inductive GoesOn (care : Care) (text rest : List Char) : Prop
  | value {frames : List Frame} {inner : List Char} (shorter : inner.length < text.length)
      (read : skipValue care frames inner = .ok rest) : GoesOn care text rest
  | rest {frames : List Frame} {after : List Char} (shorter : after.length < text.length)
      (read : skipRest care frames after = .ok rest) : GoesOn care text rest

theorem goesOn_of_list (reached : skipSpace text = '[' :: tail)
    (read : skipValue care frames text = .ok rest) : GoesOn care text rest := by
  have past := length_lt_of_skipSpace reached
  have within := length_skipSpace_le tail
  rw [skipValue] at read
  split at read <;> rename_i same <;> rw [reached] at same <;> cases same
  rw [if_pos rfl] at read
  split at read
  · split at read
    · cases read
    · rename_i closed
      have further := length_lt_of_skipSpace closed
      exact .rest (by omega) read
    · exact .value (by omega) read
  · cases read

theorem goesOn_of_object (reached : skipSpace text = '{' :: tail)
    (read : skipValue care frames text = .ok rest) : GoesOn care text rest := by
  have past := length_lt_of_skipSpace reached
  have within := length_skipSpace_le tail
  rw [skipValue] at read
  split at read <;> rename_i same <;> rw [reached] at same <;> cases same
  rw [if_neg (by decide), if_pos rfl] at read
  split at read
  · split at read
    · cases read
    · rename_i closed
      have further := length_lt_of_skipSpace closed
      exact .rest (by omega) read
    · split at read
      · cases read
      · rename_i keyed
        have beyond := length_skipKey_lt keyed
        exact .value (by omega) read
  · cases read

theorem goesOn_of_scalar (reached : skipSpace text = c :: tail) (notList : c ≠ '[')
    (notObject : c ≠ '{') (read : skipValue care frames text = .ok rest) :
    GoesOn care text rest := by
  have past := length_lt_of_skipSpace reached
  rw [skipValue] at read
  split at read <;> rename_i same <;> rw [reached] at same <;> cases same
  rw [if_neg notList, if_neg notObject] at read
  split at read
  · cases read
  · rename_i scalar
    have beyond := length_skipScalar_lt scalar
    rw [List.length_cons] at beyond
    exact .rest (by omega) read

/-- One step of passing over a value. -/
theorem goesOn_of_skipValue (read : skipValue care frames text = .ok rest) :
    GoesOn care text rest := by
  cases reached : skipSpace text with
  | nil =>
      rw [skipValue] at read
      split at read <;> rename_i same <;> rw [reached] at same <;> cases same
      cases read
  | cons c tail =>
      by_cases list : c = '['
      · exact goesOn_of_list (list ▸ reached) read
      · by_cases object : c = '{'
        · exact goesOn_of_object (object ▸ reached) read
        · exact goesOn_of_scalar reached list object read

theorem goesOn_of_openList (read : skipRest care (.list :: outer) text = .ok rest) :
    GoesOn care text rest := by
  rw [skipRest] at read
  split at read
  · cases read
  · rename_i reached
    have past := length_lt_of_skipSpace reached
    split at read
    · split at read
      · cases read
      · rename_i comma
        have beyond := length_afterComma_le comma
        exact .value (by omega) read
    · split at read
      · exact .rest past read
      · cases read

theorem goesOn_of_openObject (read : skipRest care (.object :: outer) text = .ok rest) :
    GoesOn care text rest := by
  rw [skipRest] at read
  split at read
  · cases read
  · rename_i reached
    have past := length_lt_of_skipSpace reached
    split at read
    · split at read
      · cases read
      · rename_i comma
        have beyond := length_afterComma_le comma
        split at read
        · cases read
        · rename_i keyed
          have further := length_skipKey_lt keyed
          exact .value (by omega) read
    · split at read
      · exact .rest past read
      · cases read

/-- One step of passing over what is open behind a value. -/
theorem goesOn_of_skipRest {frame : Frame}
    (read : skipRest care (frame :: outer) text = .ok rest) : GoesOn care text rest := by
  cases frame with
  | list => exact goesOn_of_openList read
  | object => exact goesOn_of_openObject read

/-- A value takes at least one character of the text, and what is open behind one may take none. -/
theorem length_skip (frames : List Frame) (text rest : List Char) :
    (skipValue care frames text = .ok rest → rest.length < text.length) ∧
      (skipRest care frames text = .ok rest → rest.length ≤ text.length) := by
  induction measured : text.length using Nat.strongRecOn generalizing frames text with
  | ind length ih =>
      subst measured
      have taken : GoesOn care text rest → rest.length < text.length := by
        rintro (⟨shorter, read⟩ | ⟨shorter, read⟩)
        · exact Nat.lt_trans ((ih _ shorter _ _ rfl).1 read) shorter
        · exact Nat.lt_of_le_of_lt ((ih _ shorter _ _ rfl).2 read) shorter
      refine ⟨fun read => taken (goesOn_of_skipValue read), fun read => ?_⟩
      cases frames with
      | nil =>
          rw [skipRest] at read
          cases read
          exact Nat.le_refl _
      | cons frame outer => exact Nat.le_of_lt (taken (goesOn_of_skipRest read))

theorem length_skipValue_lt (read : skipValue care frames text = .ok rest) :
    rest.length < text.length :=
  (length_skip frames text rest).1 read

end

end EventLog.Json
