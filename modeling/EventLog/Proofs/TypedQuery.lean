import EventLog.Proofs.SpelledNames

/-!
# Typed queries

Which lists of terms can be typed. A term is typed as one word, so its value must hold no blank,
and a word of free text must not be taken for a named term (`Term.Typable`). A list of such terms
is read back from its rendered form, no other list is, and reading never gives any other
(`parseQuery_renderQuery_eq_iff`).
-/

namespace EventLog

open Text (IsWord isBlank)

/-! ## Token names -/

/-- What it takes for a text to name a token, the case of the letters from A to Z apart. -/
def IsTokenName (text : List Char) : Prop :=
  String.ofList (text.map Char.toLower) ∈ ["query", "scope", "step", "type"]

namespace Token

theorem isTokenName_iff {text : List Char} :
    IsTokenName text ↔ ∃ token, Spells spellings text token := by
  simp [IsTokenName, Spells, spellings, exists_or]

theorem ofName_eq_text_iff {name : List Char} : ofName name = .text ↔ ¬IsTokenName name := by
  rw [isTokenName_iff, not_exists, ofName_eq_text_iff_unspelled]

/-- A term is rendered with a name of its token, a word that holds no colon. -/
theorem ofName_name? {token : Token} {name : String} (named : token.name? = some name) :
    ofName name.toList = token ∧ IsWord name.toList ∧ ':' ∉ name.toList := by
  cases token <;> cases named <;> decide +kernel

theorem name?_eq_none_iff {token : Token} : token.name? = none ↔ token = .text := by
  cases token <;> simp [name?]

end Token

/-! ## Terms and words -/

namespace Term

/-- What it takes for a term to be typed: its value is of one piece, and free text neither is
    empty nor begins like a named term. -/
structure Typable (term : Term) : Prop where
  unbroken : ∀ c ∈ term.value.toList, isBlank c = false
  filled : term.token = .text → term.value ≠ ""
  free : term.token = .text → ∀ name rest, term.value.toList = name ++ ':' :: rest → ':' ∉ name →
    ¬IsTokenName name

theorem ofWord_of_not_mem {word : List Char} (whole : ':' ∉ word) :
    ofWord word = ⟨.text, String.ofList word⟩ := by
  have nothing : word.dropWhile (· != ':') = [] := by
    rw [List.dropWhile_eq_nil_iff]
    intro c present
    simpa using ne_of_mem_of_not_mem present whole
  simp [ofWord, nothing]

theorem takeWhile_append_colon {name : List Char} (first : ':' ∉ name) (rest : List Char) :
    (name ++ ':' :: rest).takeWhile (· != ':') = name := by
  have before : ∀ c ∈ name, (c != ':') = true := by
    intro c present
    simpa using ne_of_mem_of_not_mem present first
  rw [List.takeWhile_append_of_pos before, List.takeWhile_cons_of_neg (by simp), List.append_nil]

theorem dropWhile_append_colon {name : List Char} (first : ':' ∉ name) (rest : List Char) :
    (name ++ ':' :: rest).dropWhile (· != ':') = ':' :: rest := by
  have before : ∀ c ∈ name, (c != ':') = true := by
    intro c present
    simpa using ne_of_mem_of_not_mem present first
  rw [List.dropWhile_append_of_pos before, List.dropWhile_cons_of_neg (by simp)]

/-- A word is cut at its first colon. -/
theorem ofWord_append {name : List Char} (first : ':' ∉ name) (rest : List Char) :
    ofWord (name ++ ':' :: rest) =
      if Token.ofName name = .text then ⟨.text, String.ofList (name ++ ':' :: rest)⟩
      else ⟨Token.ofName name, String.ofList rest⟩ := by
  unfold ofWord
  rw [dropWhile_append_colon first, takeWhile_append_colon first]
  cases Token.ofName name <;> rfl

/-- The term of any word can be typed. -/
theorem typable_ofWord {word : List Char} (isWord : IsWord word) : (ofWord word).Typable := by
  by_cases colon : ':' ∈ word
  · obtain ⟨name, rest, rfl, first⟩ := List.eq_append_cons_of_mem colon
    rw [ofWord_append first]
    split
    · rename_i unknown
      refine ⟨by simpa using isWord.2, by simp, ?_⟩
      intro _ other later same alsoFirst
      -- There is only one first colon, so the other name is the one that the word was cut at.
      have cut := takeWhile_append_colon first rest
      rw [String.toList_ofList] at same
      rw [same, takeWhile_append_colon alsoFirst] at cut
      rw [cut]
      exact Token.ofName_eq_text_iff.mp unknown
    · rename_i known
      refine ⟨?_, fun free => absurd free known, fun free => absurd free known⟩
      intro c present
      rw [String.toList_ofList] at present
      exact isWord.2 c (List.mem_append_right _ (List.mem_cons_of_mem _ present))
  · rw [ofWord_of_not_mem colon]
    refine ⟨by simpa using isWord.2, by simpa using isWord.1, ?_⟩
    intro _ name rest same _
    rw [String.toList_ofList] at same
    exact absurd (by simp [same]) colon

theorem ofWord_render {term : Term} (typable : term.Typable) :
    ofWord term.render.toList = term := by
  obtain ⟨token, value⟩ := term
  unfold render
  cases named : token.name? with
  | some name =>
      obtain ⟨known, _, whole⟩ := Token.ofName_name? named
      have unfree : token ≠ .text := by
        intro free
        rw [free] at named
        cases named
      simp [ofWord_append whole, known, unfree]
  | none =>
      obtain rfl : token = .text := Token.name?_eq_none_iff.mp named
      by_cases colon : ':' ∈ value.toList
      · obtain ⟨name, rest, same, first⟩ := List.eq_append_cons_of_mem colon
        have unknown := Token.ofName_eq_text_iff.mpr (typable.free rfl name rest same first)
        simp only [same, ofWord_append first, unknown, if_true]
        rw [← same, String.ofList_toList]
      · simp [ofWord_of_not_mem colon]

theorem isWord_render {term : Term} (typable : term.Typable) : IsWord term.render.toList := by
  unfold render
  cases named : term.token.name? with
  | some name =>
      obtain ⟨_, ⟨_, unbroken⟩, _⟩ := Token.ofName_name? named
      refine ⟨by simp, ?_⟩
      intro c present
      simp only [String.toList_append, List.mem_append] at present
      obtain (inName | colon) | inValue := present
      · exact unbroken c inName
      · obtain rfl : c = ':' := by simpa using colon
        decide
      · exact typable.unbroken c inValue
  | none =>
      have free : term.token = .text := Token.name?_eq_none_iff.mp named
      exact ⟨by simpa using typable.filled free, typable.unbroken⟩

end Term

/-! ## Queries -/

theorem typable_of_mem_parseQuery {input : String} {term : Term}
    (present : term ∈ parseQuery input) : term.Typable := by
  obtain ⟨word, found, rfl⟩ := List.mem_map.mp present
  exact Term.typable_ofWord (Text.isWord_of_mem_words found)

theorem parseQuery_renderQuery {terms : List Term} (typable : ∀ term ∈ terms, term.Typable) :
    parseQuery (renderQuery terms) = terms := by
  have words : Text.words (renderQuery terms).toList =
      terms.map fun term => term.render.toList := by
    rw [renderQuery, String.toList_intercalate, List.map_map]
    apply Text.words_intercalate (by decide)
    intro word present
    obtain ⟨term, listed, rfl⟩ := List.mem_map.mp present
    exact Term.isWord_render (typable term listed)
  rw [parseQuery, words, List.map_map, List.map_congr_left, List.map_id]
  intro term listed
  exact Term.ofWord_render (typable term listed)

/-- Terms are read back from the query that they are rendered as exactly if each can be typed. All
    terms of a query can, so reading a query back changes nothing. -/
theorem parseQuery_renderQuery_eq_iff :
    (∀ terms, parseQuery (renderQuery terms) = terms ↔ ∀ term ∈ terms, term.Typable) ∧
      ∀ input,
        (∀ term ∈ parseQuery input, term.Typable) ∧
        parseQuery (renderQuery (parseQuery input)) = parseQuery input ∧
        renderQuery (parseQuery (renderQuery (parseQuery input))) =
          renderQuery (parseQuery input) := by
  refine ⟨fun terms => ⟨fun same term listed => ?_, parseQuery_renderQuery⟩, fun input => ?_⟩
  · rw [← same] at listed
    exact typable_of_mem_parseQuery listed
  · have typable : ∀ term ∈ parseQuery input, term.Typable := fun term present =>
      typable_of_mem_parseQuery present
    have same := parseQuery_renderQuery typable
    exact ⟨typable, same, congrArg renderQuery same⟩

/-- A named term without a value and a free text with a colon can be typed. A free text that begins
    like a named term cannot. -/
theorem parseQuery_renderQuery_eq_iff_of_colons :
    parseQuery "STEP: a:b" = [⟨.step, ""⟩, ⟨.text, "a:b"⟩] ∧
      parseQuery (renderQuery [⟨.step, ""⟩, ⟨.text, "a:b"⟩]) = [⟨.step, ""⟩, ⟨.text, "a:b"⟩] ∧
      ¬(⟨.text, "Step:x"⟩ : Term).Typable := by
  have read : parseQuery "STEP: a:b" = [⟨.step, ""⟩, ⟨.text, "a:b"⟩] := by decide +kernel
  have changed : parseQuery (renderQuery [⟨.text, "Step:x"⟩]) ≠ [⟨.text, "Step:x"⟩] := by
    decide +kernel
  obtain ⟨same, image⟩ := parseQuery_renderQuery_eq_iff
  refine ⟨read, (same _).mpr (read ▸ (image _).1), fun typable => ?_⟩
  exact changed ((same _).mpr (List.forall_mem_singleton.mpr typable))

end EventLog
