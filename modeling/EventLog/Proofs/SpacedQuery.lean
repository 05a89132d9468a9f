import EventLog.Proofs.SpelledNames
import EventLog.Proofs.TypedQuery
import Mathlib.Data.List.Forall2

/-!
# Spaced queries

How a typed query falls into terms. A text is words and gaps of blanks (`Text.Spaced`), and the
gaps count only in that they part the words: a query is read gap by gap into the terms that its
words say, one by one (`Term.SaidBy`), whatever blanks there are and how many
(`parseQuery_gap_by_gap`).
-/

namespace EventLog

/-! ## Words and gaps -/

namespace Text

theorem words_append_left {gap : List Char} (blank : AllBlank gap) (text : List Char) :
    words (gap ++ text) = words text := by
  induction gap with
  | nil => rfl
  | cons c gap ih =>
      obtain ⟨first, others⟩ := List.forall_mem_cons.mp blank
      rw [List.cons_append, words_blank_cons first, ih others]

/-- A gap of blanks parts the words before it from those after it. -/
theorem words_append_gap {gap : List Char} (some_blank : gap ≠ []) (blank : AllBlank gap)
    (before after : List Char) : words (before ++ gap ++ after) = words before ++ words after := by
  obtain ⟨c, gap, rfl⟩ := List.exists_cons_of_ne_nil some_blank
  obtain ⟨first, others⟩ := List.forall_mem_cons.mp blank
  rw [List.append_assoc, List.cons_append, words_append first, words_append_left others]

/-- What it takes for a text to consist of some words, with blanks between any two of them and
    perhaps in front and behind. -/
inductive Spaced : (text : List Char) → (words : List (List Char)) → Prop
  | gap {gap : List Char} : AllBlank gap → Spaced gap []
  | word {gap word rest : List Char} {words : List (List Char)} :
      AllBlank gap → IsWord word → (∀ c, rest.head? = some c → isBlank c = true) →
      Spaced rest words → Spaced (gap ++ word ++ rest) (word :: words)

theorem Spaced.words_eq {text : List Char} {list : List (List Char)} (spaced : Spaced text list) :
    words text = list := by
  induction spaced with
  | @gap gap blank => simpa [words_nil] using words_append_left blank []
  | @word gap word rest list blank isWord parted spaced ih =>
      rw [List.append_assoc, words_append_left blank]
      cases rest with
      | nil => rw [List.append_nil, words_of_isWord isWord, ← ih, words_nil]
      | cons c rest =>
          have first : isBlank c = true := parted c rfl
          rw [words_append first, words_of_isWord isWord, ← words_blank_cons first, ih,
            List.singleton_append]

/-- A character in front of a text makes a gap or a word longer, or begins a new word. -/
theorem Spaced.exists_cons {text : List Char} {list : List (List Char)}
    (spaced : Spaced text list) (c : Char) : ∃ list, Spaced (c :: text) list := by
  cases ink : isBlank c with
  | true =>
      have wider {gap : List Char} (blank : AllBlank gap) : AllBlank (c :: gap) :=
        List.forall_mem_cons.mpr ⟨ink, blank⟩
      cases spaced with
      | gap blank => exact ⟨_, .gap (wider blank)⟩
      | word blank isWord parted spaced => exact ⟨_, .word (wider blank) isWord parted spaced⟩
  | false =>
      have letter : IsWord [c] := ⟨List.cons_ne_nil c [], by simpa using ink⟩
      cases spaced with
      | gap blank =>
          refine ⟨_, .word allBlank_nil letter (fun d first => ?_) (.gap blank)⟩
          exact blank d (List.mem_of_mem_head? first)
      | @word gap word rest list blank isWord parted spaced =>
          cases gap with
          | nil =>
              have longer : IsWord (c :: word) :=
                ⟨List.cons_ne_nil c word, List.forall_mem_cons.mpr ⟨ink, isWord.2⟩⟩
              exact ⟨_, .word allBlank_nil longer parted spaced⟩
          | cons d gap =>
              refine ⟨_, .word allBlank_nil letter (fun e first => ?_)
                (.word blank isWord parted spaced)⟩
              cases first
              exact blank d List.mem_cons_self

/-- The words of a text are those that it consists of. -/
theorem words_eq_iff_spaced {text : List Char} {list : List (List Char)} :
    words text = list ↔ Spaced text list := by
  have parts : ∃ list, Spaced text list := by
    induction text with
    | nil => exact ⟨[], .gap allBlank_nil⟩
    | cons c text ih =>
        obtain ⟨list, spaced⟩ := ih
        exact spaced.exists_cons c
  constructor
  · rintro rfl
    obtain ⟨list, spaced⟩ := parts
    exact spaced.words_eq ▸ spaced
  · exact Spaced.words_eq

end Text

/-! ## Words and terms -/

namespace Term

/-- What it takes for a word to have the name of a token before its first colon, and the value
    behind that colon. -/
structure NamesToken (word name value : List Char) (token : Token) : Prop where
  parted : word = name ++ ':' :: value
  first : ':' ∉ name
  spelled : Spells Token.spellings name token

/-- The term that a word says: a named token with its value, or else the word itself as free
    text. -/
inductive SaidBy (word : List Char) : Term → Prop
  | named {name value : List Char} {token : Token} :
      NamesToken word name value token → SaidBy word ⟨token, String.ofList value⟩
  | free :
      (∀ name value token, ¬NamesToken word name value token) →
      SaidBy word ⟨.text, String.ofList word⟩

variable {word : List Char}

theorem ofWord_of_names {name value : List Char} {token : Token}
    (names : NamesToken word name value token) : ofWord word = ⟨token, String.ofList value⟩ := by
  have known := Token.ne_text_of_spells names.spelled
  rw [names.parted, ofWord_append names.first, (Token.ofName_eq_iff known).mpr names.spelled,
    if_neg known]

theorem ofWord_of_unnamed (unnamed : ∀ name value token, ¬NamesToken word name value token) :
    ofWord word = ⟨.text, String.ofList word⟩ := by
  by_cases colon : ':' ∈ word
  · obtain ⟨name, value, rfl, first⟩ := List.eq_append_cons_of_mem colon
    have free : Token.ofName name = .text :=
      Token.ofName_eq_text_iff_unspelled.mpr fun token spelled =>
        unnamed name value token ⟨rfl, first, spelled⟩
    rw [ofWord_append first, if_pos free]
  · exact ofWord_of_not_mem colon

/-- A word says one term. -/
theorem saidBy_iff {term : Term} : SaidBy word term ↔ ofWord word = term := by
  constructor
  · rintro (names | unnamed)
    · exact ofWord_of_names names
    · exact ofWord_of_unnamed unnamed
  · rintro rfl
    by_cases named : ∃ name value token, NamesToken word name value token
    · obtain ⟨name, value, token, names⟩ := named
      rw [ofWord_of_names names]
      exact .named names
    · have unnamed : ∀ name value token, ¬NamesToken word name value token :=
        fun name value token names => named ⟨name, value, token, names⟩
      rw [ofWord_of_unnamed unnamed]
      exact .free unnamed

end Term

/-! ## Queries -/

theorem parseQuery_eq_iff {input : String} {terms : List Term} :
    parseQuery input = terms ↔
      ∃ words, Text.Spaced input.toList words ∧ List.Forall₂ Term.SaidBy words terms := by
  have said : Term.SaidBy = fun word term => Term.ofWord word = term := by
    funext word term
    exact propext Term.saidBy_iff
  have map_iff : ∀ words, List.Forall₂ Term.SaidBy words terms ↔ words.map Term.ofWord = terms := by
    intro words
    rw [said, ← List.forall₂_map_left_iff (R := Eq), List.forall₂_eq_eq_eq]
  simp only [map_iff, ← Text.words_eq_iff_spaced, exists_eq_left', parseQuery]

/-- A query is read gap by gap: a gap of blanks parts it into two that are read apart, a word
    alone is read as the one term that it says, and all in all the terms are those that the words
    of the query say, each in its turn. So it does not matter which blanks stand between the
    words, nor how many, nor whether there are any around them. -/
theorem parseQuery_gap_by_gap :
    (∀ before gap after : String, gap ≠ "" → Text.AllBlank gap.toList →
      parseQuery (before ++ gap ++ after) = parseQuery before ++ parseQuery after) ∧
    (∀ (word : String) (terms : List Term), Text.IsWord word.toList →
      (parseQuery word = terms ↔ ∃ term, Term.SaidBy word.toList term ∧ terms = [term])) ∧
    (∀ (input : String) (terms : List Term), parseQuery input = terms ↔
      ∃ words, Text.Spaced input.toList words ∧ List.Forall₂ Term.SaidBy words terms) ∧
    ∀ (words : List (List Char)) (input other : String),
      Text.Spaced input.toList words → Text.Spaced other.toList words →
      parseQuery input = parseQuery other := by
  refine ⟨fun before gap after filled blank => ?_, fun word terms isWord => ?_,
    fun input terms => parseQuery_eq_iff, fun words input other spaced otherSpaced => ?_⟩
  · have some_blank : gap.toList ≠ [] := by simpa using filled
    rw [parseQuery, String.toList_append, String.toList_append,
      Text.words_append_gap some_blank blank, List.map_append]
    rfl
  · rw [parseQuery, Text.words_of_isWord isWord]
    simp only [Term.saidBy_iff, exists_eq_left', List.map_singleton]
    exact eq_comm
  · rw [parseQuery, spaced.words_eq, parseQuery, otherSpaced.words_eq]

/-- Two queries of the same words are read alike, a value keeps its colons, and a word that names no
    token keeps all of its own. -/
theorem parseQuery_gap_by_gap_of_wide :
    let words := ["SCOPE:a::b".toList, "host:db1".toList]
    "\u3000\t" ≠ "" ∧ Text.AllBlank "\u3000\t".toList ∧
      parseQuery ("SCOPE:a::b" ++ "\u3000\t" ++ "host:db1") =
        parseQuery "SCOPE:a::b" ++ parseQuery "host:db1" ∧
      Text.IsWord "SCOPE:a::b".toList ∧ Text.IsWord "host:db1".toList ∧
      parseQuery "SCOPE:a::b" = [⟨.scope, "a::b"⟩] ∧ parseQuery "host:db1" = [⟨.text, "host:db1"⟩] ∧
      Text.Spaced "SCOPE:a::b\u3000\thost:db1".toList words ∧
      Text.Spaced " SCOPE:a::b host:db1\n".toList words ∧
      parseQuery "SCOPE:a::b\u3000\thost:db1" = parseQuery " SCOPE:a::b host:db1\n" := by
  intro words
  obtain ⟨parted, single, _, alike⟩ := parseQuery_gap_by_gap
  have blank : Text.AllBlank "\u3000\t".toList := by decide
  have isWord : Text.IsWord "SCOPE:a::b".toList := by decide
  have alsoWord : Text.IsWord "host:db1".toList := by decide
  have scope : Term.SaidBy "SCOPE:a::b".toList ⟨.scope, "a::b"⟩ :=
    Term.saidBy_iff.mpr (by decide +kernel)
  have host : Term.SaidBy "host:db1".toList ⟨.text, "host:db1"⟩ :=
    Term.saidBy_iff.mpr (by decide +kernel)
  have spaced : Text.Spaced "SCOPE:a::b\u3000\thost:db1".toList words :=
    Text.words_eq_iff_spaced.mp (by decide +kernel)
  have alsoSpaced : Text.Spaced " SCOPE:a::b host:db1\n".toList words :=
    Text.words_eq_iff_spaced.mp (by decide +kernel)
  exact ⟨by decide, blank, parted _ _ _ (by decide) blank, isWord, alsoWord,
    (single _ _ isWord).mpr ⟨_, scope, rfl⟩, (single _ _ alsoWord).mpr ⟨_, host, rfl⟩,
    spaced, alsoSpaced, alike words _ _ spaced alsoSpaced⟩

end EventLog
