import EventLog.Level
import EventLog.Query
import EventLog.Proofs.LetterCase
import Mathlib.Data.List.Basic
import Mathlib.Data.List.TakeWhile

/-!
# Spelled names

Levels and tokens are named in any case, and the case of a text is taken away by its full lower
case. Nevertheless a name is read from nothing but its spellings in the letters from A to Z: no
other character has one of their letters for its lower case. For levels this is said of the text
between the blanks around it (`Trims`), for tokens of the text as it stands
(`names_read_as_spelled`).
-/

namespace EventLog

/-! ## Trimmed texts -/

namespace Text

/-- What it takes for `core` to be a text without the blanks in front and behind. -/
structure Trims (text core : List Char) : Prop where
  surrounded : ∃ before after, text = before ++ core ++ after ∧ AllBlank before ∧ AllBlank after
  begins : ∀ c, core.head? = some c → isBlank c = false
  ends : ∀ c, core.getLast? = some c → isBlank c = false

theorem isBlank_of_head?_dropWhile {text : List Char} {c : Char}
    (first : (text.dropWhile isBlank).head? = some c) : isBlank c = false := by
  have found := List.head?_dropWhile_not isBlank text
  rwa [first] at found

/-- Trimming behind cuts off blanks. -/
theorem exists_trimEnd_append (text : List Char) :
    ∃ after, text = trimEnd text ++ after ∧ AllBlank after := by
  refine ⟨(text.reverse.takeWhile isBlank).reverse, ?_, fun c present => ?_⟩
  · rw [trimEnd, ← List.reverse_append, List.takeWhile_append_dropWhile, List.reverse_reverse]
  · exact List.mem_takeWhile_imp (List.mem_reverse.mp present)

theorem trims_trim (text : List Char) : Trims text (trim text) := by
  obtain ⟨after, parted, blank⟩ := exists_trimEnd_append (trimStart text)
  refine ⟨⟨text.takeWhile isBlank, after, ?_, fun c => List.mem_takeWhile_imp, blank⟩, ?_, ?_⟩
  · rw [trim, List.append_assoc, ← parted, trimStart, List.takeWhile_append_dropWhile]
  · intro c first
    obtain ⟨rest, begun⟩ := List.head?_eq_some_iff.mp first
    have leads : (trimStart text).head? = some c := by
      rw [parted, ← trim, begun, List.cons_append, List.head?_cons]
    exact isBlank_of_head?_dropWhile leads
  · intro c last
    rw [trim, trimEnd, List.getLast?_reverse] at last
    exact isBlank_of_head?_dropWhile last

/-- There is one way to trim a text. -/
theorem trims_iff {text core : List Char} : Trims text core ↔ trim text = core := by
  constructor
  · rintro ⟨⟨before, after, rfl, blank, alsoBlank⟩, begins, ends⟩
    cases core with
    | nil =>
        have nothing : trimStart (before ++ [] ++ after) = [] := by
          rw [trimStart, List.append_nil, List.dropWhile_eq_nil_iff]
          exact List.forall_mem_append.mpr ⟨blank, alsoBlank⟩
        rw [trim, nothing]
        rfl
    | cons first rest =>
        obtain ⟨front, last, parted⟩ :=
          (List.eq_nil_or_concat' (first :: rest)).resolve_left (List.cons_ne_nil first rest)
        have alsoInk : isBlank last = false := ends last (by rw [parted, List.getLast?_concat])
        exact trim_append blank alsoBlank (begins first rfl) alsoInk rfl parted
  · rintro rfl
    exact trims_trim text

end Text

/-! ## Spellings -/

/-- What it takes for a text to spell the name of a value, the case of the letters from A to Z
    apart. -/
def Spells {α : Type} (names : List (String × α)) (text : List Char) (value : α) : Prop :=
  (String.ofList (text.map Char.toLower), value) ∈ names

instance {α : Type} [DecidableEq α] (names : List (String × α)) (text : List Char) (value : α) :
    Decidable (Spells names text value) :=
  inferInstanceAs (Decidable (_ ∈ _))

/-- The names of levels, in small letters. A warning has two. -/
def Level.spellings : List (String × Level) :=
  [("debug", debug), ("info", info), ("warning", warning), ("warn", warning), ("error", error),
   ("critical", critical), ("event", event)]

/-- The names of tokens, in small letters. A scope has two, and free text has none. -/
def Token.spellings : List (String × Token) :=
  [("query", scope), ("scope", scope), ("step", step), ("type", eventType)]

section

variable {α : Type} {names : List (String × α)} {text : List Char} {value : α}

theorem lookup_cons_eq_ite (name first : String) (found : α) (names : List (String × α)) :
    ((first, found) :: names).lookup name =
      if name = first then some found else names.lookup name := by
  by_cases same : name = first
  · simp [same]
  · have differs : (name == first) = false := beq_eq_false_iff_ne.mpr same
    rw [List.lookup_cons, differs, if_neg same]

/-- Among names that do not repeat, looking one up finds its only value. -/
theorem lookup_eq_some_iff_mem (apart : (names.map Prod.fst).Nodup) {name : String} :
    names.lookup name = some value ↔ (name, value) ∈ names := by
  induction names with
  | nil => simp
  | cons entry names ih =>
      obtain ⟨first, found⟩ := entry
      rw [List.map_cons, List.nodup_cons] at apart
      rw [lookup_cons_eq_ite]
      by_cases same : name = first
      · subst same
        have single : (name, value) ∉ names := fun present =>
          apart.1 (List.mem_map.mpr ⟨_, present, rfl⟩)
        simp [single, eq_comm]
      · simp [ih apart.2, same]

/-- What it takes for names to be plain words of which none repeats. -/
structure PlainNames (names : List (String × α)) : Prop where
  plain : ∀ name ∈ names.map Prod.fst, Text.IsPlain name.toList
  apart : (names.map Prod.fst).Nodup

/-- A plain name is found by the full lower case of exactly the texts that spell it. -/
theorem PlainNames.lookup_lower_iff (told : PlainNames names) :
    names.lookup (String.ofList (Text.lower text)) = some value ↔ Spells names text value := by
  rw [lookup_eq_some_iff_mem told.apart, Spells]
  constructor
  · intro listed
    have plain := told.plain _ (List.mem_map_of_mem listed)
    rwa [(Text.ofList_lower_eq_iff plain).mp rfl]
  · intro listed
    have plain := told.plain _ (List.mem_map_of_mem listed)
    rwa [(Text.ofList_lower_eq_iff plain).mpr rfl]

/-- A text that spells a plain name is made of the letters from A to Z. -/
theorem PlainNames.ascii_of_spells (told : PlainNames names) (spelled : Spells names text value) :
    ∀ c ∈ text, c.toNat < 128 := by
  intro c present
  have letter : Text.IsSmallLetter c.toLower := by
    refine (told.plain _ (List.mem_map_of_mem spelled) c.toLower ?_).1
    rw [String.toList_ofList]
    exact List.mem_map_of_mem present
  have lowered := Text.toNat_toLower c
  have bound : c.toLower.toNat ≤ 122 := letter.2
  split at lowered <;> omega

end

theorem Level.plainNames : PlainNames Level.spellings where
  plain := by decide
  apart := by decide

theorem Token.plainNames : PlainNames Token.spellings where
  plain := by decide
  apart := by decide

/-! ## Readers of names -/

theorem Level.parse?_eq_lookup (text : String) :
    parse? text = spellings.lookup (String.ofList (Text.lower (Text.trim text.toList))) := by
  simp only [parse?, spellings, lookup_cons_eq_ite, List.lookup_nil]
  split <;> simp_all

theorem Token.ofName_eq_lookup (name : List Char) :
    ofName name = (spellings.lookup (String.ofList (Text.lower name))).getD .text := by
  simp only [ofName, spellings, lookup_cons_eq_ite, List.lookup_nil]
  split <;> simp_all

theorem Level.parse?_eq_some_iff {text : String} {level : Level} :
    parse? text = some level ↔ Spells spellings (Text.trim text.toList) level := by
  rw [parse?_eq_lookup, plainNames.lookup_lower_iff]

theorem Token.ofName_eq_iff {name : List Char} {token : Token} (known : token ≠ .text) :
    ofName name = token ↔ Spells spellings name token := by
  rw [ofName_eq_lookup, ← plainNames.lookup_lower_iff]
  cases spellings.lookup (String.ofList (Text.lower name)) with
  | none => simp [known.symm]
  | some found => simp

theorem Token.ne_text_of_spells {name : List Char} {token : Token}
    (spelled : Spells spellings name token) : token ≠ .text := by
  rintro rfl
  simp [Spells, spellings] at spelled

theorem Token.ofName_eq_text_iff_unspelled {name : List Char} :
    ofName name = .text ↔ ∀ token, ¬Spells spellings name token := by
  constructor
  · intro free token spelled
    have known := ne_text_of_spells spelled
    exact known (((ofName_eq_iff known).mpr spelled).symm.trans free)
  · intro unspelled
    by_contra known
    exact unspelled _ ((ofName_eq_iff known).mp rfl)

/-- A text is read as a level exactly if it spells a name of that level between the blanks around
    it, and as the name of a token exactly if it spells one as it stands, the case of the letters
    from A to Z apart. Neither reader takes a text that keeps a character beyond ASCII when it is
    trimmed. -/
theorem names_read_as_spelled :
    (∀ (text : String) (level : Level), Level.parse? text = some level ↔
      ∃ core, Text.Trims text.toList core ∧ Spells Level.spellings core level) ∧
    (∀ (name : List Char) (token : Token), Token.ofName name = token ∧ token ≠ .text ↔
      Spells Token.spellings name token) ∧
    ∀ (text : String) (core : List Char), Text.Trims text.toList core →
      (∃ c ∈ core, 128 ≤ c.toNat) →
      Level.parse? text = none ∧ Token.ofName text.toList = .text := by
  refine ⟨fun text level => ?_, fun name token => ?_, fun text core trimmed foreign => ?_⟩
  · rw [Level.parse?_eq_some_iff]
    simp only [Text.trims_iff, exists_eq_left']
  · constructor
    · rintro ⟨named, known⟩
      exact (Token.ofName_eq_iff known).mp named
    · intro spelled
      have known := Token.ne_text_of_spells spelled
      exact ⟨(Token.ofName_eq_iff known).mpr spelled, known⟩
  · obtain ⟨c, present, beyond⟩ := foreign
    constructor
    · rw [Option.eq_none_iff_forall_ne_some]
      intro level read
      rw [Level.parse?_eq_some_iff, Text.trims_iff.mp trimmed] at read
      exact absurd (Level.plainNames.ascii_of_spells read c present) (Nat.not_lt.mpr beyond)
    · rw [Token.ofName_eq_text_iff_unspelled]
      intro token spelled
      obtain ⟨before, after, whole, _⟩ := trimmed.surrounded
      have within : c ∈ text.toList := by simp [whole, present]
      exact absurd (Token.plainNames.ascii_of_spells spelled c within) (Nat.not_lt.mpr beyond)

/-- A dotted capital I does not stand for the letter in a name, and an ideographic space counts as a
    blank around it. -/
theorem names_read_as_spelled_of_dotted :
    Level.parse? "\u3000WaRn\n" = some .warning ∧
      Text.Trims "\u3000\u0130NFO".toList "\u0130NFO".toList ∧
      (∃ c ∈ "\u0130NFO".toList, 128 ≤ c.toNat) ∧
      Level.parse? "\u3000\u0130NFO" = none ∧ Token.ofName "\u3000\u0130NFO".toList = .text := by
  obtain ⟨levels, _, refused⟩ := names_read_as_spelled
  have trimmed : Text.Trims "\u3000\u0130NFO".toList "\u0130NFO".toList :=
    Text.trims_iff.mpr (by decide)
  have foreign : ∃ c ∈ "\u0130NFO".toList, 128 ≤ c.toNat := ⟨'\u0130', by decide, by decide⟩
  refine ⟨(levels _ _).mpr ⟨"WaRn".toList, Text.trims_iff.mpr (by decide), by decide⟩,
    trimmed, foreign, refused _ _ trimmed foreign⟩

/-- The Kelvin sign does have a letter for its lower case, but no name has that letter. -/
example : Text.lower ['\u212A'] = ['k'] := by decide +kernel

end EventLog
