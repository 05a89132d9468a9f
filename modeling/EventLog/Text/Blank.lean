import EventLog.Text.CharRange

/-!
# Blank characters, trimming and words

What counts as blank is the white-space property of the character set: tab to carriage return,
the space, and the wider spaces and separators beyond them. A text trims to what lies between its
first and its last other character, and falls into words at its blanks.
-/

namespace EventLog.Text

def blankRanges : List CharRange :=
  [⟨0x0009, 0x000D⟩, ⟨0x0020, 0x0020⟩, ⟨0x0085, 0x0085⟩, ⟨0x00A0, 0x00A0⟩, ⟨0x1680, 0x1680⟩,
   ⟨0x2000, 0x200A⟩, ⟨0x2028, 0x2029⟩, ⟨0x202F, 0x202F⟩, ⟨0x205F, 0x205F⟩, ⟨0x3000, 0x3000⟩]

def isBlank (c : Char) : Bool := inRanges blankRanges c

/-! ## Trimming -/

def trimStart (text : List Char) : List Char := text.dropWhile isBlank

def trimEnd (text : List Char) : List Char := (text.reverse.dropWhile isBlank).reverse

def trim (text : List Char) : List Char := trimEnd (trimStart text)

def AllBlank (text : List Char) : Prop := ∀ c ∈ text, isBlank c = true

instance (text : List Char) : Decidable (AllBlank text) :=
  List.decidableBAll (fun c => isBlank c = true) text

theorem allBlank_nil : AllBlank [] := fun _ never => absurd never List.not_mem_nil

theorem dropWhile_isBlank_append {gap : List Char} (blank : AllBlank gap) {c : Char}
    (ink : isBlank c = false) (rest : List Char) :
    (gap ++ c :: rest).dropWhile isBlank = c :: rest := by
  rw [List.dropWhile_append_of_pos blank, List.dropWhile_cons_of_neg (by simp [ink])]

/-- A text trims to what lies between its first and its last character that is not blank. -/
theorem trim_append {before after : List Char} (blank : AllBlank before)
    (alsoBlank : AllBlank after) {first last : Char} (ink : isBlank first = false)
    (alsoInk : isBlank last = false) {text rest front : List Char} (begins : text = first :: rest)
    (ends : text = front ++ [last]) : trim (before ++ text ++ after) = text := by
  have start : trimStart (before ++ text ++ after) = text ++ after := by
    rw [trimStart, List.append_assoc, begins, List.cons_append, dropWhile_isBlank_append blank ink]
  have reversed : (text ++ after).reverse = after.reverse ++ last :: front.reverse := by
    simp [ends]
  have behind : AllBlank after.reverse := fun c present =>
    alsoBlank c (List.mem_reverse.mp present)
  rw [trim, start, trimEnd, reversed, dropWhile_isBlank_append behind alsoInk, ends]
  simp

theorem trim_append_blank {c : Char} (blank : isBlank c = true) (text : List Char) :
    trim (text ++ [c]) = trim text := by
  have behind : [c].dropWhile isBlank = [] := List.dropWhile_cons_of_pos blank
  rw [trim, trimStart, List.dropWhile_append, behind, trim, trimStart]
  by_cases nothing : (text.dropWhile isBlank).isEmpty = true
  · rw [if_pos nothing, List.isEmpty_iff.mp nothing]
  · rw [if_neg nothing, trimEnd, trimEnd, List.reverse_append, List.reverse_singleton,
      List.singleton_append, List.dropWhile_cons_of_pos blank]

theorem dropWhile_isBlank_of_unbroken {text : List Char}
    (unbroken : ∀ c ∈ text, isBlank c = false) : text.dropWhile isBlank = text := by
  cases text with
  | nil => rfl
  | cons c text => exact List.dropWhile_cons_of_neg (by simp [unbroken c List.mem_cons_self])

theorem trim_of_unbroken {text : List Char} (unbroken : ∀ c ∈ text, isBlank c = false) :
    trim text = text := by
  have backwards : ∀ c ∈ text.reverse, isBlank c = false := fun c present =>
    unbroken c (List.mem_reverse.mp present)
  rw [trim, trimStart, dropWhile_isBlank_of_unbroken unbroken, trimEnd,
    dropWhile_isBlank_of_unbroken backwards, List.reverse_reverse]

/-! ## Words -/

/-- The text up to its first blank, and the words after that. The first part is empty when the
    text begins with a blank. -/
def splitWords : List Char → List Char × List (List Char)
  | [] => ([], [])
  | c :: rest =>
      let (head, later) := splitWords rest
      if isBlank c then
        ([], if head.isEmpty then later else head :: later)
      else
        (c :: head, later)

/-- The longest pieces of a text that hold no blank, in order. -/
def words (text : List Char) : List (List Char) :=
  let (head, later) := splitWords text
  if head.isEmpty then later else head :: later

/-- What it takes for a text to be one word. -/
def IsWord (text : List Char) : Prop := text ≠ [] ∧ ∀ c ∈ text, isBlank c = false

instance (text : List Char) : Decidable (IsWord text) :=
  @instDecidableAnd _ _ _ (List.decidableBAll (fun c => isBlank c = false) text)

theorem words_nil : words [] = [] := rfl

theorem words_blank_cons {c : Char} {rest : List Char} (blank : isBlank c = true) :
    words (c :: rest) = words rest := by
  simp [words, splitWords, blank]

theorem splitWords_append {c : Char} (blank : isBlank c = true) (before after : List Char) :
    splitWords (before ++ c :: after) =
      ((splitWords before).1, (splitWords before).2 ++ words after) := by
  induction before with
  | nil => simp [splitWords, blank, words]
  | cons d before ih =>
      rw [List.cons_append, splitWords, ih, splitWords]
      by_cases broken : isBlank d = true
      · by_cases empty : (splitWords before).1 = [] <;> simp [broken, empty]
      · simp [broken]

/-- A blank parts the words before it from those after it. -/
theorem words_append {c : Char} (blank : isBlank c = true) (before after : List Char) :
    words (before ++ c :: after) = words before ++ words after := by
  unfold words
  rw [splitWords_append blank, words]
  by_cases empty : (splitWords before).1 = [] <;> simp [empty]

theorem splitWords_of_unbroken {text : List Char} (unbroken : ∀ c ∈ text, isBlank c = false) :
    splitWords text = (text, []) := by
  induction text with
  | nil => rfl
  | cons c text ih =>
      rw [List.forall_mem_cons] at unbroken
      simp [splitWords, ih unbroken.2, unbroken.1]

theorem words_of_isWord {text : List Char} (word : IsWord text) : words text = [text] := by
  simp [words, splitWords_of_unbroken word.2, word.1]

/-- The part before the first blank holds none, and all pieces after it are words. -/
theorem splitWords_parts (text : List Char) :
    (∀ c ∈ (splitWords text).1, isBlank c = false) ∧ ∀ word ∈ (splitWords text).2, IsWord word := by
  induction text with
  | nil => simp [splitWords]
  | cons c text ih =>
      obtain ⟨head, later⟩ := ih
      rw [splitWords]
      cases blank : isBlank c with
      | true =>
        by_cases empty : (splitWords text).1 = []
        · simpa [empty] using later
        · simpa [empty, IsWord] using ⟨head, later⟩
      | false => simpa [blank] using ⟨head, later⟩

theorem isWord_of_mem_words {text word : List Char} (present : word ∈ words text) :
    IsWord word := by
  obtain ⟨head, later⟩ := splitWords_parts text
  rw [words] at present
  by_cases empty : (splitWords text).1 = []
  · simp only [empty, List.isEmpty_nil, if_true] at present
    exact later word present
  · simp only [empty, List.isEmpty_iff, if_false, List.mem_cons] at present
    obtain rfl | present := present
    · exact ⟨empty, head⟩
    · exact later word present

/-- Words with a blank between two are read back. -/
theorem words_intercalate {c : Char} (blank : isBlank c = true) {list : List (List Char)}
    (all : ∀ word ∈ list, IsWord word) : words ([c].intercalate list) = list := by
  induction list with
  | nil => rfl
  | cons first list ih =>
      rw [List.forall_mem_cons] at all
      cases list with
      | nil => simpa using words_of_isWord all.1
      | cons second list =>
          rw [List.intercalate_cons_cons, List.append_assoc, List.singleton_append,
            words_append blank, words_of_isWord all.1, ih all.2, List.singleton_append]

end EventLog.Text
