import EventLog.Highlight
import Mathlib.Order.Nat

/-!
# Words found in a text

What a search for several words has to find, said without the search (`LeftmostFirst`): of the
words that stand in a text up to case it takes the leftmost, of those at one place the one listed
first, and goes on behind it. There is exactly one list of ranges of this kind, and it is what the
highlighter gives (`ranges_leftmost_first`).
-/

namespace EventLog

namespace Text

/-! ## Parts of a text -/

theorem byteSize_pos {text : List Char} (filled : text ≠ []) : 0 < byteSize text := by
  cases text with
  | nil => exact absurd rfl filled
  | cons c text =>
      rw [byteSize_cons]
      exact Nat.lt_of_lt_of_le c.utf8Size_pos (Nat.le_add_right _ _)

/-- Of two beginnings of a text, the one with fewer bytes is a beginning of the other. -/
theorem exists_append_of_byteSize_le {first second rest after : List Char}
    (same : first ++ rest = second ++ after) (fewer : byteSize first ≤ byteSize second) :
    ∃ between, second = first ++ between := by
  obtain ⟨between, grown, _⟩ | ⟨between, rfl, _⟩ := List.append_eq_append_iff.mp same
  · exact ⟨between, grown⟩
  · have nothing : between = [] := by
      by_contra filled
      have positive := byteSize_pos filled
      rw [byteSize_append] at fewer
      omega
    exact ⟨[], by rw [nothing, List.append_nil, List.append_nil]⟩

theorem append_inj_of_byteSize_eq {first second rest after : List Char}
    (same : first ++ rest = second ++ after) (equal : byteSize first = byteSize second) :
    first = second ∧ rest = after := by
  obtain ⟨between, rfl⟩ := exists_append_of_byteSize_le same equal.le
  have nothing : between = [] := by
    by_contra filled
    have positive := byteSize_pos filled
    rw [byteSize_append] at equal
    omega
  rw [nothing, List.append_nil] at same ⊢
  exact ⟨rfl, List.append_cancel_left same⟩

/-! ## Words in a text -/

/-- What it takes for a word to stand in a text from one byte up to another: the characters there
    are its own, one by one, up to case. -/
def StandsAt (word text : List Char) (first last : Nat) : Prop :=
  ∃ before part after, text = before ++ part ++ after ∧ part.map fold = word.map fold ∧
    byteSize before = first ∧ byteSize (before ++ part) = last

theorem beginsWith_iff {word text : List Char} :
    beginsWith word text = true ↔
      ∃ part after, text = part ++ after ∧ part.map fold = word.map fold := by
  induction word generalizing text with
  | nil =>
      rw [beginsWith_nil]
      exact iff_of_true rfl ⟨[], text, rfl, rfl⟩
  | cons w word ih =>
      cases text with
      | nil => simp [beginsWith]
      | cons c text =>
          rw [beginsWith, Bool.and_eq_true, sameLetter, beq_iff_eq, ih]
          constructor
          · rintro ⟨same, part, after, rfl, others⟩
            exact ⟨c :: part, after, rfl, by rw [List.map_cons, List.map_cons, same, others]⟩
          · rintro ⟨part, after, split, others⟩
            cases part with
            | nil => cases others
            | cons d part =>
                obtain ⟨rfl, rest⟩ := List.cons.inj split
                obtain ⟨same, others⟩ := List.cons.inj others
                exact ⟨same.symm, part, after, rest, others⟩

section StandsAt

variable {word text : List Char} {first last : Nat}

/-- Whether a word stands at a place can be seen from the text behind it. -/
theorem exists_standsAt_iff {before rest : List Char} :
    (∃ last, StandsAt word (before ++ rest) (byteSize before) last) ↔
      beginsWith word rest = true := by
  rw [beginsWith_iff]
  constructor
  · rintro ⟨last, front, part, after, split, same, place, _⟩
    rw [List.append_assoc] at split
    obtain ⟨rfl, rest⟩ := append_inj_of_byteSize_eq split place.symm
    exact ⟨part, after, rest, same⟩
  · rintro ⟨part, after, rfl, same⟩
    exact ⟨_, before, part, after, (List.append_assoc _ _ _).symm, same, rfl, rfl⟩

theorem StandsAt.lt (stands : StandsAt word text first last) (filled : word ≠ []) :
    first < last := by
  obtain ⟨before, part, after, _, same, rfl, rfl⟩ := stands
  have some : part ≠ [] := by
    rintro rfl
    exact filled (List.map_eq_nil_iff.mp same.symm)
  have positive := byteSize_pos some
  rw [byteSize_append]
  omega

theorem StandsAt.le_byteSize (stands : StandsAt word text first last) : last ≤ byteSize text := by
  obtain ⟨before, part, after, rfl, _, _, rfl⟩ := stands
  rw [byteSize_append _ after]
  exact Nat.le_add_right _ _

/-- A word stands between boundaries of characters. -/
theorem StandsAt.isValid {text : String} (stands : StandsAt word text.toList first last) :
    String.Pos.Raw.IsValid text ⟨first⟩ ∧ String.Pos.Raw.IsValid text ⟨last⟩ := by
  obtain ⟨before, part, after, split, _, rfl, rfl⟩ := stands
  have whole : text = String.ofList (before ++ part) ++ String.ofList after := by
    rw [← String.ofList_append, ← split, String.ofList_toList]
  constructor
  · refine String.Pos.Raw.isValid_iff_exists_append.mpr
      ⟨String.ofList before, String.ofList (part ++ after), ?_, ?_⟩
    · rw [whole, String.ofList_append, String.ofList_append, String.append_assoc]
    · rw [String.rawEndPos, utf8ByteSize_ofList]
  · refine String.Pos.Raw.isValid_iff_exists_append.mpr ⟨_, _, whole, ?_⟩
    rw [String.rawEndPos, utf8ByteSize_ofList]

/-- Where a word begins says where it ends. -/
theorem StandsAt.last_eq {other : Nat} (stands : StandsAt word text first last)
    (again : StandsAt word text first other) : last = other := by
  obtain ⟨before, part, after, rfl, same, rfl, rfl⟩ := stands
  obtain ⟨front, piece, rest, split, alike, place, rfl⟩ := again
  have length : part.length = piece.length := by
    have lengths := congrArg List.length (same.trans alike.symm)
    rwa [List.length_map, List.length_map] at lengths
  rw [List.append_assoc, List.append_assoc] at split
  obtain ⟨rfl, behind⟩ := append_inj_of_byteSize_eq split place.symm
  rw [(List.append_inj behind length).1]

/-- No word begins within a character. -/
theorem not_standsAt_within {before rest : List Char} {c : Char} (low : byteSize before < first)
    (high : first < byteSize before + c.utf8Size) :
    ¬StandsAt word (before ++ c :: rest) first last := by
  rintro ⟨front, part, after, split, _, rfl, _⟩
  rw [List.append_assoc] at split
  obtain ⟨between, rfl⟩ := exists_append_of_byteSize_le split low.le
  rw [List.append_assoc] at split
  have behind := List.append_cancel_left split
  cases between with
  | nil =>
      rw [List.append_nil] at low
      exact absurd low (Nat.lt_irrefl _)
  | cons d between =>
      obtain ⟨rfl, _⟩ := List.cons.inj behind
      rw [byteSize_append, byteSize_cons] at high
      omega

end StandsAt

/-! ## Searches -/

/-- The stretches of bytes from `low` on that are in none of some ranges, in front of each of them
    and behind the last. -/
def gaps (low high : Nat) : List (Nat × Nat) → List (Nat × Nat)
  | [] => [(low, high)]
  | (first, last) :: ranges => (low, first) :: gaps last high ranges

/-- What it takes for a range to be chosen: one of the words stands there, and none that is listed
    before it begins at the same place. -/
def Chosen (words : List (List Char)) (text : List Char) (range : Nat × Nat) : Prop :=
  ∃ earlier word later, words = earlier ++ word :: later ∧
    StandsAt word text range.1 range.2 ∧
    ∀ other ∈ earlier, ∀ last, ¬StandsAt other text range.1 last

/-- What a search for some words has to find in a text from byte `low` on: ranges in rising order
    that do not meet, each of them chosen, such that no word begins in a gap. -/
structure LeftmostFirst (words : List (List Char)) (text : List Char) (low : Nat)
    (ranges : List (Nat × Nat)) : Prop where
  filled : ∀ range ∈ ranges, range.1 < range.2
  within : ∀ range ∈ ranges, low ≤ range.1 ∧ range.2 ≤ byteSize text
  rising : ranges.Pairwise fun range other => range.1 < other.1 ∧ range.2 ≤ other.1
  chosen : ∀ range ∈ ranges, Chosen words text range
  unmissed : ∀ gap ∈ gaps low (byteSize text) ranges, ∀ first, gap.1 ≤ first → first < gap.2 →
    ∀ word ∈ words, ∀ last, ¬StandsAt word text first last

namespace LeftmostFirst

variable {words : List (List Char)} {text : List Char} {low first last : Nat}
  {ranges others : List (Nat × Nat)}

/-- At the end of a text there is nothing to be found. -/
theorem nil (words : List (List Char)) (text : List Char) :
    LeftmostFirst words text (byteSize text) [] where
  filled := fun _ never => absurd never List.not_mem_nil
  within := fun _ never => absurd never List.not_mem_nil
  rising := .nil
  chosen := fun _ never => absurd never List.not_mem_nil
  unmissed := by
    intro gap present first begun ended
    obtain rfl := List.mem_singleton.mp present
    exact absurd begun (Nat.not_le.mpr ended)

/-- A character at which no word begins is passed over. -/
theorem skip {before rest : List Char} {c : Char}
    (free : ∀ word ∈ words, beginsWith word (c :: rest) = false)
    (search : LeftmostFirst words (before ++ c :: rest) (byteSize before + c.utf8Size) ranges) :
    LeftmostFirst words (before ++ c :: rest) (byteSize before) ranges where
  filled := search.filled
  within := fun range present =>
    ⟨(Nat.le_add_right _ _).trans (search.within range present).1,
      (search.within range present).2⟩
  rising := search.rising
  chosen := search.chosen
  unmissed := by
    have here {word : List Char} (listed : word ∈ words) (last : Nat) :
        ¬StandsAt word (before ++ c :: rest) (byteSize before) last := by
      intro stands
      have begins := exists_standsAt_iff.mp ⟨last, stands⟩
      rw [free word listed] at begins
      cases begins
    -- The first gap begins earlier by the character, and is otherwise the one of the search.
    have grown (high : Nat)
        (unmissed : ∀ first, byteSize before + c.utf8Size ≤ first → first < high →
          ∀ word ∈ words, ∀ last, ¬StandsAt word (before ++ c :: rest) first last) :
        ∀ first, byteSize before ≤ first → first < high →
          ∀ word ∈ words, ∀ last, ¬StandsAt word (before ++ c :: rest) first last := by
      intro first begun ended word listed last
      obtain rfl | low := Nat.eq_or_lt_of_le begun
      · exact here listed last
      · by_cases inside : first < byteSize before + c.utf8Size
        · exact not_standsAt_within low inside
        · exact unmissed first (Nat.not_lt.mp inside) ended word listed last
    have unmissed := search.unmissed
    cases ranges with
    | nil =>
        rw [gaps, List.forall_mem_singleton] at unmissed ⊢
        exact grown _ unmissed
    | cons range ranges =>
        rw [gaps, List.forall_mem_cons] at unmissed ⊢
        exact ⟨grown _ unmissed.1, unmissed.2⟩

/-- A chosen range is found, and the search goes on behind it. -/
theorem cons (filled : first < last) (chosen : Chosen words text (first, last))
    (search : LeftmostFirst words text last ranges) :
    LeftmostFirst words text first ((first, last) :: ranges) where
  filled := List.forall_mem_cons.mpr ⟨filled, search.filled⟩
  within := by
    obtain ⟨_, _, _, _, stands, _⟩ := chosen
    refine List.forall_mem_cons.mpr ⟨⟨Nat.le_refl _, stands.le_byteSize⟩, fun range present => ?_⟩
    obtain ⟨begun, ended⟩ := search.within range present
    exact ⟨filled.le.trans begun, ended⟩
  rising := by
    refine List.pairwise_cons.mpr ⟨fun range present => ?_, search.rising⟩
    have behind := (search.within range present).1
    exact ⟨lt_of_lt_of_le filled behind, behind⟩
  chosen := List.forall_mem_cons.mpr ⟨chosen, search.chosen⟩
  unmissed := by
    rw [gaps, List.forall_mem_cons]
    refine ⟨fun place begun ended => ?_, search.unmissed⟩
    exact absurd begun (Nat.not_le.mpr ended)

/-- What is found behind the first range is what a search finds that begins there. -/
theorem tail (search : LeftmostFirst words text low ((first, last) :: ranges)) :
    LeftmostFirst words text last ranges where
  filled := (List.forall_mem_cons.mp search.filled).2
  within := fun range present =>
    ⟨((List.pairwise_cons.mp search.rising).1 range present).2,
      (search.within range (List.mem_cons_of_mem _ present)).2⟩
  rising := (List.pairwise_cons.mp search.rising).2
  chosen := (List.forall_mem_cons.mp search.chosen).2
  unmissed := by
    have unmissed := search.unmissed
    rw [gaps, List.forall_mem_cons] at unmissed
    exact unmissed.2

/-- No word begins before the first range. -/
theorem head_le (search : LeftmostFirst words text low ((first, last) :: ranges)) {place stop : Nat}
    {word : List Char} (listed : word ∈ words) (stands : StandsAt word text place stop)
    (begun : low ≤ place) : first ≤ place := by
  by_contra ended
  have unmissed := search.unmissed
  rw [gaps, List.forall_mem_cons] at unmissed
  exact unmissed.1 place begun (Nat.not_le.mp ended) word listed stop stands

end LeftmostFirst

section Chosen

variable {words : List (List Char)} {text : List Char} {range : Nat × Nat}

theorem Chosen.exists_mem (chosen : Chosen words text range) :
    ∃ word ∈ words, StandsAt word text range.1 range.2 := by
  obtain ⟨earlier, word, later, rfl, stands, _⟩ := chosen
  exact ⟨word, List.mem_append_right _ List.mem_cons_self, stands⟩

/-- Only one word is chosen at a place, and it has only one end. -/
theorem Chosen.last_eq {first last stop : Nat} (chosen : Chosen words text (first, last))
    (again : Chosen words text (first, stop)) : last = stop := by
  obtain ⟨earlier, word, later, rfl, stands, free⟩ := chosen
  obtain ⟨front, other, back, split, alsoStands, alsoFree⟩ := again
  obtain ⟨between, rfl, behind⟩ | ⟨between, rfl, behind⟩ := List.append_eq_append_iff.mp split
  · cases between with
    | nil =>
        obtain ⟨rfl, _⟩ := List.cons.inj behind
        exact stands.last_eq alsoStands
    | cons first between =>
        obtain ⟨rfl, _⟩ := List.cons.inj behind
        exact absurd stands (alsoFree _ (by simp) _)
  · cases between with
    | nil =>
        obtain ⟨rfl, _⟩ := List.cons.inj behind
        exact stands.last_eq alsoStands
    | cons first between =>
        obtain ⟨rfl, _⟩ := List.cons.inj behind
        exact absurd alsoStands (free _ (by simp) _)

end Chosen

/-- A search has one outcome. -/
theorem LeftmostFirst.eq {words : List (List Char)} {text : List Char} {low : Nat}
    {ranges others : List (Nat × Nat)} (search : LeftmostFirst words text low ranges)
    (again : LeftmostFirst words text low others) : ranges = others := by
  -- What one search finds the other cannot have missed, so both begin with the same range.
  have lost {low : Nat} {range : Nat × Nat} {ranges : List (Nat × Nat)}
      (search : LeftmostFirst words text low (range :: ranges)) :
      ¬LeftmostFirst words text low [] := by
    intro empty
    obtain ⟨word, listed, stands⟩ := (search.chosen range List.mem_cons_self).exists_mem
    obtain ⟨begun, ended⟩ := search.within range List.mem_cons_self
    have filled := search.filled range List.mem_cons_self
    exact empty.unmissed _ List.mem_cons_self range.1 begun (lt_of_lt_of_le filled ended) word
      listed _ stands
  induction ranges generalizing low others with
  | nil =>
      cases others with
      | nil => rfl
      | cons other others => exact absurd search (lost again)
  | cons range ranges ih =>
      cases others with
      | nil => exact absurd again (lost search)
      | cons other others =>
          obtain ⟨first, last⟩ := range
          obtain ⟨place, stop⟩ := other
          have chosen := search.chosen _ List.mem_cons_self
          have alsoChosen := again.chosen _ List.mem_cons_self
          obtain ⟨word, listed, stands⟩ := chosen.exists_mem
          obtain ⟨other, alsoListed, alsoStands⟩ := alsoChosen.exists_mem
          have same : first = place := Nat.le_antisymm
            (search.head_le alsoListed alsoStands (again.within _ List.mem_cons_self).1)
            (again.head_le listed stands (search.within _ List.mem_cons_self).1)
          subst same
          have ends : last = stop := chosen.last_eq alsoChosen
          subst ends
          rw [ih search.tail again.tail]

/-- A search finds something exactly if one of the words stands somewhere. -/
theorem LeftmostFirst.ne_nil_iff {words : List (List Char)} {text : List Char}
    {ranges : List (Nat × Nat)} (search : LeftmostFirst words text 0 ranges)
    (filled : ∀ word ∈ words, word ≠ []) :
    ranges ≠ [] ↔ ∃ word ∈ words, ∃ first last, StandsAt word text first last := by
  constructor
  · intro found
    obtain ⟨range, present⟩ := List.exists_mem_of_ne_nil ranges found
    obtain ⟨word, listed, stands⟩ := (search.chosen range present).exists_mem
    exact ⟨word, listed, _, _, stands⟩
  · rintro ⟨word, listed, first, last, stands⟩ rfl
    have before := Nat.lt_of_lt_of_le (stands.lt (filled word listed)) stands.le_byteSize
    exact search.unmissed _ List.mem_cons_self first (Nat.zero_le _) before word listed last stands

end Text

/-! ## The highlighter's search -/

open Text (byteSize StandsAt Chosen LeftmostFirst)

namespace Highlighter

variable {highlighter : Highlighter}

theorem rangesFrom_prepend (c : Char) (cut : Cut) (offset : Nat) :
    Cut.rangesFrom offset (cut.prepend c).hits =
      Cut.rangesFrom (offset + c.utf8Size) cut.hits := by
  obtain ⟨hits, tail⟩ := cut
  cases hits with
  | nil => rfl
  | cons hit hits =>
      obtain ⟨gap, part⟩ := hit
      simp only [Cut.prepend, Cut.rangesFrom, Text.byteSize_cons, Nat.add_assoc]

theorem wordAt_eq_none_iff {text : List Char} :
    highlighter.wordAt text = none ↔
      ∀ word ∈ highlighter.words, Text.beginsWith word text = false := by
  rw [wordAt, List.find?_eq_none]
  simp only [Bool.not_eq_true]

/-- The word that is taken at a place is the first of the list that stands there, and takes as many
    characters as it has itself. -/
theorem chosen_of_wordAt {text word : List Char} (taken : highlighter.wordAt text = some word)
    (before : List Char) :
    Chosen highlighter.words (before ++ text)
      (byteSize before, byteSize (before ++ text.take word.length)) := by
  obtain ⟨begins, earlier, later, listed, passed⟩ := List.find?_eq_some_iff_append.mp taken
  obtain ⟨part, after, split, same⟩ := Text.beginsWith_iff.mp begins
  have length : part.length = word.length := by
    rw [← List.length_map, same, List.length_map]
  refine ⟨earlier, word, later, listed, ⟨before, part, after, ?_, same, rfl, ?_⟩, ?_⟩
  · rw [split, List.append_assoc]
  · rw [split, List.take_left' length]
  · intro other present last stands
    have missed := passed other present
    rw [Text.exists_standsAt_iff.mp ⟨last, stands⟩] at missed
    cases missed

/-- From any place on, the search finds what it has to. -/
theorem leftmostFirst_rangesFrom (filled : ∀ word ∈ highlighter.words, word ≠ [])
    (before text : List Char) :
    LeftmostFirst highlighter.words (before ++ text) (byteSize before)
      (Cut.rangesFrom (byteSize before) (highlighter.cut text).hits) := by
  fun_induction highlighter.cut text generalizing before with
  | case1 =>
      rw [List.append_nil]
      exact .nil _ _
  | case2 c rest missed ih =>
      rw [rangesFrom_prepend]
      refine .skip (wordAt_eq_none_iff.mp missed) ?_
      have behind := ih (before ++ [c])
      rwa [List.append_assoc, List.singleton_append, Text.byteSize_append] at behind
  | case3 c rest word taken others ih =>
      have listed : word ∈ highlighter.words := List.mem_of_find?_eq_some taken
      obtain ⟨w, word, rfl⟩ := List.exists_cons_of_ne_nil (filled word listed)
      have chosen := chosen_of_wordAt taken before
      have behind := ih (before ++ c :: rest.take word.length)
      rw [List.append_assoc, List.cons_append, List.length_cons, Nat.add_sub_cancel,
        List.take_append_drop, Text.byteSize_append] at behind
      rw [List.length_cons, List.take_succ_cons, Text.byteSize_append] at chosen
      have positive : 0 < byteSize (c :: rest.take word.length) :=
        Text.byteSize_pos (List.cons_ne_nil _ _)
      exact .cons (Nat.lt_add_of_pos_right positive) chosen behind

/-- A highlighter looks for the values of the free-text terms that are not empty. -/
theorem words_ofQuery (terms : List Term) :
    (ofQuery terms).words =
      (terms.filter fun term => term.token = .text ∧ term.value ≠ "").map (·.value.toList) := by
  refine congrArg (List.map _) (List.filter_congr fun term _ => ?_)
  rw [Bool.eq_iff_iff]
  simp

theorem filled_of_mem_ofQuery {terms : List Term} {word : List Char}
    (listed : word ∈ (ofQuery terms).words) : word ≠ [] := by
  rw [words_ofQuery] at listed
  obtain ⟨term, kept, rfl⟩ := List.mem_map.mp listed
  have free := of_decide_eq_true (List.mem_filter.mp kept).2
  exact fun empty => free.2 (String.toList_eq_nil_iff.mp empty)

theorem leftmostFirst_ranges (terms : List Term) (text : String) :
    LeftmostFirst (ofQuery terms).words text.toList 0 ((ofQuery terms).ranges text) :=
  leftmostFirst_rangesFrom (fun _ => filled_of_mem_ofQuery) [] text.toList

/-- The ranges of a query's words in a text are the leftmost occurrences of these words, of those at
    one place the one listed first, each beginning behind the one before it. They are the only such
    ranges, and lie between characters. Without words there are none. -/
theorem ranges_leftmost_first (terms : List Term) (text : String) :
    let words :=
      (terms.filter fun term => term.token = .text ∧ term.value ≠ "").map (·.value.toList)
    let ranges := (ofQuery terms).ranges text
    LeftmostFirst words text.toList 0 ranges ∧
      (∀ others, LeftmostFirst words text.toList 0 others → others = ranges) ∧
      (∀ range ∈ ranges,
        String.Pos.Raw.IsValid text ⟨range.1⟩ ∧ String.Pos.Raw.IsValid text ⟨range.2⟩) ∧
      (words = [] → ranges = []) := by
  intro words ranges
  have search : LeftmostFirst words text.toList 0 ranges := by
    have found := leftmostFirst_ranges terms text
    rwa [words_ofQuery] at found
  refine ⟨search, fun others again => again.eq search, fun range found => ?_, fun none => ?_⟩
  · obtain ⟨word, _, stands⟩ := (search.chosen range found).exists_mem
    exact stands.isValid
  · refine List.eq_nil_iff_forall_not_mem.mpr fun range found => ?_
    obtain ⟨word, listed, _⟩ := (search.chosen range found).exists_mem
    rw [none] at listed
    exact absurd listed List.not_mem_nil

/-- The long s is an s, and has two bytes. -/
example : (ofQuery [⟨.text, "as"⟩, ⟨.text, "a"⟩]).ranges "aſAa" = [(0, 3), (3, 4), (4, 5)] := by
  decide +kernel

end Highlighter

end EventLog
