import EventLog.Proofs.FoundWords
import EventLog.Proofs.InsertedCodes
import EventLog.Proofs.LetterCase
import EventLog.Proofs.Selection

/-!
# Filtering and highlighting in ASCII

A filter compares lower cases, and the highlighter compares letters one by one. On ASCII texts both
look at the case of the letters from A to Z only, and so they agree: a message is highlighted
exactly if it meets one of the free-text terms (`highlights_ascii_matches`).
-/

namespace EventLog

namespace Text

/-! ## Case in ASCII -/

def IsAscii (text : List Char) : Prop := ∀ c ∈ text, c.toNat < 128

instance (text : List Char) : Decidable (IsAscii text) :=
  List.decidableBAll (fun c : Char => c.toNat < 128) text

/-- A mapping whose runs begin beyond ASCII, but for the one of the capitals, moves nothing else
    there. -/
theorem throughRuns_capitals {runs : List CaseRun} (beyond : ∀ run ∈ runs, 128 ≤ run.first)
    {c : Char} (ascii : c.toNat < 128) :
    throughRuns (⟨0x41, 0x5A, 1, 0x61⟩ :: runs) c = c.toLower := by
  have untouched : throughRuns runs c = c := by
    apply throughRuns_eq_self
    intro run present
    have later := beyond run present
    unfold CaseRun.target?
    rw [if_neg (by omega)]
  have lowered := toNat_toLower c
  rw [throughRuns_cons, target?_capitals, untouched]
  split at lowered
  · rename_i capital
    rw [if_pos capital, ← lowered]
    simp
  · rename_i other
    rw [if_neg other, Char.toNat_inj.mp lowered]
    rfl

theorem fold_of_ascii {c : Char} (ascii : c.toNat < 128) : fold c = c.toLower := by
  have beyond : ∀ run ∈ foldRuns.tail, 128 ≤ run.first := by decide +kernel
  exact throughRuns_capitals beyond ascii

theorem lowerOf_of_ascii {c : Char} (ascii : c.toNat < 128) : lowerOf c = [c.toLower] := by
  have other : c ≠ 'İ' := by
    rintro rfl
    exact absurd ascii (by decide)
  have beyond : ∀ run ∈ lowerRuns.tail, 128 ≤ run.first := fun run present =>
    (laterRuns_bounds run present).1
  rw [lowerOf, if_neg other]
  exact congrArg (fun lowered => [lowered]) (throughRuns_capitals beyond ascii)

theorem lowerAfter_of_ascii {text : List Char} (ascii : IsAscii text) (before : List Char) :
    lowerAfter before text = text.map Char.toLower := by
  induction text generalizing before with
  | nil => rfl
  | cons c text ih =>
      obtain ⟨first, later⟩ := List.forall_mem_cons.mp ascii
      have other : c ≠ 'Σ' := by
        rintro rfl
        exact absurd first (by decide)
      rw [lowerAfter, if_neg other, lowerOf_of_ascii first, ih later, List.singleton_append,
        List.map_cons]

/-- In ASCII a filter and a highlighter see the same letters. -/
theorem lower_eq_map_fold {text : List Char} (ascii : IsAscii text) :
    lower text = text.map fold := by
  rw [lower, lowerAfter_of_ascii ascii]
  exact List.map_congr_left fun c present => (fold_of_ascii (ascii c present)).symm

/-! ## Words anywhere -/

/-- A word stands somewhere in a text exactly if its letters do. -/
theorem exists_standsAt_iff_infix {word text : List Char} :
    (∃ first last, StandsAt word text first last) ↔ word.map fold <:+: text.map fold := by
  constructor
  · rintro ⟨first, last, before, part, after, rfl, same, _, _⟩
    rw [← same, List.map_append, List.map_append]
    exact List.infix_append _ _ _
  · rintro ⟨front, back, split⟩
    obtain ⟨beginning, after, rfl, begun, _⟩ := List.map_eq_append_iff.mp split.symm
    obtain ⟨before, part, rfl, _, same⟩ := List.map_eq_append_iff.mp begun
    exact ⟨_, _, before, part, after, rfl, same, rfl, rfl⟩

end Text

namespace Highlighter

/-- Something is highlighted exactly if the letters of a free-text term stand in the text. -/
theorem ranges_ne_nil_iff {terms : List Term} {text : String} :
    (ofQuery terms).ranges text ≠ [] ↔
      ∃ term ∈ terms, term.token = .text ∧ term.value ≠ "" ∧
        term.value.toList.map Text.fold <:+: text.toList.map Text.fold := by
  rw [(leftmostFirst_ranges terms text).ne_nil_iff fun _ => filled_of_mem_ofQuery]
  simp only [Text.exists_standsAt_iff_infix, words_ofQuery, List.mem_map, List.mem_filter,
    decide_eq_true_eq]
  constructor
  · rintro ⟨_, ⟨term, ⟨listed, free, filled⟩, rfl⟩, present⟩
    exact ⟨term, listed, free, filled, present⟩
  · rintro ⟨term, listed, free, filled, present⟩
    exact ⟨_, ⟨term, ⟨listed, free, filled⟩, rfl⟩, present⟩

end Highlighter

section Plain

variable {terms : List Term} {conventions : Conventions} {keys : StepKeys} {record : Record}

theorem Term.met_iff_of_ascii {term : Term} (free : term.token = .text)
    (value : Text.IsAscii term.value.toList) (message : Text.IsAscii record.message.toList) :
    term.Met conventions keys record ↔
      term.value.toList.map Text.fold <:+: record.message.toList.map Text.fold := by
  rw [Met, free, Text.lower_eq_map_fold value, Text.lower_eq_map_fold message]

/-- An ASCII message is highlighted exactly if it meets one of the free-text terms. -/
theorem Highlighter.ranges_ne_nil_iff_met
    (values : ∀ term ∈ terms, term.token = .text → Text.IsAscii term.value.toList)
    (message : Text.IsAscii record.message.toList) :
    (ofQuery terms).ranges record.message ≠ [] ↔
      ∃ term ∈ terms, term.token = .text ∧ term.value ≠ "" ∧ term.Met conventions keys record := by
  rw [ranges_ne_nil_iff]
  refine exists_congr fun term => and_congr_right fun listed => and_congr_right fun free => ?_
  rw [Term.met_iff_of_ascii free (values term listed free) message]

end Plain

/-! ## Highlighted rows -/

namespace Layout

/-- What it takes for the row of a record to be printed with highlights: with codes around at least
    one piece of what is printed without them. -/
def Highlights (layout : Layout) (record : Record) (isMatch : Bool) : Prop :=
  ∃ cut : Cut, cut.hits ≠ [] ∧
    (layout.marker isMatch ++ layout.line record).toList = cut.mark highlightStart highlightEnd ∧
    (layout.unhighlighted.marker isMatch ++ layout.unhighlighted.line record).toList = cut.whole

theorem hits_eq_nil_iff {highlighter : Highlighter} {text : String} :
    (highlighter.cut text.toList).hits = [] ↔ highlighter.ranges text = [] := by
  unfold Highlighter.ranges Cut.ranges
  cases (highlighter.cut text.toList).hits with
  | nil => exact iff_of_true rfl rfl
  | cons hit hits => exact iff_of_false (List.cons_ne_nil _ _) (List.cons_ne_nil _ _)

variable {layout : Layout} {record : Record}

theorem highlights_of_ranges (found : layout.highlighter.ranges record.message ≠ [])
    (isMatch : Bool) : layout.Highlights record isMatch := by
  refine ⟨layout.rowCut record isMatch, ?_, (layout.mark_rowCut record isMatch).symm,
    (layout.whole_rowCut record isMatch).symm⟩
  intro none
  have hits := layout.hits_rowCut record isMatch
  rw [none, List.map_nil, eq_comm, List.map_eq_nil_iff, hits_eq_nil_iff] at hits
  exact found hits

/-- A row without a highlight is printed as if nothing were looked for. -/
theorem line_of_ranges_eq_nil (missed : layout.highlighter.ranges record.message = []) :
    layout.line record = layout.unhighlighted.line record := by
  have message : layout.message record.message = record.message := by
    have whole := layout.highlighter.whole_cut record.message.toList
    rw [Cut.whole, hits_eq_nil_iff.mpr missed, List.flatMap_nil, List.nil_append] at whole
    rw [Layout.message, Cut.mark, hits_eq_nil_iff.mpr missed, List.flatMap_nil, List.nil_append,
      whole, String.ofList_toList]
  rw [line, line, message, message_unhighlighted]
  rfl

end Layout

/-- Of a query whose free-text terms are written in ASCII, an ASCII message is highlighted exactly
    if it meets one of these terms. So every match of a query with such a term is printed with
    highlights, and a record that meets none of them without. -/
theorem highlights_ascii_matches (conventions : Conventions) (keys : StepKeys) {terms : List Term}
    (values : ∀ term ∈ terms, term.token = .text → Text.IsAscii term.value.toList)
    (base : Layout) :
    let layout := { base with highlighter := Highlighter.ofQuery terms }
    (∀ record : Record, Text.IsAscii record.message.toList →
      (layout.highlighter.ranges record.message ≠ [] ↔
        ∃ term ∈ terms, term.token = .text ∧ term.value ≠ "" ∧
          term.holds conventions keys record = true)) ∧
    (∀ (filter : Filter) (records : List Record), filter.query = terms →
      (∃ term ∈ terms, term.token = .text ∧ term.value ≠ "") →
      ∀ entry ∈ (filter.view conventions keys records).textMatched,
        Text.IsAscii entry.record.message.toList →
        ∀ isMatch, layout.Highlights entry.record isMatch) ∧
    (∀ record : Record, Text.IsAscii record.message.toList →
      (∀ term ∈ terms, term.token = .text → term.value ≠ "" →
        term.holds conventions keys record = false) →
      layout.line record = layout.unhighlighted.line record) := by
  intro layout
  have agree (record : Record) (message : Text.IsAscii record.message.toList) :
      layout.highlighter.ranges record.message ≠ [] ↔
        ∃ term ∈ terms, term.token = .text ∧ term.value ≠ "" ∧
          term.holds conventions keys record = true := by
    simp only [Term.holds_iff]
    exact Highlighter.ranges_ne_nil_iff_met values message
  refine ⟨agree, ?_, ?_⟩
  · rintro filter records rfl ⟨term, listed, free, filled⟩ entry matched message isMatch
    rw [Filter.textMatched_view, List.mem_filter, Filter.picks_iff] at matched
    -- A match meets every term, so it meets the one that is looked for.
    have met : term.Met conventions keys entry.record := matched.2.2.2 term listed
    refine Layout.highlights_of_ranges ((agree _ message).mpr ?_) isMatch
    exact ⟨term, listed, free, filled, Term.holds_iff.mpr met⟩
  · intro record message unmet
    refine Layout.line_of_ranges_eq_nil (of_not_not fun found => ?_)
    obtain ⟨term, listed, free, filled, holds⟩ := (agree record message).mp found
    rw [unmet term listed free filled] at holds
    cases holds

/-- A term that is no pattern, among terms that are not free text. -/
theorem highlights_ascii_matches_of_signs :
    let terms : List Term := [⟨.step, "größe"⟩, ⟨.text, "A.b("⟩, ⟨.text, ""⟩]
    let record : Record := { kind := .logMessage, timestamp := 0, message := "axb( a.B(" }
    (∀ term ∈ terms, term.token = .text → Text.IsAscii term.value.toList) ∧
      Text.IsAscii record.message.toList ∧
      (Highlighter.ofQuery terms).ranges record.message ≠ [] := by
  intro terms record
  have values : ∀ term ∈ terms, term.token = .text → Text.IsAscii term.value.toList := by
    intro term listed free
    simp only [terms, List.mem_cons, List.not_mem_nil, or_false] at listed
    obtain rfl | rfl | rfl := listed
    · cases free
    · decide
    · decide
  have message : Text.IsAscii record.message.toList := by decide
  refine ⟨values, message, ?_⟩
  refine ((highlights_ascii_matches .standard [] values {}).1 record message).mpr ?_
  exact ⟨⟨.text, "A.b("⟩, by decide, rfl, by decide, by decide +kernel⟩

end EventLog
