import EventLog.LogText
import Mathlib.Data.List.Forall2
import Mathlib.Data.List.TakeWhile

/-!
# Logs line by line

Reading a log is reading its lines one by one: it gives the records of all lines that are not
blank, or what is wrong with the first of these that is no record, under the number of that line
(`parseRecords_by_line`). The lines are followed from the front (`parseFrom`), numbered from any
number on.
-/

namespace EventLog

open Text (AllBlank)

/-! ## Lines -/

namespace Text

theorem trim_eq_nil_iff {text : List Char} : trim text = [] ↔ AllBlank text := by
  rw [trim, trimEnd, List.reverse_eq_nil_iff, List.dropWhile_eq_nil_iff]
  constructor
  · intro blank
    -- What trimming the front leaves begins with no blank, so it is nothing.
    have nothing : text.dropWhile isBlank = [] := by
      by_contra something
      have ink := List.head_dropWhile_not isBlank something
      have first := blank _ (List.mem_reverse.mpr (List.head_mem something))
      exact Bool.eq_false_iff.mp ink first
    exact List.dropWhile_eq_nil_iff.mp nothing
  · intro blank
    have nothing : trimStart text = [] := List.dropWhile_eq_nil_iff.mpr blank
    simp [nothing]

/-- The lines of a text are its pieces between line feeds. A carriage return in front of a line
    feed belongs to the line end, and nothing behind the last line feed is no line. -/
theorem exists_lines_eq (text : List Char) :
    ∃ pieces last, text.splitOn '\n' = pieces ++ [last] ∧
      lines text = pieces.map withoutReturn ++ if last = [] then [] else [last] := by
  -- Both sides are followed from the first line feed on.
  by_cases feed : '\n' ∈ text
  · obtain ⟨line, rest, rfl, unbroken⟩ := List.eq_append_cons_of_mem feed
    obtain ⟨pieces, last, cut, read⟩ := exists_lines_eq rest
    refine ⟨line :: pieces, last, ?_, ?_⟩
    · rw [List.splitOn_append_cons_self_of_not_mem unbroken, cut, List.cons_append]
    · rw [lines_append_feed unbroken, read, List.map_cons, List.cons_append]
  · exact ⟨[], text, List.splitOn_eq_singleton feed, lines_of_not_mem feed⟩
termination_by text.length

theorem trim_withoutReturn (line : List Char) : trim (withoutReturn line) = trim line := by
  obtain rfl | ⟨front, c, rfl⟩ := line.eq_nil_or_concat
  · rfl
  · by_cases ends : c = '\r'
    · rw [List.concat_eq_append, ends, trim_append_blank (by decide)]
      simp [withoutReturn]
    · simp [withoutReturn, ends]

/-- The first of some lines is read first, up to the end of it that is blank. -/
theorem exists_lines_intercalate {line : List Char} (filled : line ≠ []) (unbroken : '\n' ∉ line)
    (others : List (List Char)) :
    ∃ read, trim read = trim line ∧
      lines (['\n'].intercalate (line :: others)) = read :: lines (['\n'].intercalate others) := by
  cases others with
  | nil =>
      refine ⟨line, rfl, ?_⟩
      rw [List.intercalate_singleton, lines_of_not_mem unbroken, if_neg filled]
      rfl
  | cons second others =>
      refine ⟨withoutReturn line, trim_withoutReturn line, ?_⟩
      rw [List.intercalate_cons_cons, List.append_assoc, List.singleton_append,
        lines_append_feed unbroken]

end Text

/-! ## Reading from a line on -/

def LogFault.onLine (line : Nat) : LogFault → LogFault
  | .malformed _ complaint place => .malformed line complaint place
  | .timestamp _ value => .timestamp line value

/-- A line is read alike wherever it stands. Only the line that a fault names differs. -/
theorem parseLine_eq (line : Nat) (text : List Char) :
    parseLine line text = (parseRecord (String.ofList text)).mapError (LogFault.onLine line) := by
  unfold parseRecord parseLine
  rw [String.toList_ofList]
  cases read : readRecord (Text.trim text) with
  | error stop =>
      simp only [read]
      cases stop <;> rfl
  | ok fields =>
      simp only [read]
      cases fields.stamp.millis? <;> rfl

theorem parseLine_congr {text other : List Char} (same : Text.trim text = Text.trim other)
    (line : Nat) : parseLine line text = parseLine line other := by
  rw [parseLine, parseLine, same]

/-- Reads lines that are numbered from some number on. -/
def parseFrom (number : Nat) (lines : List (List Char)) : Except LogFault (List Record) :=
  ((lines.zipIdx number).filter fun (line, _) => !(Text.trim line).isEmpty).mapM
    fun (line, number) => parseLine number line

theorem parseRecords_eq_parseFrom (text : String) :
    parseRecords text = parseFrom 1 (Text.lines text.toList) := rfl

theorem parseFrom_nil (number : Nat) : parseFrom number [] = .ok [] := rfl

theorem parseFrom_cons_of_blank {line : List Char} (blank : AllBlank line) (number : Nat)
    (lines : List (List Char)) :
    parseFrom number (line :: lines) = parseFrom (number + 1) lines := by
  simp [parseFrom, Text.trim_eq_nil_iff.mpr blank]

theorem parseFrom_cons {line : List Char} (ink : ¬AllBlank line) (number : Nat)
    (lines : List (List Char)) :
    parseFrom number (line :: lines) =
      (parseLine number line).bind fun record =>
        (parseFrom (number + 1) lines).map (record :: ·) := by
  have wanted : (!(Text.trim line).isEmpty) = true := by
    simpa using fun empty => ink (Text.trim_eq_nil_iff.mp empty)
  simp only [parseFrom, List.zipIdx_cons, List.filter_cons, wanted, if_true, List.mapM_cons]
  cases parseLine number line with
  | error fault => rfl
  | ok record => rfl

/-- Lines are read without a fault exactly if each that is not blank is a record. -/
theorem parseFrom_eq_ok_iff {number : Nat} {lines : List (List Char)} {records : List Record} :
    parseFrom number lines = .ok records ↔
      List.Forall₂ (fun line record => parseRecord (String.ofList line) = .ok record)
        (lines.filter fun line => ¬AllBlank line) records := by
  induction lines generalizing number records with
  | nil =>
      rw [parseFrom_nil, Except.ok.injEq, List.filter_nil, List.forall₂_nil_left_iff]
      exact eq_comm
  | cons line lines ih =>
      by_cases blank : AllBlank line
      · rw [parseFrom_cons_of_blank blank, List.filter_cons_of_neg (by simpa using blank)]
        exact ih
      · rw [parseFrom_cons blank, List.filter_cons_of_pos (by simpa using blank),
          List.forall₂_cons_left_iff, parseLine_eq]
        cases parseRecord (String.ofList line) with
        | error fault => simp [Except.mapError, Except.bind]
        | ok record =>
            have later := @ih (number + 1)
            simp only [Except.mapError, Except.bind, Except.ok.injEq, ← later]
            cases parseFrom (number + 1) lines <;> simp [Except.map, eq_comm]

/-- What it takes for a fault to be the first in some lines: it is what is wrong with a line that
    is not blank, under the number of that line, and no line before it has a fault. -/
def FirstFault (number : Nat) (lines : List (List Char)) (fault : LogFault) : Prop :=
  ∃ before line after cause, lines = before ++ line :: after ∧
    (∀ earlier ∈ before, ¬AllBlank earlier →
      ∃ record, parseRecord (String.ofList earlier) = .ok record) ∧
    ¬AllBlank line ∧ parseRecord (String.ofList line) = .error cause ∧
    fault = cause.onLine (number + before.length)

/-- A fault behind a line without one is the same fault. -/
theorem firstFault_cons {line : List Char}
    (faultless : ¬AllBlank line → ∃ record, parseRecord (String.ofList line) = .ok record)
    {number : Nat} {lines : List (List Char)} {fault : LogFault} :
    FirstFault number (line :: lines) fault ↔ FirstFault (number + 1) lines fault := by
  constructor
  · rintro ⟨before, bad, after, cause, split, earlier, ink, refused, rfl⟩
    cases before with
    | nil =>
        obtain ⟨rfl, rfl⟩ := List.cons.inj split
        obtain ⟨record, read⟩ := faultless ink
        rw [refused] at read
        cases read
    | cons first before =>
        obtain ⟨rfl, rfl⟩ := List.cons.inj split
        refine ⟨before, bad, after, cause, rfl, ?_, ink, refused, ?_⟩
        · exact fun line listed => earlier line (List.mem_cons_of_mem _ listed)
        · rw [List.length_cons, Nat.add_assoc, Nat.add_comm 1]
  · rintro ⟨before, bad, after, cause, rfl, earlier, ink, refused, rfl⟩
    refine ⟨line :: before, bad, after, cause, rfl, ?_, ink, refused, ?_⟩
    · exact List.forall_mem_cons.mpr ⟨faultless, earlier⟩
    · rw [List.length_cons, Nat.add_assoc, Nat.add_comm 1]

/-- No fault comes before that of the first line. -/
theorem firstFault_cons_of_bad {line : List Char} {cause : LogFault} (ink : ¬AllBlank line)
    (refused : parseRecord (String.ofList line) = .error cause) {number : Nat}
    {lines : List (List Char)} {fault : LogFault} :
    FirstFault number (line :: lines) fault ↔ fault = cause.onLine number := by
  constructor
  · rintro ⟨before, bad, after, other, split, earlier, _, refusedToo, rfl⟩
    cases before with
    | nil =>
        obtain ⟨rfl, rfl⟩ := List.cons.inj split
        rw [refused, Except.error.injEq] at refusedToo
        rw [refusedToo, List.length_nil, Nat.add_zero]
    | cons first before =>
        obtain ⟨rfl, rfl⟩ := List.cons.inj split
        obtain ⟨record, read⟩ := earlier line (List.mem_cons_self) ink
        rw [refused] at read
        cases read
  · rintro rfl
    exact ⟨[], line, lines, cause, rfl, by simp, ink, refused, rfl⟩

theorem parseFrom_eq_error_iff {number : Nat} {lines : List (List Char)} {fault : LogFault} :
    parseFrom number lines = .error fault ↔ FirstFault number lines fault := by
  induction lines generalizing number with
  | nil => simp [parseFrom_nil, FirstFault]
  | cons line lines ih =>
      by_cases blank : AllBlank line
      · rw [parseFrom_cons_of_blank blank, firstFault_cons fun ink => absurd blank ink]
        exact ih
      · rw [parseFrom_cons blank, parseLine_eq]
        cases read : parseRecord (String.ofList line) with
        | error cause =>
            rw [firstFault_cons_of_bad blank read]
            simp [Except.mapError, Except.bind, eq_comm]
        | ok record =>
            rw [firstFault_cons fun _ => ⟨record, read⟩, ← ih]
            simp only [Except.mapError, Except.bind]
            cases parseFrom (number + 1) lines <;> simp [Except.map]

/-! ## Logs -/

theorem LogFault.line_onLine (fault : LogFault) (line : Nat) : (fault.onLine line).line = line := by
  cases fault <;> rfl

/-- The first fault of a log depends on no line behind it. -/
theorem FirstFault.of_take_eq {lines others : List (List Char)} {fault : LogFault}
    (first : FirstFault 1 lines fault) (same : others.take fault.line = lines.take fault.line) :
    FirstFault 1 others fault := by
  obtain ⟨before, line, after, cause, rfl, earlier, ink, refused, rfl⟩ := first
  -- The line of the fault is the last that the two logs have in common.
  rw [LogFault.line_onLine, Nat.add_comm 1] at same
  have upTo : others.take (before.length + 1) = before ++ [line] := by
    rw [same, List.append_cons]
    exact List.take_left' (by rw [List.length_append, List.length_singleton])
  refine ⟨before, line, others.drop (before.length + 1), cause, ?_, earlier, ink, refused, rfl⟩
  calc others
    _ = others.take (before.length + 1) ++ others.drop (before.length + 1) :=
      (List.take_append_drop ..).symm
    _ = before ++ line :: others.drop (before.length + 1) := by rw [upTo, ← List.append_cons]

/-- A log is read by its lines, which are its pieces between line feeds. It is sound exactly if
    all lines but the blank ones are, and holds their records. Otherwise its fault is that of the
    first line that is none, under the number of that line, whatever comes after. -/
theorem parseRecords_by_line (text : String) :
    (∃ pieces last, text.toList.splitOn '\n' = pieces ++ [last] ∧
      Text.lines text.toList =
        pieces.map Text.withoutReturn ++ if last = [] then [] else [last]) ∧
    (∀ records, parseRecords text = .ok records ↔
      List.Forall₂ (fun line record => parseRecord (String.ofList line) = .ok record)
        ((Text.lines text.toList).filter fun line => ¬AllBlank line) records) ∧
    (∀ fault, parseRecords text = .error fault ↔ FirstFault 1 (Text.lines text.toList) fault) ∧
    ∀ fault, parseRecords text = .error fault → ∀ other : String,
      (Text.lines other.toList).take fault.line = (Text.lines text.toList).take fault.line →
      parseRecords other = .error fault := by
  refine ⟨Text.exists_lines_eq text.toList, fun records => parseFrom_eq_ok_iff,
    fun fault => parseFrom_eq_error_iff, fun fault refused other same => ?_⟩
  have first : FirstFault 1 (Text.lines text.toList) fault := parseFrom_eq_error_iff.mp refused
  exact parseFrom_eq_error_iff.mpr (first.of_take_eq same)

/-- The second line is no record, whether or not the log goes on behind it. -/
theorem parseRecords_by_line_of_continued :
    parseRecords "\r\nsoon" = .error (.malformed 2 (.flaw .expectedValue) ⟨1, 1⟩) ∧
      parseRecords "\r\nsoon\r\n[]" = .error (.malformed 2 (.flaw .expectedValue) ⟨1, 1⟩) := by
  have refused : parseRecords "\r\nsoon" = .error (.malformed 2 (.flaw .expectedValue) ⟨1, 1⟩) := by
    decide +kernel
  obtain ⟨_, _, _, early⟩ := parseRecords_by_line "\r\nsoon"
  exact ⟨refused, early _ refused _ (by decide)⟩

end EventLog
