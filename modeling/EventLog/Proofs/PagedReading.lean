import EventLog.Proofs.LogLines
import EventLog.Proofs.SharedBuffer

/-!
# Reading a log page by page

A log may be cut behind any of its line feeds and read in chunks. What one chunk leaves to the next
is the number of its lines and nothing else (`parseRecords_append`), so the chunks hold the records
of the whole log, and the first chunk that cannot be read has the fault of the whole log, up to the
lines before it. Main result: `paged_reading`.
-/

namespace EventLog

/-! ## Lines of a chunk -/

namespace Text

/-- What it takes for a text to leave no line without its end. -/
def Ended (text : List Char) : Prop := text = [] ∨ text.getLast? = some '\n'

instance (text : List Char) : Decidable (Ended text) :=
  inferInstanceAs (Decidable (text = [] ∨ text.getLast? = some '\n'))

theorem Ended.eq_nil_or {text : List Char} (ended : Ended text) :
    text = [] ∨ ∃ front, text = front ++ ['\n'] :=
  ended.imp_right fun last => List.getLast?_eq_some_iff.mp last

theorem linesAfter_append_feed (done : List (List Char)) (current front rest : List Char) :
    linesAfter done current (front ++ '\n' :: rest) =
      linesAfter done current (front ++ ['\n']) ++ lines rest := by
  induction front generalizing done current with
  | nil =>
      simp only [List.nil_append, linesAfter, if_true]
      rw [linesAfter_done]
      rfl
  | cons c front ih =>
      simp only [List.cons_append, linesAfter]
      split
      · exact ih _ _
      · exact ih _ _

theorem length_linesAfter_feed (done : List (List Char)) (current front : List Char) :
    (linesAfter done current (front ++ ['\n'])).length =
      done.length + (front ++ ['\n']).count '\n' := by
  induction front generalizing done current with
  | nil => simp [linesAfter]
  | cons c front ih =>
      simp only [List.cons_append, linesAfter]
      by_cases feed : c = '\n'
      · rw [if_pos feed, ih, List.length_cons, feed, List.count_cons_self]
        omega
      · rw [if_neg feed, ih, List.count_cons_of_ne feed]

theorem lines_append_of_ended {text : List Char} (ended : Ended text) (rest : List Char) :
    lines (text ++ rest) = lines text ++ lines rest := by
  obtain rfl | ⟨front, rfl⟩ := ended.eq_nil_or
  · rfl
  · rw [List.append_assoc]
    exact linesAfter_append_feed [] [] front rest

theorem length_lines_of_ended {text : List Char} (ended : Ended text) :
    (lines text).length = text.count '\n' := by
  obtain rfl | ⟨front, rfl⟩ := ended.eq_nil_or
  · rfl
  · exact (length_linesAfter_feed [] [] front).trans (Nat.zero_add _)

end Text

/-! ## Faults behind other lines -/

namespace LogFault

/-- The fault behind some more lines. -/
def behind (lines : Nat) (fault : LogFault) : LogFault := fault.onLine (fault.line + lines)

theorem onLine_onLine (fault : LogFault) (line other : Nat) :
    (fault.onLine line).onLine other = fault.onLine other := by
  cases fault <;> rfl

theorem behind_zero (fault : LogFault) : fault.behind 0 = fault := by
  cases fault <;> rfl

theorem behind_onLine (fault : LogFault) (line lines : Nat) :
    (fault.onLine line).behind lines = fault.onLine (line + lines) := by
  rw [behind, line_onLine, onLine_onLine]

theorem behind_behind (fault : LogFault) (lines earlier : Nat) :
    (fault.behind lines).behind earlier = fault.behind (earlier + lines) := by
  calc (fault.behind lines).behind earlier
    _ = fault.onLine (fault.line + lines + earlier) := behind_onLine fault _ earlier
    _ = fault.behind (earlier + lines) := by rw [behind, Nat.add_assoc, Nat.add_comm lines]

end LogFault

theorem parseLine_behind (number lines : Nat) (line : List Char) :
    parseLine (number + lines) line = (parseLine number line).mapError (LogFault.behind lines) := by
  rw [parseLine_eq, parseLine_eq number]
  cases parseRecord (String.ofList line) with
  | error cause => exact congrArg Except.error (cause.behind_onLine number lines).symm
  | ok record => rfl

/-- Lines are read alike wherever they stand. Only the line that a fault names differs. -/
theorem parseFrom_behind (number before : Nat) (lines : List (List Char)) :
    parseFrom (number + before) lines =
      (parseFrom number lines).mapError (LogFault.behind before) := by
  induction lines generalizing number with
  | nil => rfl
  | cons line lines ih =>
      by_cases blank : Text.AllBlank line
      · rw [parseFrom_cons_of_blank blank, parseFrom_cons_of_blank blank, Nat.add_right_comm, ih]
      · rw [parseFrom_cons blank, parseFrom_cons blank, parseLine_behind, Nat.add_right_comm, ih]
        cases parseLine number line with
        | error fault => rfl
        | ok record => cases parseFrom (number + 1) lines <;> rfl

/-- Lines are read one after another: the later ones only if there is no fault before them. -/
theorem parseFrom_append (number : Nat) (lines others : List (List Char)) :
    parseFrom number (lines ++ others) =
      (parseFrom number lines).bind fun records =>
        (parseFrom (number + lines.length) others).map (records ++ ·) := by
  rw [parseFrom, List.zipIdx_append, List.filter_append, List.mapM_append]
  change (parseFrom number lines).bind (fun records =>
    (parseFrom (number + lines.length) others).bind fun later => .ok (records ++ later)) = _
  refine congrArg _ (funext fun records => ?_)
  cases parseFrom (number + lines.length) others <;> rfl

/-! ## Logs in chunks -/

/-- Behind a text that leaves no line without its end, a log goes on as one that begins there. -/
theorem parseRecords_append {text : String} (ended : Text.Ended text.toList) (rest : String) :
    parseRecords (text ++ rest) =
      (parseRecords text).bind fun records =>
        ((parseRecords rest).mapError (LogFault.behind (text.toList.count '\n'))).map
          (records ++ ·) := by
  rw [parseRecords_eq_parseFrom, String.toList_append, Text.lines_append_of_ended ended,
    parseFrom_append, Text.length_lines_of_ended ended, parseFrom_behind]
  rfl

/-- What it takes for the pieces of a text to be cut behind line feeds: none but the last may leave
    a line without its end. -/
def CutAtLines (chunks : List String) : Prop := ∀ chunk ∈ chunks.dropLast, Text.Ended chunk.toList

instance (chunks : List String) : Decidable (CutAtLines chunks) :=
  inferInstanceAs (Decidable (∀ chunk ∈ chunks.dropLast, Text.Ended chunk.toList))

theorem CutAtLines.tail {chunk : String} {chunks : List String}
    (cut : CutAtLines (chunk :: chunks)) : CutAtLines chunks := by
  cases chunks with
  | nil => exact nofun
  | cons next chunks => exact fun other present => cut other (List.mem_cons_of_mem _ present)

/-- The first chunk is read for itself, and the others are read behind it. -/
theorem parseRecords_join_cons {chunk : String} {chunks : List String}
    (cut : CutAtLines (chunk :: chunks)) :
    parseRecords (String.join (chunk :: chunks)) =
      (parseRecords chunk).bind fun records =>
        ((parseRecords (String.join chunks)).mapError
          (LogFault.behind (chunk.toList.count '\n'))).map (records ++ ·) := by
  rw [String.join_cons]
  cases chunks with
  | nil =>
      have nothing : parseRecords (String.join []) = .ok [] := rfl
      rw [nothing, String.join_nil, String.append_empty]
      cases parseRecords chunk with
      | error fault => rfl
      | ok records => exact congrArg Except.ok (List.append_nil records).symm
  | cons next chunks => exact parseRecords_append (cut chunk List.mem_cons_self) _

/-- Chunks that can all be read hold the records of the whole log. -/
theorem parseRecords_join_of_read {chunks : List String} {pages : List (List Record)}
    (cut : CutAtLines chunks)
    (read : List.Forall₂ (fun chunk page => parseRecords chunk = .ok page) chunks pages) :
    parseRecords (String.join chunks) = .ok pages.flatten := by
  induction read with
  | nil => rfl
  | cons first _ ih =>
      rw [parseRecords_join_cons cut, first, ih cut.tail]
      rfl

/-- The first chunk that cannot be read has the fault of the whole log. -/
theorem parseRecords_join_of_refused {before after : List String} {bad : String} {fault : LogFault}
    (cut : CutAtLines (before ++ bad :: after))
    (read : ∀ chunk ∈ before, ∃ page, parseRecords chunk = .ok page)
    (refused : parseRecords bad = .error fault) :
    parseRecords (String.join (before ++ bad :: after)) =
      .error (fault.behind ((String.join before).toList.count '\n')) := by
  induction before with
  | nil =>
      rw [List.nil_append] at cut ⊢
      rw [parseRecords_join_cons cut, refused]
      exact congrArg Except.error fault.behind_zero.symm
  | cons chunk before ih =>
      obtain ⟨⟨page, first⟩, others⟩ := List.forall_mem_cons.mp read
      rw [List.cons_append] at cut ⊢
      rw [parseRecords_join_cons cut, first, ih cut.tail others, String.join_cons,
        String.toList_append, List.count_append, ← LogFault.behind_behind]
      rfl

/-! ## Pages in a buffer -/

/-- Pushes pages in order, each with the cursor that it brings. -/
def pushPages (handle : String) (pages : List (List Record × Option String)) : List Action :=
  pages.map fun (page, cursor) => .pushPage handle page cursor

namespace Session

variable (conventions : Conventions)

theorem records_run_pushPages (session : Session) (handle : String)
    (pages : List (List Record × Option String)) :
    ((session.run conventions (pushPages handle pages)).buffer handle).records =
      (session.buffer handle).records ++ (pages.map (·.1)).flatten := by
  induction pages generalizing session with
  | nil => exact (List.append_nil _).symm
  | cons page pages ih =>
      obtain ⟨page, cursor⟩ := page
      have pushed : (session.step conventions (.pushPage handle page cursor)).1.buffer handle =
          (session.buffer handle).pushPage page cursor :=
        buffer_modify_of_same session rfl (·.pushPage page cursor)
      rw [List.map_cons, List.flatten_cons, ← List.append_assoc]
      refine (ih _).trans ?_
      rw [pushed]
      rfl

/-- A log is cut behind line feeds and read in chunks. If all chunks can be read, the whole log can,
    and a new buffer that is filled with their pages, whatever cursors these bring, holds the same
    records as one that is filled with the whole log, as many of them, and as many at each level.
    Otherwise the fault of the whole log is that of the first chunk with a fault, behind as many
    lines as there are line feeds before that chunk. -/
theorem paged_reading {chunks : List String} (cut : CutAtLines chunks) :
    (∀ pages : List (List Record × Option String),
      List.Forall₂ (fun chunk page => parseRecords chunk = .ok page.1) chunks pages →
      ∃ records, parseRecords (String.join chunks) = .ok records ∧
        ∀ (handle : String) (cursor : Option String),
          let paged := run conventions {} (pushPages handle pages)
          let whole := run conventions {} [.pushPage handle records cursor]
          (paged.step conventions (.snapshot handle)).2 =
            (whole.step conventions (.snapshot handle)).2 ∧
          (paged.buffer handle).length = (whole.buffer handle).length ∧
          (paged.step conventions (.tally handle)).2 =
            (whole.step conventions (.tally handle)).2) ∧
    ∀ before bad after fault, chunks = before ++ bad :: after →
      (∀ chunk ∈ before, ∃ page, parseRecords chunk = .ok page) →
      parseRecords bad = .error fault →
      parseRecords (String.join chunks) =
        .error (fault.behind ((String.join before).toList.count '\n')) := by
  constructor
  · intro pages read
    have held : List.Forall₂ (fun chunk page => parseRecords chunk = .ok page) chunks
        (pages.map (·.1)) := List.forall₂_map_right_iff.mpr read
    refine ⟨_, parseRecords_join_of_read cut held, fun handle cursor => ?_⟩
    intro paged whole
    have same : (paged.buffer handle).records = (whole.buffer handle).records := by
      have once := records_run_pushPages conventions {} handle [((pages.map (·.1)).flatten, cursor)]
      rw [List.map_singleton, List.flatten_singleton] at once
      exact (records_run_pushPages conventions {} handle pages).trans once.symm
    exact ⟨congrArg Answer.records same, congrArg List.length same,
      congrArg (fun records => Answer.tally (Tally.ofRecords conventions records)) same⟩
  · rintro before bad after fault rfl read refused
    exact parseRecords_join_of_refused cut read refused

/-- One log is cut at a line feed behind a carriage return, at a blank line and behind nothing, and
    its last line has no end. The other has a line that is no record behind three others. -/
theorem paged_reading_of_blank_seams :
    let line := "\x7b\"kind\":\"Log\",\"timestamp\":1\x7d"
    let record : Record := { kind := .logMessage, timestamp := 1 }
    let chunks := [line ++ "\r\n\n", "", " \n", line ++ "\n" ++ line]
    let pages : List (List Record × Option String) :=
      [([record], some "next"), ([], none), ([], some "last"), ([record, record], none)]
    let broken := [line ++ "\r\n\n", "\n", "\nsoon\n", line]
    CutAtLines chunks ∧
      List.Forall₂ (fun chunk page => parseRecords chunk = .ok page.1) chunks pages ∧
      (∃ records, parseRecords (String.join chunks) = .ok records ∧
        ((run .standard {} (pushPages "pane" pages)).buffer "pane").length =
          ((run .standard {} [.pushPage "pane" records none]).buffer "pane").length) ∧
      CutAtLines broken ∧
      parseRecords "\nsoon\n" = .error (.malformed 2 (.flaw .expectedValue) ⟨1, 1⟩) ∧
      parseRecords (String.join broken) = .error (.malformed 5 (.flaw .expectedValue) ⟨1, 1⟩) := by
  intro line record chunks pages broken
  have cut : CutAtLines chunks := by decide +kernel
  have cutBroken : CutAtLines broken := by decide +kernel
  have nothing : parseRecords "" = .ok [] := rfl
  have blank : parseRecords " \n" = .ok [] := by decide +kernel
  have one : parseRecords (line ++ "\r\n\n") = .ok [record] := by decide +kernel
  have two : parseRecords (line ++ "\n" ++ line) = .ok [record, record] := by decide +kernel
  have read : List.Forall₂ (fun chunk page => parseRecords chunk = .ok page.1) chunks pages :=
    .cons one (.cons nothing (.cons blank (.cons two .nil)))
  have refused : parseRecords "\nsoon\n" = .error (.malformed 2 (.flaw .expectedValue) ⟨1, 1⟩) := by
    decide +kernel
  obtain ⟨whole, _⟩ := paged_reading .standard cut
  obtain ⟨_, first⟩ := paged_reading .standard cutBroken
  obtain ⟨records, parsed, alike⟩ := whole pages read
  refine ⟨cut, read, ⟨records, parsed, (alike "pane" none).2.1⟩, cutBroken, refused, ?_⟩
  have earlier : ∀ chunk ∈ [line ++ "\r\n\n", "\n"], ∃ page, parseRecords chunk = .ok page :=
    List.forall_mem_cons.mpr ⟨⟨[record], one⟩,
      List.forall_mem_singleton.mpr ⟨[], by decide +kernel⟩⟩
  have three : (String.join [line ++ "\r\n\n", "\n"]).toList.count '\n' = 3 := by decide +kernel
  have moved := first _ "\nsoon\n" [line] _ rfl earlier refused
  rw [three] at moved
  exact moved

end Session

end EventLog
