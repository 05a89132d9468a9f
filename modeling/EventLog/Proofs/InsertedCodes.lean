import EventLog.Report

/-!
# Codes in printed messages

A message is highlighted by taking slices of it, at the byte offsets of the hits, and putting codes
around every other one. A slice exists only between two boundaries of characters that are in order;
here all of them do (`slices_message`). What is printed with highlights is what is printed without,
but for the codes around each hit (`highlights_only_insert_codes`).
-/

namespace EventLog

/-! ## Slices -/

namespace Text

/-- The slice of a text from one byte up to another, if they are boundaries of characters and in
    order. -/
def slice? (text : String) (first last : Nat) : Option String :=
  if bounds : String.Pos.Raw.IsValid text ⟨first⟩ ∧ String.Pos.Raw.IsValid text ⟨last⟩ ∧
      first ≤ last then
    some (text.extract ⟨⟨first⟩, bounds.1⟩ ⟨⟨last⟩, bounds.2.1⟩)
  else none

/-- A slice is what stands between its bounds. -/
theorem slice?_append (before part after : String) :
    slice? (before ++ part ++ after) before.utf8ByteSize
      (before.utf8ByteSize + part.utf8ByteSize) = some part := by
  have first : String.Pos.Raw.IsValid (before ++ part ++ after) ⟨before.utf8ByteSize⟩ :=
    String.Pos.Raw.isValid_iff_exists_append.mpr
      ⟨before, part ++ after, String.append_assoc, rfl⟩
  have last : String.Pos.Raw.IsValid (before ++ part ++ after)
      ⟨before.utf8ByteSize + part.utf8ByteSize⟩ :=
    String.Pos.Raw.isValid_iff_exists_append.mpr
      ⟨before ++ part, after, rfl, by rw [String.rawEndPos, String.utf8ByteSize_append]⟩
  have size : before.utf8ByteSize + part.utf8ByteSize = (before ++ part).toByteArray.size := by
    rw [String.size_toByteArray, String.utf8ByteSize_append]
  rw [slice?, dif_pos ⟨first, last, Nat.le_add_right _ _⟩, Option.some_inj,
    ← String.toByteArray_inj, String.toByteArray_extract]
  change (before ++ part ++ after).toByteArray.extract before.utf8ByteSize
    (before.utf8ByteSize + part.utf8ByteSize) = part.toByteArray
  rw [String.toByteArray_append, size, ByteArray.extract_append_size_left,
    String.toByteArray_append]
  exact ByteArray.extract_append_eq_right String.size_toByteArray.symm ByteArray.size_append

end Text

/-! ## Cuts -/

namespace Cut

def plain (text : List Char) : Cut := ⟨[], text⟩

/-- Two texts in a row. The gaps between their hits become one. -/
def append (first second : Cut) : Cut :=
  match second.hits with
  | [] => ⟨first.hits, first.tail ++ second.tail⟩
  | (gap, hit) :: hits => ⟨first.hits ++ (first.tail ++ gap, hit) :: hits, second.tail⟩

def join : List Cut → Cut
  | [] => plain []
  | cut :: cuts => cut.append (join cuts)

theorem mark_append (first second : Cut) (before behind : List Char) :
    (first.append second).mark before behind =
      first.mark before behind ++ second.mark before behind := by
  obtain ⟨hits, tail⟩ := second
  cases hits with
  | nil => simp [append, mark]
  | cons hit hits => simp [append, mark]

theorem whole_append (first second : Cut) :
    (first.append second).whole = first.whole ++ second.whole := by
  obtain ⟨hits, tail⟩ := second
  cases hits with
  | nil => simp [append, whole]
  | cons hit hits => simp [append, whole]

theorem hits_append (first second : Cut) :
    (first.append second).hits.map Prod.snd =
      first.hits.map Prod.snd ++ second.hits.map Prod.snd := by
  obtain ⟨hits, tail⟩ := second
  cases hits with
  | nil => simp [append]
  | cons hit hits => simp [append]

theorem mark_join (cuts : List Cut) (before behind : List Char) :
    (join cuts).mark before behind = cuts.flatMap (mark before behind) := by
  induction cuts with
  | nil => rfl
  | cons cut cuts ih => rw [join, mark_append, ih, List.flatMap_cons]

theorem whole_join (cuts : List Cut) : (join cuts).whole = cuts.flatMap whole := by
  induction cuts with
  | nil => rfl
  | cons cut cuts ih => rw [join, whole_append, ih, List.flatMap_cons]

theorem hits_join (cuts : List Cut) :
    (join cuts).hits.map Prod.snd = cuts.flatMap fun cut => cut.hits.map Prod.snd := by
  induction cuts with
  | nil => rfl
  | cons cut cuts ih => rw [join, hits_append, ih, List.flatMap_cons]

end Cut

/-- Without words there is nothing to cut a text at. -/
theorem Highlighter.cut_of_idle (text : List Char) :
    Highlighter.cut {} text = Cut.plain text := by
  fun_induction Highlighter.cut {} text with
  | case1 => rfl
  | case2 c rest _ ih => rw [ih]; rfl
  | case3 c rest word found => cases found

namespace Layout

/-! ## Highlighted messages -/

/-- A message from byte `last` on, put together from its slices: up to each range, within it
    between the codes, and behind the last one. -/
def paste? (message : String) (last : Nat) : List (Nat × Nat) → Option String
  | [] => Text.slice? message last message.utf8ByteSize
  | (first, next) :: ranges => do
      let gap ← Text.slice? message last first
      let hit ← Text.slice? message first next
      let rest ← paste? message next ranges
      return gap ++ String.ofList highlightStart ++ hit ++ String.ofList highlightEnd ++ rest

/-- What is pasted behind the first bytes of a message is its rest, marked. -/
theorem paste?_rangesFrom (cut : Cut) (before : List Char) :
    paste? (String.ofList (before ++ cut.whole)) (Text.byteSize before)
        (Cut.rangesFrom (Text.byteSize before) cut.hits) =
      some (String.ofList (cut.mark highlightStart highlightEnd)) := by
  obtain ⟨hits, tail⟩ := cut
  induction hits generalizing before with
  | nil =>
      have rest := Text.slice?_append (String.ofList before) (String.ofList tail) ""
      rw [String.append_empty, ← String.ofList_append, Text.utf8ByteSize_ofList,
        Text.utf8ByteSize_ofList, ← Text.byteSize_append] at rest
      exact (congrArg _ (Text.utf8ByteSize_ofList _)).trans rest
  | cons hit hits ih =>
      obtain ⟨gap, hit⟩ := hit
      have split : before ++ Cut.whole ⟨(gap, hit) :: hits, tail⟩ =
          before ++ gap ++ hit ++ Cut.whole ⟨hits, tail⟩ := by
        simp [Cut.whole]
      have untouched := Text.slice?_append (String.ofList before) (String.ofList gap)
        (String.ofList (hit ++ Cut.whole ⟨hits, tail⟩))
      have marked := Text.slice?_append (String.ofList (before ++ gap)) (String.ofList hit)
        (String.ofList (Cut.whole ⟨hits, tail⟩))
      have later := ih (before ++ gap ++ hit)
      simp only [← String.ofList_append, Text.utf8ByteSize_ofList, Text.byteSize_append,
        ← List.append_assoc] at untouched marked later
      rw [split, Cut.rangesFrom, paste?, untouched, marked, later]
      simp [Cut.mark, String.append_assoc]

/-- All slices of a message exist, and make up the message with its highlights. -/
theorem slices_message (layout : Layout) (message : String) :
    paste? message 0 (layout.highlighter.ranges message) = some (layout.message message) := by
  have pasted := paste?_rangesFrom (layout.highlighter.cut message.toList) []
  rwa [List.nil_append, Highlighter.whole_cut, String.ofList_toList] at pasted

/-! ## Highlighted logs -/

def unhighlighted (layout : Layout) : Layout := { layout with highlighter := {} }

theorem message_unhighlighted (layout : Layout) (message : String) :
    layout.unhighlighted.message message = message := by
  rw [Layout.message, unhighlighted, Highlighter.cut_of_idle]
  exact String.ofList_toList

/-- What stands in front of the message in a printed row. -/
def head (layout : Layout) (record : Record) (isMatch : Bool) : String :=
  layout.marker isMatch ++ (Clock.render layout.zone record.timestamp.toInt ++ " " ++
    Text.padRight 8 (layout.conventions.levelOf record).name ++ " " ++
    Text.padRight 24 (record.stepKey.getD "-") ++ " ")

theorem row_eq (layout : Layout) (record : Record) (isMatch : Bool) :
    layout.marker isMatch ++ layout.line record =
      layout.head record isMatch ++ layout.message record.message ++ "\n" := by
  simp only [line, head, String.append_assoc]

/-- A printed row, cut at the hits of its message. -/
def rowCut (layout : Layout) (record : Record) (isMatch : Bool) : Cut :=
  ((Cut.plain (layout.head record isMatch).toList).append
    (layout.highlighter.cut record.message.toList)).append (Cut.plain ['\n'])

theorem mark_rowCut (layout : Layout) (record : Record) (isMatch : Bool) :
    (layout.rowCut record isMatch).mark highlightStart highlightEnd =
      (layout.marker isMatch ++ layout.line record).toList := by
  rw [rowCut, Cut.mark_append, Cut.mark_append, row_eq, String.toList_append,
    String.toList_append, Layout.message, String.toList_ofList]
  rfl

theorem whole_rowCut (layout : Layout) (record : Record) (isMatch : Bool) :
    (layout.rowCut record isMatch).whole =
      (layout.unhighlighted.marker isMatch ++ layout.unhighlighted.line record).toList := by
  rw [rowCut, Cut.whole_append, Cut.whole_append, Highlighter.whole_cut, row_eq,
    String.toList_append, String.toList_append, message_unhighlighted]
  rfl

theorem hits_rowCut (layout : Layout) (record : Record) (isMatch : Bool) :
    (layout.rowCut record isMatch).hits.map Prod.snd =
      (layout.highlighter.cut record.message.toList).hits.map Prod.snd := by
  rw [rowCut, Cut.hits_append, Cut.hits_append]
  simp [Cut.plain]

def printedCut (layout : Layout) (view : View) : Cut :=
  Cut.join (view.marked.map fun (entry, isMatch) => layout.rowCut entry.record isMatch)

theorem mark_printedCut (layout : Layout) (view : View) :
    (layout.printedCut view).mark highlightStart highlightEnd = (layout.print view).toList := by
  rw [printedCut, Cut.mark_join, print, lines, String.toList_join, List.flatMap_map,
    List.flatMap_map]
  exact congrArg (List.flatMap · _) (funext fun row => layout.mark_rowCut row.1.record row.2)

theorem whole_printedCut (layout : Layout) (view : View) :
    (layout.printedCut view).whole = (layout.unhighlighted.print view).toList := by
  rw [printedCut, Cut.whole_join, print, lines, String.toList_join, List.flatMap_map,
    List.flatMap_map]
  exact congrArg (List.flatMap · _) (funext fun row => layout.whole_rowCut row.1.record row.2)

theorem hits_printedCut (layout : Layout) (view : View) :
    (layout.printedCut view).hits.map Prod.snd =
      view.visible.flatMap fun entry =>
        (layout.highlighter.cut entry.record.message.toList).hits.map Prod.snd := by
  rw [printedCut, Cut.hits_join, List.flatMap_map,
    ← markAlong_map_fst view.visible view.textMatched, List.flatMap_map]
  exact congrArg (List.flatMap · _) (funext fun row => layout.hits_rowCut row.1.record row.2)

/-- Highlighting only inserts codes. A message is put together from slices that all exist; it is cut
    into the hits and the gaps around them, and is shown with the codes around each hit. What is
    printed of a view is cut at the same hits: with the codes around them it is what is printed
    with highlights, and without the codes it is what is printed without highlights. -/
theorem highlights_only_insert_codes (layout : Layout) (view : View) :
    (∀ message : String,
      let cut := layout.highlighter.cut message.toList
      cut.ranges = layout.highlighter.ranges message ∧ cut.whole = message.toList ∧
        (layout.message message).toList = cut.mark highlightStart highlightEnd ∧
        paste? message 0 cut.ranges = some (layout.message message)) ∧
    ∃ printed : Cut,
      printed.hits.map Prod.snd = (view.visible.flatMap fun entry =>
        (layout.highlighter.cut entry.record.message.toList).hits.map Prod.snd) ∧
      (layout.print view).toList = printed.mark highlightStart highlightEnd ∧
      (layout.unhighlighted.print view).toList = printed.whole := by
  constructor
  · intro message cut
    refine ⟨rfl, Highlighter.whole_cut _ _, ?_, layout.slices_message message⟩
    rw [Layout.message, String.toList_ofList]
  · exact ⟨layout.printedCut view, layout.hits_printedCut view, (layout.mark_printedCut view).symm,
      (layout.whole_printedCut view).symm⟩

end Layout

end EventLog
