/-!
# Lines

A line ends at a line feed, which takes one carriage return before it along. What follows the last
line feed is a line only if something is there.
-/

namespace EventLog.Text

/-- Takes one carriage return off the end of a line that is held backwards. -/
def dropReturn : List Char → List Char
  | '\r' :: rest => rest
  | line => line

/-- The lines of a text after those already `done`, while the characters of `current`, held
    backwards, wait for the end of their line. -/
def linesAfter (done : List (List Char)) (current : List Char) : List Char → List (List Char)
  | [] => (if current.isEmpty then done else current.reverse :: done).reverse
  | c :: rest =>
      if c = '\n' then
        linesAfter ((dropReturn current).reverse :: done) [] rest
      else
        linesAfter done (c :: current) rest

/-- The lines of a text, without their ends. -/
def lines (text : List Char) : List (List Char) := linesAfter [] [] text

theorem linesAfter_done (done : List (List Char)) (current text : List Char) :
    linesAfter done current text = done.reverse ++ linesAfter [] current text := by
  induction text generalizing done current with
  | nil => by_cases waiting : current.isEmpty <;> simp [linesAfter, waiting]
  | cons c rest ih =>
      by_cases feed : c = '\n'
      · simp only [linesAfter, feed, if_true]
        rw [ih, ih [_]]
        simp
      · simp only [linesAfter, feed, if_false]
        exact ih done (c :: current)

/-- A line without the carriage return at its end, if there is one. -/
def withoutReturn (line : List Char) : List Char :=
  if line.getLast? = some '\r' then line.dropLast else line

theorem reverse_dropReturn (line : List Char) :
    (dropReturn line.reverse).reverse = withoutReturn line := by
  obtain rfl | ⟨front, c, rfl⟩ := line.eq_nil_or_concat
  · rfl
  · by_cases ends : c = '\r'
    · simp [dropReturn, withoutReturn, ends]
    · simp [dropReturn, withoutReturn, ends]

theorem linesAfter_append {line : List Char} (unbroken : '\n' ∉ line)
    (done : List (List Char)) (current text : List Char) :
    linesAfter done current (line ++ text) = linesAfter done (line.reverse ++ current) text := by
  induction line generalizing current with
  | nil => rfl
  | cons c line ih =>
      rw [List.mem_cons, not_or] at unbroken
      rw [List.cons_append, linesAfter, if_neg (Ne.symm unbroken.1), ih unbroken.2]
      simp

/-- A line feed ends the line before it. -/
theorem lines_append_feed {line : List Char} (unbroken : '\n' ∉ line) (rest : List Char) :
    lines (line ++ '\n' :: rest) = withoutReturn line :: lines rest := by
  rw [lines, linesAfter_append unbroken, linesAfter, if_pos rfl, linesAfter_done, List.append_nil,
    reverse_dropReturn]
  rfl

/-- What no line feed ends is a line as it is, unless nothing is there. -/
theorem lines_of_not_mem {line : List Char} (unbroken : '\n' ∉ line) :
    lines line = if line = [] then [] else [line] := by
  have read := linesAfter_append unbroken [] [] []
  rw [List.append_nil] at read
  rw [lines, read, linesAfter]
  by_cases empty : line = [] <;> simp [empty]

end EventLog.Text
