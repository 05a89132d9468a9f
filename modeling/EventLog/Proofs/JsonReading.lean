import EventLog.Json.Nested
import EventLog.Json.Written

/-!
# Reading written values

What the readers make of the texts that written values spell. A string that is wanted gives its
content, if it has any (`toOption_readString`), and one that is not wanted ends where it should
(`readString_outline`). A number gives its numeral (`Numeral.read_text`).
-/

namespace EventLog.Json

/-! ## Space -/

theorem skipSpace_append (space : Space) (text : List Char) :
    skipSpace (space.text ++ text) = skipSpace text :=
  List.dropWhile_append_of_pos space.spaces

theorem skipSpace_cons {c : Char} (ink : isSpace c = false) (rest : List Char) :
    skipSpace (c :: rest) = c :: rest :=
  List.dropWhile_cons_of_neg (by simp [ink])

/-! ## Results -/

theorem toOption_map {ε α β : Type} (f : α → β) (x : Except ε α) :
    (x.map f).toOption = x.toOption.map f := by
  cases x <;> rfl

theorem toOption_eq_some_iff {ε α : Type} {x : Except ε α} {a : α} :
    x.toOption = some a ↔ x = .ok a := by
  cases x <;> simp [Except.toOption]

theorem exists_error_of_toOption {ε α : Type} {x : Except ε α} (nothing : x.toOption = none) :
    ∃ fault, x = .error fault := by
  cases x with
  | error fault => exact ⟨fault, rfl⟩
  | ok b => cases nothing

/-! ## Words -/

theorem readWord_append (word rest : List Char) : readWord word (word ++ rest) = .ok rest := by
  induction word with
  | nil => rfl
  | cons c word ih => rw [List.cons_append, readWord, if_pos rfl, ih]

/-! ## Strings -/

theorem readUnit_text (unit : CodeUnit) (rest : List Char) :
    readUnit (unit.text ++ rest) = .ok (unit.value, rest) := by
  simp [readUnit, CodeUnit.text, CodeUnit.value, unit.first.stands, unit.second.stands,
    unit.third.stands, unit.fourth.stands]

theorem readEscape_short {letter c : Char} (stands : shortEscape? letter = some c) (care : Care)
    (rest : List Char) : readEscape care (letter :: rest) = .ok (c, rest) := by
  unfold shortEscape? at stands
  split at stands <;> cases stands <;> rfl

theorem readString_quote (care : Care) (rest : List Char) :
    readString care ('"' :: rest) = .ok ([], rest) := by
  rw [readString]

theorem readString_plain {c : Char} (allowed : 0x20 ≤ c.toNat ∧ c ≠ '"' ∧ c ≠ '\\') (care : Care)
    (text : List Char) :
    readString care (c :: text) =
      (readString care text).map fun (content, rest) => (c :: content, rest) := by
  rw [readString]
  · rw [if_neg (Nat.not_lt.mpr allowed.1)]
    cases readString care text <;> rfl
  · exact allowed.2.1
  · exact allowed.2.2

theorem readString_escape {care : Care} {text after : List Char} {c : Char}
    (read : readEscape care text = .ok (c, after)) :
    readString care ('\\' :: text) =
      (readString care after).map fun (content, rest) => (c :: content, rest) := by
  rw [readString]
  split
  · rename_i fault refused
    rw [read] at refused
    cases refused
  · rename_i other beyond found
    rw [read] at found
    cases found
    cases readString care after <;> rfl

theorem readString_refused {care : Care} {text : List Char} {fault : Fault}
    (refused : readEscape care text = .error fault) :
    readString care ('\\' :: text) = .error fault := by
  rw [readString]
  split
  · rename_i other found
    rw [refused] at found
    cases found
    rfl
  · rename_i c after found
    rw [refused] at found
    cases found

theorem readEscape_unpaired {unit : CodeUnit} (notTrailing : isTrailing unit.value = false)
    (notLeading : isLeading unit.value = false) (care : Care) (rest : List Char) :
    readEscape care ('u' :: (unit.text ++ rest)) = .ok (Char.ofNat unit.value, rest) := by
  simp [readEscape, readCodePoint, readUnit_text, notTrailing, notLeading]

theorem readEscape_trailing {unit : CodeUnit} (trailing : isTrailing unit.value = true)
    (rest : List Char) :
    readEscape .full ('u' :: (unit.text ++ rest)) = .error (Flaw.loneSurrogate.before rest) := by
  simp [readEscape, readCodePoint, readUnit_text, trailing]

theorem readEscape_leading {unit : CodeUnit} (notTrailing : isTrailing unit.value = false)
    (leading : isLeading unit.value = true) (rest : List Char) :
    readEscape .full ('u' :: (unit.text ++ rest)) = readTrailing unit.value rest := by
  simp [readEscape, readCodePoint, readUnit_text, notTrailing, leading]

theorem readTrailing_unit (leading : Nat) (unit : CodeUnit) (rest : List Char) :
    readTrailing leading ('\\' :: 'u' :: (unit.text ++ rest)) =
      if isTrailing unit.value then .ok (pairChar leading unit.value, rest)
      else .error (Flaw.loneSurrogate.before rest) := by
  rw [readTrailing, readUnit_text]

/-- The second half of a surrogate pair must follow at once. -/
theorem readTrailing_refused {pieces : List Piece}
    (apart : ∀ unit after, pieces ≠ .long unit :: after) (leading : Nat) (rest : List Char) :
    ∃ fault, readTrailing leading (pieces.flatMap Piece.text ++ '"' :: rest) = .error fault := by
  cases pieces with
  | nil => exact ⟨_, rfl⟩
  | cons piece pieces =>
      simp only [List.flatMap_cons, List.append_assoc]
      cases piece with
      | plain c allowed =>
          rw [Piece.text, List.singleton_append, readTrailing]
          · exact ⟨_, rfl⟩
          all_goals simp [allowed.2.2]
      | short letter c stands =>
          have otherLetter : letter ≠ 'u' := by
            rintro rfl
            cases stands
          rw [Piece.text, List.cons_append, List.singleton_append, readTrailing]
          · exact ⟨_, rfl⟩
          all_goals simp [otherLetter]
      | long unit => exact absurd rfl (apart unit pieces)

/-- A string that is wanted gives its content, if it has one. -/
theorem toOption_readString (pieces : List Piece) (rest : List Char) :
    (readString .full (pieces.flatMap Piece.text ++ '"' :: rest)).toOption =
      (decode pieces).map (·, rest) := by
  -- The cases are those of `decode`, which takes both units of a surrogate pair at once.
  fun_induction decode pieces with
  | case1 =>
      rw [List.flatMap_nil, List.nil_append, readString_quote]
      rfl
  | case2 c allowed pieces ih =>
      simp only [List.flatMap_cons, Piece.text, List.cons_append, List.nil_append]
      rw [readString_plain allowed, toOption_map, ih, Option.map_map, Option.map_map]
      rfl
  | case3 letter c stands pieces ih =>
      simp only [List.flatMap_cons, Piece.text, List.cons_append, List.nil_append]
      rw [readString_escape (readEscape_short stands .full _), toOption_map, ih, Option.map_map,
        Option.map_map]
      rfl
  | case4 unit pieces trailing =>
      simp only [List.flatMap_cons, Piece.text, List.append_assoc, List.cons_append]
      rw [readString_refused (readEscape_trailing trailing _)]
      rfl
  | case5 unit notTrailing leading second after trailing ih =>
      have pair (rest : List Char) :
          readEscape .full ('u' :: (unit.text ++ '\\' :: 'u' :: (second.text ++ rest))) =
            .ok (pairChar unit.value second.value, rest) := by
        rw [readEscape_leading (Bool.eq_false_iff.mpr notTrailing) leading, readTrailing_unit,
          if_pos trailing]
      simp only [List.flatMap_cons, Piece.text, List.append_assoc, List.cons_append]
      rw [readString_escape (pair _), toOption_map, ih, Option.map_map, Option.map_map]
      rfl
  | case6 unit notTrailing leading second after alone =>
      have refused (rest : List Char) :
          readEscape .full ('u' :: (unit.text ++ '\\' :: 'u' :: (second.text ++ rest))) =
            .error (Flaw.loneSurrogate.before rest) := by
        rw [readEscape_leading (Bool.eq_false_iff.mpr notTrailing) leading, readTrailing_unit,
          if_neg alone]
      simp only [List.flatMap_cons, Piece.text, List.append_assoc, List.cons_append]
      rw [readString_refused (refused _)]
      rfl
  | case7 unit pieces notTrailing leading apart =>
      obtain ⟨fault, refused⟩ := readTrailing_refused apart unit.value rest
      simp only [List.flatMap_cons, Piece.text, List.append_assoc, List.cons_append]
      rw [readString_refused]
      · rfl
      · rw [readEscape_leading (Bool.eq_false_iff.mpr notTrailing) leading, refused]
  | case8 unit pieces notTrailing notLeading ih =>
      have unpaired := readEscape_unpaired (Bool.eq_false_iff.mpr notTrailing)
        (Bool.eq_false_iff.mpr notLeading) .full
      simp only [List.flatMap_cons, Piece.text, List.append_assoc, List.cons_append]
      rw [readString_escape (unpaired _), toOption_map, ih, Option.map_map, Option.map_map]
      rfl

/-- The end of a string is found whatever its content is. -/
theorem readString_outline (pieces : List Piece) (rest : List Char) :
    ∃ content, readString .outline (pieces.flatMap Piece.text ++ '"' :: rest) =
      .ok (content, rest) := by
  induction pieces with
  | nil => exact ⟨[], readString_quote _ _⟩
  | cons piece pieces ih =>
      obtain ⟨content, read⟩ := ih
      simp only [List.flatMap_cons, List.append_assoc]
      cases piece with
      | plain c allowed =>
          rw [Piece.text, List.singleton_append, readString_plain allowed, read]
          exact ⟨c :: content, rfl⟩
      | short letter c stands =>
          rw [Piece.text, List.cons_append, List.singleton_append,
            readString_escape (readEscape_short stands _ _), read]
          exact ⟨c :: content, rfl⟩
      | long unit =>
          have unread (rest : List Char) : readEscape .outline ('u' :: (unit.text ++ rest)) =
              .ok (Char.ofNat unit.value, rest) := by
            simp [readEscape, readCodePoint, readUnit_text]
          rw [Piece.text, List.cons_append, List.cons_append, readString_escape (unread _), read]
          exact ⟨Char.ofNat unit.value :: content, rfl⟩

/-! ## Numbers -/

/-- What it takes for digits to end in front of a text. -/
def EndsDigits (rest : List Char) : Prop := ∀ c ∈ rest.head?, c.isDigit = false

/-- What it takes for a number to end in front of a text. -/
def EndsNumber (rest : List Char) : Prop :=
  ∀ c ∈ rest.head?, c.isDigit = false ∧ c ≠ '.' ∧ c ≠ 'e' ∧ c ≠ 'E'

theorem EndsNumber.endsDigits {rest : List Char} (ends : EndsNumber rest) : EndsDigits rest :=
  fun c first => (ends c first).1

theorem EndsDigits.cons {c : Char} (other : c.isDigit = false) (rest : List Char) :
    EndsDigits (c :: rest) := by
  rintro d ⟨⟩
  exact other

theorem EndsNumber.cons {c : Char} (other : c.isDigit = false ∧ c ≠ '.' ∧ c ≠ 'e' ∧ c ≠ 'E')
    (rest : List Char) : EndsNumber (c :: rest) := by
  rintro d ⟨⟩
  exact other

theorem EndsNumber.space_append {rest : List Char} (ends : EndsNumber rest) (space : Space) :
    EndsNumber (space.text ++ rest) := by
  obtain ⟨text, spaces⟩ := space
  cases text with
  | nil => exact ends
  | cons c text =>
      have space := spaces c List.mem_cons_self
      simp only [isSpace, Bool.or_eq_true, beq_iff_eq] at space
      obtain ((rfl | rfl) | rfl) | rfl := space <;> exact .cons (by decide) _

theorem EndsDigits.takeWhile {rest : List Char} (ends : EndsDigits rest) :
    rest.takeWhile Char.isDigit = [] := by
  cases rest with
  | nil => rfl
  | cons c rest => exact List.takeWhile_cons_of_neg (by simp [ends c rfl])

theorem EndsDigits.dropWhile {rest : List Char} (ends : EndsDigits rest) :
    rest.dropWhile Char.isDigit = rest := by
  cases rest with
  | nil => rfl
  | cons c rest => exact List.dropWhile_cons_of_neg (by simp [ends c rfl])

theorem DigitRow.takeWhile_append (row : DigitRow) {rest : List Char} (ends : EndsDigits rest) :
    (row.text ++ rest).takeWhile Char.isDigit = row.text := by
  rw [List.takeWhile_append_of_pos row.digits, ends.takeWhile, List.append_nil]

theorem DigitRow.dropWhile_append (row : DigitRow) {rest : List Char} (ends : EndsDigits rest) :
    (row.text ++ rest).dropWhile Char.isDigit = rest := by
  rw [List.dropWhile_append_of_pos row.digits, ends.dropWhile]

/-- Only a digit can begin a row of digits, in particular no sign. -/
theorem DigitRow.append_ne_cons (row : DigitRow) {c : Char} (other : c.isDigit = false)
    (rest after : List Char) : row.text ++ rest ≠ c :: after := by
  obtain ⟨d, digits, begins, digit⟩ := row.exists_cons
  intro same
  rw [begins, List.cons_append] at same
  rw [(List.cons.inj same).1, other] at digit
  cases digit

namespace Numeral

theorem readSome_row (row : DigitRow) {rest : List Char} (ends : EndsDigits rest)
    (cutOff : Fault) : readSome cutOff (row.text ++ rest) = .ok (row.text, rest) := by
  have taken := row.takeWhile_append ends
  have left := row.dropWhile_append ends
  obtain ⟨d, digits, same, digit⟩ := row.exists_cons
  rw [same, List.cons_append] at taken left ⊢
  rw [readSome, if_pos digit, taken, left]

theorem readWhole_row {row : DigitRow} (unpadded : row.text.head? = some '0' → row.text = ['0'])
    {rest : List Char} (ends : EndsDigits rest) (care : Care) :
    readWhole care (row.text ++ rest) = .ok (row.text, rest) := by
  unfold readWhole
  split
  · rename_i c after same
    obtain ⟨d, digits, begins, _⟩ := row.exists_cons
    -- The zero is the first digit of the row, so it is the only one.
    have zero : row.text = ['0'] := by
      rw [begins, List.cons_append] at same
      exact unpadded (by simp [begins, (List.cons.inj same).1])
    obtain rfl : rest = c :: after := by simpa [zero] using same
    rw [if_neg (by simp [ends c rfl]), zero]
  · exact readSome_row row ends _

theorem readFraction_text (fraction : Option DigitRow) {rest : List Char}
    (ends : EndsDigits rest) (pointless : rest.head? ≠ some '.') (care : Care) :
    readFraction care ((fraction.elim [] fun row => '.' :: row.text) ++ rest) =
      .ok (fraction.map DigitRow.text, rest) := by
  cases fraction with
  | none =>
      rw [Option.elim_none, List.nil_append, readFraction]
      · rfl
      · rintro after rfl
        exact pointless rfl
  | some row =>
      rw [Option.elim_some, List.cons_append, readFraction, readSome_row row ends]
      rfl

theorem readPower_text (power : Option Power) {rest : List Char} (ends : EndsNumber rest)
    (care : Care) :
    readPower care (power.elim [] Power.text ++ rest) =
      .ok (power.map fun power => (power.sign = .minus, power.row.text), rest) := by
  cases power with
  | none =>
      cases rest with
      | nil => rfl
      | cons c rest => simp [readPower, ends c rfl]
  | some power =>
      obtain ⟨letter, known, sign, row⟩ := power
      have digits := readSome_row row ends.endsDigits (cutOff care)
      rw [Option.elim_some, Power.text, List.append_assoc, List.cons_append]
      unfold readPower
      simp only [if_pos known]
      cases sign with
      | plus =>
          simp only [PowerSign.text, List.singleton_append, digits]
          rfl
      | minus =>
          simp only [PowerSign.text, List.singleton_append, digits]
          rfl
      | none =>
          simp only [PowerSign.text, List.nil_append]
          split
          · rename_i plus
            exact absurd plus (row.append_ne_cons rfl _ _)
          · rename_i minus
            exact absurd minus (row.append_ne_cons rfl _ _)
          · rw [digits]
            rfl

theorem endsDigits_power (power : Option Power) {rest : List Char} (ends : EndsNumber rest) :
    EndsDigits (power.elim [] Power.text ++ rest) ∧
      (power.elim [] Power.text ++ rest).head? ≠ some '.' := by
  cases power with
  | none => exact ⟨ends.endsDigits, fun point => (ends '.' point).2.1 rfl⟩
  | some power =>
      have letter : power.letter.isDigit = false ∧ power.letter ≠ '.' := by
        obtain known | known := power.known <;> rw [known] <;> decide
      exact ⟨.cons letter.1 _, by simp [Power.text, letter.2]⟩

theorem endsDigits_fraction (fraction : Option DigitRow) {rest : List Char}
    (ends : EndsDigits rest) :
    EndsDigits ((fraction.elim [] fun row => '.' :: row.text) ++ rest) := by
  cases fraction with
  | none => exact ends
  | some row => exact .cons rfl _

/-- A number is read up to its end. -/
theorem read_text (literal : Literal) {rest : List Char} (ends : EndsNumber rest) (care : Care) :
    read care (literal.text ++ rest) = .ok (literal.numeral, rest) := by
  obtain ⟨negative, whole, unpadded, fraction, power⟩ := literal
  obtain ⟨powerEnds, pointless⟩ := endsDigits_power power ends
  have first := readWhole_row unpadded (endsDigits_fraction fraction powerEnds) care
  have second := readFraction_text fraction powerEnds pointless care
  have third := readPower_text power ends care
  unfold read
  cases negative with
  | true =>
      simp only [Literal.text, if_true, List.cons_append, List.nil_append, List.append_assoc, first,
        second, third, bind, Except.bind]
      rfl
  | false =>
      simp only [Literal.text, Bool.false_eq_true, if_false, List.nil_append, List.append_assoc]
      split
      · rename_i minus
        exact absurd minus (whole.append_ne_cons rfl _ _)
      · simp only [first, second, third, bind, Except.bind]
        rfl

end Numeral

end EventLog.Json
