import EventLog.Draft
import EventLog.Json.Canonical
import EventLog.Proofs.JsonReading

/-!
# Times in decimal digits

The decimal form of a 64-bit integer stands for the same time as a number
(`Json.Literal.stamp_of_text_eq`) and as a string (`Stamp.millisOfText_toString`).
-/

namespace EventLog

/-! ## Whole numbers -/

namespace Number

theorem readDigits_toDigits (n : Nat) : readDigits 0 (Nat.toDigits 10 n) = n :=
  Nat.ofDigitChars_ten_toDigits

/-- Digits only make a number larger. -/
theorem le_readDigits (size : Nat) (digits : List Char) : size ≤ readDigits size digits := by
  induction digits generalizing size with
  | nil => exact Nat.le_refl _
  | cons c digits ih =>
      have grows : size ≤ appendDigit size c := by
        unfold appendDigit
        omega
      exact Nat.le_trans grows (ih _)

/-- Digits are read whole if the number that they make up is in range. -/
theorem readMagnitude_of_le {negative : Bool} {digits : List Char}
    (decimal : ∀ c ∈ digits, c.isDigit = true) {size : Nat}
    (fits : readDigits size digits < if negative then signedBound + 1 else signedBound) :
    readMagnitude negative size digits = .ok (readDigits size digits) := by
  induction digits generalizing size with
  | nil => rfl
  | cons c digits ih =>
      rw [List.forall_mem_cons] at decimal
      have value : digit? c = some (c.toNat - '0'.toNat) := if_pos decimal.1
      have bound := Nat.lt_of_le_of_lt (le_readDigits (appendDigit size c) digits) fits
      -- The number so far is no larger than the whole, so the range is not left on the way.
      have read := @ih decimal.2 (appendDigit size c) fits
      rw [readMagnitude, value]
      cases negative with
      | true => exact (if_neg (Nat.not_lt.mpr (Nat.le_of_lt_succ bound))).trans read
      | false => exact (if_neg (Nat.not_le.mpr bound)).trans read

theorem ne_of_isDigit {c d : Char} (digit : c.isDigit = true) (other : d.isDigit = false) :
    c ≠ d := by
  rintro rfl
  rw [digit] at other
  cases other

/-- An integer is read off its sign and what begins with a digit. -/
theorem readInt64_signed (negative : Bool) {c : Char} (digit : c.isDigit = true)
    (rest : List Char) :
    readInt64 ((if negative then ['-'] else []) ++ c :: rest) =
      (readMagnitude negative 0 (c :: rest)).map fun size =>
        Int64.ofInt (if negative then -(size : Int) else size) := by
  cases negative with
  | true => rfl
  | false =>
      have minus : c ≠ '-' := ne_of_isDigit digit rfl
      have plus : c ≠ '+' := ne_of_isDigit digit rfl
      rw [if_neg Bool.false_ne_true, List.nil_append, readInt64]
      all_goals simp [minus, plus]

theorem readInt64_row (negative : Bool) (row : Json.DigitRow) :
    readInt64 ((if negative then ['-'] else []) ++ row.text) =
      (readMagnitude negative 0 row.text).map fun size =>
        Int64.ofInt (if negative then -(size : Int) else size) := by
  obtain ⟨c, digits, begins, digit⟩ := row.exists_cons
  rw [begins, readInt64_signed negative digit]

end Number

/-! ## Whole numbers as they are spelled -/

namespace Json.Literal

/-- What it takes for a number to be spelled by a sign and digits alone. -/
structure IsWhole (literal : Literal) : Prop where
  fraction : literal.fraction = none
  power : literal.power = none

/-- The number that the sign and the digits before the point stand for. -/
def toInt (literal : Literal) : Int :=
  if literal.negative then -(Number.readDigits 0 literal.whole.text : Int)
  else Number.readDigits 0 literal.whole.text

variable {literal : Literal}

theorem IsWhole.text_eq (whole : literal.IsWhole) :
    literal.text = (if literal.negative then ['-'] else []) ++ literal.whole.text := by
  rw [text, whole.fraction, whole.power, Option.elim_none, Option.elim_none, List.append_nil,
    List.append_nil]

theorem isWhole_ofInt (n : Int) : (ofInt n).IsWhole := ⟨rfl, rfl⟩

theorem toInt_ofInt (n : Int) : (ofInt n).toInt = n := by
  have digits : Number.readDigits 0 (DigitRow.ofNat n.natAbs).text = n.natAbs :=
    Number.readDigits_toDigits _
  simp only [toInt, ofInt, digits, decide_eq_true_eq]
  split <;> omega

theorem IsWhole.readInt64_text (whole : literal.IsWhole)
    (low : -(Number.signedBound : Int) ≤ literal.toInt)
    (high : literal.toInt < Number.signedBound) :
    Number.readInt64 literal.text = .ok (Int64.ofInt literal.toInt) := by
  have read : Number.readMagnitude literal.negative 0 literal.whole.text =
      .ok (Number.readDigits 0 literal.whole.text) := by
    apply Number.readMagnitude_of_le literal.whole.digits
    unfold toInt at low high
    split
    · rename_i negative
      rw [if_pos negative] at low
      omega
    · rename_i positive
      rw [if_neg positive] at high
      omega
  rw [whole.text_eq, Number.readInt64_row, read]
  rfl

end Json.Literal

/-! ## Times as text -/

theorem isBlank_of_isDigit {c : Char} (digit : c.isDigit = true) : Text.isBlank c = false := by
  have range : 48 ≤ c.toNat ∧ c.toNat ≤ 57 := Char.isDigit_iff_toNat.mp digit
  simp [Text.isBlank, Text.inRanges, Text.blankRanges, Text.CharRange.holds]
  omega

namespace Json

theorem Power.isDigit_or_mem {power : Power} {c : Char} (present : c ∈ power.text) :
    c.isDigit = true ∨ c ∈ ['-', '.', 'e', 'E', '+'] := by
  rw [Power.text, List.cons_append, List.mem_cons, List.mem_append] at present
  obtain rfl | sign | digit := present
  · obtain known | known := power.known <;> simp [known]
  · cases signed : power.sign <;> simp_all [PowerSign.text]
  · exact .inl (power.row.digits c digit)

namespace Literal

/-- What a number is spelled with. -/
theorem isDigit_or_mem {literal : Literal} {c : Char} (present : c ∈ literal.text) :
    c.isDigit = true ∨ c ∈ ['-', '.', 'e', 'E', '+'] := by
  rw [text, List.mem_append, List.mem_append, List.mem_append] at present
  obtain ((sign | digit) | fraction) | power := present
  · cases negative : literal.negative <;> simp_all
  · exact .inl (literal.whole.digits c digit)
  · cases fractional : literal.fraction with
    | none => simp [fractional] at fraction
    | some row =>
        rw [fractional, Option.elim_some, List.mem_cons] at fraction
        obtain rfl | digit := fraction
        · simp
        · exact .inl (row.digits c digit)
  · cases scaled : literal.power with
    | none => simp [scaled] at power
    | some exponent =>
        rw [scaled, Option.elim_some] at power
        exact exponent.isDigit_or_mem power

theorem isBlank_of_mem_text {literal : Literal} {c : Char} (present : c ∈ literal.text) :
    Text.isBlank c = false := by
  have others : (['-', '.', 'e', 'E', '+'].all fun c => !Text.isBlank c) = true := by decide
  obtain digit | known := isDigit_or_mem present
  · exact isBlank_of_isDigit digit
  · simpa using List.all_eq_true.mp others c known

/-- Blanks around a number in a text are dropped. -/
theorem trim_text (literal : Literal) {before after : List Char} (blank : Text.AllBlank before)
    (alsoBlank : Text.AllBlank after) :
    Text.trim (before ++ literal.text ++ after) = literal.text := by
  have unbroken : ∀ c ∈ literal.text, Text.isBlank c = false := fun _ => isBlank_of_mem_text
  obtain ⟨first, rest, begins, _⟩ := literal.exists_cons
  have ends := (List.dropLast_concat_getLast (begins ▸ List.cons_ne_nil first rest)).symm
  exact Text.trim_append blank alsoBlank (unbroken _ (begins ▸ List.mem_cons_self))
    (unbroken _ (List.getLast_mem _)) begins ends

end Literal

end Json

theorem isBlank_of_mem_toString {n : Int} {c : Char} (present : c ∈ (toString n).toList) :
    Text.isBlank c = false := by
  rw [← Json.Literal.text_ofInt] at present
  exact Json.Literal.isBlank_of_mem_text present

theorem Number.readInt64_toString (number : Int64) :
    readInt64 (toString number.toInt).toList = .ok number := by
  have whole := Json.Literal.isWhole_ofInt number.toInt
  have value := Json.Literal.toInt_ofInt number.toInt
  have low : -(signedBound : Int) ≤ (Json.Literal.ofInt number.toInt).toInt := by
    rw [value]
    exact number.le_toInt
  have high : (Json.Literal.ofInt number.toInt).toInt < signedBound := by
    rw [value]
    exact number.toInt_lt
  rw [← Json.Literal.text_ofInt, whole.readInt64_text low high, value, Int64.ofInt_toInt]

/-- A text that spells a time in decimal digits stands for it. -/
theorem Stamp.millisOfText_toString (time : Int64) :
    millisOfText (toString time.toInt).toList = some time := by
  have trimmed : Text.trim (toString time.toInt).toList = _ :=
    Text.trim_of_unbroken fun _ => isBlank_of_mem_toString
  rw [millisOfText, trimmed, Number.readInt64_toString]

/-! ## Times as numbers -/

namespace Json

/-- A text spells at most one numeral. -/
theorem Literal.numeral_eq_of_text_eq {literal other : Literal} (same : literal.text = other.text) :
    literal.numeral = other.numeral := by
  have ends : EndsNumber [] := fun c never => by cases never
  have read := Numeral.read_text literal ends .full
  rw [same, Numeral.read_text other ends, Except.ok.injEq, Prod.mk.injEq] at read
  exact read.1.symm

theorem Amount.ofNumeral?_ofInt {n : Int} (low : -Number.signedBound ≤ n)
    (high : n < Number.unsignedBound) :
    Amount.ofNumeral? (Literal.ofInt n).numeral = some (.whole n) := by
  have size : Number.readDigits 0 (DigitRow.ofNat n.natAbs).text = n.natAbs :=
    Number.readDigits_toDigits _
  simp only [ofNumeral?, Literal.numeral, Literal.ofInt, size, Option.map_none, Option.isNone_none,
    Bool.and_self, if_true, decide_eq_true_eq]
  by_cases negative : n < 0
  · have fits : 0 < n.natAbs ∧ n.natAbs ≤ Number.signedBound := by omega
    have value : -(n.natAbs : Int) = n := by omega
    rw [if_pos negative, if_pos fits, value]
  · have fits : n.natAbs < Number.unsignedBound := by omega
    have value : (n.natAbs : Int) = n := by omega
    rw [if_neg negative, if_pos fits, value]

theorem Stamp.millis?_ofAmount_whole (time : Int64) :
    (Stamp.ofAmount (.whole time.toInt)).millis? = some time := by
  have fits : Number.fitsSigned time.toInt = true := by
    have low := time.le_toInt
    have high := time.toInt_lt
    simp only [Number.fitsSigned, Bool.and_eq_true, decide_eq_true_eq]
    have bound : (Number.signedBound : Int) = 2 ^ 63 := rfl
    omega
  rw [Stamp.ofAmount, if_pos fits, Int64.ofInt_toInt]
  rfl

end Json

end EventLog
