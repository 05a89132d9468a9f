import EventLog.Proofs.ScaledNumerals
import EventLog.Proofs.TimedLines

/-!
# Times as numbers and as strings

As text a number is read as the double nearest to it (`Json.Literal.millisOfText_text`). As a number
it is read with up to three roundings, so that a whole number of milliseconds may be missed by the
last one. The two forms give the same time where the number is written without fraction and
exponent, where at most one of the roundings changes anything, and where no whole number is close
(`parseRecord_number_or_text`).
-/

namespace EventLog

open Json (Literal Piece Value)
open Number (Binary64 Decimal Magnitude Near readDigits unsignedBound)

/-! ## Numbers as text -/

namespace Number

/-- An integer has nothing but digits behind its sign. -/
theorem readMagnitude_of_mem {text : List Char} {c : Char} (present : c ∈ text)
    (other : c.isDigit = false) (negative : Bool) (size : ℕ) :
    ∃ fault, readMagnitude negative size text = .error fault := by
  induction text generalizing size with
  | nil => cases present
  | cons d text ih =>
      rw [readMagnitude]
      cases value : digit? d with
      | none => exact ⟨_, rfl⟩
      | some next =>
          have behind : c ∈ text := by
            refine (List.mem_cons.mp present).resolve_left ?_
            rintro rfl
            simp [digit?, other] at value
          simp only
          split
          · split
            · exact ⟨_, rfl⟩
            · exact ih behind _
          · split
            · exact ⟨_, rfl⟩
            · exact ih behind _

end Number

namespace Json.Literal

variable (literal : Literal)

def bareText : List Char :=
  literal.whole.text ++ ((literal.fraction.elim [] fun row => '.' :: row.text) ++
    literal.power.elim [] Power.text)

theorem text_eq_bareText :
    literal.text = (if literal.negative then ['-'] else []) ++ literal.bareText := by
  rw [text, bareText, List.append_assoc, List.append_assoc]

theorem readPower_power (power : Power) :
    Number.readPower (power.sign.text ++ power.row.text) = some power.value := by
  have size : Number.readPower.readSize power.row.text = some (readDigits 0 power.row.text) := by
    have digits : power.row.text.all Char.isDigit = true := List.all_eq_true.mpr power.row.digits
    simp [Number.readPower.readSize, power.row.filled, digits]
  obtain ⟨letter, known, sign, row⟩ := power
  cases sign with
  | plus =>
      simp only [PowerSign.text, List.singleton_append, Number.readPower, size]
      rfl
  | minus =>
      simp only [PowerSign.text, List.singleton_append, Number.readPower, size]
      rfl
  | none =>
      obtain ⟨c, digits, begins, digit⟩ := row.exists_cons
      have minus : c ≠ '-' := Number.ne_of_isDigit digit rfl
      have plus : c ≠ '+' := Number.ne_of_isDigit digit rfl
      simp only [PowerSign.text, List.nil_append, begins] at size ⊢
      rw [Number.readPower]
      all_goals simp [minus, plus, size, Power.value, begins]

/-- The exponent of a number is absent, or stands behind its letter. -/
theorem powerText_cases :
    literal.power.elim [] Power.text = [] ∧ literal.writtenPower = 0 ∨
      ∃ c rest, literal.power.elim [] Power.text = c :: rest ∧ (c = 'e' ∨ c = 'E') ∧
        Number.readPower rest = some literal.writtenPower := by
  unfold writtenPower
  cases literal.power with
  | none => exact .inl ⟨rfl, rfl⟩
  | some power => exact .inr ⟨power.letter, _, rfl, power.known, readPower_power power⟩

/-- A number is read as the decimal number that it spells. -/
theorem readDecimal_bareText (negative : Bool) :
    Number.readDecimal negative literal.bareText =
      some ⟨negative, literal.coefficient,
        literal.writtenPower - literal.fractionDigits.length⟩ := by
  have ends : EndsNumber [] := fun c never => by cases never
  obtain ⟨powerEnds, pointless⟩ := Numeral.endsDigits_power literal.power ends
  rw [List.append_nil] at powerEnds pointless
  have fractionEnds := Numeral.endsDigits_fraction literal.fraction powerEnds
  have filled := literal.whole.filled
  have spelled := literal.powerText_cases
  rw [bareText, Number.readDecimal, literal.whole.takeWhile_append fractionEnds,
    literal.whole.dropWhile_append fractionEnds]
  unfold coefficient fractionDigits
  generalize literal.power.elim [] Power.text = exponent at *
  cases literal.fraction with
  | none =>
      obtain ⟨rfl, unwritten⟩ | ⟨c, rest, rfl, letter, written⟩ := spelled
      · simp [filled, unwritten]
      · have other : c ≠ '.' := fun point => pointless (congrArg some point)
        simp [filled, letter, written, other]
  | some row =>
      simp only [Option.elim_some, List.cons_append, row.takeWhile_append powerEnds,
        row.dropWhile_append powerEnds]
      obtain ⟨rfl, unwritten⟩ | ⟨c, rest, rfl, letter, written⟩ := spelled
      · simp [filled, unwritten]
      · simp [filled, letter, written]

end Json.Literal

/-! ## Decimal numbers -/

namespace Number.Decimal

/-- The fraction that a decimal number is. -/
theorem size_eq_div (decimal : Decimal) :
    ((decimal.coefficient * Nat.pow 10 decimal.exponent.toNat : ℕ) : ℚ) /
      (Nat.pow 10 (-decimal.exponent).toNat : ℕ) = decimal.size := by
  obtain ⟨negative, coefficient, exponent⟩ := decimal
  rw [size, Nat.cast_mul, mul_div_assoc]
  obtain ⟨n, rfl | rfl⟩ := exponent.eq_nat_or_neg <;> simp

/-- A decimal number with a power of ten far below its digits is far below the least double. -/
theorem size_lt {decimal : Decimal}
    (tiny : (decimal.coefficient.log2 : ℤ) + 3 * decimal.exponent < -1100) :
    decimal.size < 2 ^ (-1100 : ℤ) := by
  obtain ⟨negative, coefficient, exponent⟩ := decimal
  simp only at tiny
  obtain ⟨down, rfl⟩ : ∃ down : ℕ, exponent = -down := ⟨exponent.natAbs, by omega⟩
  have digits : (coefficient : ℚ) < 2 ^ (coefficient.log2 + 1) := by
    exact_mod_cast Nat.lt_log2_self
  have eight : (8 : ℚ) ^ down ≤ 10 ^ down := by gcongr; norm_num
  calc (coefficient : ℚ) * 10 ^ (-(down : ℤ))
    _ ≤ coefficient * 8 ^ (-(down : ℤ)) := by
      rw [zpow_neg, zpow_neg, zpow_natCast, zpow_natCast]
      gcongr
    _ < 2 ^ (coefficient.log2 + 1) * 8 ^ (-(down : ℤ)) := by gcongr
    _ = 2 ^ ((coefficient.log2 : ℤ) + 1 + 3 * -down) := by
      rw [zpow_add₀ two_ne_zero, zpow_mul, ← Nat.cast_succ, zpow_natCast]
      norm_num
    _ ≤ 2 ^ (-1100 : ℤ) := zpow_le_zpow_right₀ one_le_two (by omega)

theorem le_size {decimal : Decimal} (filled : decimal.coefficient ≠ 0)
    (huge : 310 < decimal.exponent) : 2 ^ (1024 : ℤ) ≤ decimal.size := by
  have one : (1 : ℚ) ≤ decimal.coefficient := by
    exact_mod_cast Nat.one_le_iff_ne_zero.mpr filled
  calc (2 : ℚ) ^ (1024 : ℤ)
    _ ≤ 2 ^ (205 * 5) := by
      rw [← zpow_natCast]
      exact zpow_le_zpow_right₀ one_le_two (by decide)
    _ = (2 ^ 205) ^ 5 := pow_mul _ _ _
    _ ≤ (10 ^ 62) ^ 5 := by gcongr; norm_num
    _ = 10 ^ (310 : ℤ) := by rw [← pow_mul, ← zpow_natCast]; rfl
    _ ≤ 10 ^ decimal.exponent := zpow_le_zpow_right₀ (by norm_num) huge.le
    _ ≤ decimal.size := le_mul_of_one_le_left (by positivity) one

/-- The powers of ten that are not computed would lead to the same double. -/
theorem nearest_eq_ofRatio (decimal : Decimal) :
    decimal.nearest = .ofRatio decimal.negative
      (decimal.coefficient * Nat.pow 10 decimal.exponent.toNat)
        (Nat.pow 10 (-decimal.exponent).toNat) := by
  have divisor : 0 < Nat.pow 10 (-decimal.exponent).toNat := Nat.pow_pos (by decide)
  have fraction := decimal.size_eq_div
  unfold nearest
  split
  · rename_i zero
    rw [zero, Nat.zero_mul, Binary64.ofRatio_zero, Binary64.ofRatio_zero]
  · rename_i filled
    split
    · rename_i huge
      exact (Binary64.ofRatio_of_huge divisor ((le_size filled huge).trans_eq fraction.symm)
        decimal.negative).symm
    · split
      · rename_i tiny
        exact (Binary64.ofRatio_of_tiny divisor (fraction.trans_lt (size_lt tiny))
          decimal.negative).symm
      · rfl

/-- The double nearest to a decimal number stands for its size. -/
theorem renders_nearest (decimal : Decimal) :
    Binary64.Renders decimal.size (some decimal.nearest) := by
  have itself : Near 0 decimal.size decimal.size :=
    Near.refl (mul_nonneg (Nat.cast_nonneg _) (by positivity))
  rw [nearest_eq_ofRatio]
  rw [← size_eq_div] at itself ⊢
  exact Binary64.renders_ofRatio (Nat.pow_pos (by decide)) itself
    (by norm_num [Binary64.roundingError]) decimal.negative

theorem withSign_nearest (decimal : Decimal) :
    decimal.nearest.withSign decimal.negative = decimal.nearest := by
  rw [nearest_eq_ofRatio, Binary64.withSign_ofRatio]

end Number.Decimal

/-! ## Numbers with a fraction or an exponent -/

namespace Json.Literal

variable {literal : Literal}

theorem exists_not_isDigit (fractional : ¬literal.IsWhole) :
    ∃ c ∈ literal.bareText, c.isDigit = false := by
  unfold bareText
  cases fraction : literal.fraction with
  | some row => exact ⟨'.', by simp, rfl⟩
  | none =>
      cases exponent : literal.power with
      | none => exact absurd ⟨fraction, exponent⟩ fractional
      | some power =>
          refine ⟨power.letter, by simp [Power.text], ?_⟩
          obtain known | known := power.known <;> rw [known] <;> rfl

/-- As text, a number with a fraction or an exponent is read as the double nearest to it. -/
theorem millisOfText_text (fractional : ¬literal.IsWhole) :
    Stamp.millisOfText literal.text = literal.decimal.nearest.toInt64? := by
  have trimmed : Text.trim literal.text = literal.text :=
    Text.trim_of_unbroken fun _ => isBlank_of_mem_text
  have read := literal.readDecimal_bareText literal.negative
  obtain ⟨d, present, other⟩ := exists_not_isDigit fractional
  obtain ⟨fault, refused⟩ := Number.readMagnitude_of_mem present other literal.negative 0
  obtain ⟨c, rest, begins, digit⟩ : ∃ c rest, literal.bareText = c :: rest ∧ c.isDigit = true := by
    obtain ⟨c, digits, begins, digit⟩ := literal.whole.exists_cons
    exact ⟨c, _, by rw [bareText, begins, List.cons_append], digit⟩
  rw [begins] at read refused
  rw [Stamp.millisOfText, trimmed, text_eq_bareText, begins,
    Number.readInt64_signed _ digit, refused, Number.readBinary64_signed _ digit, read]
  rfl

/-- As a number, it is read as a double that is scaled by a power of ten. -/
theorem millis?_number (fractional : ¬literal.IsWhole) :
    (Value.number literal).datum.millis? =
      (Amount.realOf literal.numeral).bind Binary64.toInt64? := by
  have broken : (literal.numeral.fraction.isNone && literal.numeral.power.isNone) = false := by
    rw [Bool.and_eq_false_iff]
    by_contra plain
    have absent : literal.fraction = none ∧ literal.power = none := by
      simpa [numeral, not_or] using plain
    exact fractional ⟨absent.1, absent.2⟩
  rw [Value.datum, Amount.ofNumeral?, broken]
  cases Amount.realOf literal.numeral <;> rfl

/-- What it takes for the double of a number to be rounded at most once: no digit but zeros is left
    over, the power of ten is a double, and so are the digits, unless there is nothing to scale. -/
structure RoundsOnce (literal : Literal) : Prop where
  computed : literal.writtenPower.natAbs ≤ Amount.powerLimit
  lossless : ((Amount.gathered literal.numeral).1 : ℚ) *
    10 ^ ((Amount.gathered literal.numeral).2 + literal.writtenPower) = literal.decimal.size
  small : ((Amount.gathered literal.numeral).2 + literal.writtenPower).natAbs ≤ 22
  held : Binary64.Representable (Amount.gathered literal.numeral).1 ∨
    (Amount.gathered literal.numeral).2 + literal.writtenPower = 0

/-- A number that is rounded once is rounded to the nearest double. -/
theorem RoundsOnce.toInt64?_realOf (once : literal.RoundsOnce) :
    (Amount.realOf literal.numeral).bind Binary64.toInt64? =
      literal.decimal.nearest.toInt64? := by
  obtain ⟨computed, lossless, small, held⟩ := once
  have fits := Amount.gathered_fst_lt literal
  have fraction := literal.decimal.size_eq_div.trans lossless.symm
  have divisor : 0 < Nat.pow 10 (-literal.decimal.exponent).toNat := Nat.pow_pos (by decide)
  rw [Amount.realOf_eq, Amount.withPower_eq_scaled computed, Number.Decimal.nearest_eq_ofRatio]
  generalize (Amount.gathered literal.numeral).1 = significand at *
  generalize (Amount.gathered literal.numeral).2 + literal.writtenPower = power at *
  by_cases digits : Binary64.Representable significand
  · rw [Amount.scaled_eq_ofRatio fits digits small divisor fraction, Option.map_some,
      Binary64.withSign_ofRatio]
    rfl
  · obtain rfl := held.resolve_left digits
    have filled : 0 < significand := by
      apply Nat.pos_of_ne_zero
      rintro rfl
      exact digits ⟨0, 0, by decide, by decide, by norm_num⟩
    obtain ⟨product, scaled, value⟩ := Amount.scaled_zero filled fits
    have whole : (literal.decimal.coefficient * Nat.pow 10 literal.decimal.exponent.toNat : ℕ) /
        (Nat.pow 10 (-literal.decimal.exponent).toNat : ℕ) = (significand : ℚ) / (1 : ℕ) := by
      rw [fraction, zpow_zero, mul_one, Nat.cast_one, div_one]
    rw [Binary64.ofRatio_congr divisor one_pos whole, ← Binary64.withSign_ofRatio false,
      ← Binary64.ofNat, Amount.ofNat_word filled fits, scaled]
    refine (Binary64.toInt64?_finite _ _).trans ?_
    rw [value]
    exact (Binary64.toInt64?_finite _ _).symm

/-- The double of a number with few digits and a small power of ten is rounded once. -/
theorem RoundsOnce.of_le (computed : literal.writtenPower.natAbs ≤ Amount.powerLimit)
    (few : literal.coefficient ≤ 2 ^ 53) (small : literal.decimal.exponent.natAbs ≤ 22) :
    literal.RoundsOnce := by
  have gathered := Amount.gathered_of_lt (lt_of_le_of_lt few (by decide))
  have place : (Amount.gathered literal.numeral).2 + literal.writtenPower =
      literal.decimal.exponent := by
    rw [gathered]
    exact neg_add_eq_sub _ _
  refine ⟨computed, ?_, ?_, .inl ?_⟩
  · rw [place, gathered]
    rfl
  · rwa [place]
  · rw [gathered]
    exact ⟨literal.coefficient, 0, few, by decide, by norm_num⟩

/-- What it takes for a number to be read alike as a number and as a string. Its double is rounded
    at most once, or there is no whole number but zero so close to it that the roundings on the way
    could matter. -/
inductive Steady (literal : Literal) : Prop
  | whole (whole : literal.IsWhole)
  | once (once : literal.RoundsOnce)
  | clear (counts : literal.PowerCounts) (clear : Binary64.Clear literal.decimal.size)

/-- Both forms of a clear number have its whole part. -/
theorem millis?_of_clear (counts : literal.PowerCounts)
    (clear : Binary64.Clear literal.decimal.size) :
    (Amount.realOf literal.numeral).bind Binary64.toInt64? =
        Binary64.wholePart? literal.negative literal.decimal.size ∧
      literal.decimal.nearest.toInt64? =
        Binary64.wholePart? literal.negative literal.decimal.size := by
  have number := (Amount.renders_withPower counts).toInt64? clear literal.negative
  have text := literal.decimal.renders_nearest.toInt64? clear literal.decimal.negative
  rw [Option.map_some, Number.Decimal.withSign_nearest] at text
  rw [Amount.realOf_eq]
  exact ⟨number, text⟩

theorem Steady.millis?_eq (steady : literal.Steady) {pieces : List Piece}
    (spelled : decode pieces = some literal.text) :
    (Value.string pieces).datum.millis? = (Value.number literal).datum.millis? := by
  by_cases whole : literal.IsWhole
  · have content : decode pieces = some ([] ++ literal.text ++ []) := by
      rw [spelled, List.nil_append, List.append_nil]
    rw [(SpellsWhole.string whole Text.allBlank_nil Text.allBlank_nil content).millis?_eq,
      (SpellsWhole.number whole).millis?_eq]
  · have text : (Value.string pieces).datum.millis? = literal.decimal.nearest.toInt64? := by
      rw [Value.datum, spelled, Option.elim_some, Datum.millis?, String.toList_ofList]
      exact millisOfText_text whole
    rw [text, millis?_number whole]
    cases steady with
    | whole alsoWhole => exact absurd alsoWhole whole
    | once once => exact once.toInt64?_realOf.symm
    | clear counts clear =>
        obtain ⟨number, same⟩ := millis?_of_clear counts clear
        rw [number, same]

end Json.Literal

/-! ## Lines with one time in two forms -/

/-- A steady number in the place of the time of a record and a string that spells it give the same
    record, or no record both. -/
theorem parseRecord_number_or_text {line : UntimedLine} {valid : Value} {record : Record}
    {literal : Literal} {pieces : List Piece}
    (otherwise : parseRecord (String.ofList (line.text valid)) = .ok record)
    (spelled : Json.decode pieces = some literal.text) (steady : literal.Steady) :
    let asNumber := parseRecord (String.ofList (line.text (.number literal)))
    let asText := parseRecord (String.ofList (line.text (.string pieces)))
    (∃ time : Int64, asNumber = .ok { record with timestamp := time } ∧
      asText = .ok { record with timestamp := time }) ∨
      (∃ fault, asNumber = .error fault) ∧ ∃ fault, asText = .error fault := by
  have same := steady.millis?_eq spelled
  cases timed : (Value.number literal).datum.millis? with
  | some time =>
      rw [timed] at same
      exact .inl ⟨time, UntimedLine.parseRecord_retimed otherwise timed,
        UntimedLine.parseRecord_retimed otherwise same⟩
  | none =>
      rw [timed] at same
      exact .inr ⟨line.parseRecord_untimed timed, line.parseRecord_untimed same⟩

def zeroMicros : Json.DigitRow :=
  ⟨"000000".toList, by decide, List.all_eq_true.mp (by decide)⟩

def halfMicros : Json.DigitRow :=
  ⟨"500000".toList, by decide, List.all_eq_true.mp (by decide)⟩

def fractionalTime (fraction : Json.DigitRow) : Literal where
  negative := false
  whole := ⟨"1700000000002".toList, by decide, List.all_eq_true.mp (by decide)⟩
  unpadded := by decide
  fraction := some fraction
  power := none

/-- Half a millisecond is far from whole ones. -/
theorem parseRecord_number_or_text_of_half :
    let half := fractionalTime halfMicros
    let line (value : Value) := String.ofList (startLine.text value)
    let pieces := half.text.map Piece.ofChar
    parseRecord (line (.ofText "1e3")) = .ok { kind := .runStart, timestamp := 1000 } ∧
      ((∃ time : Int64,
        parseRecord (line (.number half)) = .ok { kind := .runStart, timestamp := time } ∧
        parseRecord (line (.string pieces)) = .ok { kind := .runStart, timestamp := time }) ∨
      (∃ fault, parseRecord (line (.number half)) = .error fault) ∧
        ∃ fault, parseRecord (line (.string pieces)) = .error fault) := by
  intro half line pieces
  have otherwise : parseRecord (line (.ofText "1e3")) =
      .ok { kind := .runStart, timestamp := 1000 } := startLine_eq_ok (by decide +kernel)
  have size : half.decimal.size = 1700000000002.5 := by
    have digits : half.decimal.coefficient = 1700000000002500000 := by decide +kernel
    have places : half.decimal.exponent = -6 := by decide +kernel
    rw [Number.Decimal.size, digits, places]
    norm_num
  have clear : Binary64.Clear half.decimal.size := by
    intro n _ _
    rw [size]
    obtain low | high : n ≤ 1700000000002 ∨ 1700000000003 ≤ n := by omega
    · have below : (n : ℚ) ≤ 1700000000002 := by exact_mod_cast low
      rw [abs_of_pos (by linarith)]
      norm_num
      linarith
    · have above : (1700000000003 : ℚ) ≤ n := by exact_mod_cast high
      rw [abs_of_neg (by linarith)]
      norm_num
      linarith
  have counts : half.PowerCounts := .inl (by decide)
  exact ⟨otherwise, parseRecord_number_or_text otherwise (Json.decode_map_ofChar _)
    (.clear counts clear)⟩

/-- The start of a run at a whole time that is written with microseconds, with marks around it. -/
def wholeMicros (mark : String) : String :=
  "\x7b\"__typename\":\"RunStartEvent\",\"timestamp\":" ++ mark ++ "1700000000002.000000" ++
    mark ++ "\x7d"

/-- The digits of this time do not fit the mantissa of a double, and the number falls short of the
    millisecond that it spells. -/
theorem parseRecord_wholeMicros :
    parseRecord (wholeMicros "") = .ok { kind := .runStart, timestamp := 1700000000001 } ∧
      parseRecord (wholeMicros "\"") = .ok { kind := .runStart, timestamp := 1700000000002 } := by
  have asNumber : wholeMicros "" =
      String.ofList (startLine.text (.number (fractionalTime zeroMicros))) := by
    decide +kernel
  have asText : wholeMicros "\"" =
      String.ofList (startLine.text (.ofText "1700000000002.000000")) := by
    decide +kernel
  rw [asNumber, asText]
  exact ⟨startLine_eq_ok (by decide +kernel), startLine_eq_ok (by decide +kernel)⟩

end EventLog
