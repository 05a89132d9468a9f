import EventLog.Proofs.DecimalTime
import EventLog.Proofs.LetterCase
import EventLog.Proofs.RecordObject
import EventLog.Proofs.WordBounds
import Mathlib.Data.List.TakeWhile

/-!
# Whole numbers as times

A whole number that fits a 64-bit integer is read exactly, whether it is written as a number or as
a string. One that does not fit is read as a double, and that may have been rounded into range:
the numbers down to 1024 below the least 64-bit integer are all taken for that integer. No other is
taken for a time (`SpellsWhole.millis?_eq`).
-/

namespace EventLog

open Number (Binary64 signedBound unsignedBound)

/-! ## Whole numbers as text -/

namespace Number

/-- Digits that make up a number out of range are refused. -/
theorem readMagnitude_of_beyond {negative : Bool} {digits : List Char}
    (decimal : ∀ c ∈ digits, c.isDigit = true) {size : Nat}
    (start : size < if negative then signedBound + 1 else signedBound)
    (beyond : (if negative then signedBound + 1 else signedBound) ≤ readDigits size digits) :
    ∃ fault, readMagnitude negative size digits = .error fault := by
  induction digits generalizing size with
  | nil => exact absurd start (not_lt.mpr beyond)
  | cons c digits ih =>
      rw [List.forall_mem_cons] at decimal
      have value : digit? c = some (c.toNat - '0'.toNat) := if_pos decimal.1
      rw [readMagnitude, value]
      by_cases within : appendDigit size c < if negative then signedBound + 1 else signedBound
      · obtain ⟨fault, refused⟩ := ih decimal.2 within beyond
        refine ⟨fault, ?_⟩
        cases negative with
        | true => exact (if_neg (not_lt.mpr (Nat.le_of_lt_succ within))).trans refused
        | false => exact (if_neg (not_le.mpr within)).trans refused
      · cases negative with
        | true =>
            have passed := not_le.mp fun small => within (Nat.lt_succ_of_le small)
            exact ⟨.tooSmall, if_pos passed⟩
        | false => exact ⟨.tooLarge, if_pos (not_lt.mp within)⟩

theorem Decimal.nearest_whole (negative : Bool) (n : Nat) :
    nearest ⟨negative, n, 0⟩ = .ofRatio negative n 1 := by
  unfold nearest
  by_cases zero : n = 0
  · simp [zero]
  · have large : ¬((n.log2 : Int) + 3 * 0 < -1100) := by omega
    simp only [if_neg zero, if_neg large]
    simp

/-- What begins with a digit is no name of a double. -/
theorem readUnsigned_of_isDigit (negative : Bool) {c : Char} (digit : c.isDigit = true)
    (rest : List Char) :
    readUnsigned negative (c :: rest) =
      (readDecimal negative (c :: rest)).map Decimal.nearest := by
  have kept : c.toLower = c := by
    have range := Char.isDigit_iff_toNat.mp digit
    have letter : ¬('A'.toNat ≤ c.toNat ∧ c.toNat ≤ 'Z'.toNat) := fun capital =>
      absurd (capital.1.trans range.2) (by decide)
    rw [← Char.toNat_inj, Text.toNat_toLower, if_neg letter]
  have unnamed {d : Char} (letter : d.isDigit = false) (after : List Char) :
      String.ofList ((c :: rest).map Char.toLower) ≠ String.ofList (d :: after) := by
    rw [List.map_cons, kept, ne_eq, String.ofList_inj]
    exact fun same => ne_of_isDigit digit letter (List.cons.inj same).1
  unfold readUnsigned
  split
  · rename_i word
    exact absurd word (unnamed rfl ['n', 'f'])
  · rename_i word
    exact absurd word (unnamed rfl ['n', 'f', 'i', 'n', 'i', 't', 'y'])
  · rename_i word
    exact absurd word (unnamed rfl ['a', 'n'])
  · rfl

/-- A double is read off its sign and what begins with a digit. -/
theorem readBinary64_signed (negative : Bool) {c : Char} (digit : c.isDigit = true)
    (rest : List Char) :
    readBinary64 ((if negative then ['-'] else []) ++ c :: rest) =
      (readDecimal negative (c :: rest)).map Decimal.nearest := by
  rw [← readUnsigned_of_isDigit negative digit]
  cases negative with
  | true => rfl
  | false =>
      have minus : c ≠ '-' := ne_of_isDigit digit rfl
      have plus : c ≠ '+' := ne_of_isDigit digit rfl
      rw [if_neg Bool.false_ne_true, List.nil_append, readBinary64]
      all_goals simp [minus, plus]

section Rows

variable (row : Json.DigitRow)

/-- A row of digits is read as a decimal number without fraction and exponent. -/
theorem readDecimal_row (negative : Bool) :
    readDecimal negative row.text = some ⟨negative, readDigits 0 row.text, 0⟩ := by
  have taken : row.text.takeWhile Char.isDigit = row.text :=
    List.takeWhile_eq_self_iff.mpr row.digits
  have dropped : row.text.dropWhile Char.isDigit = [] := List.dropWhile_eq_nil_iff.mpr row.digits
  rw [readDecimal, taken, dropped]
  simp [row.filled]

theorem readBinary64_row (negative : Bool) :
    readBinary64 ((if negative then ['-'] else []) ++ row.text) =
      some (.ofRatio negative (readDigits 0 row.text) 1) := by
  have read := readDecimal_row row negative
  obtain ⟨c, digits, begins, digit⟩ := row.exists_cons
  rw [begins] at read ⊢
  rw [readBinary64_signed negative digit, read, Option.map_some, Decimal.nearest_whole]

end Rows

end Number

/-- A text that spells a whole number with blanks around it. -/
theorem millisOfText_whole {literal : Json.Literal} (whole : literal.IsWhole)
    {before after : List Char} (blank : Text.AllBlank before) (alsoBlank : Text.AllBlank after) :
    Stamp.millisOfText (before ++ literal.text ++ after) = wholeTime? literal.toInt := by
  rw [Stamp.millisOfText, literal.trim_text blank alsoBlank]
  by_cases fits : -(signedBound : Int) ≤ literal.toInt ∧ literal.toInt < signedBound
  · rw [whole.readInt64_text fits.1 fits.2, wholeTime?_of_fits fits.1 fits.2]
  · have beyond : (if literal.negative then signedBound + 1 else signedBound) ≤
        Number.readDigits 0 literal.whole.text := by
      have positive : 0 < (signedBound : Int) := by decide
      unfold Json.Literal.toInt at fits
      split
      · rename_i negative
        rw [if_pos negative] at fits
        omega
      · rename_i unsigned
        rw [if_neg unsigned] at fits
        omega
    obtain ⟨fault, refused⟩ := Number.readMagnitude_of_beyond literal.whole.digits
      (by split <;> decide) beyond
    have low : signedBound ≤ Number.readDigits 0 literal.whole.text := by
      split at beyond <;> omega
    rw [whole.text_eq, Number.readInt64_row, refused, Number.readBinary64_row]
    exact toInt64?_ofRatio low

/-! ## Whole numbers as numbers -/

namespace Json.Amount

/-- Digits are gathered whole if a word holds the number that they make up. -/
theorem gather_of_lt {digits : List Char} {start : Nat}
    (fits : Number.readDigits start digits < unsignedBound) :
    gather start digits = (Number.readDigits start digits, 0) := by
  induction digits generalizing start with
  | nil => rfl
  | cons c digits ih =>
      have bound := lt_of_le_of_lt (Number.le_readDigits (Number.appendDigit start c) digits) fits
      have gathered := @ih (Number.appendDigit start c) fits
      rw [gather]
      exact (if_neg (not_le.mpr bound)).trans gathered

/-- Else the digits that are gathered make up at least a tenth of what a word holds. -/
theorem gather_of_le {digits : List Char} (decimal : ∀ c ∈ digits, c.isDigit = true) {start : Nat}
    (small : start < unsignedBound) (beyond : unsignedBound ≤ Number.readDigits start digits) :
    ∃ significand unread, gather start digits = (significand, unread + 1) ∧
      unsignedBound ≤ 10 * significand + 9 := by
  induction digits generalizing start with
  | nil => exact absurd small (not_lt.mpr beyond)
  | cons c digits ih =>
      rw [List.forall_mem_cons] at decimal
      rw [gather]
      by_cases passed : unsignedBound ≤ Number.appendDigit start c
      · refine ⟨start, digits.length, if_pos passed, passed.trans ?_⟩
        have digit : c.toNat ≤ '9'.toNat := (Char.isDigit_iff_toNat.mp decimal.1).2
        have nine : '9'.toNat = 57 := rfl
        have zero : '0'.toNat = 48 := rfl
        unfold Number.appendDigit
        omega
      · obtain ⟨significand, unread, gathered, most⟩ := ih decimal.2 (not_le.mp passed) beyond
        exact ⟨significand, unread, (if_neg passed).trans gathered, most⟩

/-- A whole number that does not pass three times a power of two is rounded to a double. -/
theorem ofNat_eq_finite {n power : Nat} (small : power + 2 ≤ 1024) (filled : 0 < n)
    (within : n ≤ 3 * 2 ^ power) :
    Binary64.ofNat n = .finite false (Binary64.rounded n 1) := by
  have held : Binary64.Representable ((3 : ℕ) * 2 ^ (power : ℤ)) :=
    ⟨3, power, by decide, by unfold Binary64.leastExponent; omega, rfl⟩
  have reached : (n : ℚ) / (1 : ℕ) ≤ (3 : ℕ) * 2 ^ (power : ℤ) := by
    rw [Nat.cast_one, div_one, zpow_natCast]
    exact_mod_cast within
  have bounded : ((3 : ℕ) : ℚ) * 2 ^ (power : ℤ) < Binary64.overflow := by
    calc ((3 : ℕ) : ℚ) * 2 ^ (power : ℤ)
      _ < 4 * 2 ^ power := by
        rw [zpow_natCast]
        gcongr
        norm_num
      _ = 2 ^ (power + 2) := by ring
      _ ≤ Binary64.overflow := by
        rw [Binary64.overflow_eq]
        exact pow_le_pow_right₀ one_le_two small
  exact Binary64.ofRatio_eq_finite held filled one_pos reached bounded false

theorem ofNat_word {n : Nat} (filled : 0 < n) (fits : n < unsignedBound) :
    Binary64.ofNat n = .finite false (Binary64.rounded n 1) :=
  ofNat_eq_finite (by decide) filled (fits.le.trans (by decide : _ ≤ 3 * 2 ^ 63))

/-- The powers of ten that are computed with are not too large for a double. -/
theorem ofNat_tenPower {power : Nat} (small : power ≤ 308) :
    Binary64.ofNat (Nat.pow 10 power) = .finite false (Binary64.rounded (Nat.pow 10 power) 1) := by
  have bound : 10 ^ power ≤ 3 * 2 ^ 1022 := by
    calc 10 ^ power
      _ ≤ 10 ^ (28 * 11) := by gcongr; norm_num
      _ = (10 ^ 28) ^ 11 := pow_mul _ _ _
      _ ≤ (33 * 2 ^ 88) ^ 11 := Nat.pow_le_pow_left (by norm_num) 11
      _ = 33 ^ 11 * (2 ^ 88) ^ 11 := mul_pow _ _ _
      _ ≤ 3 * 2 ^ 54 * (2 ^ 88) ^ 11 := Nat.mul_le_mul_right _ (by norm_num)
      _ = 3 * 2 ^ 1022 := by rw [mul_assoc, ← pow_mul, ← pow_add]
  exact ofNat_eq_finite (by decide) (Nat.pow_pos (by decide)) bound

theorem le_value_tenTo {x : ℚ} (held : Binary64.Representable x) {power : Nat}
    (small : power ≤ 308) (reached : x ≤ 10 ^ power) : x ≤ (tenTo power).value := by
  rw [tenTo, ofNat_tenPower small]
  apply Binary64.le_value_rounded held one_pos
  rw [Nat.cast_one, div_one]
  exact_mod_cast reached

/-- A whole number times a power of ten does not fall below what both factors reach. -/
theorem reaches_of_scaled {x y : ℚ} {significand unread : Nat} {double : Binary64}
    (whole : (Binary64.ofNat significand).Reaches x) (positive : 0 < x)
    (held : Binary64.Representable y) (product : unread ≤ 308 → y ≤ x * (tenTo unread).value)
    (found : scaled significand unread = some double) : double.Reaches y := by
  have filled : (Binary64.ofNat significand).isZero = false := whole.isZero_eq_false positive
  have unsigned : ¬(unread : Int) < 0 := by omega
  simp only [scaled, if_neg unsigned, filled] at found
  split at found
  · rename_i small
    split at found
    · cases found
    · cases found
      exact whole.times held (product (by omega))
  · cases found

theorem value_tenTo_zero : (tenTo 0).value = 1 := by
  have held : Binary64.Representable (((1 : ℕ) : ℚ) / (1 : ℕ)) :=
    ⟨1, 0, by decide, by decide, by norm_num⟩
  rw [tenTo, ofNat_tenPower (Nat.zero_le 308)]
  exact (Binary64.value_rounded_of_representable held one_pos one_pos).trans (by norm_num)

/-- A word that is not scaled keeps the value of its double. -/
theorem scaled_zero {n : Nat} (filled : 0 < n) (fits : n < unsignedBound) :
    ∃ product, scaled n 0 = some (.finite false product) ∧
      product.value = (Binary64.rounded n 1).value := by
  have same := ofNat_word filled fits
  have held : Binary64.Representable ((Binary64.rounded n 1).value * (tenTo 0).value) := by
    rw [value_tenTo_zero, mul_one]
    exact Binary64.representable_rounded filled one_pos
  have positive : 0 < (Binary64.rounded n 1).value := by
    have one : (1 : ℚ) ≤ n / (1 : ℕ) := by
      rw [Nat.cast_one, div_one]
      exact_mod_cast filled
    exact one_pos.trans_le
      (Binary64.le_value_rounded ⟨1, 0, by decide, by decide, by norm_num⟩ one_pos one)
  have bounded : (Binary64.rounded n 1).value * (tenTo 0).value < Binary64.overflow := by
    have word : (n : ℚ) / (1 : ℕ) ≤ 2 ^ 64 := by
      rw [Nat.cast_one, div_one]
      exact_mod_cast fits.le
    rw [value_tenTo_zero, mul_one]
    exact (Binary64.value_rounded_le ⟨1, 64, by decide, by decide, by norm_num⟩ filled one_pos
      word).trans_lt (Binary64.two_pow_lt_overflow (by decide))
  obtain ⟨product, times, kept⟩ := Binary64.times_eq_finite held positive
    (by rw [value_tenTo_zero]; exact one_pos) bounded false
  rw [value_tenTo_zero, mul_one] at kept
  refine ⟨product, ?_, kept⟩
  simp [scaled, same, times, Binary64.isInfinite]

/-- A whole number that is rounded to the bound keeps this value. -/
theorem scaled_near {size : Nat} (low : signedBound ≤ size) (near : size ≤ signedBound + 1024) :
    ∃ magnitude, scaled size 0 = some (.finite false magnitude) ∧
      magnitude.value = signedBound := by
  have filled : 0 < size := lt_of_lt_of_le (by decide) low
  have fits : size < unsignedBound := lt_of_le_of_lt near (by decide)
  obtain ⟨product, same, value⟩ := scaled_zero filled fits
  exact ⟨product, same, value.trans (Binary64.value_rounded_near low near)⟩

/-- The significand of a number that is no word comes close to a word itself. -/
theorem reaches_of_le {significand : Nat} (most : unsignedBound ≤ 10 * significand + 9) :
    (Binary64.ofNat significand).Reaches (3 * 2 ^ 59) := by
  have held : Binary64.Representable (3 * 2 ^ 59) :=
    ⟨3, 59, by decide, by decide, by norm_num⟩
  have large : 3 * 2 ^ 59 ≤ significand := by
    unfold unsignedBound at most
    omega
  apply Binary64.reaches_ofRatio held one_pos
  rw [Nat.cast_one, div_one]
  exact_mod_cast large

/-- The digits of a number beyond the bound make up a double as the number itself does. -/
theorem becomesBeyond_scaled {digits : List Char} (decimal : ∀ c ∈ digits, c.isDigit = true)
    (low : signedBound ≤ Number.readDigits 0 digits) :
    BecomesBeyond (Number.readDigits 0 digits)
      (scaled (gather 0 digits).1 (gather 0 digits).2) where
  near := fun near => by
    have word : Number.readDigits 0 digits < unsignedBound := lt_of_le_of_lt near (by decide)
    obtain ⟨magnitude, same, value⟩ := scaled_near low near
    rw [gather_of_lt word]
    exact ⟨false, magnitude, same, value⟩
  far := fun far double found => by
    by_cases word : Number.readDigits 0 digits < unsignedBound
    · rw [gather_of_lt word] at found
      apply reaches_of_scaled (Binary64.reaches_beyondBound far false) _
        Binary64.representable_beyondBound _ found
      · norm_num [Binary64.beyondBound]
      · intro _
        rw [value_tenTo_zero, mul_one]
    · obtain ⟨significand, unread, gathered, most⟩ :=
        gather_of_le decimal (by decide) (not_lt.mp word)
      rw [gathered] at found
      apply reaches_of_scaled (reaches_of_le most) (by norm_num)
        Binary64.representable_beyondBound _ found
      intro small
      -- Ten and its powers reach eight, which is a double.
      have eight : (8 : ℚ) ≤ (tenTo (unread + 1)).value := by
        apply le_value_tenTo ⟨8, 0, by decide, by decide, by norm_num⟩ small
        calc (8 : ℚ)
          _ ≤ 10 ^ 1 := by norm_num
          _ ≤ 10 ^ (unread + 1) := pow_le_pow_right₀ (by norm_num) (Nat.le_add_left 1 unread)
      calc Binary64.beyondBound
        _ ≤ 3 * 2 ^ 59 * 8 := by norm_num [Binary64.beyondBound]
        _ ≤ 3 * 2 ^ 59 * (tenTo (unread + 1)).value := by gcongr

theorem realOf_numeral {literal : Literal} (whole : literal.IsWhole) :
    realOf literal.numeral =
      (scaled (gather 0 literal.whole.text).1 (gather 0 literal.whole.text).2).map
        (Binary64.withSign literal.negative) := by
  simp only [realOf, Literal.numeral, whole.fraction, whole.power, Option.map_none, withPower]

/-- A zero may have a sign, and is then no word. -/
theorem toInt64?_realOf_zero {literal : Literal} (whole : literal.IsWhole)
    (zero : Number.readDigits 0 literal.whole.text = 0) :
    (realOf literal.numeral).bind Binary64.toInt64? = some 0 := by
  have gathered : gather 0 literal.whole.text = (0, 0) := by
    rw [gather_of_lt (by rw [zero]; decide), zero]
  have scaledZero : scaled 0 0 = some (.finite false ⟨0, Binary64.leastExponent⟩) := by
    decide +kernel
  rw [realOf_numeral whole, gathered, Nat.cast_zero, scaledZero]
  exact Binary64.toInt64?_zero literal.negative _

theorem toInt64?_realOf {literal : Literal} (whole : literal.IsWhole)
    (outside : Number.readDigits 0 literal.whole.text = 0 ∨
      signedBound ≤ Number.readDigits 0 literal.whole.text) :
    (realOf literal.numeral).bind Binary64.toInt64? = wholeTime? literal.toInt := by
  obtain zero | low := outside
  · have nothing : literal.toInt = 0 := by
      rw [Literal.toInt, zero]
      split <;> rfl
    rw [toInt64?_realOf_zero whole zero, nothing]
    rfl
  · rw [realOf_numeral whole]
    exact (becomesBeyond_scaled literal.whole.digits low).toInt64? low

end Json.Amount

theorem Stamp.millis?_ofAmount_eq (n : Int) :
    (Stamp.ofAmount (.whole n)).millis? = wholeTime? n := by
  rw [ofAmount]
  split
  · rename_i fits
    simp only [Number.fitsSigned, Bool.and_eq_true, decide_eq_true_eq] at fits
    exact (wholeTime?_of_fits fits.1 fits.2).symm
  · rename_i large
    simp only [Number.fitsSigned, Bool.and_eq_true, decide_eq_true_eq] at large
    have low : signedBound ≤ n.natAbs := by omega
    refine (toInt64?_ofRatio low).trans (congrArg wholeTime? ?_)
    by_cases negative : n < 0
    · rw [if_pos (decide_eq_true negative)]
      omega
    · rw [if_neg (by simpa using negative)]
      omega

namespace Json

/-- The value of a number without fraction and exponent. -/
theorem Literal.IsWhole.ofNumeral?_eq {literal : Literal} (whole : literal.IsWhole) :
    Amount.ofNumeral? literal.numeral = some (.whole literal.toInt) ∨
      Amount.ofNumeral? literal.numeral = (Amount.realOf literal.numeral).map .real ∧
        (Number.readDigits 0 literal.whole.text = 0 ∨
          signedBound ≤ Number.readDigits 0 literal.whole.text) := by
  have bounds : signedBound ≤ unsignedBound := by decide
  have plain : (literal.numeral.fraction.isNone && literal.numeral.power.isNone) = true := by
    simp only [Literal.numeral, whole.fraction, whole.power]
    rfl
  rw [Amount.ofNumeral?, if_pos plain, Literal.toInt]
  by_cases negative : literal.negative = true
  · rw [if_pos negative]
    by_cases word : 0 < Number.readDigits 0 literal.whole.text ∧
        Number.readDigits 0 literal.whole.text ≤ signedBound
    · exact .inl ((if_pos negative).trans (if_pos word))
    · exact .inr ⟨(if_pos negative).trans (if_neg word), by omega⟩
  · rw [if_neg negative]
    by_cases word : Number.readDigits 0 literal.whole.text < unsignedBound
    · exact .inl ((if_neg negative).trans (if_pos word))
    · exact .inr ⟨(if_neg negative).trans (if_neg word), by omega⟩

/-- A whole number stands for the same time whether a word holds it or a double. -/
theorem Literal.IsWhole.millis?_number {literal : Literal} (whole : literal.IsWhole) :
    (Value.number literal).datum.millis? = wholeTime? literal.toInt := by
  rw [Value.datum]
  obtain same | ⟨same, outside⟩ := whole.ofNumeral?_eq
  · rw [same]
    exact Stamp.millis?_ofAmount_eq literal.toInt
  · rw [← Amount.toInt64?_realOf whole outside, same]
    cases Amount.realOf literal.numeral <;> rfl

/-- What it takes for a value to be a whole number: one spelled by a sign and digits alone, or a
    string of such a number with blanks around it. -/
inductive SpellsWhole : Value → Int → Prop
  | number {literal : Literal} (whole : literal.IsWhole) :
      SpellsWhole (.number literal) literal.toInt
  | string {literal : Literal} {pieces : List Piece} {before after : List Char}
      (whole : literal.IsWhole) (blank : Text.AllBlank before) (alsoBlank : Text.AllBlank after)
      (content : decode pieces = some (before ++ literal.text ++ after)) :
      SpellsWhole (.string pieces) literal.toInt

theorem SpellsWhole.ofText {content : String} {before after : List Char}
    (blank : Text.AllBlank before) (alsoBlank : Text.AllBlank after) {n : Int}
    (spelled : content.toList = before ++ (toString n).toList ++ after) :
    SpellsWhole (.ofText content) n := by
  have decoded : decode (content.toList.map Piece.ofChar) =
      some (before ++ (Literal.ofInt n).text ++ after) := by
    rw [decode_map_ofChar, spelled, Literal.text_ofInt]
  have spells := string (Literal.isWhole_ofInt n) blank alsoBlank decoded
  rwa [Literal.toInt_ofInt] at spells

theorem SpellsWhole.millis?_eq {value : Value} {n : Int} (spells : SpellsWhole value n) :
    value.datum.millis? = wholeTime? n := by
  cases spells with
  | number whole => exact whole.millis?_number
  | string whole blank alsoBlank content =>
      rw [Value.datum, content, Option.elim_some, Datum.millis?, String.toList_ofList]
      exact millisOfText_whole whole blank alsoBlank

end Json

end EventLog
