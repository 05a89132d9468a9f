import EventLog.Proofs.RoundingError
import EventLog.Proofs.WholeTimes

/-!
# Scaled numerals

The double of a numeral with a fraction or an exponent is made from the digits that fit a word and
from a power of ten, with up to three roundings on the way. It stands for the size that the numeral
spells nonetheless (`renders_withPower`): what is lost with the digits that are left over and in the
roundings stays below a part in `2 ^ 51`, and where powers of ten are not computed with, the size is
beyond all times or below one.
-/

namespace EventLog

open Number (Binary64 Decimal Magnitude Near appendDigit readDigits unsignedBound)

/-! ## Digits -/

namespace Number

theorem readDigits_eq (start : ℕ) (digits : List Char) :
    readDigits start digits = start * 10 ^ digits.length + readDigits 0 digits := by
  induction digits generalizing start with
  | nil => simp [readDigits]
  | cons c digits ih =>
      have first : readDigits start (c :: digits) = readDigits (appendDigit start c) digits := rfl
      have second : readDigits 0 (c :: digits) = readDigits (appendDigit 0 c) digits := rfl
      rw [first, second, ih, ih (appendDigit 0 c), List.length_cons]
      unfold appendDigit
      ring

theorem readDigits_lt {digits : List Char} (decimal : ∀ c ∈ digits, c.isDigit = true) :
    readDigits 0 digits < 10 ^ digits.length := by
  induction digits with
  | nil => exact Nat.one_pos
  | cons c digits ih =>
      rw [List.forall_mem_cons] at decimal
      have digit : c.toNat ≤ '9'.toNat := (Char.isDigit_iff_toNat.mp decimal.1).2
      have value : appendDigit 0 c ≤ 9 := by
        unfold appendDigit
        have nine : '9'.toNat = 57 := rfl
        have zero : '0'.toNat = 48 := rfl
        omega
      have first : readDigits 0 (c :: digits) = readDigits (appendDigit 0 c) digits := rfl
      rw [first, readDigits_eq, List.length_cons, Nat.pow_succ]
      have rest := ih decimal.2
      nlinarith

end Number

namespace Json.Amount

/-! ## The digits that fit a word -/

section

variable {digits : List Char} {start : ℕ}

/-- The digits that are gathered fit a word, and begin the number that all digits make up. -/
theorem gather_bounds (decimal : ∀ c ∈ digits, c.isDigit = true) (small : start < unsignedBound) :
    (gather start digits).1 < unsignedBound ∧
      (gather start digits).1 * 10 ^ (gather start digits).2 ≤ readDigits start digits ∧
      readDigits start digits < ((gather start digits).1 + 1) * 10 ^ (gather start digits).2 := by
  induction digits generalizing start with
  | nil => simp [gather, readDigits, small]
  | cons c digits ih =>
      rw [gather]
      by_cases passed : unsignedBound ≤ appendDigit start c
      · simp only [if_pos passed]
        have rest := Number.readDigits_lt decimal
        rw [Number.readDigits_eq]
        exact ⟨small, Nat.le_add_right _ _, by rw [Nat.add_mul]; omega⟩
      · simp only [if_neg passed]
        exact ih (List.forall_mem_cons.mp decimal).2 (not_le.mp passed)

/-- If digits are left over, those that are gathered are so many that one more is a small part. -/
theorem le_gather (decimal : ∀ c ∈ digits, c.isDigit = true) (small : start < unsignedBound)
    (left : (gather start digits).2 ≠ 0) : 2 ^ 60 ≤ (gather start digits).1 := by
  by_cases fits : readDigits start digits < unsignedBound
  · rw [gather_of_lt fits] at left
    exact absurd rfl left
  · obtain ⟨significand, unread, gathered, most⟩ := gather_of_le decimal small (not_lt.mp fits)
    rw [gathered]
    unfold unsignedBound at most
    omega

/-- What is apart by a step is close if the step is small. -/
theorem near_of_step {x y step : ℚ} (nonneg : 0 ≤ step) (least : 2 ^ 60 * step ≤ x)
    (apart : |y - x| ≤ step) : Near (1 / 2 ^ 60) x y :=
  ⟨by linarith, by linarith⟩

/-- Digits that are left over count for nothing but their places. The digits that come after them
    may still be gathered, in those places. -/
theorem near_readDigits {more : List Char} (decimal : ∀ c ∈ digits, c.isDigit = true)
    (alsoDecimal : ∀ c ∈ more, c.isDigit = true) (small : start < unsignedBound) :
    Near (1 / 2 ^ 60) (readDigits start (digits ++ more))
      (readDigits (gather start digits).1 more * 10 ^ (gather start digits).2) := by
  obtain ⟨_, low, high⟩ := gather_bounds decimal small
  have enough := le_gather decimal small
  rw [Number.readDigits_append, Number.readDigits_eq, Number.readDigits_eq (gather start digits).1]
  generalize gather start digits = gathered at low high enough
  obtain ⟨significand, left⟩ := gathered
  obtain rfl | some := Nat.eq_zero_or_pos left
  · rw [pow_zero, Nat.mul_one] at low high
    rw [pow_zero, mul_one, Nat.le_antisymm (Nat.le_of_lt_succ high) low]
    exact (Near.refl (Nat.cast_nonneg _)).mono (by norm_num)
  · have least : (2 : ℚ) ^ 60 ≤ significand := by exact_mod_cast enough some.ne'
    have lower : (significand : ℚ) * 10 ^ left ≤ readDigits start digits := by
      exact_mod_cast low
    have upper : (readDigits start digits : ℚ) < (significand + 1) * 10 ^ left := by
      exact_mod_cast high
    have rest : (readDigits 0 more : ℚ) ≤ 10 ^ more.length := by
      exact_mod_cast (Number.readDigits_lt alsoDecimal).le
    have nonneg : (0 : ℚ) ≤ readDigits 0 more := Nat.cast_nonneg _
    have unit : (1 : ℚ) ≤ 10 ^ left := one_le_pow₀ (by norm_num)
    have places : (0 : ℚ) < 10 ^ more.length := by positivity
    push_cast
    -- The digits left over are lost, which counts down, and those after them are moved up.
    have lost := mul_le_mul_of_nonneg_right upper.le places.le
    have kept := mul_le_mul_of_nonneg_right lower places.le
    have moved := mul_le_mul_of_nonneg_right rest (sub_nonneg.mpr unit)
    have upwards := mul_nonneg nonneg (sub_nonneg.mpr unit)
    have large := mul_le_mul_of_nonneg_right least (mul_pos (one_pos.trans_le unit) places).le
    apply near_of_step (mul_pos (one_pos.trans_le unit) places).le
    · linarith
    · rw [abs_le]
      constructor <;> linarith

theorem near_gather (decimal : ∀ c ∈ digits, c.isDigit = true) (small : start < unsignedBound) :
    Near (1 / 2 ^ 60) (readDigits start digits)
      ((gather start digits).1 * 10 ^ (gather start digits).2) := by
  have nothing : ∀ c ∈ ([] : List Char), c.isDigit = true := fun _ never => by cases never
  have near := near_readDigits decimal nothing small
  rwa [List.append_nil] at near

end

/-- The significand of a numeral and the power of ten that belongs to it. -/
def gathered (numeral : Numeral) : ℕ × ℤ :=
  match numeral.fraction with
  | none => ((gather 0 numeral.whole).1, (gather 0 numeral.whole).2)
  | some digits =>
      ((gather (gather 0 numeral.whole).1 digits).1,
        (gather 0 numeral.whole).2 -
          (digits.length - (gather (gather 0 numeral.whole).1 digits).2))

theorem realOf_eq (numeral : Numeral) :
    realOf numeral =
      (withPower (gathered numeral).1 (gathered numeral).2 numeral.power).map
        (Binary64.withSign numeral.negative) := by
  unfold realOf gathered
  cases numeral.fraction <;> rfl

end Json.Amount

/-! ## Sizes of numerals -/

def Number.Decimal.size (decimal : Decimal) : ℚ := decimal.coefficient * 10 ^ decimal.exponent

namespace Json

def Power.value (power : Power) : ℤ :=
  if power.sign = .minus then -(readDigits 0 power.row.text : ℤ) else readDigits 0 power.row.text

theorem Power.natAbs_value (power : Power) :
    power.value.natAbs = readDigits 0 power.row.text := by
  unfold value
  split <;> omega

namespace Literal

def fractionDigits (literal : Literal) : List Char := literal.fraction.elim [] DigitRow.text

/-- The number that all digits make up, the point apart. -/
def coefficient (literal : Literal) : ℕ :=
  readDigits 0 (literal.whole.text ++ literal.fractionDigits)

/-- The exponent as it is written, if it is. -/
def writtenPower (literal : Literal) : ℤ := literal.power.elim 0 Power.value

def decimal (literal : Literal) : Decimal where
  negative := literal.negative
  coefficient := literal.coefficient
  exponent := literal.writtenPower - literal.fractionDigits.length

theorem isDigit_of_mem_fractionDigits {literal : Literal} {c : Char}
    (present : c ∈ literal.fractionDigits) : c.isDigit = true := by
  unfold fractionDigits at present
  cases fraction : literal.fraction with
  | none => rw [fraction] at present; cases present
  | some row => rw [fraction] at present; exact row.digits c present

end Literal

end Json

namespace Json.Amount

theorem gathered_fst_lt (literal : Literal) : (gathered literal.numeral).1 < unsignedBound := by
  have small := (gather_bounds literal.whole.digits (by decide : 0 < unsignedBound)).1
  unfold gathered Literal.numeral
  cases literal.fraction with
  | none => exact small
  | some row => exact (gather_bounds row.digits small).1

/-- Digits that fit a word are gathered whole. -/
theorem gathered_of_lt {literal : Literal} (fits : literal.coefficient < unsignedBound) :
    gathered literal.numeral = (literal.coefficient, -(literal.fractionDigits.length : ℤ)) := by
  unfold Literal.coefficient at fits ⊢
  rw [Number.readDigits_append] at fits ⊢
  have whole : readDigits 0 literal.whole.text < unsignedBound :=
    lt_of_le_of_lt (Number.le_readDigits _ _) fits
  unfold gathered Literal.numeral
  unfold Literal.fractionDigits at fits ⊢
  cases fraction : literal.fraction with
  | none => simp [gather_of_lt whole, readDigits]
  | some row =>
      rw [fraction, Option.elim_some] at fits
      simp [gather_of_lt whole, gather_of_lt fits]

/-- The digits that are gathered make up nearly what all digits make up. -/
theorem near_gathered (literal : Literal) :
    Near (1 / 2 ^ 58) (literal.coefficient * 10 ^ (-(literal.fractionDigits.length : ℤ)))
      ((gathered literal.numeral).1 * 10 ^ (gathered literal.numeral).2) := by
  have small : 0 < unsignedBound := by decide
  have fits := (gather_bounds literal.whole.digits small).1
  unfold gathered Literal.numeral Literal.coefficient Literal.fractionDigits
  cases literal.fraction with
  | none =>
      have near := near_gather literal.whole.digits small
      simpa using near.mono (by norm_num)
  | some row =>
      have first := near_readDigits literal.whole.digits row.digits small
      have second := (near_gather row.digits fits).mul_right
        (by positivity : (0 : ℚ) ≤ 10 ^ (gather 0 literal.whole.text).2)
      have both := ((first.trans second (by norm_num)).mul_right
        (by positivity : (0 : ℚ) ≤ 10 ^ (-(row.text.length : ℤ)))).mono
          (by norm_num : _ ≤ (1 / 2 ^ 58 : ℚ))
      have same (s : ℚ) (u k f : ℕ) : s * 10 ^ k * 10 ^ u * 10 ^ (-(f : ℤ)) =
          s * 10 ^ ((u : ℤ) - (f - k)) := by
        rw [mul_assoc, mul_assoc, ← zpow_natCast, ← zpow_natCast, ← zpow_add₀ (by norm_num),
          ← zpow_add₀ (by norm_num)]
        congr 2
        ring
      rwa [same] at both

/-! ## Scaling -/

theorem near_ofNat {n : ℕ} (fits : n < unsignedBound) :
    ∃ size, Binary64.ofNat n = .finite false size ∧
      Near Binary64.roundingError n size.value := by
  obtain rfl | filled := Nat.eq_zero_or_pos n
  · refine ⟨_, Binary64.ofRatio_zero false 1, ?_⟩
    rw [Magnitude.value_zero, Nat.cast_zero]
    exact (Near.refl le_rfl).mono Binary64.roundingError_nonneg
  · exact ⟨_, ofNat_word filled fits, Binary64.near_rounded_natCast filled⟩

theorem near_tenTo {power : ℕ} (small : power ≤ 308) :
    Near Binary64.roundingError (10 ^ power) (tenTo power).value := by
  rw [tenTo, ofNat_tenPower small]
  exact_mod_cast Binary64.near_rounded_natCast (Nat.pow_pos (by decide) : 0 < Nat.pow 10 power)

theorem one_le_value_tenTo {power : ℕ} (small : power ≤ 308) : 1 ≤ (tenTo power).value :=
  le_value_tenTo ⟨1, 0, by decide, by decide, by norm_num⟩ small
    (one_le_pow₀ (by norm_num))

theorem isZero_ofNat_iff {n : ℕ} : (Binary64.ofNat n).isZero = true ↔ n = 0 := by
  obtain rfl | filled := Nat.eq_zero_or_pos n
  · exact ⟨fun _ => rfl, fun _ => rfl⟩
  · have one : (1 : ℚ) ≤ (n : ℚ) / (1 : ℕ) := by
      rw [Nat.cast_one, div_one]
      exact_mod_cast filled
    have reached : (Binary64.ofNat n).Reaches 1 :=
      Binary64.reaches_ofRatio ⟨1, 0, by decide, by decide, by norm_num⟩ one_pos one false
    rw [reached.isZero_eq_false one_pos]
    exact ⟨fun never => absurd never Bool.false_ne_true, fun zero => absurd zero filled.ne'⟩

/-- A quotient that is at most a half stays so. -/
theorem exists_dividedBy_eq_finite {size divisor : Magnitude} (positive : 0 < divisor.value)
    (small : size.value ≤ 1 / 2 * divisor.value) :
    ∃ quotient, (Binary64.finite false size).dividedBy divisor = .finite false quotient ∧
      quotient.value ≤ 1 / 2 := by
  have filled := Nat.mul_pos size.denominator_pos (Magnitude.numerator_pos positive)
  apply Binary64.exists_ofRatio_of_le_half filled
  rw [Magnitude.value_div_value, div_le_iff₀ positive]
  exact small

/-- What is at most a half is not made larger. -/
theorem exists_shrink_eq_finite (power : ℕ) {size : Magnitude} (small : size.value ≤ 1 / 2) :
    ∃ quotient, shrink (.finite false size) power = .finite false quotient ∧
      quotient.value ≤ 1 / 2 := by
  induction power using Nat.strong_induction_on generalizing size with
  | _ power ih =>
      have step {few : ℕ} (fewer : few ≤ 308) :
          ∃ quotient, (Binary64.finite false size).dividedBy (tenTo few) =
            .finite false quotient ∧ quotient.value ≤ 1 / 2 := by
        have one := one_le_value_tenTo fewer
        exact exists_dividedBy_eq_finite (by linarith) (by linarith)
      rw [shrink]
      split
      · rename_i once
        exact step once
      · split
        · exact ⟨size, rfl, small⟩
        · obtain ⟨quotient, same, half⟩ := step le_rfl
          rw [same]
          exact ih (power - 308) (by omega) half

section

variable {x : ℚ} {significand : ℕ}

/-- The twentieth power of ten is larger than a word. -/
theorem le_ten_zpow {power : ℤ} (many : 20 ≤ power) : (2 : ℚ) ^ 66 ≤ 10 ^ power := by
  calc (2 : ℚ) ^ 66
    _ ≤ 10 ^ (20 : ℤ) := by norm_num
    _ ≤ 10 ^ power := zpow_le_zpow_right₀ (by norm_num) many

/-- What is divided by the twentieth power of ten is less than one. -/
theorem lt_one_of_near {power : ℤ} (fits : significand < unsignedBound) (many : 20 ≤ power)
    (near : Near (1 / 2 ^ 58) x (significand * 10 ^ (-power))) : x < 1 := by
  have word : (significand : ℚ) < 2 ^ 64 := by exact_mod_cast fits
  have large := le_ten_zpow many
  have low := near.le
  have part : (significand : ℚ) * 10 ^ (-power) ≤ 1 / 4 := by
    rw [zpow_neg, ← div_eq_mul_inv, div_le_iff₀ (by positivity)]
    linarith
  linarith

/-- What is multiplied by it lies beyond all times. -/
theorem le_of_near {power : ℤ} (filled : 0 < significand) (many : 20 ≤ power)
    (near : Near (1 / 2 ^ 58) x (significand * 10 ^ power)) : 2 ^ 64 ≤ x := by
  have one : (1 : ℚ) ≤ significand := by exact_mod_cast filled
  have high := near.ge
  have large : (2 : ℚ) ^ 66 ≤ significand * 10 ^ power :=
    (le_ten_zpow many).trans (le_mul_of_one_le_left (by positivity) one)
  linarith

/-- A word divided once by a power of ten stands for its size. -/
theorem renders_dividedBy {power : ℕ} (fits : significand < unsignedBound) (small : power ≤ 308)
    (near : Near (1 / 2 ^ 58) x (significand * 10 ^ (-(power : ℤ)))) :
    Binary64.Renders x (some ((Binary64.ofNat significand).dividedBy (tenTo power))) := by
  obtain ⟨size, same, close⟩ := near_ofNat fits
  have one := one_le_value_tenTo small
  have positive : 0 < (tenTo power).value := by linarith
  have inverse := (near_tenTo small).inv (by positivity)
    (by norm_num [Binary64.roundingError, Binary64.precision]) Binary64.roundingError_nonneg
  have error : 0 ≤ Binary64.roundingError +
      2 * Binary64.roundingError * Binary64.roundingError := by
    have nonneg := Binary64.roundingError_nonneg
    positivity
  have quotient := close.mul inverse error size.value_nonneg
  rw [← div_eq_mul_inv size.value] at quotient
  rw [zpow_neg, zpow_natCast] at near
  rw [same]
  apply Binary64.renders_ofRatio
    (Nat.mul_pos size.denominator_pos (Magnitude.numerator_pos positive))
  · rw [Magnitude.value_div_value]
    exact near.trans quotient (by norm_num [Binary64.roundingError, Binary64.precision])
  · norm_num [Binary64.roundingError, Binary64.precision]

/-- A word multiplied by a power of ten stands for its size. -/
theorem renders_times {power : ℕ} (fits : significand < unsignedBound) (small : power ≤ 308)
    (near : Near (1 / 2 ^ 58) x (significand * 10 ^ (power : ℤ))) :
    Binary64.Renders x (some ((Binary64.ofNat significand).times (tenTo power))) := by
  obtain ⟨size, same, close⟩ := near_ofNat fits
  have product :=
    close.mul (near_tenTo small) Binary64.roundingError_nonneg size.value_nonneg
  rw [zpow_natCast] at near
  rw [same]
  apply Binary64.renders_ofRatio (Nat.mul_pos size.denominator_pos (tenTo power).denominator_pos)
  · rw [Magnitude.value_mul_value]
    exact near.trans product (by norm_num [Binary64.roundingError, Binary64.precision])
  · norm_num [Binary64.roundingError, Binary64.precision]

theorem renders_shrink {power : ℕ} (fits : significand < unsignedBound)
    (near : Near (1 / 2 ^ 58) x (significand * 10 ^ (-(power : ℤ)))) :
    Binary64.Renders x (some (shrink (Binary64.ofNat significand) power)) := by
  rw [shrink]
  split
  · rename_i once
    exact renders_dividedBy fits once near
  · have below : x < 1 := lt_one_of_near fits (by omega) near
    split
    · rename_i zero
      rw [isZero_ofNat_iff.mp zero]
      exact Binary64.renders_zero below false
    · -- The first quotient is less than a half, and is made no larger.
      obtain ⟨size, same, close⟩ := near_ofNat fits
      have word : (significand : ℚ) < 2 ^ 64 := by exact_mod_cast fits
      have large : (2 : ℚ) ^ 66 ≤ (tenTo 308).value :=
        le_value_tenTo ⟨1, 66, by decide, by decide, by norm_num⟩ le_rfl
          (by exact_mod_cast le_ten_zpow (by decide : (20 : ℤ) ≤ (308 : ℕ)))
      have first : size.value ≤ 1 / 2 * (tenTo 308).value := by
        have high := close.ge
        unfold Binary64.roundingError Binary64.precision at high
        linarith
      obtain ⟨quotient, divided, half⟩ := exists_dividedBy_eq_finite (by linarith) first
      obtain ⟨last, shrunk, alsoHalf⟩ := exists_shrink_eq_finite (power - 308) half
      rw [same, divided, shrunk]
      exact .inl ⟨below, by linarith⟩

/-- A word times a power of ten stands for its size, or is too large for a double. -/
theorem renders_scaled {power : ℤ} (fits : significand < unsignedBound)
    (near : Near (1 / 2 ^ 58) x (significand * 10 ^ power)) :
    Binary64.Renders x (scaled significand power) := by
  unfold scaled
  simp only
  by_cases down : power < 0
  · rw [if_pos down]
    apply renders_shrink fits
    rwa [Int.ofNat_natAbs_of_nonpos down.le, neg_neg]
  · rw [if_neg down]
    lift power to ℕ using not_lt.mp down with up
    by_cases once : up ≤ 308
    · have renders := renders_times fits once near
      rw [if_pos (by omega), Int.toNat_natCast]
      generalize (Binary64.ofNat significand).times (tenTo up) = double at renders
      cases double with
      | nan => exact renders
      | infinite _ => exact renders
      | finite _ _ => exact renders
    · rw [if_neg (by omega)]
      split
      · rename_i zero
        rw [isZero_ofNat_iff.mp zero] at near ⊢
        rw [Nat.cast_zero, zero_mul] at near
        rw [near.eq_zero (by norm_num)]
        exact Binary64.renders_zero one_pos false
      · rename_i filled
        exact le_of_near (Nat.pos_of_ne_zero (mt isZero_ofNat_iff.mpr filled)) (by omega) near

end

end Json.Amount

/-! ## Written exponents -/

namespace Json.Literal

/-- What it takes for the exponent of a number to count: it is small enough to be computed with, or
    so large that the digits cannot make up for it. -/
def PowerCounts (literal : Literal) : Prop :=
  literal.writtenPower.natAbs ≤ Amount.powerLimit ∨
    literal.whole.text.length + literal.fractionDigits.length + 20 ≤ literal.writtenPower.natAbs

variable {literal : Literal}

theorem coefficient_lt (literal : Literal) :
    literal.coefficient < 10 ^ (literal.whole.text.length + literal.fractionDigits.length) := by
  rw [← List.length_append]
  apply Number.readDigits_lt
  intro c present
  rw [List.mem_append] at present
  exact present.elim (literal.whole.digits c) isDigit_of_mem_fractionDigits

/-- Digits do not make up for a negative exponent that outweighs them. -/
theorem size_lt_one {down : ℕ} (written : literal.writtenPower = -down)
    (outweighed : literal.whole.text.length + literal.fractionDigits.length ≤ down) :
    literal.decimal.size < 1 := by
  have digits : (literal.coefficient : ℚ) < 10 ^ down := by
    exact_mod_cast literal.coefficient_lt.trans_le (Nat.pow_le_pow_right (by decide) outweighed)
  calc literal.decimal.size
    _ = literal.coefficient * 10 ^ (literal.writtenPower - literal.fractionDigits.length) := rfl
    _ ≤ literal.coefficient * 10 ^ (-(down : ℤ)) := by
      gcongr
      · norm_num
      · omega
    _ = literal.coefficient / 10 ^ down := by rw [zpow_neg, zpow_natCast, div_eq_mul_inv]
    _ < 1 := (div_lt_one (by positivity)).mpr digits

end Json.Literal

namespace Json.Amount

theorem near_size (literal : Literal) :
    Near (1 / 2 ^ 58) literal.decimal.size ((gathered literal.numeral).1 *
      10 ^ ((gathered literal.numeral).2 + literal.writtenPower)) := by
  have ten : (10 : ℚ) ≠ 0 := by norm_num
  have near := (near_gathered literal).mul_right
    (zpow_nonneg (by norm_num) literal.writtenPower : (0 : ℚ) ≤ 10 ^ literal.writtenPower)
  rw [mul_assoc, mul_assoc, ← zpow_add₀ ten, ← zpow_add₀ ten, neg_add_eq_sub] at near
  exact near

theorem neg_length_le_gathered_snd (literal : Literal) :
    -(literal.fractionDigits.length : ℤ) ≤ (gathered literal.numeral).2 := by
  unfold gathered Literal.numeral Literal.fractionDigits
  cases literal.fraction with
  | none => simp
  | some row =>
      simp only [Option.map_some, Option.elim_some]
      omega

theorem withPower_eq_scaled {literal : Literal}
    (computed : literal.writtenPower.natAbs ≤ powerLimit) (significand : ℕ) (place : ℤ) :
    withPower significand place literal.numeral.power =
      scaled significand (place + literal.writtenPower) := by
  unfold Literal.numeral
  unfold Literal.writtenPower at computed ⊢
  cases exponent : literal.power with
  | none => rw [Option.map_none, Option.elim_none, add_zero, withPower]
  | some power =>
      rw [exponent, Option.elim_some, power.natAbs_value] at computed
      rw [Option.elim_some]
      simp only [Option.map_some, withPower, if_neg (not_lt.mpr computed), decide_eq_true_eq,
        Power.value]
      split <;> rfl

/-- An exponent beyond the limit makes a number too large, or zero. -/
theorem withPower_of_large {literal : Literal}
    (large : powerLimit < literal.writtenPower.natAbs) (significand : ℕ) (place : ℤ) :
    withPower significand place literal.numeral.power =
      if 0 < significand ∧ 0 < literal.writtenPower then none else some (Binary64.ofNat 0) := by
  unfold Literal.numeral
  unfold Literal.writtenPower at large ⊢
  cases exponent : literal.power with
  | none => simp [exponent] at large
  | some power =>
      rw [exponent, Option.elim_some, power.natAbs_value] at large
      have up : 0 < power.value ↔ power.sign ≠ .minus := by
        unfold Power.value
        split
        · rename_i minus
          exact ⟨fun positive => by omega, fun other => absurd minus other⟩
        · rename_i other
          exact ⟨fun _ => other, fun _ => by omega⟩
      simp only [Option.map_some, withPower, if_pos large, Option.elim_some, up,
        Nat.pos_iff_ne_zero]
      congr 1
      simp

/-- What a numeral is read as stands for its size. -/
theorem renders_withPower {literal : Literal} (counts : literal.PowerCounts) :
    Binary64.Renders literal.decimal.size (withPower (gathered literal.numeral).1
      (gathered literal.numeral).2 literal.numeral.power) := by
  have near := near_size literal
  obtain computed | large := le_or_gt literal.writtenPower.natAbs powerLimit
  · rw [withPower_eq_scaled computed]
    exact renders_scaled (gathered_fst_lt literal) near
  · have outweighs := counts.resolve_left (not_le.mpr large)
    have places := neg_length_le_gathered_snd literal
    rw [withPower_of_large large]
    split
    · rename_i positive
      exact le_of_near positive.1 (by omega) near
    · rename_i other
      apply Binary64.renders_zero
      obtain zero | filled := Nat.eq_zero_or_pos (gathered literal.numeral).1
      · rw [zero, Nat.cast_zero, zero_mul] at near
        rw [near.eq_zero (by norm_num)]
        exact one_pos
      · have down : literal.writtenPower = -literal.writtenPower.natAbs := by
          have notUp : ¬0 < literal.writtenPower := fun up => other ⟨filled, up⟩
          omega
        exact Literal.size_lt_one down (by omega)

/-! ## Scaling with one rounding -/

section

variable {significand : ℕ} {power : ℤ}

/-- A word that is a double is not rounded. -/
theorem ofNat_eq_of_representable (fits : significand < unsignedBound)
    (held : Binary64.Representable significand) :
    ∃ size, Binary64.ofNat significand = .finite false size ∧ size.value = significand := by
  obtain rfl | filled := Nat.eq_zero_or_pos significand
  · exact ⟨_, Binary64.ofRatio_zero false 1, (Magnitude.value_zero _).trans Nat.cast_zero.symm⟩
  · exact ⟨_, ofNat_word filled fits, Binary64.value_rounded_natCast held filled⟩

/-- The first powers of ten are doubles. -/
theorem value_tenTo {power : ℕ} (small : power ≤ 22) : (tenTo power).value = 10 ^ power := by
  have held : Binary64.Representable (Nat.pow 10 power : ℕ) := by
    refine ⟨5 ^ power, power, ?_, ?_, ?_⟩
    · calc 5 ^ power
        _ ≤ 5 ^ 22 := Nat.pow_le_pow_right (by decide) small
        _ ≤ 2 ^ Binary64.precision := by decide
    · exact le_trans (by decide) (Int.natCast_nonneg power)
    · rw [zpow_natCast]
      push_cast
      rw [← mul_pow]
      norm_num
  rw [tenTo, ofNat_tenPower (small.trans (by decide))]
  exact_mod_cast Binary64.value_rounded_natCast held (Nat.pow_pos (by decide))

/-- Where both factors are doubles, only the result is rounded. -/
theorem scaled_eq_ofRatio {num den : ℕ} (fits : significand < unsignedBound)
    (held : Binary64.Representable significand) (small : power.natAbs ≤ 22) (divisor : 0 < den)
    (fraction : (num : ℚ) / den = significand * 10 ^ power) :
    scaled significand power = some (.ofRatio false num den) := by
  obtain ⟨size, same, value⟩ := ofNat_eq_of_representable fits held
  unfold scaled
  simp only [same]
  by_cases down : power < 0
  · have ten := value_tenTo small
    have positive : 0 < (tenTo power.natAbs).value := by rw [ten]; positivity
    rw [if_pos down, shrink, if_pos (small.trans (by decide))]
    refine congrArg some (Binary64.ofRatio_congr
      (Nat.mul_pos size.denominator_pos (Magnitude.numerator_pos positive)) divisor ?_ false)
    rw [Magnitude.value_div_value, value, ten, fraction, div_eq_mul_inv, ← zpow_natCast,
      ← zpow_neg, Int.ofNat_natAbs_of_nonpos down.le, neg_neg]
  · have up : power.toNat ≤ 22 := by omega
    have product : (Binary64.finite false size).times (tenTo power.toNat) =
        .ofRatio false num den := by
      refine Binary64.ofRatio_congr
        (Nat.mul_pos size.denominator_pos (tenTo power.toNat).denominator_pos) divisor ?_ false
      rw [Magnitude.value_mul_value, value, value_tenTo up, fraction, ← zpow_natCast,
        Int.toNat_of_nonneg (not_lt.mp down)]
    -- The product is far below the greatest double, so that it is not refused.
    have bound : Binary64.Representable (2 ^ 138) := ⟨1, 138, by decide, by decide, by norm_num⟩
    have within : (num : ℚ) / den ≤ 2 ^ 138 := by
      have word : (significand : ℚ) ≤ 2 ^ 64 := by exact_mod_cast fits.le
      calc (num : ℚ) / den
        _ = significand * 10 ^ power := fraction
        _ ≤ 2 ^ 64 * 10 ^ (22 : ℤ) := by
          gcongr
          · norm_num
          · omega
        _ ≤ 2 ^ 138 := by norm_num
    obtain ⟨result, finite, _⟩ := Binary64.exists_ofRatio_eq_finite bound
      (Binary64.two_pow_lt_overflow (by decide)) divisor within false
    rw [if_neg down, if_pos (by omega), product, finite]
    rfl

end

end Json.Amount

end EventLog
