import EventLog.Number.Binary64
import Mathlib.Algebra.Order.Field.Power
import Mathlib.Algebra.Order.Field.Rat
import Mathlib.Tactic.GCongr
import Mathlib.Tactic.Linarith
import Mathlib.Tactic.Ring

/-!
# Rounding to doubles

A fraction is rounded to the double nearest to it, and so never beyond a number that is a double
itself: what is not below such a number does not fall below it (`le_value_rounded`), and what is
not above it does not rise above it (`value_rounded_le`). All else that is known here of products
and of powers of ten follows from these bounds.
-/

namespace EventLog.Number

/-! ## Values -/

namespace Magnitude

def value (size : Magnitude) : ℚ := size.mantissa * 2 ^ size.exponent

theorem value_nonneg (size : Magnitude) : 0 ≤ size.value :=
  mul_nonneg (Nat.cast_nonneg _) (zpow_nonneg zero_le_two _)

theorem value_zero (exponent : ℤ) : value ⟨0, exponent⟩ = 0 := by
  rw [value, Nat.cast_zero, zero_mul]

theorem zpow_eq_div (exponent : ℤ) :
    (2 : ℚ) ^ exponent = Nat.pow 2 exponent.toNat / Nat.pow 2 (-exponent).toNat := by
  obtain ⟨n, rfl | rfl⟩ := exponent.eq_nat_or_neg <;> simp

theorem value_eq_div (size : Magnitude) :
    size.value = (size.numerator : ℚ) / size.denominator := by
  rw [value, zpow_eq_div, numerator, denominator, mul_div_assoc', Nat.cast_mul]

theorem numerator_lt_iff {size : Magnitude} {bound : ℕ} :
    size.numerator < bound * size.denominator ↔ size.value < bound := by
  have positive : (0 : ℚ) < size.denominator := by exact_mod_cast size.denominator_pos
  rw [value_eq_div, div_lt_iff₀ positive]
  exact_mod_cast Iff.rfl

theorem numerator_le_iff {size : Magnitude} {bound : ℕ} :
    size.numerator ≤ bound * size.denominator ↔ size.value ≤ bound := by
  have positive : (0 : ℚ) < size.denominator := by exact_mod_cast size.denominator_pos
  rw [value_eq_div, div_le_iff₀ positive]
  exact_mod_cast Iff.rfl

theorem numerator_pos {size : Magnitude} (positive : 0 < size.value) : 0 < size.numerator := by
  apply Nat.pos_of_ne_zero
  intro zero
  rw [value_eq_div, zero, Nat.cast_zero, zero_div] at positive
  exact lt_irrefl _ positive

theorem value_mul_value (size factor : Magnitude) :
    ((size.numerator * factor.numerator : ℕ) : ℚ) / (size.denominator * factor.denominator : ℕ) =
      size.value * factor.value := by
  rw [value_eq_div, value_eq_div, div_mul_div_comm, Nat.cast_mul, Nat.cast_mul]

end Magnitude

namespace Binary64

/-! ## Quotients -/

/-- A quotient is not rounded below a whole number that it reaches. -/
theorem le_roundQuotient {num den n : ℕ} (positive : 0 < den) (reached : n * den ≤ num) :
    n ≤ roundQuotient num den := by
  have whole : n ≤ num / den := (Nat.le_div_iff_mul_le positive).mpr reached
  unfold roundQuotient
  simp only
  split <;> omega

/-- A quotient is not rounded above a whole number that it does not pass. -/
theorem roundQuotient_le {num den n : ℕ} (positive : 0 < den) (within : num ≤ n * den) :
    roundQuotient num den ≤ n := by
  have whole : num / den ≤ n := Nat.div_le_of_le_mul (by rwa [Nat.mul_comm])
  unfold roundQuotient
  simp only
  split
  · exact whole
  · rename_i up
    -- The quotient is rounded up because it has a fraction, so its whole part is below `n`.
    have split := Nat.div_add_mod num den
    have fraction : num % den ≠ 0 := by
      intro none
      simp [none, positive] at up
    have below : den * (num / den) < den * n := by
      have : n * den = den * n := Nat.mul_comm _ _
      omega
    exact Nat.lt_of_mul_lt_mul_left below

theorem roundQuotient_mul_right {factor : ℕ} (positive : 0 < factor) (num den : ℕ) :
    roundQuotient (num * factor) (den * factor) = roundQuotient num den := by
  have less : 2 * (num % den * factor) < den * factor ↔ 2 * (num % den) < den := by
    rw [← Nat.mul_assoc]
    exact Nat.mul_lt_mul_right positive
  have same : 2 * (num % den * factor) = den * factor ↔ 2 * (num % den) = den := by
    rw [← Nat.mul_assoc]
    exact Nat.mul_left_inj positive.ne'
  unfold roundQuotient
  simp only [Nat.mul_div_mul_right _ _ positive, Nat.mul_mod_mul_right, less, Bool.beq_eq_decide_eq,
    same]

/-- A quotient is rounded by its value alone. -/
theorem roundQuotient_congr {num den num' den' : ℕ} (positive : 0 < den) (alsoPositive : 0 < den')
    (same : num * den' = num' * den) : roundQuotient num den = roundQuotient num' den' := by
  rw [← roundQuotient_mul_right alsoPositive num, same, Nat.mul_comm den,
    roundQuotient_mul_right positive]

/-! ## Powers of two -/

theorem dividePower_snd_pos {den : ℕ} (positive : 0 < den) (num : ℕ) (exponent : ℤ) :
    0 < (dividePower num den exponent).2 :=
  Nat.mul_pos positive (Nat.two_pow_pos _)

theorem dividePower_eq (num den : ℕ) (exponent : ℤ) :
    ((dividePower num den exponent).1 : ℚ) / (dividePower num den exponent).2 =
      num / den / 2 ^ exponent := by
  rw [dividePower, Magnitude.zpow_eq_div, div_div_div_eq, Nat.cast_mul, Nat.cast_mul]

section

variable {num den : ℕ}

theorem mul_snd_le_fst_iff (positive : 0 < den) {n : ℕ} {exponent : ℤ} :
    n * (dividePower num den exponent).2 ≤ (dividePower num den exponent).1 ↔
      (n : ℚ) * 2 ^ exponent ≤ num / den := by
  have divisor : (0 : ℚ) < (dividePower num den exponent).2 := by
    exact_mod_cast dividePower_snd_pos positive num exponent
  have power : (0 : ℚ) < 2 ^ exponent := zpow_pos (by norm_num) exponent
  rw [← le_div_iff₀ power, ← dividePower_eq, le_div_iff₀ divisor]
  exact_mod_cast Iff.rfl

theorem fst_le_mul_snd_iff (positive : 0 < den) {n : ℕ} {exponent : ℤ} :
    (dividePower num den exponent).1 ≤ n * (dividePower num den exponent).2 ↔
      (num : ℚ) / den ≤ n * 2 ^ exponent := by
  have divisor : (0 : ℚ) < (dividePower num den exponent).2 := by
    exact_mod_cast dividePower_snd_pos positive num exponent
  have power : (0 : ℚ) < 2 ^ exponent := zpow_pos (by norm_num) exponent
  rw [← div_le_iff₀ power, ← dividePower_eq, div_le_iff₀ divisor]
  exact_mod_cast Iff.rfl

/-- The leading bits of numerator and denominator leave a fraction two binades. -/
theorem log2_sub_log2_spec (filled : 0 < num) (positive : 0 < den) :
    (2 : ℚ) ^ ((num.log2 : ℤ) - den.log2 - 1) < num / den ∧
      (num : ℚ) / den < 2 ^ ((num.log2 : ℤ) - den.log2 + 1) := by
  have divisor : (0 : ℚ) < den := by exact_mod_cast positive
  have low : (2 : ℚ) ^ num.log2 ≤ num := by exact_mod_cast Nat.log2_self_le (by omega)
  have high : (num : ℚ) < 2 ^ (num.log2 + 1) := by exact_mod_cast Nat.lt_log2_self
  have denLow : (2 : ℚ) ^ den.log2 ≤ den := by exact_mod_cast Nat.log2_self_le (by omega)
  have denHigh : (den : ℚ) < 2 ^ (den.log2 + 1) := by exact_mod_cast Nat.lt_log2_self
  constructor
  · rw [lt_div_iff₀ divisor]
    calc (2 : ℚ) ^ ((num.log2 : ℤ) - den.log2 - 1) * den
      _ < 2 ^ ((num.log2 : ℤ) - den.log2 - 1) * 2 ^ (den.log2 + 1) := by gcongr
      _ = 2 ^ num.log2 := by
        rw [← zpow_natCast, ← zpow_natCast, ← zpow_add₀ two_ne_zero]
        congr 1
        push_cast
        ring
      _ ≤ num := low
  · rw [div_lt_iff₀ divisor]
    calc (num : ℚ)
      _ < 2 ^ (num.log2 + 1) := high
      _ = 2 ^ ((num.log2 : ℤ) - den.log2 + 1) * 2 ^ den.log2 := by
        rw [← zpow_natCast, ← zpow_natCast, ← zpow_add₀ two_ne_zero]
        congr 1
        push_cast
        ring
      _ ≤ 2 ^ ((num.log2 : ℤ) - den.log2 + 1) * den := by gcongr

/-- A fraction lies between the power of two of its binade and the next one. -/
theorem binade_spec (filled : 0 < num) (positive : 0 < den) :
    (2 : ℚ) ^ binade num den ≤ num / den ∧ (num : ℚ) / den < 2 ^ (binade num den + 1) := by
  obtain ⟨low, high⟩ := log2_sub_log2_spec filled positive
  have reaches : 1 * (dividePower num den (num.log2 - den.log2)).2 ≤
      (dividePower num den (num.log2 - den.log2)).1 ↔
        ((1 : ℕ) : ℚ) * 2 ^ ((num.log2 : ℤ) - den.log2) ≤ num / den :=
    mul_snd_le_fst_iff positive
  rw [Nat.one_mul, Nat.cast_one, one_mul] at reaches
  -- Of the two binades that are left, the comparison tells which it is.
  unfold binade
  simp only
  split
  · rename_i reached
    exact ⟨reaches.mp reached, high⟩
  · rename_i missed
    rw [sub_add_cancel]
    exact ⟨low.le, not_le.mp (mt reaches.mpr missed)⟩

theorem binade_eq {exponent : ℤ} (filled : 0 < num) (positive : 0 < den)
    (low : (2 : ℚ) ^ exponent ≤ num / den) (high : (num : ℚ) / den < 2 ^ (exponent + 1)) :
    binade num den = exponent := by
  obtain ⟨alsoLow, alsoHigh⟩ := binade_spec filled positive
  have first := (zpow_lt_zpow_iff_right₀ one_lt_two).mp (lt_of_le_of_lt low alsoHigh)
  have second := (zpow_lt_zpow_iff_right₀ one_lt_two).mp (lt_of_le_of_lt alsoLow high)
  omega

/-! ## Rounding -/

/-- The exponent of the doubles next to a fraction. -/
def spacing (num den : ℕ) : ℤ := max (binade num den - (precision - 1)) leastExponent

/-- The mantissa of the double next to a fraction, before it is put into range. -/
def nearestMantissa (num den : ℕ) : ℕ :=
  roundQuotient (dividePower num den (spacing num den)).1 (dividePower num den (spacing num den)).2

/-- The magnitude that a fraction is rounded to if exponents have no upper bound. -/
def rounded (num den : ℕ) : Magnitude :=
  if num = 0 then ⟨0, leastExponent⟩
  else if nearestMantissa num den = Nat.pow 2 precision then
    ⟨Nat.pow 2 (precision - 1), spacing num den + 1⟩
  else ⟨nearestMantissa num den, spacing num den⟩

theorem ofRatio_eq (negative : Bool) (num den : ℕ) :
    ofRatio negative num den =
      if greatestExponent < (rounded num den).exponent then infinite negative
      else finite negative (rounded num den) := by
  unfold ofRatio rounded
  split
  · rw [if_neg (by decide)]
  · rfl

theorem ofRatio_zero (negative : Bool) (den : ℕ) :
    ofRatio negative 0 den = finite negative ⟨0, leastExponent⟩ :=
  if_pos rfl

theorem value_rounded (filled : 0 < num) :
    (rounded num den).value = nearestMantissa num den * 2 ^ spacing num den := by
  unfold rounded
  rw [if_neg (by omega)]
  split
  · rename_i carried
    rw [carried, Magnitude.value, zpow_add_one₀ two_ne_zero]
    norm_num [precision]
    ring
  · rfl

/-- Above the least exponent a fraction is not below the least mantissa that has all its bits. -/
theorem full_le_of_normal (filled : 0 < num) (positive : 0 < den)
    (normal : leastExponent < spacing num den) :
    ((2 ^ (precision - 1) : ℕ) : ℚ) * 2 ^ spacing num den ≤ num / den := by
  have exponent : binade num den = (precision - 1 : ℕ) + spacing num den := by
    unfold spacing precision at normal ⊢
    omega
  calc ((2 ^ (precision - 1) : ℕ) : ℚ) * 2 ^ spacing num den
    _ = 2 ^ binade num den := by
      rw [exponent, zpow_add₀ two_ne_zero, zpow_natCast, Nat.cast_pow, Nat.cast_ofNat]
    _ ≤ num / den := (binade_spec filled positive).1

theorem le_nearestMantissa (filled : 0 < num) (positive : 0 < den)
    (normal : leastExponent < spacing num den) :
    2 ^ (precision - 1) ≤ nearestMantissa num den :=
  le_roundQuotient (dividePower_snd_pos positive _ _)
    ((mul_snd_le_fst_iff positive).mpr (full_le_of_normal filled positive normal))

theorem le_mantissa_rounded (positive : 0 < den)
    (normal : leastExponent < (rounded num den).exponent) :
    2 ^ (precision - 1) ≤ (rounded num den).mantissa := by
  unfold rounded at normal ⊢
  split at normal
  · exact absurd normal (lt_irrefl _)
  · rename_i filled
    rw [if_neg filled]
    split at normal
    · rename_i carried
      rw [if_pos carried]
      exact le_refl _
    · rename_i kept
      rw [if_neg kept]
      exact le_nearestMantissa (by omega) positive normal

/-- A fraction is rounded by its value alone. -/
theorem ofRatio_congr {num' den' : ℕ} (positive : 0 < den) (alsoPositive : 0 < den')
    (same : (num : ℚ) / den = num' / den') (negative : Bool) :
    ofRatio negative num den = ofRatio negative num' den' := by
  have crossed : num * den' = num' * den := by
    have divisor : (den : ℚ) ≠ 0 := by exact_mod_cast positive.ne'
    have alsoDivisor : (den' : ℚ) ≠ 0 := by exact_mod_cast alsoPositive.ne'
    exact_mod_cast (div_eq_div_iff divisor alsoDivisor).mp same
  obtain rfl | filled := Nat.eq_zero_or_pos num
  · obtain rfl : num' = 0 := by
      rw [Nat.zero_mul] at crossed
      exact (Nat.mul_eq_zero.mp crossed.symm).resolve_right positive.ne'
    rfl
  · have alsoFilled : 0 < num' := by
      apply Nat.pos_of_ne_zero
      rintro rfl
      rw [Nat.zero_mul] at crossed
      exact (Nat.mul_pos filled alsoPositive).ne' crossed
    have binades : binade num den = binade num' den' := by
      obtain ⟨low, high⟩ := binade_spec alsoFilled alsoPositive
      rw [← same] at low high
      exact binade_eq filled positive low high
    have spaced : spacing num den = spacing num' den' := by rw [spacing, spacing, binades]
    have mantissas : nearestMantissa num den = nearestMantissa num' den' := by
      unfold nearestMantissa
      rw [spaced]
      apply roundQuotient_congr (dividePower_snd_pos positive _ _)
        (dividePower_snd_pos alsoPositive _ _)
      simp only [dividePower]
      rw [Nat.mul_mul_mul_comm, crossed, Nat.mul_mul_mul_comm]
    rw [ofRatio_eq, ofRatio_eq, rounded, rounded, if_neg filled.ne', if_neg alsoFilled.ne',
      mantissas, spaced]

theorem withSign_ofRatio (first second : Bool) (num den : ℕ) :
    (ofRatio first num den).withSign second = ofRatio second num den := by
  rw [ofRatio_eq, ofRatio_eq]
  split <;> rfl

/-! ## Fractions that are doubles -/

/-- What it takes for a fraction to be a double, were exponents unbounded above. -/
def Representable (x : ℚ) : Prop :=
  ∃ (mantissa : ℕ) (exponent : ℤ), mantissa ≤ 2 ^ precision ∧ leastExponent ≤ exponent ∧
    x = mantissa * 2 ^ exponent

/-- A fraction that is a double lies on the grid of any smaller exponent. -/
theorem exists_eq_mul_zpow (mantissa : ℕ) {exponent smaller : ℤ} (below : smaller ≤ exponent) :
    ∃ n : ℕ, (mantissa : ℚ) * 2 ^ exponent = n * 2 ^ smaller := by
  obtain ⟨distance, rfl⟩ := Int.exists_add_of_le below
  refine ⟨mantissa * 2 ^ distance, ?_⟩
  rw [zpow_add₀ two_ne_zero, zpow_natCast]
  push_cast
  ring

/-- Below the spacing of a fraction, doubles are no greater than the power of two under it. -/
theorem mul_zpow_le_of_lt_spacing {mantissa : ℕ} {exponent : ℤ} (small : mantissa ≤ 2 ^ precision)
    (finer : exponent < spacing num den) :
    (mantissa : ℚ) * 2 ^ exponent ≤ (2 ^ (precision - 1) : ℕ) * 2 ^ spacing num den := by
  have finer' : exponent ≤ spacing num den - 1 := by omega
  calc (mantissa : ℚ) * 2 ^ exponent
    _ ≤ (2 ^ precision : ℕ) * 2 ^ exponent := by gcongr
    _ ≤ (2 ^ precision : ℕ) * 2 ^ (spacing num den - 1) := by
      gcongr
      exact one_le_two
    _ = (2 ^ (precision - 1) : ℕ) * 2 ^ spacing num den := by
      rw [zpow_sub_one₀ two_ne_zero]
      norm_num [precision]
      ring

/-- A fraction is not rounded below a double that it reaches. -/
theorem le_value_rounded {x : ℚ} (held : Representable x) (positive : 0 < den)
    (reached : x ≤ num / den) : x ≤ (rounded num den).value := by
  obtain rfl | filled := Nat.eq_zero_or_pos num
  · rw [Nat.cast_zero, zero_div] at reached
    exact reached.trans (Magnitude.value_nonneg _)
  · obtain ⟨mantissa, exponent, small, least, rfl⟩ := held
    rw [value_rounded filled]
    by_cases finer : exponent < spacing num den
    · have normal := lt_of_le_of_lt least finer
      have full := le_nearestMantissa filled positive normal
      exact (mul_zpow_le_of_lt_spacing small finer).trans (by gcongr)
    · obtain ⟨n, same⟩ := exists_eq_mul_zpow mantissa (not_lt.mp finer)
      rw [same] at reached ⊢
      have kept : n ≤ nearestMantissa num den :=
        le_roundQuotient (dividePower_snd_pos positive _ _)
          ((mul_snd_le_fst_iff positive).mpr reached)
      gcongr

/-- A fraction is not rounded above a double that it does not pass. -/
theorem value_rounded_le {x : ℚ} (held : Representable x) (filled : 0 < num) (positive : 0 < den)
    (within : num / den ≤ x) : (rounded num den).value ≤ x := by
  obtain ⟨mantissa, exponent, small, least, rfl⟩ := held
  rw [value_rounded filled]
  by_cases finer : exponent < spacing num den
  · -- The fraction is then no other than the power of two under it, and is on its own grid.
    have under := mul_zpow_le_of_lt_spacing small finer
    have full := full_le_of_normal filled positive (lt_of_le_of_lt least finer)
    have kept : nearestMantissa num den ≤ 2 ^ (precision - 1) :=
      roundQuotient_le (dividePower_snd_pos positive _ _)
        ((fst_le_mul_snd_iff positive).mpr (within.trans under))
    calc (nearestMantissa num den : ℚ) * 2 ^ spacing num den
      _ ≤ (2 ^ (precision - 1) : ℕ) * 2 ^ spacing num den := by gcongr
      _ ≤ num / den := full
      _ ≤ mantissa * 2 ^ exponent := within
  · obtain ⟨n, same⟩ := exists_eq_mul_zpow mantissa (not_lt.mp finer)
    rw [same] at within ⊢
    have kept : nearestMantissa num den ≤ n :=
      roundQuotient_le (dividePower_snd_pos positive _ _)
        ((fst_le_mul_snd_iff positive).mpr within)
    gcongr

/-- What is rounded to is a double, were exponents unbounded above. -/
theorem representable_rounded (filled : 0 < num) (positive : 0 < den) :
    Representable (rounded num den).value := by
  refine ⟨nearestMantissa num den, spacing num den, ?_, le_max_right _ _, value_rounded filled⟩
  apply roundQuotient_le (dividePower_snd_pos positive _ _)
  rw [fst_le_mul_snd_iff positive]
  calc (num : ℚ) / den
    _ ≤ 2 ^ (binade num den + 1) := (binade_spec filled positive).2.le
    _ ≤ 2 ^ ((precision : ℤ) + spacing num den) := by
      apply zpow_le_zpow_right₀ one_le_two
      unfold spacing precision
      omega
    _ = (2 ^ precision : ℕ) * 2 ^ spacing num den := by
      rw [zpow_add₀ two_ne_zero, zpow_natCast]
      push_cast
      rfl

theorem value_rounded_of_representable (held : Representable ((num : ℚ) / den)) (filled : 0 < num)
    (positive : 0 < den) : (rounded num den).value = num / den :=
  le_antisymm (value_rounded_le held filled positive le_rfl)
    (le_value_rounded held positive le_rfl)

/-! ## Doubles -/

/-- The least power of two that is too large for a double. -/
def overflow : ℚ := 2 ^ (precision - 1) * 2 ^ (greatestExponent + 1)

theorem overflow_eq : overflow = 2 ^ 1024 := by
  rw [overflow, ← zpow_natCast, ← zpow_add₀ two_ne_zero, ← zpow_natCast]
  rfl

theorem two_pow_lt_overflow {n : ℕ} (small : n < 1024) : 2 ^ n < overflow := by
  rw [overflow_eq]
  exact pow_lt_pow_right₀ one_lt_two small

theorem ofRatio_eq_finite {x : ℚ} (held : Representable x) (filled : 0 < num) (positive : 0 < den)
    (within : num / den ≤ x) (bounded : x < overflow) (negative : Bool) :
    ofRatio negative num den = finite negative (rounded num den) := by
  rw [ofRatio_eq, if_neg]
  intro large
  have full : 2 ^ (precision - 1) ≤ (rounded num den).mantissa :=
    le_mantissa_rounded positive (lt_trans (by decide : leastExponent < greatestExponent) large)
  have high : overflow ≤ (rounded num den).value := by
    unfold overflow Magnitude.value
    gcongr
    · exact_mod_cast full
    · exact one_le_two
    · omega
  exact absurd (high.trans (value_rounded_le held filled positive within)) (not_le.mpr bounded)

end

/-- What it takes for a double not to be below a fraction in size. -/
def Reaches (x : ℚ) : Binary64 → Prop
  | nan => False
  | infinite _ => True
  | finite _ size => x ≤ size.value

theorem reaches_ofRatio {x : ℚ} (held : Representable x) {num den : ℕ} (positive : 0 < den)
    (reached : x ≤ num / den) (negative : Bool) : Reaches x (ofRatio negative num den) := by
  rw [ofRatio_eq]
  split
  · trivial
  · exact le_value_rounded held positive reached

theorem Reaches.withSign {x : ℚ} {double : Binary64} (reached : Reaches x double)
    (negative : Bool) : Reaches x (double.withSign negative) := by
  cases double with
  | nan => exact reached
  | infinite _ => trivial
  | finite _ size => exact reached

theorem Reaches.isZero_eq_false {x : ℚ} {double : Binary64} (reached : Reaches x double)
    (positive : 0 < x) : double.isZero = false := by
  cases double with
  | nan => rfl
  | infinite _ => rfl
  | finite _ size =>
      have filled : size.mantissa ≠ 0 := by
        intro zero
        have value : x ≤ size.value := reached
        rw [Magnitude.value, zero, Nat.cast_zero, zero_mul] at value
        exact absurd value positive.not_ge
      exact beq_eq_false_iff_ne.mpr filled

theorem Reaches.times {x y : ℚ} {double : Binary64} {factor : Magnitude}
    (reached : Reaches x double) (held : Representable y) (product : y ≤ x * factor.value) :
    Reaches y (double.times factor) := by
  cases double with
  | nan => exact reached
  | infinite _ => trivial
  | finite negative size =>
      apply reaches_ofRatio held (Nat.mul_pos size.denominator_pos factor.denominator_pos)
      calc y
        _ ≤ x * factor.value := product
        _ ≤ size.value * factor.value := by
          gcongr
          · exact factor.value_nonneg
          · exact reached
        _ = _ := (Magnitude.value_mul_value size factor).symm

/-- A product that is a double is not rounded. -/
theorem times_eq_finite {size factor : Magnitude} (held : Representable (size.value * factor.value))
    (positive : 0 < size.value) (alsoPositive : 0 < factor.value)
    (bounded : size.value * factor.value < overflow) (negative : Bool) :
    ∃ product, (finite negative size).times factor = finite negative product ∧
      product.value = size.value * factor.value := by
  have fraction := Magnitude.value_mul_value size factor
  have filled :=
    Nat.mul_pos (Magnitude.numerator_pos positive) (Magnitude.numerator_pos alsoPositive)
  have divisor := Nat.mul_pos size.denominator_pos factor.denominator_pos
  refine ⟨_, ofRatio_eq_finite held filled divisor fraction.le bounded negative, ?_⟩
  rw [← fraction] at held ⊢
  exact value_rounded_of_representable held filled divisor

end Binary64

end EventLog.Number
