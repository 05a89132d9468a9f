import EventLog.Proofs.Rounding
import Mathlib.Algebra.Order.Floor.Semifield
import Mathlib.Data.Rat.Floor
import Mathlib.Tactic.FieldSimp
import Mathlib.Tactic.Positivity

/-!
# Errors of rounding

A fraction that is not too small is rounded to a double that is off by at most one part in `2 ^ 53`
(`near_rounded`). Errors of several roundings add up. Where a size has no whole number close to it,
a double that is off by no more than that leads to the same whole part (`Renders.toInt64?`).
-/

namespace EventLog.Number

/-! ## Relative errors -/

/-- What it takes for a fraction to be off another by at most a part of that. -/
structure Near (part x y : ℚ) : Prop where
  nonneg : 0 ≤ x
  within : |y - x| ≤ part * x

namespace Near

variable {part more x y z u v : ℚ}

theorem refl (nonneg : 0 ≤ x) : Near 0 x x := ⟨nonneg, by simp⟩

theorem le (near : Near part x y) : (1 - part) * x ≤ y := by
  have low := (abs_le.mp near.within).1
  linarith

theorem ge (near : Near part x y) : y ≤ (1 + part) * x := by
  have high := (abs_le.mp near.within).2
  linarith

theorem mono (near : Near part x y) (less : part ≤ more) : Near more x y :=
  ⟨near.nonneg, near.within.trans (mul_le_mul_of_nonneg_right less near.nonneg)⟩

theorem eq_zero (near : Near part x 0) (small : part < 1) : x = 0 := by
  have low := near.le
  have nonneg := near.nonneg
  nlinarith

/-- Errors add up, but for the product of their parts. -/
theorem trans (near : Near part x y) (next : Near more y z) (positive : 0 ≤ more) :
    Near (part + more + part * more) x z := by
  refine ⟨near.nonneg, ?_⟩
  calc |z - x|
    _ ≤ |z - y| + |y - x| := abs_sub_le z y x
    _ ≤ more * y + part * x := add_le_add next.within near.within
    _ ≤ more * ((1 + part) * x) + part * x := by gcongr; exact near.ge
    _ = (part + more + part * more) * x := by ring

theorem mul_right (near : Near part x y) {c : ℚ} (positive : 0 ≤ c) :
    Near part (x * c) (y * c) := by
  refine ⟨mul_nonneg near.nonneg positive, ?_⟩
  rw [← sub_mul, abs_mul, abs_of_nonneg positive, ← mul_assoc]
  exact mul_le_mul_of_nonneg_right near.within positive

theorem mul (near : Near part x y) (factor : Near more u v) (positive : 0 ≤ more)
    (nonneg : 0 ≤ y) : Near (part + more + part * more) (x * u) (y * v) := by
  have second : Near more (y * u) (y * v) := by
    rw [mul_comm y, mul_comm y]
    exact factor.mul_right nonneg
  exact (near.mul_right factor.nonneg).trans second positive

/-- A divisor that is off by a small part puts a quotient off by little more. -/
theorem inv (near : Near part x y) (filled : 0 < x) (small : part ≤ 1 / 4) (positive : 0 ≤ part) :
    Near (part + 2 * part * part) x⁻¹ y⁻¹ := by
  have low := near.le
  have above : 0 < y := by nlinarith
  refine ⟨(inv_pos.mpr filled).le, ?_⟩
  rw [inv_sub_inv above.ne' filled.ne', abs_div, abs_of_pos (mul_pos above filled),
    div_le_iff₀ (mul_pos above filled), abs_sub_comm]
  calc |y - x|
    _ ≤ part * x := near.within
    _ ≤ (part + 2 * part * part) * ((1 - part) * x) := by
      have rest : 0 ≤ part * part * (1 - 2 * part) * x := by
        have spare : 0 ≤ 1 - 2 * part := by linarith
        positivity
      linarith
    _ ≤ (part + 2 * part * part) * y := by gcongr
    _ = (part + 2 * part * part) * x⁻¹ * (y * x) := by field_simp

end Near

namespace Magnitude

theorem value_div_value (size divisor : Magnitude) :
    ((size.numerator * divisor.denominator : ℕ) : ℚ) / (size.denominator * divisor.numerator : ℕ) =
      size.value / divisor.value := by
  rw [value_eq_div, value_eq_div, div_div_div_eq, Nat.cast_mul, Nat.cast_mul]

end Magnitude

/-! ## One rounding -/

namespace Binary64

/-- The part of itself by which a fraction is off at most when it is rounded. -/
def roundingError : ℚ := 1 / 2 ^ precision

theorem roundingError_nonneg : 0 ≤ roundingError := by
  unfold roundingError
  positivity

section

variable {num den : ℕ}

/-- A quotient is rounded by at most a half. -/
theorem roundQuotient_error (num : ℕ) (positive : 0 < den) :
    |(roundQuotient num den : ℚ) - num / den| ≤ 1 / 2 := by
  have bounds : 2 * (roundQuotient num den * den) ≤ 2 * num + den ∧
      2 * num ≤ 2 * (roundQuotient num den * den) + den := by
    have split := Nat.div_add_mod num den
    have part := Nat.mod_lt num positive
    have flip : num / den * den = den * (num / den) := Nat.mul_comm _ _
    unfold roundQuotient
    simp only
    split
    · rename_i down
      simp only [Bool.or_eq_true, Bool.and_eq_true, decide_eq_true_eq, beq_iff_eq] at down
      omega
    · rename_i up
      simp only [Bool.or_eq_true, Bool.and_eq_true, decide_eq_true_eq, beq_iff_eq] at up
      rw [Nat.add_mul]
      omega
  have divisor : (0 : ℚ) < den := by exact_mod_cast positive
  have low : 2 * ((roundQuotient num den : ℚ) * den) ≤ 2 * num + den := by exact_mod_cast bounds.1
  have high : 2 * (num : ℚ) ≤ 2 * (roundQuotient num den * den) + den := by
    exact_mod_cast bounds.2
  rw [abs_le, sub_le_iff_le_add, ← sub_le_iff_le_add', le_div_iff₀ divisor, neg_le_sub_iff_le_add,
    div_le_iff₀ divisor]
  constructor <;> linarith

/-- The least fraction that is rounded to all bits of a double. -/
def leastNormal : ℚ := 2 ^ (leastExponent + (precision - 1))

theorem leastNormal_le_half : leastNormal ≤ 1 / 2 := by
  have half : (1 / 2 : ℚ) = 2 ^ (-1 : ℤ) := by norm_num
  rw [half, leastNormal]
  exact zpow_le_zpow_right₀ one_le_two (by decide)

theorem near_rounded (positive : 0 < den) (normal : leastNormal ≤ num / den) :
    Near roundingError (num / den) (rounded num den).value := by
  have above : (0 : ℚ) < num / den := lt_of_lt_of_le (zpow_pos two_pos _) normal
  have filled : 0 < num := by
    apply Nat.pos_of_ne_zero
    rintro rfl
    simp at above
  have unit : (0 : ℚ) < 2 ^ spacing num den := zpow_pos two_pos _
  obtain ⟨low, high⟩ := binade_spec filled positive
  have spaced : spacing num den = binade num den - (precision - 1) := by
    have next := (zpow_lt_zpow_iff_right₀ one_lt_two).mp (lt_of_le_of_lt normal high)
    unfold spacing
    omega
  have error := roundQuotient_error (dividePower num den (spacing num den)).1
    (dividePower_snd_pos positive num (spacing num den))
  rw [dividePower_eq] at error
  refine ⟨above.le, ?_⟩
  rw [value_rounded filled]
  calc |(nearestMantissa num den : ℚ) * 2 ^ spacing num den - num / den|
    _ = |(nearestMantissa num den : ℚ) - num / den / 2 ^ spacing num den| *
          2 ^ spacing num den := by
      rw [← abs_of_pos unit, ← abs_mul, abs_of_pos unit, sub_mul, div_mul_cancel₀ _ unit.ne']
    _ ≤ 1 / 2 * 2 ^ spacing num den := mul_le_mul_of_nonneg_right error unit.le
    _ = roundingError * 2 ^ binade num den := by
      rw [spaced, zpow_sub₀ two_ne_zero, roundingError]
      norm_num [precision]
      ring
    _ ≤ roundingError * (num / den) := by
      gcongr
      exact roundingError_nonneg

theorem near_rounded_natCast {n : ℕ} (filled : 0 < n) :
    Near roundingError n (rounded n 1).value := by
  have normal : leastNormal ≤ n / (1 : ℕ) := by
    have one : (1 : ℚ) ≤ n := by exact_mod_cast filled
    rw [Nat.cast_one, div_one]
    exact leastNormal_le_half.trans (by linarith)
  have near := near_rounded one_pos normal
  rwa [Nat.cast_one, div_one] at near

theorem value_rounded_natCast {n : ℕ} (held : Representable n) (filled : 0 < n) :
    (rounded n 1).value = n := by
  have itself : (n : ℚ) / (1 : ℕ) = n := by rw [Nat.cast_one, div_one]
  rw [← itself] at held
  exact (value_rounded_of_representable held filled one_pos).trans itself

end

/-! ## Whole parts -/

/-- The whole part of a size with its sign, if that is a 64-bit integer. The test is on the size
    itself. -/
def wholePart? (negative : Bool) (x : ℚ) : Option Int64 :=
  if negative then
    if x ≤ signedBound then some (Int64.ofInt (-⌊x⌋₊)) else none
  else
    if x < signedBound then some (Int64.ofInt ⌊x⌋₊) else none

theorem toInt64?_finite (negative : Bool) (size : Magnitude) :
    (finite negative size).toInt64? = wholePart? negative size.value := by
  have floor : size.floor = ⌊size.value⌋₊ := by
    rw [Magnitude.value_eq_div, Nat.floor_div_eq_div, Magnitude.floor]
  cases negative with
  | false => simp only [toInt64?, wholePart?, Magnitude.numerator_lt_iff, floor]; rfl
  | true => simp only [toInt64?, wholePart?, Magnitude.numerator_le_iff, floor]; rfl

theorem wholePart?_of_lt_one {x : ℚ} (small : x < 1) (negative : Bool) :
    wholePart? negative x = some 0 := by
  have zero : ⌊x⌋₊ = 0 := Nat.floor_eq_zero.mpr small
  have below : x < signedBound := small.trans (by norm_num [signedBound])
  cases negative with
  | false => rw [wholePart?, if_neg Bool.false_ne_true, if_pos below, zero]; rfl
  | true => rw [wholePart?, if_pos rfl, if_pos below.le, zero]; rfl

theorem wholePart?_of_gt {x : ℚ} (large : signedBound < x) (negative : Bool) :
    wholePart? negative x = none := by
  cases negative with
  | false => rw [wholePart?, if_neg Bool.false_ne_true, if_neg large.le.not_gt]
  | true => rw [wholePart?, if_pos rfl, if_neg large.not_ge]

theorem toInt64?_zero (negative : Bool) (exponent : ℤ) :
    (finite negative ⟨0, exponent⟩).toInt64? = some 0 := by
  rw [toInt64?_finite, Magnitude.value_zero]
  exact wholePart?_of_lt_one one_pos negative

theorem toInt64?_of_reaches {x : ℚ} {double : Binary64} (reached : Reaches x double)
    (beyond : signedBound < x) : double.toInt64? = none := by
  cases double with
  | nan => rfl
  | infinite negative => rfl
  | finite negative size =>
      rw [toInt64?_finite]
      exact wholePart?_of_gt (lt_of_lt_of_le beyond reached) negative

/-- The positive bound is no 64-bit integer. -/
theorem toInt64?_of_le {size : Magnitude} (large : signedBound ≤ size.value) :
    (finite false size).toInt64? = none := by
  rw [toInt64?_finite]
  exact if_neg large.not_gt

/-- The negative bound is the least 64-bit integer. -/
theorem toInt64?_of_eq {size : Magnitude} (bound : size.value = signedBound) :
    (finite true size).toInt64? = some Int64.minValue := by
  rw [toInt64?_finite, bound, wholePart?, if_pos rfl, if_pos le_rfl, Nat.floor_natCast]
  rfl

/-- What it takes for a size to have no whole number but zero close to it, of those that could make
    a difference: its distance from each is more than a part in `2 ^ 51` of the size. -/
def Clear (x : ℚ) : Prop := ∀ n : ℕ, 0 < n → n ≤ signedBound → x / 2 ^ 51 < |x - n|

section

variable {x y : ℚ}

/-- A size and what is close to it lie on the same side of a whole number. -/
theorem Clear.side (clear : Clear x) (near : Near (1 / 2 ^ 51) x y) {n : ℕ} (filled : 0 < n)
    (within : n ≤ signedBound) : x < n ∧ y < n ∨ n < x ∧ n < y := by
  have apart := clear n filled within
  have close := abs_le.mp near.within
  rcases lt_trichotomy x n with below | same | above
  · rw [abs_of_neg (by linarith)] at apart
    exact .inl ⟨below, by linarith⟩
  · rw [same, sub_self, abs_zero, ← same] at apart
    have nonneg := near.nonneg
    exact absurd apart (not_lt.mpr (by positivity))
  · rw [abs_of_pos (by linarith)] at apart
    exact .inr ⟨above, by linarith⟩

theorem Clear.floor_eq (clear : Clear x) (near : Near (1 / 2 ^ 51) x y) (below : x < signedBound) :
    ⌊y⌋₊ = ⌊x⌋₊ := by
  have nonneg : 0 ≤ y := by
    have low := near.le
    have positive := near.nonneg
    nlinarith
  have next : ⌊x⌋₊ < signedBound := (Nat.floor_lt near.nonneg).mpr below
  have high : y < (⌊x⌋₊ + 1 : ℕ) := by
    obtain ⟨_, less⟩ | ⟨more, _⟩ := clear.side near (Nat.succ_pos ⌊x⌋₊) next
    · exact less
    · exact absurd (by exact_mod_cast more) (Nat.lt_floor_add_one x).not_gt
  rw [Nat.floor_eq_iff nonneg]
  refine ⟨?_, by exact_mod_cast high⟩
  obtain zero | filled := Nat.eq_zero_or_pos ⌊x⌋₊
  · rw [zero, Nat.cast_zero]
    exact nonneg
  · obtain ⟨less, _⟩ | ⟨_, more⟩ := clear.side near filled next.le
    · exact absurd less (Nat.floor_le near.nonneg).not_gt
    · exact more.le

/-- What is close to a clear size has the same whole part. -/
theorem Clear.wholePart?_eq (clear : Clear x) (near : Near (1 / 2 ^ 51) x y) (negative : Bool) :
    wholePart? negative y = wholePart? negative x := by
  obtain ⟨below, alsoBelow⟩ | ⟨above, alsoAbove⟩ :=
    clear.side near (by decide : 0 < signedBound) le_rfl
  · unfold wholePart?
    rw [if_pos below.le, if_pos alsoBelow.le, if_pos below, if_pos alsoBelow,
      clear.floor_eq near below]
  · rw [wholePart?_of_gt above, wholePart?_of_gt alsoAbove]

end

/-! ## What stands for a size -/

/-- What it takes for a double to stand for a size: it is close to it, or both are less than one,
    or it is infinite and the size beyond all whole numbers of 64 bits. A size that is too large for
    a double may also have none. -/
def Renders (x : ℚ) : Option Binary64 → Prop
  | some (finite _ size) => x < 1 ∧ size.value < 1 ∨ Near (1 / 2 ^ 51) x size.value
  | some nan => False
  | _ => 2 ^ 64 ≤ x

/-- Zero stands for what is less than one. -/
theorem renders_zero {x : ℚ} (below : x < 1) (negative : Bool) :
    Renders x (some (ofRatio negative 0 1)) := by
  rw [ofRatio_zero]
  exact Or.inl ⟨below, (Magnitude.value_zero _).trans_lt one_pos⟩

/-- A double that stands for a clear size has its whole part. -/
theorem Renders.toInt64? {x : ℚ} {double : Option Binary64} (renders : Renders x double)
    (clear : Clear x) (negative : Bool) :
    (double.map (withSign negative)).bind Binary64.toInt64? = wholePart? negative x := by
  have bound : (signedBound : ℚ) < 2 ^ 64 := by norm_num [signedBound]
  match double, renders with
  | none, large => exact (wholePart?_of_gt (lt_of_lt_of_le bound large) negative).symm
  | some (infinite _), large =>
      exact (wholePart?_of_gt (lt_of_lt_of_le bound large) negative).symm
  | some (finite _ size), found =>
      refine (toInt64?_finite negative size).trans ?_
      obtain ⟨small, alsoSmall⟩ | near := found
      · rw [wholePart?_of_lt_one small, wholePart?_of_lt_one alsoSmall]
      · exact clear.wholePart?_eq near negative

/-! ## Rounding what is close -/

section

variable {num den : ℕ} {x part : ℚ}

theorem exists_ofRatio_eq_finite (held : Representable x) (bounded : x < overflow)
    (positive : 0 < den) (within : num / den ≤ x) (negative : Bool) :
    ∃ size, ofRatio negative num den = finite negative size ∧ size.value ≤ x := by
  obtain rfl | filled := Nat.eq_zero_or_pos num
  · rw [Nat.cast_zero, zero_div] at within
    exact ⟨_, ofRatio_zero negative den, (Magnitude.value_zero _).trans_le within⟩
  · exact ⟨rounded num den, ofRatio_eq_finite held filled positive within bounded negative,
      value_rounded_le held filled positive within⟩

/-- What is at most a half stays so. -/
theorem exists_ofRatio_of_le_half (positive : 0 < den) (small : (num : ℚ) / den ≤ 1 / 2)
    (negative : Bool) :
    ∃ size, ofRatio negative num den = finite negative size ∧ size.value ≤ 1 / 2 := by
  have held : Representable (1 / 2) := ⟨1, -1, by decide, by decide, by norm_num⟩
  have bounded : (1 / 2 : ℚ) < overflow :=
    lt_trans (by norm_num) (two_pow_lt_overflow (by decide : 0 < 1024))
  exact exists_ofRatio_eq_finite held bounded positive small negative

/-- The double nearest to a fraction stands for each size that the fraction is close to. -/
theorem renders_ofRatio (positive : 0 < den) (near : Near part x (num / den))
    (small : part ≤ 5 / 2 * roundingError) (negative : Bool) :
    Renders x (some (ofRatio negative num den)) := by
  have nonneg := near.nonneg
  have wider := near.mono small
  have low := wider.le
  have high := wider.ge
  unfold roundingError precision at low high
  by_cases tiny : (num : ℚ) / den ≤ 1 / 2
  · obtain ⟨size, same, half⟩ := exists_ofRatio_of_le_half positive tiny negative
    rw [same]
    exact .inl ⟨by linarith, by linarith⟩
  · have normal : leastNormal ≤ num / den := leastNormal_le_half.trans (not_le.mp tiny).le
    have close : Near (1 / 2 ^ 51) x (rounded num den).value :=
      (wider.trans (near_rounded positive normal) roundingError_nonneg).mono
        (by norm_num [roundingError, precision])
    have same := ofRatio_eq negative num den
    split at same
    · -- Only a size beyond all words of 64 bits has an infinite double.
      rw [same]
      by_contra moderate
      have held : Representable (2 ^ 65) := ⟨1, 65, by decide, by decide, by norm_num⟩
      have within : (num : ℚ) / den ≤ 2 ^ 65 := by
        have below : x < 2 ^ 64 := not_le.mp moderate
        linarith
      obtain ⟨size, finite, _⟩ := exists_ofRatio_eq_finite held
        (two_pow_lt_overflow (by decide)) positive within negative
      rw [same] at finite
      cases finite
    · rw [same]
      exact .inr close

/-! ## Out of range -/

/-- What is far below the least double is rounded to zero. -/
theorem ofRatio_of_tiny (positive : 0 < den) (tiny : (num : ℚ) / den < 2 ^ (-1100 : ℤ))
    (negative : Bool) : ofRatio negative num den = ofRatio negative 0 1 := by
  rw [ofRatio_zero]
  obtain rfl | filled := Nat.eq_zero_or_pos num
  · exact ofRatio_zero negative den
  · have low := (binade_spec filled positive).1
    have least : spacing num den = leastExponent := by
      have below := (zpow_lt_zpow_iff_right₀ one_lt_two).mp (lt_of_le_of_lt low tiny)
      unfold spacing leastExponent precision
      omega
    have error := roundQuotient_error (dividePower num den leastExponent).1
      (dividePower_snd_pos positive num leastExponent)
    have quotient : (num : ℚ) / den / 2 ^ leastExponent < 1 / 4 := by
      rw [div_lt_iff₀ (zpow_pos two_pos _)]
      calc (num : ℚ) / den
        _ < 2 ^ (-1100 : ℤ) := tiny
        _ ≤ 2 ^ (-2 + leastExponent) := zpow_le_zpow_right₀ one_le_two (by decide)
        _ = 1 / 4 * 2 ^ leastExponent := by
          rw [zpow_add₀ two_ne_zero]
          norm_num
    have zero : nearestMantissa num den = 0 := by
      rw [dividePower_eq, abs_le] at error
      have below : (nearestMantissa num den : ℚ) < 1 := by
        unfold nearestMantissa
        rw [least]
        linarith [error.2]
      have less : nearestMantissa num den < 1 := by exact_mod_cast below
      omega
    have kept : (0 : ℕ) ≠ Nat.pow 2 precision := (Nat.two_pow_pos precision).ne
    rw [ofRatio_eq, rounded, if_neg filled.ne', zero, least, if_neg kept, if_neg (by decide)]

/-- What is far above the greatest double is rounded to infinity. -/
theorem ofRatio_of_huge (positive : 0 < den) (huge : 2 ^ (1024 : ℤ) ≤ (num : ℚ) / den)
    (negative : Bool) : ofRatio negative num den = infinite negative := by
  have filled : 0 < num := by
    apply Nat.pos_of_ne_zero
    rintro rfl
    rw [Nat.cast_zero, zero_div] at huge
    exact absurd huge (not_le.mpr (zpow_pos two_pos _))
  have high := (binade_spec filled positive).2
  have above : greatestExponent < spacing num den := by
    have passed := (zpow_lt_zpow_iff_right₀ one_lt_two).mp (lt_of_le_of_lt huge high)
    unfold spacing greatestExponent precision
    omega
  rw [ofRatio_eq, rounded, if_neg filled.ne', if_pos]
  split
  · exact above.trans (lt_add_one _)
  · exact above

end

end Binary64

end EventLog.Number
