import EventLog.Proofs.RoundingError

/-!
# Whole numbers at the bounds of a word

A whole number that is no 64-bit integer is rounded to a double before its range is tested. The
numbers up to 1024 beyond the bound are rounded to the bound itself, which is the size of the least
integer and of none above zero (`BecomesBeyond.toInt64?`).
-/

namespace EventLog

/-! ## Doubles at the bounds -/

namespace Number.Binary64

/-- The doubles from `2 ^ 63` to `2 ^ 64` lie `2 ^ 11` apart. -/
theorem value_rounded_word {n : ℕ} (low : signedBound ≤ n) (high : n < unsignedBound) :
    (rounded n 1).value = roundQuotient n 2048 * 2048 := by
  have filled : 0 < n := lt_of_lt_of_le (by decide) low
  have lowest : (2 : ℚ) ^ (63 : ℤ) ≤ n / (1 : ℕ) := by
    rw [Nat.cast_one, div_one]
    exact_mod_cast low
  have highest : (n : ℚ) / (1 : ℕ) < 2 ^ ((63 : ℤ) + 1) := by
    rw [Nat.cast_one, div_one]
    exact_mod_cast high
  have spaced : spacing n 1 = 11 := by
    rw [spacing, binade_eq filled one_pos lowest highest]
    rfl
  have shifted : dividePower n 1 11 = (n, 2048) := congrArg (·, 2048) (Nat.mul_one n)
  rw [value_rounded filled, nearestMantissa, spaced, shifted]
  norm_num

theorem roundQuotient_bound {n : ℕ} (low : signedBound ≤ n) (near : n ≤ signedBound + 1024) :
    roundQuotient n 2048 = 2 ^ 52 := by
  unfold signedBound at low near
  have quotient : n / 2048 = 2 ^ 52 := by omega
  unfold roundQuotient
  simp only [quotient]
  rw [if_pos]
  simp only [Bool.or_eq_true, Bool.and_eq_true, decide_eq_true_eq, beq_iff_eq]
  omega

theorem lt_roundQuotient {n : ℕ} (far : signedBound + 1024 < n) :
    2 ^ 52 + 1 ≤ roundQuotient n 2048 := by
  unfold signedBound at far
  unfold roundQuotient
  simp only
  split
  · rename_i down
    simp only [Bool.or_eq_true, Bool.and_eq_true, decide_eq_true_eq, beq_iff_eq] at down
    omega
  · omega

/-- The whole numbers up to 1024 beyond the bound are rounded to it. -/
theorem value_rounded_near {n : ℕ} (low : signedBound ≤ n) (near : n ≤ signedBound + 1024) :
    (rounded n 1).value = signedBound := by
  rw [value_rounded_word low (lt_of_le_of_lt near (by decide)), roundQuotient_bound low near]
  norm_num [signedBound]

/-- The least double beyond the bound. -/
def beyondBound : ℚ := 2 ^ 63 + 2 ^ 11

theorem representable_beyondBound : Representable beyondBound :=
  ⟨2 ^ 52 + 1, 11, by norm_num [precision], by decide, by norm_num [beyondBound]⟩

theorem signedBound_lt_beyondBound : (signedBound : ℚ) < beyondBound := by
  norm_num [signedBound, beyondBound]

/-- All other whole numbers beyond the bound stay beyond it. -/
theorem reaches_beyondBound {n : ℕ} (far : signedBound + 1024 < n) (negative : Bool) :
    Reaches beyondBound (ofRatio negative n 1) := by
  by_cases word : n < unsignedBound
  · rw [ofRatio_eq]
    split
    · trivial
    · have kept : (2 : ℚ) ^ 52 + 1 ≤ roundQuotient n 2048 := by
        exact_mod_cast lt_roundQuotient far
      have value := value_rounded_word (le_of_lt (lt_of_le_of_lt (Nat.le_add_right _ _) far)) word
      rw [Reaches, value, beyondBound]
      linarith
  · have large : (unsignedBound : ℚ) ≤ n := by exact_mod_cast not_lt.mp word
    apply reaches_ofRatio representable_beyondBound one_pos
    norm_num [unsignedBound, beyondBound] at large ⊢
    linarith

theorem beyondBound_lt_overflow : beyondBound < overflow := by
  have below : beyondBound < 2 ^ 64 := by norm_num [beyondBound]
  exact below.trans (two_pow_lt_overflow (by decide))

theorem ofRatio_near {n : ℕ} (low : signedBound ≤ n) (near : n ≤ signedBound + 1024)
    (negative : Bool) :
    ∃ size, ofRatio negative n 1 = finite negative size ∧ size.value = signedBound := by
  have filled : 0 < n := lt_of_lt_of_le (by decide) low
  have small : (n : ℚ) ≤ (signedBound + 1024 : ℕ) := by exact_mod_cast near
  have within : (n : ℚ) / (1 : ℕ) ≤ beyondBound := by
    norm_num [signedBound, beyondBound] at small ⊢
    linarith
  exact ⟨rounded n 1, ofRatio_eq_finite representable_beyondBound filled one_pos within
    beyondBound_lt_overflow negative, value_rounded_near low near⟩

end Number.Binary64

/-! ## Times of whole numbers -/

open Number (Binary64 signedBound unsignedBound)

def wholeTime? (n : Int) : Option Int64 :=
  if -(signedBound : Int) - 1024 ≤ n ∧ n < signedBound then
    some (Int64.ofInt (max n (-(signedBound : Int))))
  else
    none

theorem wholeTime?_of_fits {n : Int} (low : -(signedBound : Int) ≤ n) (high : n < signedBound) :
    wholeTime? n = some (Int64.ofInt n) := by
  rw [wholeTime?, if_pos ⟨by omega, high⟩, max_eq_left low]

/-- A double that a whole number beyond the bound may become: the bound itself, if the number is
    near, and else one that is farther off, if there is one. -/
structure BecomesBeyond (size : Nat) (double : Option Binary64) : Prop where
  near : size ≤ signedBound + 1024 →
    ∃ sign magnitude, double = some (.finite sign magnitude) ∧ magnitude.value = signedBound
  far : signedBound + 1024 < size → ∀ x, double = some x → x.Reaches Binary64.beyondBound

/-- A whole number that is no 64-bit integer is rounded before the range is tested. -/
theorem BecomesBeyond.toInt64? {negative : Bool} {size : Nat} {double : Option Binary64}
    (becomes : BecomesBeyond size double) (low : signedBound ≤ size) :
    (double.map (Binary64.withSign negative)).bind Binary64.toInt64? =
      wholeTime? (if negative then -(size : Int) else size) := by
  have positive : 0 < (signedBound : Int) := by decide
  unfold wholeTime?
  by_cases near : size ≤ signedBound + 1024
  · obtain ⟨sign, magnitude, rfl, value⟩ := becomes.near near
    cases negative with
    | false =>
        have outside : ¬(size : Int) < signedBound := by omega
        rw [if_neg Bool.false_ne_true, if_neg fun within => outside within.2]
        exact Binary64.toInt64?_of_le value.ge
    | true =>
        have least : -(size : Int) ≤ -(signedBound : Int) := by omega
        rw [if_pos rfl, if_pos (by omega), max_eq_right least]
        exact Binary64.toInt64?_of_eq value
  · have outside : ¬(-(signedBound : Int) - 1024 ≤ (if negative then -(size : Int) else size) ∧
        (if negative then -(size : Int) else size) < signedBound) := by
      split <;> omega
    rw [if_neg outside]
    cases double with
    | none => rfl
    | some x =>
        have far := (becomes.far (not_le.mp near) x rfl).withSign negative
        exact Binary64.toInt64?_of_reaches far Binary64.signedBound_lt_beyondBound

theorem becomesBeyond_ofRatio {size : Nat} (low : signedBound ≤ size) (negative : Bool) :
    BecomesBeyond size (some (.ofRatio negative size 1)) where
  near := fun near => by
    obtain ⟨magnitude, same, value⟩ := Binary64.ofRatio_near low near negative
    exact ⟨negative, magnitude, congrArg some same, value⟩
  far := by
    rintro far _ ⟨⟩
    exact Binary64.reaches_beyondBound far negative

theorem toInt64?_ofRatio {negative : Bool} {size : Nat} (low : signedBound ≤ size) :
    (Binary64.ofRatio negative size 1).toInt64? =
      wholeTime? (if negative then -(size : Int) else size) := by
  rw [← (becomesBeyond_ofRatio low negative).toInt64? low, Option.map_some,
    Binary64.withSign_ofRatio]
  rfl

end EventLog
