import EventLog.Proofs.RoundingError

/-!
# Doubles as times

A double stands for the whole number next to it on the side of zero, if it lies in the range of
64-bit integers. The test is made on doubles, and the greatest integer is none: it is rounded up to
`2 ^ 63`, which the test leaves out. So the cast that clamps what is out of range never has
anything to clamp (`toInt64?_exact`).
-/

namespace EventLog.Number

/-! ## Fractions cut off -/

/-- The whole number next to a fraction on the side of zero. -/
def towardZero (x : ℚ) : ℤ := if x < 0 then ⌈x⌉ else ⌊x⌋

theorem towardZero_of_nonneg {x : ℚ} (nonneg : 0 ≤ x) : towardZero x = ⌊x⌋ :=
  if_neg nonneg.not_gt

theorem towardZero_of_nonpos {x : ℚ} (nonpos : x ≤ 0) : towardZero x = ⌈x⌉ := by
  obtain negative | rfl := nonpos.lt_or_eq
  · exact if_pos negative
  · rw [towardZero_of_nonneg le_rfl, Int.floor_zero, Int.ceil_zero]

theorem towardZero_mono {x y : ℚ} (le : x ≤ y) : towardZero x ≤ towardZero y := by
  obtain nonneg | nonpos := le_total 0 x
  · rw [towardZero_of_nonneg nonneg, towardZero_of_nonneg (nonneg.trans le)]
    exact Int.floor_mono le
  · rw [towardZero_of_nonpos nonpos]
    obtain alsoNonneg | alsoNonpos := le_total 0 y
    · -- Zero lies between the two fractions, and so between their whole numbers.
      rw [towardZero_of_nonneg alsoNonneg]
      exact (Int.ceil_le.mpr (by simpa using nonpos)).trans (Int.floor_nonneg.mpr alsoNonneg)
    · rw [towardZero_of_nonpos alsoNonpos]
      exact Int.ceil_mono le

/-- What lies in the range of 64-bit integers stays there when its fraction is cut off. -/
theorem towardZero_bounds {x : ℚ} (low : -2 ^ 63 ≤ x) (high : x < 2 ^ 63) :
    -2 ^ 63 ≤ towardZero x ∧ towardZero x < 2 ^ 63 := by
  obtain nonneg | nonpos := le_total 0 x
  · rw [towardZero_of_nonneg nonneg, Int.floor_lt]
    have zero : 0 ≤ ⌊x⌋ := Int.floor_nonneg.mpr nonneg
    exact ⟨by omega, by exact_mod_cast high⟩
  · rw [towardZero_of_nonpos nonpos]
    have zero : ⌈x⌉ ≤ 0 := Int.ceil_le.mpr (by simpa using nonpos)
    have reached : (-2 ^ 63 : ℚ) ≤ ⌈x⌉ := low.trans (Int.le_ceil x)
    exact ⟨by exact_mod_cast reached, by omega⟩

namespace Binary64

/-! ## Doubles as fractions -/

def signed (negative : Bool) (x : ℚ) : ℚ := if negative then -x else x

def value? : Binary64 → Option ℚ
  | finite negative size => some (signed negative size.value)
  | _ => none

/-- Where a double that is a number stands among the fractions and the infinities. -/
def rank? : Binary64 → Option (WithBot (WithTop ℚ))
  | nan => none
  | infinite negative => some (if negative then ⊥ else ⊤)
  | finite negative size => some ↑(↑(signed negative size.value) : WithTop ℚ)

/-- Doubles compare as the numbers that they are, and what is not a number with none. -/
def AtMost (x y : Binary64) : Prop := ∃ a ∈ x.rank?, ∃ b ∈ y.rank?, a ≤ b

def Below (x y : Binary64) : Prop := ∃ a ∈ x.rank?, ∃ b ∈ y.rank?, a < b

/-! ## The test and the cast -/

/-- The 64-bit integer that a double is cast to: its fraction is cut off, what is out of range
    goes to the nearer end of it, and what is not a number to zero. -/
def clamped : Binary64 → Int64
  | nan => 0
  | infinite negative => if negative then Int64.minValue else Int64.maxValue
  | finite negative size => Int64.ofIntClamp (towardZero (signed negative size.value))

/-- The range of 64-bit integers as doubles have it: from the least one up to the greatest, which
    is left out. Both are doubles here, rounded where they have to be. -/
def InRange (x : Binary64) : Prop :=
  (ofInt Int64.minValue.toInt).AtMost x ∧ x.Below (ofInt Int64.maxValue.toInt)

theorem ofInt_minValue : ofInt Int64.minValue.toInt = finite true ⟨2 ^ 52, 11⟩ := by
  decide +kernel

/-- The greatest 64-bit integer is no double and is rounded up. -/
theorem ofInt_maxValue : ofInt Int64.maxValue.toInt = finite false ⟨2 ^ 52, 11⟩ := by
  decide +kernel

theorem value?_ofInt_minValue : (ofInt Int64.minValue.toInt).value? = some (-2 ^ 63) := by
  rw [ofInt_minValue]
  norm_num [value?, signed, Magnitude.value]

theorem value?_ofInt_maxValue : (ofInt Int64.maxValue.toInt).value? = some (2 ^ 63) := by
  rw [ofInt_maxValue]
  norm_num [value?, signed, Magnitude.value]

section

variable {x y : Binary64} {a b : ℚ}

theorem exists_finite_of_value? (held : x.value? = some a) :
    ∃ negative size, x = finite negative size ∧ signed negative size.value = a := by
  cases x with
  | nan => cases held
  | infinite negative => cases held
  | finite negative size => exact ⟨negative, size, rfl, Option.some_inj.mp held⟩

theorem rank?_of_value? (held : x.value? = some a) : x.rank? = some ↑(↑a : WithTop ℚ) := by
  obtain ⟨negative, size, rfl, rfl⟩ := exists_finite_of_value? held
  rfl

theorem atMost_iff (held : x.value? = some a) (alsoHeld : y.value? = some b) :
    x.AtMost y ↔ a ≤ b := by
  simp [AtMost, rank?_of_value? held, rank?_of_value? alsoHeld]

theorem below_iff (held : x.value? = some a) (alsoHeld : y.value? = some b) :
    x.Below y ↔ a < b := by
  simp [Below, rank?_of_value? held, rank?_of_value? alsoHeld]

/-- The upper end of the range is rounded to `2 ^ 63`, which is left out with it. -/
theorem inRange_iff :
    x.InRange ↔ ∃ value, x.value? = some value ∧ -2 ^ 63 ≤ value ∧ value < 2 ^ 63 := by
  have least := rank?_of_value? value?_ofInt_minValue
  have greatest := rank?_of_value? value?_ofInt_maxValue
  cases x with
  | nan => simp [InRange, AtMost, rank?, value?]
  | infinite negative =>
      unfold InRange AtMost Below
      rw [least, greatest]
      cases negative <;> simp [rank?, value?]
  | finite negative size =>
      have held : (finite negative size).value? = some (signed negative size.value) := rfl
      rw [InRange, atMost_iff value?_ofInt_minValue held, below_iff held value?_ofInt_maxValue]
      simp [held]

/-- Within the range the cast has nothing to clamp. -/
theorem toInt_clamped (held : x.value? = some a) (low : -2 ^ 63 ≤ a) (high : a < 2 ^ 63) :
    x.clamped.toInt = towardZero a := by
  obtain ⟨least, greatest⟩ := towardZero_bounds low high
  obtain ⟨negative, size, rfl, rfl⟩ := exists_finite_of_value? held
  exact Int64.toInt_ofIntClamp least (Int.le_of_lt_add_one greatest)

end

section

variable {x : ℚ} (nonneg : 0 ≤ x)

include nonneg

theorem towardZero_signed (negative : Bool) :
    towardZero (signed negative x) = if negative then -(⌊x⌋₊ : ℤ) else ⌊x⌋₊ := by
  cases negative with
  | false => exact (towardZero_of_nonneg nonneg).trans (Int.natCast_floor_eq_floor nonneg).symm
  | true =>
      have nonpos : -x ≤ 0 := neg_nonpos.mpr nonneg
      refine (towardZero_of_nonpos nonpos).trans ?_
      rw [Int.ceil_neg, if_pos rfl, Int.natCast_floor_eq_floor nonneg]

theorem signed_bounds_iff (negative : Bool) :
    -2 ^ 63 ≤ signed negative x ∧ signed negative x < 2 ^ 63 ↔
      if negative then x ≤ signedBound else x < signedBound := by
  have bound : (signedBound : ℚ) = 2 ^ 63 := by norm_num [signedBound]
  rw [bound]
  cases negative with
  | false =>
      have low : (-2 ^ 63 : ℚ) ≤ x := by linarith
      exact and_iff_right low
  | true =>
      have high : -x < 2 ^ 63 := by linarith
      exact (and_iff_left high).trans neg_le_neg_iff

/-- Within the range the whole part of a size is what the cast gives. -/
theorem wholePart?_of_bounds {negative : Bool} (low : -2 ^ 63 ≤ signed negative x)
    (high : signed negative x < 2 ^ 63) :
    wholePart? negative x = some (Int64.ofIntClamp (towardZero (signed negative x))) := by
  obtain ⟨least, greatest⟩ := towardZero_bounds low high
  have within := (signed_bounds_iff nonneg negative).mp ⟨low, high⟩
  have unclamped : Int64.ofIntClamp (towardZero (signed negative x)) =
      Int64.ofInt (towardZero (signed negative x)) :=
    (@Int64.ofIntLE_eq_ofIntClamp _ least (Int.le_of_lt_add_one greatest)).symm
  rw [unclamped, towardZero_signed nonneg]
  cases negative with
  | false => exact if_pos within
  | true => exact if_pos within

theorem wholePart?_of_not_bounds {negative : Bool}
    (outside : ¬(-2 ^ 63 ≤ signed negative x ∧ signed negative x < 2 ^ 63)) :
    wholePart? negative x = none := by
  rw [signed_bounds_iff nonneg] at outside
  cases negative with
  | false => exact if_neg outside
  | true => exact if_neg outside

end

/-! ## Times -/

section

variable {x y : Binary64}

theorem toInt64?_of_inRange (within : x.InRange) : x.toInt64? = some x.clamped := by
  obtain ⟨value, held, low, high⟩ := inRange_iff.mp within
  obtain ⟨negative, size, rfl, rfl⟩ := exists_finite_of_value? held
  rw [toInt64?_finite]
  exact wholePart?_of_bounds size.value_nonneg low high

theorem toInt64?_of_not_inRange (outside : ¬x.InRange) : x.toInt64? = none := by
  rw [inRange_iff] at outside
  cases x with
  | nan => rfl
  | infinite negative => rfl
  | finite negative size =>
      rw [toInt64?_finite]
      exact wholePart?_of_not_bounds size.value_nonneg fun within => outside ⟨_, rfl, within⟩

theorem toInt64?_eq_some_iff {time : Int64} :
    x.toInt64? = some time ↔ x.InRange ∧ x.clamped = time := by
  by_cases within : x.InRange
  · rw [toInt64?_of_inRange within, Option.some_inj, and_iff_right within]
  · rw [toInt64?_of_not_inRange within]
    exact iff_of_false (Option.some_ne_none time).symm fun found => within found.1

/-- The time that a double stands for is its fraction cut off. -/
theorem toInt_of_toInt64?_eq {time : Int64} (found : x.toInt64? = some time) :
    ∃ value, x.value? = some value ∧ time.toInt = towardZero value := by
  obtain ⟨within, rfl⟩ := toInt64?_eq_some_iff.mp found
  obtain ⟨value, held, low, high⟩ := inRange_iff.mp within
  exact ⟨value, held, toInt_clamped held low high⟩

/-- A greater double stands for no lesser time. -/
theorem toInt64?_mono {time later : Int64} (ordered : x.AtMost y) (found : x.toInt64? = some time)
    (alsoFound : y.toInt64? = some later) : time ≤ later := by
  obtain ⟨value, held, cut⟩ := toInt_of_toInt64?_eq found
  obtain ⟨other, alsoHeld, alsoCut⟩ := toInt_of_toInt64?_eq alsoFound
  rw [Int64.le_iff_toInt_le, cut, alsoCut]
  exact towardZero_mono ((atMost_iff held alsoHeld).mp ordered)

end

/-- A double is tested against the ends of the 64-bit integers as doubles and then cast. This gives
    a time exactly if the double is finite, not below `-2 ^ 63` and below `2 ^ 63`. The time is the
    double with its fraction cut off, so the cast never clamps, and a greater double stands for no
    lesser time. -/
theorem toInt64?_exact :
    (∀ x : Binary64,
      (x.InRange → x.toInt64? = some x.clamped) ∧ (¬x.InRange → x.toInt64? = none)) ∧
    (∀ x : Binary64, (∃ time, x.toInt64? = some time) ↔
      ∃ value, x.value? = some value ∧ -2 ^ 63 ≤ value ∧ value < 2 ^ 63) ∧
    (∀ (x : Binary64) (time : Int64), x.toInt64? = some time →
      ∃ value, x.value? = some value ∧ time.toInt = towardZero value) ∧
    nan.toInt64? = none ∧ (∀ negative, (infinite negative).toInt64? = none) ∧
    ∀ (x y : Binary64) (time later : Int64), x.AtMost y → x.toInt64? = some time →
      y.toInt64? = some later → time ≤ later := by
  refine ⟨fun x => ⟨toInt64?_of_inRange, toInt64?_of_not_inRange⟩, fun x => ?_,
    fun x time => toInt_of_toInt64?_eq, toInt64?_nan, toInt64?_infinite,
    fun x y time later => toInt64?_mono⟩
  rw [← inRange_iff]
  constructor
  · rintro ⟨time, found⟩
    exact (toInt64?_eq_some_iff.mp found).1
  · intro within
    exact ⟨x.clamped, toInt64?_of_inRange within⟩

/-- The last double before the bound is kept whole, the bound is refused, and a negative fraction
    is cut off upwards. -/
theorem toInt64?_exact_of_ends :
    let early := finite true ⟨3, -1⟩
    let last := finite false ⟨2 ^ 53 - 1, 10⟩
    let bound := finite false ⟨2 ^ 52, 11⟩
    early.toInt64? = some (-1) ∧ last.toInt64? = some 9223372036854774784 ∧
      early.AtMost last ∧ (-1 : Int64) ≤ 9223372036854774784 ∧
      (∃ value, early.value? = some value ∧ (-1 : Int64).toInt = towardZero value) ∧
      last.clamped = 9223372036854774784 ∧ ¬bound.InRange ∧ bound.toInt64? = none := by
  intro early last bound
  obtain ⟨tested, accepted, cut, _, _, ordered⟩ := toInt64?_exact
  have earlyFound : early.toInt64? = some (-1) := by decide
  have lastFound : last.toInt64? = some 9223372036854774784 := by decide
  have atMost : early.AtMost last := by
    rw [atMost_iff rfl rfl]
    norm_num [signed, Magnitude.value]
  have lastWithin : last.InRange := inRange_iff.mpr ((accepted last).mp ⟨_, lastFound⟩)
  have outside : ¬bound.InRange := by
    rw [inRange_iff]
    rintro ⟨_, ⟨⟩, _, high⟩
    norm_num [signed, Magnitude.value] at high
  have cast := ((tested last).1 lastWithin).symm.trans lastFound
  exact ⟨earlyFound, lastFound, atMost, ordered early last _ _ atMost earlyFound lastFound,
    cut early _ earlyFound, Option.some_inj.mp cast, outside, (tested bound).2 outside⟩

end Binary64

end EventLog.Number
