import EventLog.Json.Token
import EventLog.Number.Decimal

/-!
# Numbers of JSON texts

A number is read in two steps: its numeral is taken off the text, and the numeral is given a
value. A numeral without fraction and exponent that fits a machine word is a whole number. Any
other is a double, computed from the first digits that fit an unsigned 64-bit word and from one
power of ten. Both factors are doubles and so is their product or quotient, so that the result may
differ in its last bits from the double nearest to the numeral.
-/

namespace EventLog.Json

open Number (Binary64 Magnitude appendDigit readDigits signedBound unsignedBound)

/-- A number as it is written. -/
structure Numeral where
  negative : Bool
  whole : List Char
  fraction : Option (List Char)
  /-- The sign and the digits of the exponent. -/
  power : Option (Bool × List Char)
deriving DecidableEq, Repr

namespace Numeral

/-- A digit was wanted at the end of the text. -/
def cutOff (care : Care) : Fault :=
  match care with
  | .full => Flaw.endOfValue.before []
  | .outline => Flaw.invalidNumber.before []

/-- Reads the digits of a fraction or an exponent. There must be at least one. -/
def readSome (cutOff : Fault) (text : List Char) : Except Fault (List Char × List Char) :=
  match text with
  | [] => .error cutOff
  | c :: rest =>
      if c.isDigit then
        .ok ((c :: rest).takeWhile Char.isDigit, (c :: rest).dropWhile Char.isDigit)
      else
        .error (Flaw.invalidNumber.at (c :: rest))

/-- Reads the digits before the point. A leading zero stands alone. -/
def readWhole (care : Care) (text : List Char) : Except Fault (List Char × List Char) :=
  match text with
  | '0' :: c :: rest =>
      if c.isDigit then .error (Flaw.invalidNumber.at (c :: rest)) else .ok (['0'], c :: rest)
  | _ => readSome (cutOff care) text

/-- Reads a point and the digits after it, if there is a point. -/
def readFraction (care : Care) (text : List Char) :
    Except Fault (Option (List Char) × List Char) :=
  match text with
  | '.' :: rest => (readSome (cutOff care) rest).map fun (digits, rest) => (some digits, rest)
  | _ => .ok (none, text)

def readPower (care : Care) (text : List Char) :
    Except Fault (Option (Bool × List Char) × List Char) :=
  match text with
  | c :: rest =>
      if c = 'e' ∨ c = 'E' then
        let (negative, digits) :=
          match rest with
          | '+' :: digits => (false, digits)
          | '-' :: digits => (true, digits)
          | digits => (false, digits)
        (readSome (cutOff care) digits).map fun (digits, rest) => (some (negative, digits), rest)
      else
        .ok (none, text)
  | [] => .ok (none, [])

def read (care : Care) (text : List Char) : Except Fault (Numeral × List Char) := do
  let (negative, text) :=
    match text with
    | '-' :: rest => (true, rest)
    | _ => (false, text)
  let (whole, text) ← readWhole care text
  let (fraction, text) ← readFraction care text
  let (power, text) ← readPower care text
  return (⟨negative, whole, fraction, power⟩, text)

end Numeral

/-! ## Values -/

/-- The value of a number: whole if it is written so and fits a machine word, else a double. -/
inductive Amount where
  | whole (n : Int)
  | real (x : Binary64)
deriving DecidableEq, Repr

namespace Amount

def tenTo (power : Nat) : Magnitude :=
  match Binary64.ofNat (Nat.pow 10 power) with
  | .finite _ size => size
  | _ => ⟨0, 0⟩

/-- Divides by a power of ten, in steps of at most 308 digits. -/
def shrink (x : Binary64) (power : Nat) : Binary64 :=
  if power ≤ 308 then x.dividedBy (tenTo power)
  else if x.isZero then x
  else shrink (x.dividedBy (tenTo 308)) (power - 308)
termination_by power

/-- A whole number times a power of ten, if that is not too large for a double. -/
def scaled (significand : Nat) (power : Int) : Option Binary64 :=
  let x := Binary64.ofNat significand
  if power < 0 then some (shrink x power.natAbs)
  else if power ≤ 308 then
    let product := x.times (tenTo power.toNat)
    if product.isInfinite then none else some product
  else if x.isZero then some x
  else none

/-- Reads digits after those that make up `start` for as long as an unsigned 64-bit word holds
    them, and counts the digits that are left over. -/
def gather (start : Nat) : List Char → Nat × Nat
  | [] => (start, 0)
  | c :: rest =>
      let next := appendDigit start c
      if unsignedBound ≤ next then (start, (c :: rest).length) else gather next rest

/-- The greatest exponent that is computed with. -/
def powerLimit : Nat := 0x7FFFFFFF

/-- The digits of an exponent that come after it has passed the limit. -/
def beyondLimit (power : Nat) : List Char → List Char
  | [] => []
  | c :: rest =>
      let next := appendDigit power c
      if powerLimit < next then rest else beyondLimit next rest

/-- The double of a significand, a power of ten and a written exponent. -/
def withPower (significand : Nat) (power : Int) :
    Option (Bool × List Char) → Option Binary64
  | none => scaled significand power
  | some (negative, digits) =>
      let written := readDigits 0 digits
      if powerLimit < written then
        if significand ≠ 0 && !negative then none else some (Binary64.ofNat 0)
      else
        scaled significand (if negative then power - written else power + written)

/-- The double of a numeral, unless it is too large. -/
def realOf (numeral : Numeral) : Option Binary64 :=
  let (significand, unread) := gather 0 numeral.whole
  let (significand, power) :=
    match numeral.fraction with
    | none => (significand, (unread : Int))
    | some digits =>
        -- A digit of the fraction lowers the power if it is taken, and counts for nothing if not.
        let (longer, skipped) := gather significand digits
        (longer, (unread : Int) - ((digits.length : Int) - skipped))
  (withPower significand power numeral.power).map (Binary64.withSign numeral.negative)

/-- The value of a numeral, unless it is too large. -/
def ofNumeral? (numeral : Numeral) : Option Amount :=
  let size := readDigits 0 numeral.whole
  if numeral.fraction.isNone && numeral.power.isNone then
    if numeral.negative then
      if 0 < size ∧ size ≤ signedBound then some (whole (-size)) else (realOf numeral).map real
    else
      if size < unsignedBound then some (whole size) else (realOf numeral).map real
  else
    (realOf numeral).map real

def read (text : List Char) : Except Fault (Amount × List Char) :=
  match Numeral.read .full text with
  | .error fault => .error fault
  | .ok (numeral, rest) =>
      match ofNumeral? numeral with
      | some amount => .ok (amount, rest)
      | none =>
          let unread := (numeral.power.map fun (_, digits) => beyondLimit 0 digits).getD []
          .error (Flaw.numberOutOfRange.before (unread ++ rest))

end Amount

/-! ## Lengths -/

namespace Numeral

theorem length_readSome_lt {cutOff : Fault} {text digits rest : List Char}
    (read : readSome cutOff text = .ok (digits, rest)) : rest.length < text.length := by
  unfold readSome at read
  split at read
  · cases read
  · rename_i c rest'
    split at read
    · rename_i digit
      simp only [Except.ok.injEq, Prod.mk.injEq] at read
      obtain ⟨_, rfl⟩ := read
      rw [List.dropWhile_cons_of_pos digit]
      exact Nat.lt_succ_of_le (length_dropWhile_le _ _)
    · cases read

theorem length_readWhole_lt {care : Care} {text digits rest : List Char}
    (read : readWhole care text = .ok (digits, rest)) : rest.length < text.length := by
  unfold readWhole at read
  split at read
  · split at read
    · cases read
    · cases read
      simp
  · exact length_readSome_lt read

theorem length_readFraction_le {care : Care} {text rest : List Char} {digits : Option (List Char)}
    (read : readFraction care text = .ok (digits, rest)) : rest.length ≤ text.length := by
  unfold readFraction at read
  split at read
  · obtain ⟨pair, found, same⟩ := exists_of_map_ok read
    simp only [Prod.mk.injEq] at same
    obtain ⟨_, rfl⟩ := same
    exact Nat.le_succ_of_le (Nat.le_of_lt (length_readSome_lt found))
  · cases read
    exact Nat.le_refl _

theorem length_readPower_le {care : Care} {text rest : List Char}
    {power : Option (Bool × List Char)} (read : readPower care text = .ok (power, rest)) :
    rest.length ≤ text.length := by
  unfold readPower at read
  split at read
  · split at read
    · obtain ⟨pair, found, same⟩ := exists_of_map_ok read
      simp only [Prod.mk.injEq] at same
      obtain ⟨_, rfl⟩ := same
      have shorter := length_readSome_lt found
      revert shorter
      split <;> intro shorter <;> simp only [List.length_cons] at shorter ⊢ <;> omega
    · cases read
      exact Nat.le_refl _
  · cases read
    exact Nat.le_refl _

theorem length_read_lt {care : Care} {text rest : List Char} {numeral : Numeral}
    (found : read care text = .ok (numeral, rest)) : rest.length < text.length := by
  unfold read at found
  simp only [bind, Except.bind] at found
  split at found
  · cases found
  · rename_i whole wholeRead
    split at found
    · cases found
    · rename_i fraction fractionRead
      split at found
      · cases found
      · rename_i power powerRead
        simp only [pure, Except.pure, Except.ok.injEq, Prod.mk.injEq] at found
        obtain ⟨_, rfl⟩ := found
        have first := length_readWhole_lt wholeRead
        have second := length_readFraction_le fractionRead
        have third := length_readPower_le powerRead
        revert first
        split <;> intro first <;> simp only [List.length_cons] at first ⊢ <;> omega

end Numeral

theorem Amount.length_read_lt {text rest : List Char} {amount : Amount}
    (found : Amount.read text = .ok (amount, rest)) : rest.length < text.length := by
  unfold Amount.read at found
  split at found
  · cases found
  · rename_i numeralRead
    split at found
    · simp only [Except.ok.injEq, Prod.mk.injEq] at found
      obtain ⟨_, rfl⟩ := found
      exact Numeral.length_read_lt numeralRead
    · cases found

end EventLog.Json
