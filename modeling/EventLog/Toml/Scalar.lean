import EventLog.Number.Decimal
import EventLog.Toml.Value

/-!
# Bare values

A value that is not quoted and not in brackets is one run of characters without spaces: a truth
value, a number or a date. Only a date and its time may stand apart, one space between them.
Underscores may group the digits of a number, one between two digits.
-/

namespace EventLog.Toml

def isBareValueChar (c : Char) : Bool :=
  c.isAlphanum || c == '+' || c == '-' || c == '_' || c == '.' || c == ':'

/-! ## Numbers -/

/-- The digits of a number without the underscores between them. There is at least one digit. -/
def ungroup (isDigit : Char → Bool) : List Char → Option (List Char)
  | [] => none
  | [c] => if isDigit c then some [c] else none
  | c :: '_' :: rest => if isDigit c then (ungroup isDigit rest).map (c :: ·) else none
  | c :: rest => if isDigit c then (ungroup isDigit rest).map (c :: ·) else none

/-- The digits of a whole number. A zero does not lead others. -/
def wholeDigits (text : List Char) : Option (List Char) :=
  match text with
  | ['0'] => some ['0']
  | '0' :: _ => none
  | _ => ungroup Char.isDigit text

def splitSign : List Char → Bool × List Char
  | '-' :: rest => (true, rest)
  | '+' :: rest => (false, rest)
  | text => (false, text)

/-- Reads the digits of another base than ten, which is at most sixteen. -/
def readBase (base : Nat) (isDigit : Char → Bool) (text : List Char) : Option Int64 := do
  let digits ← ungroup isDigit text
  let value := digits.foldl (fun n c => base * n + (Number.hexDigit? c).getD 0) 0
  guard (value < Number.signedBound)
  return Int64.ofInt value

def readInteger (text : List Char) : Option Int64 :=
  match text with
  | '0' :: 'x' :: digits => readBase 16 (fun c => (Number.hexDigit? c).isSome) digits
  | '0' :: 'o' :: digits => readBase 8 (fun c => '0' ≤ c && c ≤ '7') digits
  | '0' :: 'b' :: digits => readBase 2 (fun c => c == '0' || c == '1') digits
  | _ => do
      let (negative, size) := splitSign text
      let digits ← wholeDigits size
      (Number.readInt64 (if negative then '-' :: digits else digits)).toOption

/-- Reads a number with a fraction or an exponent. One that is too large is refused, unless it is
    negative. -/
def readFractional (text : List Char) : Option Number.Binary64 := do
  let (negative, size) := splitSign text
  let isMark := fun c => c == '.' || c == 'e' || c == 'E'
  let whole ← wholeDigits (size.takeWhile (!isMark ·))
  let afterWhole := size.dropWhile (!isMark ·)
  let isPower := fun c => c == 'e' || c == 'E'
  guard !afterWhole.isEmpty
  let (fraction, afterFraction) ←
    match afterWhole with
    | '.' :: rest => do
        let digits ← ungroup Char.isDigit (rest.takeWhile (!isPower ·))
        some (digits, rest.dropWhile (!isPower ·))
    | rest => some ([], rest)
  let power : Int ←
    match afterFraction with
    | [] => some 0
    | _ :: rest => do
        let (down, digits) := splitSign rest
        let value := Number.readDigits 0 (← ungroup Char.isDigit digits)
        some (if down then -(value : Int) else value)
  let value := Number.Decimal.nearest
    ⟨negative, Number.readDigits 0 (whole ++ fraction), power - fraction.length⟩
  guard (value ≠ .infinite false)
  return value

/-- Reads the names of infinity and of the absent number. -/
def readSpecial (text : List Char) : Option Number.Binary64 :=
  let (negative, name) := splitSign text
  if name = ['i', 'n', 'f'] then some (.infinite negative)
  else if name = ['n', 'a', 'n'] then some .nan
  else none

/-! ## Dates and times -/

def readCount (count : Nat) (text : List Char) : Option (Nat × List Char) :=
  let digits := text.take count
  if digits.length = count ∧ digits.all Char.isDigit then
    some (Number.readDigits 0 digits, text.drop count)
  else
    none

def expect (wanted : Char) : List Char → Option (List Char)
  | c :: rest => if c = wanted then some rest else none
  | [] => none

def daysOf (year month : Nat) : Nat :=
  if month = 2 then
    if year % 4 = 0 ∧ (year % 100 ≠ 0 ∨ year % 400 = 0) then 29 else 28
  else if month = 4 ∨ month = 6 ∨ month = 9 ∨ month = 11 then 30
  else 31

def skipDate (text : List Char) : Option (List Char) := do
  let (year, text) ← readCount 4 text
  let (month, text) ← readCount 2 (← expect '-' text)
  let (day, text) ← readCount 2 (← expect '-' text)
  guard (1 ≤ month ∧ month ≤ 12 ∧ 1 ≤ day ∧ day ≤ daysOf year month)
  return text

/-- Passes over the fraction of a second, if there is one. -/
def skipFraction (text : List Char) : Option (List Char) :=
  match text with
  | '.' :: c :: rest => if c.isDigit then some (rest.dropWhile Char.isDigit) else none
  | '.' :: [] => none
  | _ => some text

/-- Passes over a time of day. A minute may have a leap second. -/
def skipTime (text : List Char) : Option (List Char) := do
  let (hour, text) ← readCount 2 text
  let (minute, text) ← readCount 2 (← expect ':' text)
  let (second, text) ← readCount 2 (← expect ':' text)
  guard (hour ≤ 23 ∧ minute ≤ 59 ∧ second ≤ 60)
  skipFraction text

def isHourMinute (text : List Char) : Bool :=
  match readCount 2 text with
  | some (hour, ':' :: rest) =>
      match readCount 2 rest with
      | some (minute, []) => hour ≤ 23 && minute ≤ 59
      | _ => false
  | _ => false

/-- Says whether a text is an offset from universal time, or none at all. -/
def isOffset : List Char → Bool
  | [] => true
  | ['Z'] => true
  | ['z'] => true
  | '+' :: rest => isHourMinute rest
  | '-' :: rest => isHourMinute rest
  | _ => false

/-- Says whether a text is a time of day with perhaps an offset. -/
def isTimeWithOffset (text : List Char) : Bool := (skipTime text).any isOffset

/-- Says whether a text is a date, a time, or a date with a time after the letter T. -/
def isMoment (text : List Char) : Bool :=
  match skipDate text with
  | some [] => true
  | some (c :: time) => (c == 'T' || c == 't') && isTimeWithOffset time
  | none => skipTime text == some []

/-! ## Bare values -/

/-- The value of a run of characters. -/
def bareValue (text : List Char) : Option Value :=
  if text = ['t', 'r', 'u', 'e'] then some (.boolean true)
  else if text = ['f', 'a', 'l', 's', 'e'] then some (.boolean false)
  else if isMoment text then some .moment
  else
    match readInteger text with
    | some value => some (.integer value)
    | none => ((readFractional text).or (readSpecial text)).map .real

def readBare (text : List Char) : Option (Value × List Char) := do
  let run := text.takeWhile isBareValueChar
  let rest := text.dropWhile isBareValueChar
  match skipDate run, rest with
  | some [], ' ' :: c :: more =>
      if c.isDigit then
        guard (isTimeWithOffset ((c :: more).takeWhile isBareValueChar))
        return (.moment, (c :: more).dropWhile isBareValueChar)
      else
        return (.moment, rest)
  | _, _ => return (← bareValue run, rest)

end EventLog.Toml
