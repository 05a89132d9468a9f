import EventLog.Json.Numeral

/-!
# Written values

Values as they are written: with the spaces between their tokens, with each character of a string
plain or escaped, with numbers as they are spelled. Every such tree spells a text (`Value.text`),
and the texts of these trees are the texts of the JSON grammar. What a reader can tell of a value
once its layout is gone is its datum.
-/

namespace EventLog.Json

structure Space where
  text : List Char
  spaces : ∀ c ∈ text, isSpace c = true

/-! ## Strings -/

/-- The character that a letter stands for behind a backslash. -/
def shortEscape? : Char → Option Char
  | '"' => some '"'
  | '\\' => some '\\'
  | '/' => some '/'
  | 'b' => some '\x08'
  | 'f' => some '\x0c'
  | 'n' => some '\n'
  | 'r' => some '\r'
  | 't' => some '\t'
  | _ => none

structure HexDigit where
  digit : Char
  value : Nat
  stands : Number.hexDigit? digit = some value

/-- A 16-bit unit in four digits. -/
structure CodeUnit where
  first : HexDigit
  second : HexDigit
  third : HexDigit
  fourth : HexDigit

namespace CodeUnit

def text (unit : CodeUnit) : List Char :=
  [unit.first.digit, unit.second.digit, unit.third.digit, unit.fourth.digit]

def value (unit : CodeUnit) : Nat :=
  ((unit.first.value * 16 + unit.second.value) * 16 + unit.third.value) * 16 + unit.fourth.value

end CodeUnit

/-- What a string is made of. A quote, a backslash and the control characters are never plain. -/
inductive Piece where
  | plain (c : Char) (allowed : 0x20 ≤ c.toNat ∧ c ≠ '"' ∧ c ≠ '\\')
  | short (letter : Char) (c : Char) (stands : shortEscape? letter = some c)
  | long (unit : CodeUnit)

def Piece.text : Piece → List Char
  | plain c _ => [c]
  | short letter _ _ => ['\\', letter]
  | long unit => '\\' :: 'u' :: unit.text

/-- The pieces of a string between its quotes. -/
def quoted (pieces : List Piece) : List Char := '"' :: pieces.flatMap Piece.text ++ ['"']

/-- The content of a string. Two units may be a surrogate pair. A surrogate outside of a pair stands
    for nothing. -/
def decode : List Piece → Option (List Char)
  | [] => some []
  | .plain c _ :: rest => (decode rest).map (c :: ·)
  | .short _ c _ :: rest => (decode rest).map (c :: ·)
  | .long unit :: rest =>
      if isTrailing unit.value then none
      else if isLeading unit.value then
        match rest with
        | .long second :: after =>
            if isTrailing second.value then
              (decode after).map (pairChar unit.value second.value :: ·)
            else none
        | _ => none
      else (decode rest).map (Char.ofNat unit.value :: ·)

/-! ## Numbers -/

/-- Decimal digits, at least one. -/
structure DigitRow where
  text : List Char
  filled : text ≠ []
  digits : ∀ c ∈ text, c.isDigit = true

theorem DigitRow.exists_cons (row : DigitRow) :
    ∃ d digits, row.text = d :: digits ∧ d.isDigit = true := by
  obtain ⟨d, digits, begins⟩ := List.exists_cons_of_ne_nil row.filled
  exact ⟨d, digits, begins, row.digits d (by simp [begins])⟩

inductive PowerSign where
  | none
  | plus
  | minus
deriving DecidableEq

def PowerSign.text : PowerSign → List Char
  | none => []
  | plus => ['+']
  | minus => ['-']

/-- An exponent with its letter. -/
structure Power where
  letter : Char
  known : letter = 'e' ∨ letter = 'E'
  sign : PowerSign
  row : DigitRow

def Power.text (power : Power) : List Char := power.letter :: power.sign.text ++ power.row.text

/-- A number as it is spelled. Its whole part has no leading zero. -/
structure Literal where
  negative : Bool
  whole : DigitRow
  unpadded : whole.text.head? = some '0' → whole.text = ['0']
  fraction : Option DigitRow
  power : Option Power

namespace Literal

def text (literal : Literal) : List Char :=
  (if literal.negative then ['-'] else []) ++ literal.whole.text ++
    (literal.fraction.elim [] fun row => '.' :: row.text) ++ literal.power.elim [] Power.text

def numeral (literal : Literal) : Numeral where
  negative := literal.negative
  whole := literal.whole.text
  fraction := literal.fraction.map DigitRow.text
  power := literal.power.map fun power => (power.sign = .minus, power.row.text)

end Literal

/-- A number begins with its sign or a digit. -/
theorem Literal.exists_cons (literal : Literal) :
    ∃ c rest, literal.text = c :: rest ∧ (c = '-' ∨ c.isDigit = true) := by
  obtain ⟨d, digits, begins, digit⟩ := literal.whole.exists_cons
  cases sign : literal.negative with
  | true => exact ⟨'-', _, by simp only [text, sign, if_true]; rfl, .inl rfl⟩
  | false => exact ⟨d, _, by simp only [text, sign, begins]; rfl, .inr digit⟩

/-! ## Values -/

mutual

/-- A written value. The space of an empty list or object stands after its opening bracket. -/
inductive Value where
  | null
  | boolean (value : Bool)
  | string (pieces : List Piece)
  | number (literal : Literal)
  | list (space : Space) (elements : List Padded)
  | object (object : Object)

/-- A value with the space around it. -/
structure Padded where
  before : Space
  value : Value
  after : Space

structure Member where
  before : Space
  key : List Piece
  beforeColon : Space
  content : Padded

structure Object where
  space : Space
  members : List Member

end

mutual

def Value.text : Value → List Char
  | .null => ['n', 'u', 'l', 'l']
  | .boolean true => ['t', 'r', 'u', 'e']
  | .boolean false => ['f', 'a', 'l', 's', 'e']
  | .string pieces => quoted pieces
  | .number literal => literal.text
  | .list space elements => '[' :: space.text ++ [','].intercalate (elementTexts elements) ++ [']']
  | .object object => object.text

def Padded.text : Padded → List Char
  | ⟨before, value, after⟩ => before.text ++ value.text ++ after.text

def elementTexts : List Padded → List (List Char)
  | [] => []
  | element :: elements => element.text :: elementTexts elements

def Member.text : Member → List Char
  | ⟨before, key, beforeColon, content⟩ =>
      before.text ++ quoted key ++ beforeColon.text ++ ':' :: content.text

def memberTexts : List Member → List (List Char)
  | [] => []
  | member :: members => member.text :: memberTexts members

def Object.text : Object → List Char
  | ⟨space, members⟩ => '{' :: space.text ++ [','].intercalate (memberTexts members) ++ ['}']

end

theorem memberTexts_eq_map (members : List Member) :
    memberTexts members = members.map Member.text := by
  induction members with
  | nil => rfl
  | cons member members ih => rw [memberTexts, ih, List.map_cons]

/-! ### How texts begin -/

theorem isSpace_of_isDigit {c : Char} (digit : c.isDigit = true) : isSpace c = false := by
  have other : ∀ d, d.isDigit = false → (c == d) = false := by
    intro d notDigit
    rw [beq_eq_false_iff_ne]
    rintro rfl
    rw [digit] at notDigit
    cases notDigit
  simp [isSpace, other]

/-- A value begins with neither space nor a closing bracket. -/
theorem Value.exists_cons (value : Value) :
    ∃ c rest, value.text = c :: rest ∧ isSpace c = false ∧ c ≠ ']' := by
  cases value with
  | null => exact ⟨_, _, rfl, by decide⟩
  | boolean value => cases value <;> exact ⟨_, _, rfl, by decide⟩
  | string pieces => exact ⟨_, _, rfl, by decide⟩
  | number literal =>
      obtain ⟨c, rest, begins, first⟩ := literal.exists_cons
      refine ⟨c, rest, begins, ?_⟩
      obtain rfl | digit := first
      · decide
      · refine ⟨isSpace_of_isDigit digit, ?_⟩
        rintro rfl
        cases digit
  | list space elements => exact ⟨_, _, rfl, by decide⟩
  | object object =>
      obtain ⟨space, members⟩ := object
      exact ⟨_, _, rfl, by decide⟩

/-! ### How texts go on -/

/-- What stands behind an element of a list or a member of an object. -/
def remainder (close : Char) (rest : List Char) : List (List Char) → List Char
  | [] => close :: rest
  | text :: texts => ',' :: (text ++ remainder close rest texts)

theorem intercalate_append (close : Char) (first rest : List Char) (texts : List (List Char)) :
    [','].intercalate (first :: texts) ++ close :: rest = first ++ remainder close rest texts := by
  induction texts generalizing first with
  | nil => simp [remainder]
  | cons text texts ih =>
      rw [List.intercalate_cons_cons, List.append_assoc, List.append_assoc, ih, remainder,
        List.singleton_append]

theorem Padded.text_append (padded : Padded) (rest : List Char) :
    padded.text ++ rest =
      padded.before.text ++ (padded.value.text ++ (padded.after.text ++ rest)) := by
  obtain ⟨before, value, after⟩ := padded
  rw [Padded.text, List.append_assoc, List.append_assoc]

theorem Member.text_append (member : Member) (rest : List Char) :
    member.text ++ rest = member.before.text ++ (quoted member.key ++
      (member.beforeColon.text ++ ':' :: (member.content.text ++ rest))) := by
  obtain ⟨before, key, beforeColon, content⟩ := member
  rw [Member.text, List.append_assoc, List.append_assoc, List.append_assoc, List.cons_append]

theorem Value.text_list_nil (space : Space) (rest : List Char) :
    (Value.list space []).text ++ rest = '[' :: (space.text ++ ']' :: rest) := by
  simp [Value.text, elementTexts]

theorem Value.text_list_cons (space : Space) (element : Padded) (elements : List Padded)
    (rest : List Char) :
    (Value.list space (element :: elements)).text ++ rest =
      '[' :: (space.text ++ (element.text ++ remainder ']' rest (elementTexts elements))) := by
  simp only [Value.text, elementTexts, List.append_assoc, List.cons_append, List.nil_append,
    ← intercalate_append]

theorem Object.text_nil (space : Space) (rest : List Char) :
    (Object.mk space []).text ++ rest = '{' :: (space.text ++ '}' :: rest) := by
  simp [Object.text, memberTexts]

theorem Object.text_cons (space : Space) (member : Member) (members : List Member)
    (rest : List Char) :
    (Object.mk space (member :: members)).text ++ rest =
      '{' :: (space.text ++ (member.text ++ remainder '}' rest (memberTexts members))) := by
  simp only [Object.text, memberTexts, List.append_assoc, List.cons_append, List.nil_append,
    ← intercalate_append]

/-! ## Data -/

/-- What can be told of a value without its layout. A string that has no content and a number that
    is too large are nothing in particular, like a boolean, a list or an object. -/
inductive Datum where
  | null
  | text (content : String)
  | number (amount : Amount)
  | other
deriving DecidableEq, Repr

def Value.datum : Value → Datum
  | .null => .null
  | .string pieces => (decode pieces).elim .other fun content => .text (String.ofList content)
  | .number literal => (Amount.ofNumeral? literal.numeral).elim .other .number
  | _ => .other

/-- The key of a member and its datum, if the key has a content. -/
def Member.entry? (member : Member) : Option (String × Datum) :=
  (decode member.key).map fun key => (String.ofList key, member.content.value.datum)

/-- The entries of an object in their order, if all its keys have contents. -/
def Object.entries? (object : Object) : Option (List (String × Datum)) :=
  object.members.mapM Member.entry?

end EventLog.Json
