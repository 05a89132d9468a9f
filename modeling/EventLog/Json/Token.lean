import EventLog.Json.Fault
import EventLog.Number.Digit

/-!
# Strings and words of JSON texts

The readers of the smallest pieces. Each takes the text from where it stands and gives what it
read and the rest, which is never longer; the lemmas on lengths say by how much it is shorter.
-/

namespace EventLog.Json

open Number (hexDigit?)
open Text (byteSize)

/-- Says whether a character may stand between any two tokens. -/
def isSpace (c : Char) : Bool := c == ' ' || c == '\n' || c == '\t' || c == '\r'

def skipSpace (text : List Char) : List Char := text.dropWhile isSpace

theorem length_dropWhile_le {α : Type} (p : α → Bool) (list : List α) :
    (list.dropWhile p).length ≤ list.length := by
  induction list with
  | nil => simp
  | cons a list ih =>
      rw [List.dropWhile_cons]
      split
      · exact Nat.le_succ_of_le ih
      · exact Nat.le_refl _

/-- A mapped result comes from a result. -/
theorem exists_of_map_ok {ε α β : Type} {f : α → β} {x : Except ε α} {b : β}
    (mapped : x.map f = .ok b) : ∃ a, x = .ok a ∧ f a = b := by
  cases x with
  | error fault => cases mapped
  | ok a =>
      cases mapped
      exact ⟨a, rfl, rfl⟩

theorem length_skipSpace_le (text : List Char) : (skipSpace text).length ≤ text.length :=
  length_dropWhile_le isSpace text

theorem length_lt_of_skipSpace {text rest : List Char} {c : Char}
    (reached : skipSpace text = c :: rest) : rest.length < text.length := by
  have spaces := length_skipSpace_le text
  rw [reached] at spaces
  exact spaces

def readWord : (word text : List Char) → Except Fault (List Char)
  | [], text => .ok text
  | _ :: _, [] => .error (Flaw.endOfValue.before [])
  | w :: word, c :: text =>
      if c = w then readWord word text else .error (Flaw.expectedWord.at (c :: text))

theorem length_readWord_le {word text rest : List Char} (read : readWord word text = .ok rest) :
    rest.length ≤ text.length := by
  induction word generalizing text with
  | nil =>
      cases read
      exact Nat.le_refl _
  | cons w word ih =>
      cases text with
      | nil => cases read
      | cons c text =>
          unfold readWord at read
          split at read
          · exact Nat.le_succ_of_le (ih read)
          · cases read

/-! ## Escapes -/

/-- Four hexadecimal digits were wanted here. They take up four bytes whatever stands there. -/
def badUnit (text : List Char) : Fault :=
  if byteSize text < 4 then ⟨.endOfString, 0⟩ else ⟨.invalidEscape, byteSize text - 4⟩

/-- Reads the four hexadecimal digits of a 16-bit unit. -/
def readUnit (text : List Char) : Except Fault (Nat × List Char) :=
  match text with
  | a :: b :: c :: d :: rest =>
      match hexDigit? a, hexDigit? b, hexDigit? c, hexDigit? d with
      | some a, some b, some c, some d => .ok (((a * 16 + b) * 16 + c) * 16 + d, rest)
      | _, _, _, _ => .error (badUnit text)
  | _ => .error (badUnit text)

theorem length_readUnit_lt {text rest : List Char} {unit : Nat}
    (read : readUnit text = .ok (unit, rest)) : rest.length < text.length := by
  unfold readUnit at read
  split at read
  · split at read
    · simp only [Except.ok.injEq, Prod.mk.injEq] at read
      obtain ⟨_, rfl⟩ := read
      simp only [List.length_cons]
      omega
    · cases read
  · cases read

/-- Says whether a unit begins a surrogate pair. -/
def isLeading (unit : Nat) : Bool := 0xD800 ≤ unit && unit ≤ 0xDBFF

/-- Says whether a unit ends a surrogate pair. -/
def isTrailing (unit : Nat) : Bool := 0xDC00 ≤ unit && unit ≤ 0xDFFF

def pairChar (leading trailing : Nat) : Char :=
  Char.ofNat ((leading - 0xD800) * 0x400 + (trailing - 0xDC00) + 0x10000)

/-- Reads the second half of a surrogate pair, escape included. -/
def readTrailing (leading : Nat) (text : List Char) : Except Fault (Char × List Char) :=
  match text with
  | [] => .error (Flaw.endOfString.before [])
  | '\\' :: [] => .error (Flaw.endOfString.before [])
  | '\\' :: 'u' :: rest =>
      match readUnit rest with
      | .error fault => .error fault
      | .ok (unit, after) =>
          if isTrailing unit then .ok (pairChar leading unit, after)
          else .error (Flaw.loneSurrogate.before after)
  | '\\' :: rest => .error (Flaw.brokenSurrogatePair.at rest)
  | rest => .error (Flaw.brokenSurrogatePair.at rest)

/-- Reads what follows the u of an escape. Where only the end of a string is wanted, surrogates
    need not be paired. -/
def readCodePoint (care : Care) (text : List Char) : Except Fault (Char × List Char) :=
  match readUnit text with
  | .error fault => .error fault
  | .ok (unit, rest) =>
      if care = .full ∧ isTrailing unit then .error (Flaw.loneSurrogate.before rest)
      else if care = .full ∧ isLeading unit then readTrailing unit rest
      else .ok (Char.ofNat unit, rest)

/-- Reads what follows the backslash of an escape. -/
def readEscape (care : Care) : List Char → Except Fault (Char × List Char)
  | [] => .error (Flaw.endOfString.before [])
  | 'u' :: rest => readCodePoint care rest
  | c :: rest =>
      match c with
      | '"' => .ok ('"', rest)
      | '\\' => .ok ('\\', rest)
      | '/' => .ok ('/', rest)
      | 'b' => .ok ('\x08', rest)
      | 'f' => .ok ('\x0c', rest)
      | 'n' => .ok ('\n', rest)
      | 'r' => .ok ('\r', rest)
      | 't' => .ok ('\t', rest)
      | _ => .error (Flaw.invalidEscape.at (c :: rest))

theorem length_readTrailing_lt {leading : Nat} {text rest : List Char} {c : Char}
    (read : readTrailing leading text = .ok (c, rest)) : rest.length < text.length := by
  unfold readTrailing at read
  split at read
  · cases read
  · cases read
  · split at read
    · cases read
    · rename_i found
      split at read
      · simp only [Except.ok.injEq, Prod.mk.injEq] at read
        obtain ⟨_, rfl⟩ := read
        have shorter := length_readUnit_lt found
        simp only [List.length_cons]
        omega
      · cases read
  · cases read
  · cases read

theorem length_readCodePoint_lt {care : Care} {text rest : List Char} {c : Char}
    (read : readCodePoint care text = .ok (c, rest)) : rest.length < text.length := by
  unfold readCodePoint at read
  split at read
  · cases read
  · rename_i found
    have shorter := length_readUnit_lt found
    split at read
    · cases read
    · split at read
      · have further := length_readTrailing_lt read
        omega
      · simp only [Except.ok.injEq, Prod.mk.injEq] at read
        obtain ⟨_, rfl⟩ := read
        exact shorter

theorem length_readEscape_lt {care : Care} {text rest : List Char} {c : Char}
    (read : readEscape care text = .ok (c, rest)) : rest.length < text.length := by
  unfold readEscape at read
  split at read
  · cases read
  · exact Nat.lt_succ_of_lt (length_readCodePoint_lt read)
  · split at read
    all_goals cases read
    all_goals simp

/-! ## Strings -/

/-- Reads a string up to and with its closing quote. The opening quote has been read. -/
def readString (care : Care) (text : List Char) : Except Fault (List Char × List Char) :=
  match text with
  | [] => .error (Flaw.endOfString.before [])
  | '"' :: rest => .ok ([], rest)
  | '\\' :: rest =>
      match _found : readEscape care rest with
      | .error fault => .error fault
      | .ok (c, after) =>
          match readString care after with
          | .error fault => .error fault
          | .ok (content, beyond) => .ok (c :: content, beyond)
  | c :: rest =>
      if c.toNat < 0x20 then
        .error (Flaw.controlCharacter.before (if care = .full then rest else c :: rest))
      else
        match readString care rest with
        | .error fault => .error fault
        | .ok (content, beyond) => .ok (c :: content, beyond)
termination_by text.length
decreasing_by
  · have shorter := length_readEscape_lt _found
    simp only [List.length_cons]
    omega
  · simp

theorem length_readString_lt {care : Care} {text rest content : List Char}
    (read : readString care text = .ok (content, rest)) : rest.length < text.length := by
  fun_induction readString care text generalizing content rest with
  | case1 => cases read
  | case2 => simp_all
  | case3 => cases read
  | case4 => cases read
  | case5 after c rest' found content' beyond inner ih =>
      simp only [Except.ok.injEq, Prod.mk.injEq] at read
      obtain ⟨_, rfl⟩ := read
      have shorter := length_readEscape_lt found
      have further := ih inner
      simp only [List.length_cons]
      omega
  | case6 => cases read
  | case7 => cases read
  | case8 c rest' _ _ _ content' beyond inner ih =>
      simp only [Except.ok.injEq, Prod.mk.injEq] at read
      obtain ⟨_, rfl⟩ := read
      have further := ih inner
      simp only [List.length_cons]
      omega

end EventLog.Json
