import EventLog.Json.Written

/-!
# Canonical written values

Every string and every whole number can be written. The forms here have no spaces and escape a
character only where they must, always by its number.
-/

namespace EventLog.Json

def Space.none : Space := ⟨[], fun _ never => absurd never List.not_mem_nil⟩

def Space.single (c : Char) (space : isSpace c = true) : Space :=
  ⟨[c], List.forall_mem_singleton.mpr space⟩

/-! ## Strings -/

def HexDigit.ofFin (n : Fin 16) : HexDigit := ⟨Nat.digitChar n, n, by revert n; decide⟩

def CodeUnit.ofNat (n : Nat) : CodeUnit :=
  ⟨.ofFin (Fin.ofNat 16 (n / 4096)), .ofFin (Fin.ofNat 16 (n / 256)),
    .ofFin (Fin.ofNat 16 (n / 16)), .ofFin (Fin.ofNat 16 n)⟩

theorem CodeUnit.value_ofNat {n : Nat} (small : n < 65536) : (ofNat n).value = n := by
  simp only [ofNat, value, HexDigit.ofFin, Fin.val_ofNat]
  omega

def Piece.ofChar (c : Char) : Piece :=
  if allowed : 0x20 ≤ c.toNat ∧ c ≠ '"' ∧ c ≠ '\\' then .plain c allowed
  else .long (.ofNat c.toNat)

theorem Piece.toNat_lt_of_not_allowed {c : Char}
    (escaped : ¬(0x20 ≤ c.toNat ∧ c ≠ '"' ∧ c ≠ '\\')) : c.toNat < 0x80 := by
  by_cases control : c.toNat < 0x20
  · omega
  · by_cases quote : c = '"'
    · rw [quote]
      decide
    · by_cases backslash : c = '\\'
      · rw [backslash]
        decide
      · exact absurd ⟨by omega, quote, backslash⟩ escaped

/-- Every text is the content of a string. -/
theorem decode_map_ofChar (content : List Char) :
    decode (content.map Piece.ofChar) = some content := by
  induction content with
  | nil => rfl
  | cons c content ih =>
      rw [List.map_cons, Piece.ofChar]
      split
      · rw [decode, ih]
        rfl
      · rename_i escaped
        have small := Piece.toNat_lt_of_not_allowed escaped
        have value := CodeUnit.value_ofNat (Nat.lt_trans small (by decide : 0x80 < 65536))
        have notTrailing : isTrailing c.toNat = false := by
          simp [isTrailing]
          omega
        have notLeading : isLeading c.toNat = false := by
          simp [isLeading]
          omega
        rw [decode.eq_def]
        simp only [value, notTrailing, notLeading, ih, Char.ofNat_toNat]
        rfl

def Value.ofText (content : String) : Value := .string (content.toList.map Piece.ofChar)

/-! ## Whole numbers -/

def DigitRow.ofNat (n : Nat) : DigitRow :=
  ⟨Nat.toDigits 10 n, Nat.toDigits_ne_nil,
    fun _ => Nat.isDigit_of_mem_toDigits (by decide) (by decide)⟩

/-- Only the digits of zero begin with a zero. -/
theorem eq_zero_of_head?_toDigits {n : Nat} (zero : (Nat.toDigits 10 n).head? = some '0') :
    n = 0 := by
  by_cases small : n < 10
  · simpa [Nat.toDigits_of_lt_base small] using zero
  · obtain ⟨d, digits, begins⟩ :=
      List.exists_cons_of_ne_nil (Nat.toDigits_ne_nil (n := n / 10) (b := 10))
    have front : (Nat.toDigits 10 (n / 10)).head? = some '0' := by
      rw [Nat.toDigits_of_base_le (by decide) (by omega), begins] at zero
      rwa [begins]
    have least : n / 10 = 0 := eq_zero_of_head?_toDigits front
    omega
termination_by n

theorem DigitRow.unpadded_ofNat {n : Nat} (zero : (ofNat n).text.head? = some '0') :
    (ofNat n).text = ['0'] := by
  obtain rfl := eq_zero_of_head?_toDigits zero
  rfl

def Literal.ofInt (n : Int) : Literal :=
  ⟨n < 0, .ofNat n.natAbs, DigitRow.unpadded_ofNat, none, none⟩

theorem Literal.text_ofInt (n : Int) : (ofInt n).text = (toString n).toList := by
  have written : (toString n).toList = n.repr.toList := rfl
  rw [written, Int.repr_eq_if]
  simp only [ofInt, text, DigitRow.ofNat, Option.elim_none, List.append_nil, decide_eq_true_eq]
  by_cases negative : n < 0
  · rw [if_pos negative, if_neg (by omega), String.toList_append, Nat.toList_repr]
    have size : (-n).toNat = n.natAbs := by omega
    rw [size]
    rfl
  · rw [if_neg negative, if_pos (by omega), Nat.toList_repr]
    have size : n.toNat = n.natAbs := by omega
    rw [size]
    rfl

/-! ## Members -/

def Member.ofText (key : String) (value : Value) : Member :=
  ⟨.none, key.toList.map Piece.ofChar, .none, .none, value, .none⟩

end EventLog.Json
