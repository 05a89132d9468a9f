import EventLog.Text.LowerCase

/-!
# Plain words in any case

A text whose lower case is a word of small letters from a to z differs from that word in the case
of these letters only, as no other character has one of them alone for its lower case. The letter k
is left out, being also the lower case of the Kelvin sign (`lower_eq_iff`).
-/

namespace EventLog.Text

/-! ## Characters -/

/-- What it takes for a character to be one of the small letters from a to z. -/
def IsSmallLetter (c : Char) : Prop := 'a'.toNat ≤ c.toNat ∧ c.toNat ≤ 'z'.toNat

instance (c : Char) : Decidable (IsSmallLetter c) := inferInstanceAs (Decidable (_ ∧ _))

theorem toNat_toLower (c : Char) :
    c.toLower.toNat =
      if 'A'.toNat ≤ c.toNat ∧ c.toNat ≤ 'Z'.toNat then c.toNat + 32 else c.toNat := by
  unfold Char.toLower
  simp only [ge_iff_le, UInt32.le_iff_toNat_le, Char.toNat]
  split
  · rename_i capital
    simp only [UInt32.toNat_add]
    have top : 'Z'.val.toNat = 90 := rfl
    have shift : ('a'.val - 'A'.val).toNat = 32 := rfl
    omega
  · rfl

/-- The runs of the letters beyond A to Z. -/
def laterRuns : List CaseRun := lowerRuns.tail

/-- No run but the first begins with a letter from A to Z, and none but that of the Kelvin sign
    lands on one from a to z. -/
theorem laterRuns_bounds :
    ∀ run ∈ laterRuns, 128 ≤ run.first ∧ (128 ≤ run.image ∨ run = ⟨0x212A, 0x212A, 1, 0x6B⟩) := by
  decide +kernel

theorem throughRuns_cons (run : CaseRun) (runs : List CaseRun) (c : Char) :
    throughRuns (run :: runs) c =
      ((run.target? c.toNat).map Char.ofNat).getD (throughRuns runs c) := by
  unfold throughRuns
  rw [List.findSome?_cons]
  cases run.target? c.toNat <;> rfl

theorem toNat_ofNat_of_ne_zero {n : Nat} (image : (Char.ofNat n).toNat ≠ 0) :
    (Char.ofNat n).toNat = n := by
  by_cases valid : n.isValidChar
  · rw [Char.ofNat, dif_pos valid]
    rfl
  · rw [Char.ofNat, dif_neg valid] at image
    exact absurd rfl image

/-- Among the letters beyond A to Z, only the Kelvin sign has a lower case from a to z. -/
theorem throughRuns_laterRuns_eq {c d : Char} (small : IsSmallLetter d) (other : d ≠ 'k') :
    throughRuns laterRuns c = d ↔ c = d := by
  obtain ⟨low, high⟩ := small
  have bound : d.toNat ≤ 122 := high
  have positive : 97 ≤ d.toNat := low
  constructor
  · intro image
    unfold throughRuns at image
    split at image
    · rename_i n found
      obtain ⟨run, present, target⟩ := List.exists_of_findSome?_eq_some found
      have landed : (Char.ofNat n).toNat = n := toNat_ofNat_of_ne_zero (by rw [image]; omega)
      rw [image] at landed
      unfold CaseRun.target? at target
      split at target
      · -- The image is a small letter, which no run but that of the Kelvin sign can reach.
        rename_i within
        rw [Option.some_inj] at target
        obtain ⟨_, far | rfl⟩ := laterRuns_bounds run present
        · omega
        · have kelvin : n = 'k'.toNat := by
            simp only at within target
            have : 'k'.toNat = 107 := rfl
            omega
          exact absurd (Char.toNat_inj.mp (landed.trans kelvin)) other
      · cases target
    · exact image
  · rintro rfl
    apply throughRuns_eq_self
    intro run present
    have later := (laterRuns_bounds run present).1
    unfold CaseRun.target?
    rw [if_neg (by omega)]

theorem target?_capitals (n : Nat) :
    CaseRun.target? ⟨0x41, 0x5A, 1, 0x61⟩ n =
      if 'A'.toNat ≤ n ∧ n ≤ 'Z'.toNat then some (n + 32) else none := by
  have first : 'A'.toNat = 65 := rfl
  have last : 'Z'.toNat = 90 := rfl
  simp only [CaseRun.target?, Nat.mod_one, and_true, first, last]
  split <;> simp
  omega

theorem throughRuns_lowerRuns_eq {c d : Char} (small : IsSmallLetter d) (other : d ≠ 'k') :
    throughRuns lowerRuns c = d ↔ c.toLower = d := by
  have runs : lowerRuns = ⟨0x41, 0x5A, 1, 0x61⟩ :: laterRuns := rfl
  have lowered := toNat_toLower c
  rw [runs, throughRuns_cons, target?_capitals]
  split at lowered
  · rename_i capital
    rw [if_pos capital, ← lowered]
    simp
  · rename_i capital
    rw [if_neg capital, Char.toNat_inj.mp lowered]
    exact throughRuns_laterRuns_eq small other

/-! ## Texts -/

/-- What it takes for a text to be spelled in small letters from a to z other than k. -/
def IsPlain (text : List Char) : Prop := ∀ c ∈ text, IsSmallLetter c ∧ c ≠ 'k'

instance (text : List Char) : Decidable (IsPlain text) :=
  List.decidableBAll (fun c => IsSmallLetter c ∧ c ≠ 'k') text

theorem not_isSmallLetter_smallSigma (before after : List Char) :
    ¬IsSmallLetter (smallSigma before after) := by
  unfold smallSigma IsSmallLetter
  split <;> decide

/-- A character becomes a plain letter only by way of its capital. The dotted capital I does not
    count, as its lower case keeps the dot, nor does the capital sigma in either form. -/
theorem lowerOf_cases (c : Char) (before after : List Char) :
    (∃ image, (if c = 'Σ' then [smallSigma before after] else lowerOf c) = [image] ∧
        ∀ d, IsSmallLetter d → d ≠ 'k' → (image = d ↔ c.toLower = d)) ∨
      (if c = 'Σ' then [smallSigma before after] else lowerOf c) = ['i', '\u0307'] ∧
        ¬IsSmallLetter c.toLower := by
  by_cases sigma : c = 'Σ'
  · left
    refine ⟨_, if_pos sigma, fun d small _ => iff_of_false ?_ ?_⟩
    · rintro rfl
      exact not_isSmallLetter_smallSigma before after small
    · rintro rfl
      rw [sigma] at small
      exact absurd small (by decide)
  · rw [if_neg sigma, lowerOf]
    by_cases dotted : c = 'İ'
    · right
      rw [if_pos dotted, dotted]
      exact ⟨rfl, by decide⟩
    · left
      rw [if_neg dotted]
      exact ⟨_, rfl, fun d small other => throughRuns_lowerRuns_eq small other⟩

/-- A text has a plain lower case exactly if it is that word up to the case of the letters from
    A to Z. -/
theorem lowerAfter_eq_iff {word : List Char} (plain : IsPlain word) (before text : List Char) :
    lowerAfter before text = word ↔ text.map Char.toLower = word := by
  induction text generalizing before word with
  | nil => rfl
  | cons c text ih =>
      rw [lowerAfter, List.map_cons]
      obtain ⟨image, alone, same⟩ | ⟨dotted, large⟩ := lowerOf_cases c before text
      · rw [alone, List.singleton_append]
        cases word with
        | nil => simp
        | cons d word =>
            obtain ⟨⟨small, other⟩, later⟩ := List.forall_mem_cons.mp plain
            rw [List.cons.injEq, List.cons.injEq, same d small other, ih later]
      · -- The dotted capital I gives two characters, the second of which is no letter.
        rw [dotted]
        refine iff_of_false ?_ ?_
        · rintro rfl
          have dot := (plain '\u0307' (by simp)).1
          exact absurd dot (by decide)
        · rintro rfl
          exact large (plain c.toLower (by simp)).1

theorem lower_eq_iff {word : List Char} (plain : IsPlain word) (text : List Char) :
    lower text = word ↔ text.map Char.toLower = word :=
  lowerAfter_eq_iff plain [] text

theorem ofList_lower_eq_iff {word : String} (plain : IsPlain word.toList) {text : List Char} :
    String.ofList (lower text) = word ↔ String.ofList (text.map Char.toLower) = word := by
  rw [← String.toList_inj, String.toList_ofList, ← String.toList_inj, String.toList_ofList]
  exact lower_eq_iff plain text

end EventLog.Text
