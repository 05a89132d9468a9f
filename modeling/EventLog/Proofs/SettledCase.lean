import EventLog.Proofs.Selection
import Mathlib.Data.List.TakeWhile

/-!
# Parts of a text in lower case

A text term is sought in a message with both in lower case, each lowered on its own. The form of a
small sigma depends on the letters around it, so a part of a message may have another lower case on
its own than within the message. Such a part is not found although it stands there. The parts that
are always found are those in which the letters of the part alone settle the form of every sigma
(`Settled`, `text_holds_of_part_iff_settled`).
-/

namespace EventLog.Text

/-! ## The nearest character -/

/-- The nearest character that is not looked through. -/
def nearest? (text : List Char) : Option Char := text.find? fun c => !isCaseIgnorable c

theorem nearest?_append (text far : List Char) :
    nearest? (text ++ far) = (nearest? text).or (nearest? far) :=
  List.find?_append

theorem meetsCased_eq (text : List Char) : meetsCased text = (nearest? text).any isCased := by
  rw [nearest?, List.find?_not_eq_head?_dropWhile, meetsCased]
  cases text.dropWhile isCaseIgnorable <;> rfl

/-- Nothing is seen beyond the nearest character. -/
theorem meetsCased_append_of_isSome {text : List Char} (near : (nearest? text).isSome)
    (far : List Char) : meetsCased (text ++ far) = meetsCased text := by
  obtain ⟨c, found⟩ := Option.isSome_iff_exists.mp near
  rw [meetsCased_eq, meetsCased_eq, nearest?_append, found]
  rfl

theorem meetsCased_append_of_eq_none {text : List Char} (blind : nearest? text = none)
    (far : List Char) : meetsCased (text ++ far) = meetsCased far := by
  rw [meetsCased_eq, meetsCased_eq, nearest?_append, blind]
  rfl

theorem isSome_nearest?_of_meetsCased {text : List Char} (cased : meetsCased text = true) :
    (nearest? text).isSome := by
  rw [meetsCased_eq] at cased
  cases found : nearest? text with
  | none => rw [found] at cased; cases cased
  | some c => rfl

/-- A sigma is a letter, and is not looked through itself. -/
theorem isSome_nearest?_of_mem {text : List Char} (present : 'Σ' ∈ text) :
    (nearest? text).isSome := by
  rw [nearest?, List.find?_isSome]
  exact ⟨'Σ', present, by decide +kernel⟩

/-! ## Parts between other characters -/

/-- The lower case that a text has between the characters `before`, held backwards, and those
    `after`. -/
def lowerBetween (before after : List Char) : List Char → List Char
  | [] => []
  | c :: rest =>
      (if c = 'Σ' then [smallSigma before (rest ++ after)] else lowerOf c) ++
        lowerBetween (c :: before) after rest

theorem lowerAfter_append (before text after : List Char) :
    lowerAfter before (text ++ after) =
      lowerBetween before after text ++ lowerAfter (text.reverse ++ before) after := by
  induction text generalizing before with
  | nil => rfl
  | cons c text ih =>
      rw [List.cons_append, lowerAfter, lowerBetween, ih, List.append_assoc, List.reverse_cons,
        List.append_assoc, List.singleton_append]

theorem lowerBetween_nil (before text : List Char) :
    lowerBetween before [] text = lowerAfter before text := by
  have whole := lowerAfter_append before text []
  rwa [List.append_nil, lowerAfter, List.append_nil, eq_comm] at whole

/-- The surroundings of a part matter for its sigmas only. -/
theorem lowerBetween_congr {before after otherBefore otherAfter text : List Char}
    (same : ∀ left right, text = left ++ 'Σ' :: right →
      smallSigma (left.reverse ++ before) (right ++ after) =
        smallSigma (left.reverse ++ otherBefore) (right ++ otherAfter)) :
    lowerBetween before after text = lowerBetween otherBefore otherAfter text := by
  induction text generalizing before otherBefore with
  | nil => rfl
  | cons c text ih =>
      have later : lowerBetween (c :: before) after text =
          lowerBetween (c :: otherBefore) otherAfter text := by
        apply ih
        intro left right split
        have form := same (c :: left) right (by rw [split, List.cons_append])
        rwa [List.reverse_cons, List.append_assoc, List.append_assoc] at form
      rw [lowerBetween, lowerBetween, later]
      split
      · rename_i sigma
        have form := same [] text (by rw [sigma, List.nil_append])
        rw [List.reverse_nil, List.nil_append, List.nil_append] at form
        rw [form]
      · rfl

theorem lowerBetween_of_not_mem {text : List Char} (without : 'Σ' ∉ text)
    (before after otherBefore otherAfter : List Char) :
    lowerBetween before after text = lowerBetween otherBefore otherAfter text := by
  apply lowerBetween_congr
  rintro left right rfl
  exact absurd (by simp) without

theorem lowerBetween_append_before {before : List Char} (near : (nearest? before).isSome)
    (far after text : List Char) :
    lowerBetween (before ++ far) after text = lowerBetween before after text := by
  apply lowerBetween_congr
  intro left right _
  have seen : (nearest? (left.reverse ++ before)).isSome := by
    rw [nearest?_append, Option.isSome_or, near, Bool.or_true]
  rw [← List.append_assoc, smallSigma, meetsCased_append_of_isSome seen, smallSigma]

theorem lowerBetween_append_after {after : List Char} (near : (nearest? after).isSome)
    (before far text : List Char) :
    lowerBetween before (after ++ far) text = lowerBetween before after text := by
  apply lowerBetween_congr
  intro left right _
  have seen : (nearest? (right ++ after)).isSome := by
    rw [nearest?_append, Option.isSome_or, near, Bool.or_true]
  rw [← List.append_assoc, smallSigma, meetsCased_append_of_isSome seen, smallSigma]

/-! ## Settled parts -/

/-- What it takes for the characters around a sigma, those `before` it held backwards, to settle its
    form whatever stands farther off. A cased letter after it makes it the one within a word; else
    the nearest character before it must be seen, and if that has a case, also the one after it. -/
def SigmaSettled (before after : List Char) : Prop :=
  meetsCased after = true ∨
    (nearest? before).isSome ∧ (meetsCased before = false ∨ (nearest? after).isSome)

instance (before after : List Char) : Decidable (SigmaSettled before after) :=
  inferInstanceAs (Decidable (_ ∨ _))

theorem SigmaSettled.smallSigma_append {before after : List Char}
    (settled : SigmaSettled before after) (farBefore farAfter : List Char) :
    smallSigma (before ++ farBefore) (after ++ farAfter) = smallSigma before after := by
  obtain followed | ⟨near, uncased | seen⟩ := settled
  · have seen := isSome_nearest?_of_meetsCased followed
    rw [smallSigma, smallSigma, meetsCased_append_of_isSome seen, followed, Bool.not_true,
      Bool.and_false, Bool.and_false]
  · rw [smallSigma, smallSigma, meetsCased_append_of_isSome near, uncased, Bool.false_and,
      Bool.false_and]
  · rw [smallSigma, smallSigma, meetsCased_append_of_isSome near, meetsCased_append_of_isSome seen]

/-- What it takes for the form of every sigma to be settled within a text. -/
def Settled (text : List Char) : Prop :=
  ∀ left right, text = left ++ 'Σ' :: right → SigmaSettled left.reverse right

theorem settled_iff_forall_getElem {text : List Char} :
    Settled text ↔ ∀ (i : Nat) (below : i < text.length), text[i] = 'Σ' →
      SigmaSettled (text.take i).reverse (text.drop (i + 1)) := by
  constructor
  · intro settled i below sigma
    exact settled _ _ (by rw [← sigma, List.getElem_cons_drop, List.take_append_drop])
  · rintro settled left right rfl
    have here := settled left.length (by simp) (by simp)
    rwa [List.take_left, List.drop_length_add_append, List.drop_one, List.tail_cons] at here

instance (text : List Char) : Decidable (Settled text) :=
  decidable_of_iff _ settled_iff_forall_getElem.symm

theorem settled_of_not_mem {text : List Char} (without : 'Σ' ∉ text) : Settled text := by
  rintro left right rfl
  exact absurd (by simp) without

/-- A settled part has one lower case, alone and in every text. -/
theorem Settled.lowerBetween_eq {text : List Char} (settled : Settled text)
    (before after : List Char) : lowerBetween before after text = lower text := by
  rw [lower, ← lowerBetween_nil]
  apply lowerBetween_congr
  intro left right split
  rw [(settled left right split).smallSigma_append, List.append_nil, List.append_nil]

theorem Settled.isInfix_lower {part text : List Char} (settled : Settled part)
    (present : part <:+: text) : lower part <:+: lower text := by
  obtain ⟨left, right, rfl⟩ := present
  rw [← settled.lowerBetween_eq left.reverse right, lower, List.append_assoc,
    lowerAfter_append, lowerAfter_append, List.append_nil]
  exact List.infix_append' _ _ _

/-! ## Unsettled parts -/

theorem not_infix_of_count_lt {part text : List Char} {c : Char}
    (fewer : text.count c < part.count c) : ¬part <:+: text := by
  intro present
  exact absurd (present.sublist.count_le c) (by omega)

theorem lowerBetween_append (before left right after : List Char) :
    lowerBetween before after (left ++ right) =
      lowerBetween before (right ++ after) left ++
        lowerBetween (left.reverse ++ before) after right := by
  induction left generalizing before with
  | nil => rfl
  | cons c left ih =>
      rw [List.cons_append, lowerBetween, lowerBetween, ih, List.append_assoc, List.append_assoc,
        List.reverse_cons, List.append_assoc, List.singleton_append]

/-- A part parted at a sigma. -/
theorem lowerBetween_at_sigma (before left right after : List Char) :
    lowerBetween before after (left ++ 'Σ' :: right) =
      lowerBetween before ('Σ' :: right ++ after) left ++
        smallSigma (left.reverse ++ before) (right ++ after) ::
          lowerBetween ('Σ' :: (left.reverse ++ before)) after right := by
  rw [lowerBetween_append, lowerBetween, if_pos rfl, List.singleton_append]

theorem not_mem_of_blind {text : List Char} (blind : nearest? text = none) : 'Σ' ∉ text := by
  intro present
  have seen := isSome_nearest?_of_mem present
  rw [blind] at seen
  cases seen

/-- A letter in front of a part turns a sigma into the final one, if nothing that is seen stands
    before it and no cased letter after it. -/
theorem not_infix_of_blind_before {left right : List Char} (blind : nearest? left.reverse = none)
    (last : meetsCased right = false) :
    ¬lower (left ++ 'Σ' :: right) <:+: lower ('a' :: (left ++ 'Σ' :: right)) := by
  have without : 'Σ' ∉ left := fun present => not_mem_of_blind blind (List.mem_reverse.mpr present)
  have alone : smallSigma left.reverse right = 'σ' := by
    rw [smallSigma, meetsCased_eq, blind]
    rfl
  have behind : smallSigma (left.reverse ++ ['a']) right = 'ς' := by
    rw [smallSigma, meetsCased_append_of_eq_none blind, last]
    decide +kernel
  have far : lowerBetween ('Σ' :: (left.reverse ++ ['a'])) [] right =
      lowerBetween ('Σ' :: left.reverse) [] right :=
    lowerBetween_append_before (isSome_nearest?_of_mem List.mem_cons_self) ['a'] [] right
  have lowered : lower ('a' :: (left ++ 'Σ' :: right)) =
      'a' :: lowerBetween ['a'] [] (left ++ 'Σ' :: right) := by
    rw [lowerBetween_nil]
    rfl
  apply not_infix_of_count_lt (c := 'σ')
  rw [lowered, lower, ← lowerBetween_nil, lowerBetween_at_sigma, lowerBetween_at_sigma,
    List.append_nil, List.append_nil, List.append_nil, alone, behind, far,
    lowerBetween_of_not_mem without ['a'] _ [] ('Σ' :: right)]
  simp [List.count_append]

/-- A letter at the end of a part turns the final sigma into the other, if a cased letter stands
    before it and nothing that is seen after it. -/
theorem not_infix_of_blind_after {left right : List Char} (letter : meetsCased left.reverse = true)
    (blind : nearest? right = none) :
    ¬lower (left ++ 'Σ' :: right) <:+: lower (left ++ 'Σ' :: right ++ ['a']) := by
  have alone : smallSigma left.reverse right = 'ς' := by
    rw [smallSigma, meetsCased_eq right, blind, letter]
    rfl
  have followed : smallSigma left.reverse (right ++ ['a']) = 'σ' := by
    rw [smallSigma, meetsCased_append_of_eq_none blind, letter]
    decide +kernel
  have far : lowerBetween [] ('Σ' :: right ++ ['a']) left = lowerBetween [] ('Σ' :: right) left :=
    lowerBetween_append_after (isSome_nearest?_of_mem List.mem_cons_self) [] ['a'] left
  have lowered : lower (left ++ 'Σ' :: right ++ ['a']) =
      lowerBetween [] ['a'] (left ++ 'Σ' :: right) ++ ['a'] := by
    rw [lower, lowerAfter_append]
    rfl
  apply not_infix_of_count_lt (c := 'ς')
  rw [lowered, lower, ← lowerBetween_nil, lowerBetween_at_sigma, lowerBetween_at_sigma,
    List.append_nil, List.append_nil, List.append_nil, alone, followed, far,
    lowerBetween_of_not_mem (not_mem_of_blind blind) _ ['a'] ('Σ' :: left.reverse) []]
  simp [List.count_append]

/-- A part that is not settled has another lower case in some text. -/
theorem exists_not_infix_of_not_settled {part : List Char} (unsettled : ¬Settled part) :
    ∃ text, part <:+: text ∧ ¬lower part <:+: lower text := by
  simp only [Settled, SigmaSettled, not_forall, not_or, not_and, Bool.not_eq_true] at unsettled
  obtain ⟨left, right, rfl, last, unseen⟩ := unsettled
  cases nearest : nearest? left.reverse with
  | none =>
      exact ⟨_, List.infix_cons List.infix_rfl, not_infix_of_blind_before nearest last⟩
  | some c =>
      obtain ⟨letter, blind⟩ := unseen (by rw [nearest]; rfl)
      rw [Bool.not_eq_false] at letter
      rw [Option.isSome_eq_false_iff, Option.isNone_iff_eq_none] at blind
      exact ⟨_, List.infix_append_left, not_infix_of_blind_after letter blind⟩

end EventLog.Text

namespace EventLog

/-- A value without a capital sigma is found wherever it stands. -/
theorem text_holds_of_part {conventions : Conventions} {keys : StepKeys} {value : String}
    {record : Record} (without : 'Σ' ∉ value.toList)
    (present : value.toList <:+: record.message.toList) :
    (⟨.text, value⟩ : Term).holds conventions keys record = true :=
  Term.holds_iff.mpr ((Text.settled_of_not_mem without).isInfix_lower present)

/-- The values that a text term finds wherever they stand in a message are those in which the form
    of every sigma is settled. -/
theorem text_holds_of_part_iff_settled (conventions : Conventions) (keys : StepKeys)
    (value : String) :
    (∀ record : Record, value.toList <:+: record.message.toList →
      (⟨.text, value⟩ : Term).holds conventions keys record = true) ↔
        Text.Settled value.toList := by
  simp only [Term.holds_iff]
  constructor
  · intro found
    by_contra unsettled
    obtain ⟨message, present, missed⟩ := Text.exists_not_infix_of_not_settled unsettled
    let record : Record := { kind := .logMessage, timestamp := 0, message := String.ofList message }
    have same : record.message.toList = message := String.toList_ofList
    have met : Text.lower value.toList <:+: Text.lower record.message.toList :=
      found record (same.symm ▸ present)
    rw [same] at met
    exact missed met
  · intro settled record present
    exact settled.isInfix_lower present

/-- A word that ends in a sigma stands in a longer one, and is not found there. -/
theorem text_misses_part_at_sigma :
    let record : Record := { kind := .logMessage, timestamp := 0, message := "ΑΣΑ" }
    "ΑΣ".toList <:+: record.message.toList ∧
      (⟨.text, "ΑΣ"⟩ : Term).holds Conventions.standard [] record = false := by
  decide +kernel

/-- A sigma is settled before a letter or a comma. A full stop is looked through, and leaves it as
    open as at the end of the text. -/
example : Text.Settled "ΣΟΦΟΣ, ".toList ∧ ¬Text.Settled "ΣΟΦΟΣ.".toList := by
  decide +kernel

end EventLog
