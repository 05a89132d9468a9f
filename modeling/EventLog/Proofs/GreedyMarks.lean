import EventLog.Proofs.Selection
import Mathlib.Data.List.Basic

/-!
# Marks of any view

The marks of a view are given along one pass that awaits a single match at a time and never looks
back. Where a view is made by hand, its matches need not stand among its visible entries at all.
The pass still marks as many of them as can be marked in order (`LongestAmong`), each at the first
place behind the one before it (`Earliest`). Main result: `marked_greedy`.
-/

namespace EventLog

/-- What it takes for `taken` to be the longest beginning of the `sought` positions that stands
    among the `shown` ones in the same order. -/
structure LongestAmong (sought shown taken : List Nat) : Prop where
  beginning : taken <+: sought
  among : taken.Sublist shown
  longest : ∀ other, other <+: sought → other.Sublist shown → other.length ≤ taken.length

/-- The `taken` positions stand at some places among the `shown` ones, each at the first place that
    it has from `low` on, or behind the place of the one before it. -/
inductive Earliest (shown : List Nat) : (low : Nat) → (taken places : List Nat) → Prop
  | nil {low : Nat} : Earliest shown low [] []
  | cons {low place position : Nat} {taken places : List Nat} :
      low ≤ place → shown[place]? = some position →
      (∀ other, low ≤ other → other < place → shown[other]? ≠ some position) →
      Earliest shown (place + 1) taken places →
      Earliest shown low (position :: taken) (place :: places)

/-! ## Longest beginnings -/

namespace LongestAmong

variable {sought shown taken : List Nat} {position : Nat}

theorem nil (sought : List Nat) : LongestAmong sought [] [] where
  beginning := List.nil_prefix
  among := List.nil_sublist []
  longest := fun _ _ among => among.length_le

/-- The position that is sought next is taken where it is shown. -/
theorem cons (longest : LongestAmong sought shown taken) :
    LongestAmong (position :: sought) (position :: shown) (position :: taken) where
  beginning := List.cons_prefix_cons.mpr ⟨rfl, longest.beginning⟩
  among := longest.among.cons_cons position
  longest := by
    intro other begun among
    cases other with
    | nil => exact Nat.zero_le _
    | cons first other =>
        obtain ⟨rfl, later⟩ := List.cons_prefix_cons.mp begun
        exact Nat.succ_le_succ (longest.longest other later (List.cons_sublist_cons.mp among))

/-- A position that is not sought next is passed over. -/
theorem skip (apart : sought.head? ≠ some position) (longest : LongestAmong sought shown taken) :
    LongestAmong sought (position :: shown) taken where
  beginning := longest.beginning
  among := longest.among.cons position
  longest := by
    intro other begun among
    cases among with
    | cons _ among => exact longest.longest other begun among
    | cons_cons _ _ =>
        obtain ⟨rest, rfl⟩ := begun
        exact absurd rfl apart

/-- Everything is taken exactly if it stands among what is shown in the same order. -/
theorem eq_iff (longest : LongestAmong sought shown taken) :
    taken = sought ↔ sought.Sublist shown := by
  constructor
  · rintro rfl
    exact longest.among
  · intro among
    exact longest.beginning.eq_of_length_le (longest.longest sought List.prefix_rfl among)

end LongestAmong

/-! ## First places -/

/-- A place at which the next position does not stand is passed over. -/
theorem Earliest.skip {sought shown taken places : List Nat} {low position : Nat}
    (begun : taken <+: sought) (here : shown[low]? = some position)
    (apart : sought.head? ≠ some position) (earliest : Earliest shown (low + 1) taken places) :
    Earliest shown low taken places := by
  cases earliest with
  | nil => exact .nil
  | @cons _ place next _ _ reached stands first earliest =>
      refine .cons (Nat.le_of_succ_le reached) stands (fun other from_low before => ?_) earliest
      obtain rfl | behind := Nat.eq_or_lt_of_le from_low
      · obtain ⟨rest, rfl⟩ := begun
        rw [here]
        exact Ne.symm apart
      · exact first other behind before

/-! ## The pass -/

def markedEntries (marks : List (Entry × Bool)) : List Entry := (marks.filter (·.2)).map (·.1)

/-- The places of the marked entries among all entries, counted from `low` on. -/
def markedPlaces (low : Nat) (marks : List (Entry × Bool)) : List Nat :=
  ((marks.zipIdx low).filter (·.1.2)).map (·.2)

theorem longestAmong_markAlong (visible matched : List Entry) :
    LongestAmong (positions matched) (positions visible)
      (positions (markedEntries (markAlong visible matched))) := by
  fun_induction markAlong visible matched with
  | case1 matched => exact .nil _
  | case2 entry visible ih => exact ih.skip nofun
  | case3 entry visible awaited matched same ih =>
      have next : positions (awaited :: matched) = entry.position :: positions matched :=
        congrArg (· :: positions matched) same
      rw [next]
      exact ih.cons
  | case4 entry visible awaited matched apart ih =>
      exact ih.skip fun same => apart (Option.some.inj same)

/-- What is left from a place on begins with what stands there. -/
theorem getElem?_of_drop_eq_cons {shown rest : List Nat} {low position : Nat}
    (left : shown.drop low = position :: rest) :
    shown[low]? = some position ∧ shown.drop (low + 1) = rest := by
  constructor
  · rw [← List.head?_drop, left, List.head?_cons]
  · rw [← List.tail_drop, left, List.tail_cons]

/-- The pass marks at the first places, wherever among the shown positions it begins. -/
theorem earliest_markAlong {shown : List Nat} {low : Nat} {visible : List Entry}
    (left : shown.drop low = positions visible) (matched : List Entry) :
    Earliest shown low (positions (markedEntries (markAlong visible matched)))
      (markedPlaces low (markAlong visible matched)) := by
  fun_induction markAlong visible matched generalizing low with
  | case1 matched => exact .nil
  | case2 entry visible ih =>
      obtain ⟨here, behind⟩ := getElem?_of_drop_eq_cons left
      exact (ih behind).skip (longestAmong_markAlong visible []).beginning here nofun
  | case3 entry visible awaited matched same ih =>
      obtain ⟨here, behind⟩ := getElem?_of_drop_eq_cons left
      refine .cons (Nat.le_refl low) here (fun other reached before => ?_) (ih behind)
      exact absurd reached (Nat.not_le.mpr before)
  | case4 entry visible awaited matched apart ih =>
      obtain ⟨here, behind⟩ := getElem?_of_drop_eq_cons left
      exact (ih behind).skip (longestAmong_markAlong visible (awaited :: matched)).beginning here
        fun same => apart (Option.some.inj same)

/-- Whatever stands in a view, its entries are shown in order, and the marks go to the longest
    beginning of its matches that stands among them in the same order, each at the first place
    behind the one before it. So all matches are marked exactly if they stand there in order. -/
theorem View.marked_greedy (view : View) :
    let taken := positions (markedEntries view.marked)
    view.marked.map (·.1) = view.visible ∧
    LongestAmong (positions view.textMatched) (positions view.visible) taken ∧
    Earliest (positions view.visible) 0 taken (markedPlaces 0 view.marked) ∧
    (taken = positions view.textMatched ↔
      (positions view.textMatched).Sublist (positions view.visible)) := by
  intro taken
  have longest : LongestAmong (positions view.textMatched) (positions view.visible) taken :=
    longestAmong_markAlong view.visible view.textMatched
  exact ⟨markAlong_map_fst _ _, longest, earliest_markAlong rfl _, longest.eq_iff⟩

/-- A match that comes too late holds up those behind it, and one that repeats needs an entry for
    each time. -/
example :
    let entry (position : Nat) : Entry := ⟨position, { kind := .runStart, timestamp := 1 }⟩
    let view : View := ⟨[2, 0, 2, 1, 2].map entry, [0, 2, 2, 1, 2].map entry⟩
    markedPlaces 0 view.marked = [1, 2, 4] := by
  decide

end EventLog
