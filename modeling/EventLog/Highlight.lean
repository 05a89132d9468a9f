import EventLog.Query
import EventLog.Text.CaseFold
import EventLog.Text.Size

/-!
# Highlighting

The free-text terms of a query are looked for in a message, up to case. The message is searched
from left to right; where several words stand, the one listed first is taken, and the search goes
on behind it. A search cuts the message into hits and the gaps before, between and behind them.
-/

namespace EventLog

/-- The words to look for, in the order in which they are preferred. -/
structure Highlighter where
  words : List (List Char) := []

/-- A text cut into hits, each with the gap before it, and the gap behind the last hit. -/
structure Cut where
  hits : List (List Char × List Char)
  tail : List Char

namespace Cut

def prepend (c : Char) (cut : Cut) : Cut :=
  match cut.hits with
  | [] => ⟨[], c :: cut.tail⟩
  | (gap, hit) :: hits => ⟨(c :: gap, hit) :: hits, cut.tail⟩

def whole (cut : Cut) : List Char := cut.hits.flatMap (fun (gap, hit) => gap ++ hit) ++ cut.tail

/-- The text with something before and something behind each hit. -/
def mark (before behind : List Char) (cut : Cut) : List Char :=
  cut.hits.flatMap (fun (gap, hit) => gap ++ before ++ hit ++ behind) ++ cut.tail

/-- The byte ranges of hits after the first `offset` bytes. -/
def rangesFrom (offset : Nat) : List (List Char × List Char) → List (Nat × Nat)
  | [] => []
  | (gap, hit) :: hits =>
      let first := offset + Text.byteSize gap
      (first, first + Text.byteSize hit) :: rangesFrom (first + Text.byteSize hit) hits

def ranges (cut : Cut) : List (Nat × Nat) := rangesFrom 0 cut.hits

theorem whole_prepend (c : Char) (cut : Cut) : (cut.prepend c).whole = c :: cut.whole := by
  obtain ⟨hits, tail⟩ := cut
  cases hits with
  | nil => rfl
  | cons first hits => simp [prepend, whole]

end Cut

namespace Highlighter

/-- Looks for the free-text terms that have a value. -/
def ofQuery (terms : List Term) : Highlighter :=
  ⟨(terms.filter fun term => term.token = .text && !term.value.isEmpty).map (·.value.toList)⟩

def isLooking (highlighter : Highlighter) : Bool := !highlighter.words.isEmpty

/-- The first of the words that stands at the beginning of a text. -/
def wordAt (highlighter : Highlighter) (text : List Char) : Option (List Char) :=
  highlighter.words.find? (Text.beginsWith · text)

def cut (highlighter : Highlighter) (text : List Char) : Cut :=
  match text with
  | [] => ⟨[], []⟩
  | c :: rest =>
      match highlighter.wordAt (c :: rest) with
      | none => (highlighter.cut rest).prepend c
      | some word =>
          let others := highlighter.cut (rest.drop (word.length - 1))
          ⟨([], c :: rest.take (word.length - 1)) :: others.hits, others.tail⟩
termination_by text.length
decreasing_by
  · simp
  · simp only [List.length_drop, List.length_cons]
    omega

def ranges (highlighter : Highlighter) (text : String) : List (Nat × Nat) :=
  (highlighter.cut text.toList).ranges

theorem whole_cut (highlighter : Highlighter) (text : List Char) :
    (highlighter.cut text).whole = text := by
  fun_induction highlighter.cut text with
  | case1 => rfl
  | case2 c rest _ ih => rw [Cut.whole_prepend, ih]
  | case3 c rest word _ others ih =>
      have joined : others.whole = rest.drop (word.length - 1) := ih
      unfold Cut.whole at joined ⊢
      simp [joined]

end Highlighter

end EventLog
