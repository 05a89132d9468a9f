import EventLog.Text.CaseFold.Table

/-!
# Equality up to case

Two characters are the same letter when simple case folding sends them to one representative. The
comparison takes characters one by one, so a text equals another only of its own length.
-/

namespace EventLog.Text

/-- The representative of a character under simple case folding. -/
def fold (c : Char) : Char := throughRuns foldRuns c

def sameLetter (a b : Char) : Bool := fold a == fold b

/-- Says whether a text begins with a word, up to case. -/
def beginsWith : (word text : List Char) → Bool
  | [], _ => true
  | _ :: _, [] => false
  | w :: word, c :: text => sameLetter w c && beginsWith word text

theorem beginsWith_nil (text : List Char) : beginsWith [] text = true := by
  cases text <;> rfl

end EventLog.Text
