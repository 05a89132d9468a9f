import EventLog.Text.LowerCase.Table
import EventLog.Text.Cased

/-!
# Lower case

The full lower case of a text. Every character is mapped on its own, the dotted capital I to two
characters, except the capital sigma: it becomes the final form where a word ends, that is, where
the nearest character before it that is not looked through has a case and the nearest one after it
has none.
-/

namespace EventLog.Text

/-- The lower case of one character, the capital sigma taken as if inside a word. -/
def lowerOf (c : Char) : List Char :=
  if c = 'İ' then ['i', '\u0307'] else [throughRuns lowerRuns c]

/-- Says whether the nearest character that is not looked through has a case. -/
def meetsCased (text : List Char) : Bool :=
  match text.dropWhile isCaseIgnorable with
  | [] => false
  | c :: _ => isCased c

/-- The small sigma between the characters `before`, held backwards, and those `after`. -/
def smallSigma (before after : List Char) : Char :=
  if meetsCased before && !meetsCased after then 'ς' else 'σ'

/-- The lower case of a text that follows the characters `before`, held backwards. -/
def lowerAfter (before : List Char) : List Char → List Char
  | [] => []
  | c :: rest =>
      (if c = 'Σ' then [smallSigma before rest] else lowerOf c) ++ lowerAfter (c :: before) rest

def lower (text : List Char) : List Char := lowerAfter [] text

end EventLog.Text
