/-!
# Runs of a case mapping

Case mappings move whole stretches of an alphabet by one distance, or every second character of a
stretch in which capitals and small letters alternate. A mapping is a list of such runs.
-/

namespace EventLog.Text

/-- Every `stride`-th code point from `first` to `last`, moved so that `first` lands on `image`. -/
structure CaseRun where
  first : Nat
  last : Nat
  stride : Nat
  image : Nat
deriving DecidableEq, Repr

/-- Where a run sends a code point, if the code point belongs to it. -/
def CaseRun.target? (run : CaseRun) (n : Nat) : Option Nat :=
  if run.first ≤ n ∧ n ≤ run.last ∧ (n - run.first) % run.stride = 0 then
    some (run.image + (n - run.first))
  else
    none

/-- Sends a character through the first run that holds it, and leaves any other as it is. -/
def throughRuns (runs : List CaseRun) (c : Char) : Char :=
  match runs.findSome? (·.target? c.toNat) with
  | some n => Char.ofNat n
  | none => c

theorem throughRuns_eq_self {runs : List CaseRun} {c : Char}
    (outside : ∀ run ∈ runs, run.target? c.toNat = none) : throughRuns runs c = c := by
  have missed : runs.findSome? (·.target? c.toNat) = none :=
    List.findSome?_eq_none_iff.mpr outside
  simp [throughRuns, missed]

end EventLog.Text
