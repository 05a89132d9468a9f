/-!
# Printing

A program writes its output piece by piece and may fail in between. A fault takes back nothing of
what was written, so that a failed program leaves no part of an output only if all that can fail
comes before the first piece (`FaultsFirst`).
-/

namespace EventLog

/-- A program that writes texts and may fail. Its state is all that has been written so far, and
    it outlasts a fault. -/
abbrev Printing (ε α : Type) := ExceptT ε (StateM String) α

namespace Printing

variable {ε α β : Type}

def write (text : String) : Printing ε Unit :=
  modify (· ++ text)

def writeAll (texts : List String) : Printing ε Unit :=
  texts.forM write

/-- What comes of a program that goes on after some text: its result, and all that has been written
    then. -/
def runAfter (written : String) (program : Printing ε α) : Except ε α × String :=
  program.run.run written

/-- A program fails, if it does, before it writes anything. -/
def FaultsFirst (program : Printing ε α) : Prop :=
  ∀ written fault later, program.runAfter written = (.error fault, later) → later = written

theorem runAfter_bind_of_ok {program : Printing ε α} {written later : String} {value : α}
    (returns : program.runAfter written = (.ok value, later)) (next : α → Printing ε β) :
    (program >>= next).runAfter written = (next value).runAfter later := by
  rw [runAfter] at returns
  rw [runAfter, ExceptT.run_bind, StateT.run_bind, returns]
  rfl

theorem runAfter_bind_of_error {program : Printing ε α} {written later : String} {fault : ε}
    (fails : program.runAfter written = (.error fault, later)) (next : α → Printing ε β) :
    (program >>= next).runAfter written = (.error fault, later) := by
  rw [runAfter] at fails
  rw [runAfter, ExceptT.run_bind, StateT.run_bind, fails]
  rfl

theorem runAfter_lift (result : Except ε α) (written : String) :
    (liftM result : Printing ε α).runAfter written = (result, written) :=
  rfl

theorem runAfter_write (text written : String) :
    (write text : Printing ε Unit).runAfter written = (.ok (), written ++ text) :=
  rfl

/-- Texts that are written one after another have all been written in the end. -/
theorem runAfter_writeAll (texts : List String) (written : String) :
    (writeAll texts : Printing ε Unit).runAfter written =
      (.ok (), written ++ String.join texts) := by
  induction texts generalizing written with
  | nil =>
      rw [String.join_nil, String.append_empty]
      rfl
  | cons text texts ih =>
      calc (write text >>= fun _ => writeAll texts : Printing ε Unit).runAfter written
        _ = (writeAll texts).runAfter (written ++ text) :=
          runAfter_bind_of_ok (runAfter_write text written) _
        _ = (.ok (), written ++ text ++ String.join texts) := ih _
        _ = (.ok (), written ++ String.join (text :: texts)) := by
          rw [String.join_cons, String.append_assoc]

/-- What can fail without writing may come first. -/
theorem FaultsFirst.lift_bind (result : Except ε α) {next : α → Printing ε β}
    (rest : ∀ value, (next value).FaultsFirst) :
    (liftM result >>= next : Printing ε β).FaultsFirst := by
  intro written fault later fails
  cases result with
  | error cause =>
      rw [runAfter_bind_of_error (runAfter_lift _ written)] at fails
      exact (congrArg Prod.snd fails).symm
  | ok value =>
      rw [runAfter_bind_of_ok (runAfter_lift _ written)] at fails
      exact rest value written fault later fails

/-- What never fails may come last. -/
theorem FaultsFirst.of_succeeds {program : Printing ε α}
    (succeeds : ∀ written, ∃ value later, program.runAfter written = (.ok value, later)) :
    program.FaultsFirst := by
  intro written fault later fails
  obtain ⟨value, other, ends⟩ := succeeds written
  rw [ends] at fails
  cases fails

end Printing

end EventLog
