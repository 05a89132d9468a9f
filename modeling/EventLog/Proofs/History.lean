import EventLog.Buffer
import Mathlib.Data.List.DropRight

/-!
# The history of a buffer

What a buffer holds is what its changes have left there: the records since the last clearing, the
cursor of the latest page among them that brought one, and the number of clearings
(`replay_fresh`). A version that comes back says that nothing happened in between but idle changes
(`version_replay_eq_iff`).
-/

namespace EventLog

inductive Change where
  | push (record : Record)
  | page (records : List Record) (cursor : Option String)
  | clear

namespace Change

def apply (buffer : Buffer) : Change → Buffer
  | push record => buffer.push record
  | page records cursor => buffer.pushPage records cursor
  | clear => buffer.clear

def appended : Change → List Record
  | push record => [record]
  | page records _ => records
  | clear => []

def cursor? : Change → Option String
  | page _ cursor => cursor
  | _ => none

/-- Says whether a change drops everything that was there. -/
def isClear : Change → Bool
  | clear => true
  | _ => false

/-- A change that leaves the records as they are. It may bring a cursor. -/
def Idle (change : Change) : Prop := change.isClear = false ∧ change.appended = []

end Change

/-- The changes of one buffer, in the order in which they were made. -/
abbrev History := List Change

namespace History

def sinceClear (history : History) : History := history.rtakeWhile (!·.isClear)

def records (history : History) : List Record := history.sinceClear.flatMap Change.appended

def cursor (history : History) : Option String :=
  (history.sinceClear.filterMap Change.cursor?).getLast?

def clearings (history : History) : Nat := history.countP Change.isClear

def replay (history : History) (buffer : Buffer) : Buffer := history.foldl Change.apply buffer

end History

/-! ## Replaying a history -/

namespace Change

theorem generation_apply (buffer : Buffer) (change : Change) :
    (change.apply buffer).generation =
      buffer.generation + UInt64.ofNat (if change.isClear then 1 else 0) := by
  cases change with
  | push record => exact (UInt64.add_zero _).symm
  | page records cursor => exact (UInt64.add_zero _).symm
  | clear => rfl

theorem records_apply (buffer : Buffer) {change : Change} (kept : change.isClear = false) :
    (change.apply buffer).records = buffer.records ++ change.appended := by
  cases change with
  | push record => rfl
  | page records cursor => rfl
  | clear => cases kept

end Change

namespace History

theorem replay_append (history later : History) (buffer : Buffer) :
    replay (history ++ later) buffer = replay later (replay history buffer) :=
  List.foldl_append

theorem clearings_append (history later : History) :
    clearings (history ++ later) = clearings history + clearings later :=
  List.countP_append

theorem sinceClear_concat (history : History) {change : Change} (kept : change.isClear = false) :
    sinceClear (history ++ [change]) = sinceClear history ++ [change] :=
  List.rtakeWhile_concat_pos _ _ _ (by simp [kept])

theorem sinceClear_concat_clear (history : History) : sinceClear (history ++ [.clear]) = [] :=
  List.rtakeWhile_concat_neg _ _ _ (by simp [Change.isClear])

theorem records_concat (history : History) {change : Change} (kept : change.isClear = false) :
    records (history ++ [change]) = records history ++ change.appended := by
  simp [records, sinceClear_concat history kept]

theorem cursor_concat (history : History) {change : Change} (kept : change.isClear = false) :
    cursor (history ++ [change]) = (change.cursor? <|> cursor history) := by
  cases brought : change.cursor? with
  | none => simp [cursor, sinceClear_concat history kept, brought]
  | some latest => simp [cursor, sinceClear_concat history kept, brought]

/-- Only what comes after the clearings is left. -/
theorem records_clear_concat (history : History) (count : Nat) {change : Change}
    (kept : change.isClear = false) :
    records (history ++ List.replicate (count + 1) .clear ++ [change]) = change.appended := by
  rw [records_concat _ kept, List.replicate_succ', ← List.append_assoc, records,
    sinceClear_concat_clear]
  rfl

theorem cursor_clear_concat (history : History) (count : Nat) {change : Change}
    (kept : change.isClear = false) :
    cursor (history ++ List.replicate (count + 1) .clear ++ [change]) = change.cursor? := by
  rw [cursor_concat _ kept, List.replicate_succ', ← List.append_assoc, cursor,
    sinceClear_concat_clear]
  cases change.cursor? <;> rfl

theorem clearings_concat (history : History) {change : Change} (kept : change.isClear = false) :
    clearings (history ++ [change]) = clearings history := by
  simp [clearings, kept]

/-- A history tells everything about a buffer that was fresh before it. -/
theorem replay_fresh (history : History) :
    replay history {} = ⟨records history, cursor history, UInt64.ofNat (clearings history)⟩ := by
  -- From the end, where a clearing drops what all changes before it left.
  induction history using List.reverseRecOn with
  | nil => rfl
  | append_singleton history change ih =>
      rw [replay_append, ih]
      cases change with
      | push record =>
          rw [records_concat history rfl, cursor_concat history rfl, clearings_concat history rfl]
          rfl
      | page page brought =>
          rw [records_concat history rfl, cursor_concat history rfl, clearings_concat history rfl]
          rfl
      | clear =>
          simp [replay, Change.apply, Buffer.clear, records, cursor, sinceClear_concat_clear,
            clearings, Change.isClear]

theorem generation_replay (history : History) (buffer : Buffer) :
    (replay history buffer).generation =
      buffer.generation + UInt64.ofNat (clearings history) := by
  induction history generalizing buffer with
  | nil => exact (UInt64.add_zero _).symm
  | cons change history ih =>
      calc
        (replay history (change.apply buffer)).generation
            = (change.apply buffer).generation + UInt64.ofNat (clearings history) := ih _
        _ = buffer.generation +
              UInt64.ofNat (clearings history + if change.isClear then 1 else 0) := by
            rw [Change.generation_apply, UInt64.add_assoc, ← UInt64.ofNat_add, Nat.add_comm]
        _ = buffer.generation + UInt64.ofNat (clearings (change :: history)) := by
            rw [clearings, clearings, List.countP_cons]

theorem records_replay (buffer : Buffer) {history : History}
    (kept : ∀ change ∈ history, change.isClear = false) :
    (replay history buffer).records = buffer.records ++ history.flatMap Change.appended := by
  induction history generalizing buffer with
  | nil => simp [replay]
  | cons change history ih =>
      rw [List.forall_mem_cons] at kept
      rw [List.flatMap_cons, ← List.append_assoc, ← Change.records_apply buffer kept.1]
      exact ih _ kept.2

theorem records_replay_of_idle (buffer : Buffer) {history : History}
    (idle : ∀ change ∈ history, change.Idle) :
    (replay history buffer).records = buffer.records := by
  have nothing : history.flatMap Change.appended = [] :=
    List.flatMap_eq_nil_iff.mpr fun change made => (idle change made).2
  rw [records_replay buffer fun change made => (idle change made).1, nothing, List.append_nil]

theorem toNat_generation_replay {history : History} {buffer : Buffer}
    (few : buffer.generation.toNat + clearings history < UInt64.size) :
    (replay history buffer).generation.toNat = buffer.generation.toNat + clearings history := by
  rw [generation_replay, UInt64.toNat_add, UInt64.toNat_ofNat_of_lt' (by omega)]
  exact Nat.mod_eq_of_lt few

/-- The generation comes back only where nothing was cleared, as long as the clearings can be
    counted in a machine word. -/
theorem generation_replay_eq_iff {history : History} {buffer : Buffer}
    (few : buffer.generation.toNat + clearings history < UInt64.size) :
    (replay history buffer).generation = buffer.generation ↔
      ∀ change ∈ history, change.isClear = false := by
  rw [← UInt64.toNat_inj, toNat_generation_replay few, Nat.add_eq_left, clearings,
    List.countP_eq_zero]
  simp

/-- The version comes back only where all changes were idle. -/
theorem version_replay_eq_iff {history : History} {buffer : Buffer}
    (few : buffer.generation.toNat + clearings history < UInt64.size) :
    (replay history buffer).version = buffer.version ↔ ∀ change ∈ history, change.Idle := by
  have generation := generation_replay_eq_iff few
  simp only [Buffer.version, Version.mk.injEq, generation]
  constructor
  · rintro ⟨kept, length⟩ change made
    rw [records_replay buffer kept, List.length_append, Nat.add_eq_left,
      List.length_eq_zero_iff, List.flatMap_eq_nil_iff] at length
    exact ⟨kept change made, length change made⟩
  · intro idle
    have kept : ∀ change ∈ history, change.isClear = false := by
      intro change made
      exact (idle change made).1
    refine ⟨kept, ?_⟩
    rw [records_replay_of_idle buffer idle]

end History

end EventLog
