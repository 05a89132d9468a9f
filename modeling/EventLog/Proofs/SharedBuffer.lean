import EventLog.Proofs.History
import EventLog.Session

/-!
# Shared buffers

Several handles may reach one storage. Which storage a handle reaches, and which changes were made
to a storage through whatever handles, follows from the steps of a session alone (`handlesAfter`,
`historyOf`). `reads_history` says that a handle reads what the history of its storage leaves, and
that steps on another storage have no part in it.
-/

namespace EventLog

/-- The storage that each handle reaches. -/
abbrev Handles := String → String

namespace Action

/-- The handles after a step. Sharing alone makes a handle reach another storage. -/
def redirect (handles : Handles) : Action → Handles
  | share handle other => fun name => if name = other then handles handle else handles name
  | _ => handles

/-- The change that a step makes, and the handle that it goes through. -/
def change? : Action → Option (String × Change)
  | push handle record => some (handle, .push record)
  | pushPage handle page cursor => some (handle, .page page cursor)
  | clear handle => some (handle, .clear)
  | _ => none

/-- The changes that a step makes to a storage: one if it goes through a handle of it, or none. -/
def changesOf (handles : Handles) (home : String) (action : Action) : History :=
  match action.change? with
  | some (handle, change) => if handles handle = home then [change] else []
  | none => []

end Action

/-- The handles after some steps. Before them every handle reaches a storage of its own. -/
def handlesAfter (actions : List Action) : Handles := actions.foldl Action.redirect id

/-- The changes that steps make to a storage, whatever the handles reach before them. -/
def historyFrom (handles : Handles) (home : String) : List Action → History
  | [] => []
  | action :: actions =>
      action.changesOf handles home ++ historyFrom (action.redirect handles) home actions

/-- The changes made to a storage since the beginning. -/
def historyOf (home : String) (actions : List Action) : History := historyFrom id home actions

theorem historyFrom_append (handles : Handles) (home : String) (actions later : List Action) :
    historyFrom handles home (actions ++ later) =
      historyFrom handles home actions ++
        historyFrom (actions.foldl Action.redirect handles) home later := by
  induction actions generalizing handles with
  | nil => rfl
  | cons action actions ih =>
      rw [List.cons_append, historyFrom, historyFrom, ih, List.append_assoc]
      rfl

theorem historyOf_append (home : String) (actions later : List Action) :
    historyOf home (actions ++ later) =
      historyOf home actions ++ historyFrom (handlesAfter actions) home later :=
  historyFrom_append id home actions later

theorem clearings_historyOf_append (home : String) (actions later : List Action) :
    (historyOf home (actions ++ later)).clearings =
      (historyOf home actions).clearings +
        (historyFrom (handlesAfter actions) home later).clearings := by
  rw [historyOf_append, History.clearings_append]

theorem foldl_redirect_clear (handles : Handles) (handle : String) (count : Nat) :
    (List.replicate count (Action.clear handle)).foldl Action.redirect handles = handles := by
  induction count with
  | zero => rfl
  | succ count ih => exact ih

theorem historyFrom_clear (handles : Handles) (handle : String) (count : Nat) :
    historyFrom handles (handles handle) (List.replicate count (.clear handle)) =
      List.replicate count .clear := by
  induction count with
  | zero => rfl
  | succ count ih =>
      have reached : (Action.clear handle).changesOf handles (handles handle) = [.clear] :=
        if_pos rfl
      rw [List.replicate_succ, List.replicate_succ, historyFrom, reached]
      exact congrArg (Change.clear :: ·) ih

namespace Session

/-! ## Steps and runs -/

theorem storageOf_step (conventions : Conventions) (session : Session) (action : Action) :
    (session.step conventions action).1.storageOf = action.redirect session.storageOf := by
  cases action <;> rfl

theorem storage_modify (session : Session) (handle home : String) (change : Change) :
    (session.modify handle change.apply).storage home =
      History.replay (if session.storageOf handle = home then [change] else [])
        (session.storage home) := by
  by_cases reached : session.storageOf handle = home
  · subst reached
    simp [modify, History.replay]
  · simp [modify, History.replay, reached, Ne.symm reached]

/-- A step changes a storage by what it does through a handle of it, and in no other way. -/
theorem storage_step (conventions : Conventions) (session : Session) (action : Action)
    (home : String) :
    (session.step conventions action).1.storage home =
      History.replay (action.changesOf session.storageOf home) (session.storage home) := by
  cases action with
  | push handle record => exact storage_modify session handle home (.push record)
  | pushPage handle page cursor => exact storage_modify session handle home (.page page cursor)
  | clear handle => exact storage_modify session handle home .clear
  | _ => rfl

theorem run_append (conventions : Conventions) (session : Session) (actions later : List Action) :
    session.run conventions (actions ++ later) =
      (session.run conventions actions).run conventions later :=
  List.foldl_append

theorem run_concat (conventions : Conventions) (session : Session) (actions : List Action)
    (action : Action) :
    session.run conventions (actions ++ [action]) =
      ((session.run conventions actions).step conventions action).1 :=
  run_append conventions session actions [action]

theorem storageOf_run (conventions : Conventions) (session : Session) (actions : List Action) :
    (session.run conventions actions).storageOf =
      actions.foldl Action.redirect session.storageOf := by
  induction actions generalizing session with
  | nil => rfl
  | cons action actions ih =>
      rw [List.foldl_cons, ← storageOf_step conventions]
      exact ih _

/-- A run changes a storage by its history. -/
theorem storage_run (conventions : Conventions) (session : Session) (actions : List Action)
    (home : String) :
    (session.run conventions actions).storage home =
      History.replay (historyFrom session.storageOf home actions) (session.storage home) := by
  induction actions generalizing session with
  | nil => rfl
  | cons action actions ih =>
      rw [historyFrom, History.replay_append, ← storage_step, ← storageOf_step conventions]
      exact ih _

theorem storageOf_run_fresh (conventions : Conventions) (actions : List Action) :
    (run conventions {} actions).storageOf = handlesAfter actions :=
  storageOf_run conventions {} actions

theorem storage_run_fresh (conventions : Conventions) (actions : List Action) (home : String) :
    (run conventions {} actions).storage home =
      ⟨(historyOf home actions).records, (historyOf home actions).cursor,
        UInt64.ofNat (historyOf home actions).clearings⟩ := by
  rw [storage_run]
  exact History.replay_fresh _

theorem buffer_run_fresh (conventions : Conventions) (actions : List Action) (handle : String) :
    (run conventions {} actions).buffer handle =
      ⟨(historyOf (handlesAfter actions handle) actions).records,
        (historyOf (handlesAfter actions handle) actions).cursor,
        UInt64.ofNat (historyOf (handlesAfter actions handle) actions).clearings⟩ := by
  rw [buffer, storageOf_run_fresh]
  exact storage_run_fresh conventions actions _

/-- A change through a handle of another storage is not seen. -/
theorem buffer_step_of_apart (conventions : Conventions) (session : Session) {action : Action}
    {other handle : String} {change : Change} (made : action.change? = some (other, change))
    (apart : session.storageOf other ≠ session.storageOf handle) :
    (session.step conventions action).1.buffer handle = session.buffer handle := by
  have nothing : action.changesOf session.storageOf (session.storageOf handle) = [] := by
    rw [Action.changesOf, made]
    exact if_neg apart
  have unmoved : (session.step conventions action).1.storageOf handle =
      session.storageOf handle := by
    rw [storageOf_step]
    cases action with
    | share _ _ => cases made
    | _ => rfl
  rw [buffer, unmoved, storage_step, nothing]
  rfl

/-! ## Reading -/

/-- A handle reads a history, in whatever way it reads. -/
structure Reads (conventions : Conventions) (session : Session) (handle : String)
    (history : History) : Prop where
  records : (session.buffer handle).records = history.records
  cursor : (session.buffer handle).cursor = history.cursor
  generation : (session.buffer handle).generation.toNat = history.clearings
  length : (session.buffer handle).length = history.records.length
  isEmpty : (session.buffer handle).isEmpty = history.records.isEmpty
  version : (session.buffer handle).version.generation.toNat = history.clearings ∧
    (session.buffer handle).version.length = history.records.length
  snapshot : (session.step conventions (.snapshot handle)).2 = .records history.records
  versionedSnapshot : (session.step conventions (.versionedSnapshot handle)).2 =
    .versioned (session.buffer handle).version history.records

/-- At every moment a handle reads the history of its storage, as long as the clearings of the
    storage can be counted in a machine word, and a change through a handle of another storage
    leaves what it reads as it is. -/
theorem reads_history (conventions : Conventions) (actions : List Action) (handle : String)
    (few : (historyOf (handlesAfter actions handle) actions).clearings < UInt64.size) :
    Reads conventions (run conventions {} actions) handle
      (historyOf (handlesAfter actions handle) actions) ∧
    ∀ action other change, action.change? = some (other, change) →
      handlesAfter actions other ≠ handlesAfter actions handle →
      ((run conventions {} actions).step conventions action).1.buffer handle =
        (run conventions {} actions).buffer handle := by
  have held := buffer_run_fresh conventions actions handle
  have counted : ((run conventions {} actions).buffer handle).generation.toNat =
      (historyOf (handlesAfter actions handle) actions).clearings := by
    rw [held]
    exact UInt64.toNat_ofNat_of_lt' few
  constructor
  · exact {
      records := by rw [held]
      cursor := by rw [held]
      generation := counted
      length := by rw [held]; rfl
      isEmpty := by rw [held]; rfl
      version := ⟨counted, by rw [held]; rfl⟩
      snapshot := by rw [step, held]
      versionedSnapshot := by simp only [step, held] }
  · intro action other change made apart
    apply buffer_step_of_apart conventions _ made
    rwa [storageOf_run_fresh]

def started : Record := { kind := .runStart, timestamp := 1 }

def loaded : Record :=
  { kind := .logMessage, timestamp := 2, stepKey := some "load", message := "rows loaded" }

/-- A storage with two handles is filled, cleared and filled again, beside another storage. -/
def refilling : List Action :=
  [.share "pane" "feed", .pushPage "feed" [started] (some "first page"), .push "other" loaded,
    .clear "pane", .pushPage "feed" [loaded, loaded] (some "second page"), .push "pane" started,
    .pushPage "feed" [] none]

theorem reads_history_of_refilling :
    (historyOf (handlesAfter refilling "feed") refilling).clearings < UInt64.size ∧
    ((run Conventions.standard {} refilling).buffer "feed").records =
      [loaded, loaded, started] ∧
    ((run Conventions.standard {} refilling).buffer "feed").cursor = some "second page" ∧
    ((run Conventions.standard {} refilling).buffer "feed").generation.toNat = 1 ∧
    ((run Conventions.standard {} refilling).step Conventions.standard
      (.clear "other")).1.buffer "feed" =
        (run Conventions.standard {} refilling).buffer "feed" := by
  have few : (historyOf (handlesAfter refilling "feed") refilling).clearings < UInt64.size := by
    decide
  obtain ⟨reads, apart⟩ := reads_history Conventions.standard refilling "feed" few
  exact ⟨few, reads.records, reads.cursor, reads.generation,
    apart (.clear "other") "other" .clear rfl (by decide)⟩

end Session

end EventLog
