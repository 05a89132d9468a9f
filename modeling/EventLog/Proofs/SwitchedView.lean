import EventLog.Proofs.KeptView

/-!
# Views of several buffers

A cache tells a buffer only by its version. Where a cache goes over to another buffer, it may take
that buffer for the one that it knows: its refresh before asked the same, and the two buffers were
cleared equally often and hold equally many records (`Confused`). It then goes on showing the
records of the first. In all other cases it shows those of the second (`switched_view`).
-/

namespace EventLog

/-- What it takes for two histories to leave buffers of one version. A version counts clearings in
    a machine word, and says of the records only how many there are. -/
def History.Alike (history other : History) : Prop :=
  UInt64.ofNat history.clearings = UInt64.ofNat other.clearings ∧
    history.records.length = other.records.length

instance (history other : History) : Decidable (history.Alike other) :=
  inferInstanceAs (Decidable (_ ∧ _))

namespace Session

variable (conventions : Conventions) {name : String}

theorem version_run_fresh_eq_iff {actions others : List Action} {handle other : String} :
    ((run conventions {} actions).buffer handle).version =
        ((run conventions {} others).buffer other).version ↔
      (historyOf (handlesAfter actions handle) actions).Alike
        (historyOf (handlesAfter others other) others) := by
  rw [buffer_run_fresh, buffer_run_fresh, Buffer.version, Buffer.version, Version.mk.injEq]
  rfl

/-! ## Going over to another buffer -/

/-- What it takes for a cache to take the buffer of a handle for the one of its latest refresh. That
    refresh asked the same, the cache was not invalidated since, and the versions coincide. -/
def Confused (name handle : String) (filter : Filter) (keys : StepKeys) (actions : List Action) :
    Prop :=
  ∃ earlier former old oldKeys since,
    actions = earlier ++ .refresh former name old oldKeys :: since ∧
    (∀ action ∈ since, ¬action.Refreshes name) ∧ Action.invalidate name ∉ since ∧
    old = filter ∧ (∀ key, key ∈ oldKeys ↔ key ∈ keys) ∧
    (historyOf (handlesAfter earlier former) earlier).Alike
      (historyOf (handlesAfter actions handle) actions)

theorem isStale_eq_false_iff_confused {actions : List Action} {handle : String} {filter : Filter}
    {keys : StepKeys} :
    ((run conventions {} actions).cache name).isStale filter keys
        ((run conventions {} actions).buffer handle).version = false ↔
      Confused name handle filter keys actions := by
  constructor
  · intro fresh
    obtain unrefreshed | ⟨earlier, former, old, oldKeys, since, rfl, unrefreshed⟩ :=
      exists_latest_refresh name actions
    · have kept := (Cache.isStale_eq_false_iff.mp fresh).1
      rw [filter_run_of_unrefreshed conventions unrefreshed rfl] at kept
      cases kept
    · obtain ⟨kept, asked, steps, version⟩ :=
        (isStale_since_latest_refresh conventions unrefreshed).mp fresh
      exact ⟨earlier, former, old, oldKeys, since, rfl, unrefreshed, kept, asked, steps,
        (version_run_fresh_eq_iff conventions).mp version⟩
  · rintro ⟨earlier, former, old, oldKeys, since, rfl, unrefreshed, kept, asked, steps, alike⟩
    exact (isStale_since_latest_refresh conventions unrefreshed).mpr
      ⟨kept, asked, steps, (version_run_fresh_eq_iff conventions).mpr alike⟩

/-- After every session, whatever buffers a cache was refreshed for before: a refresh shows the
    records which the filter makes of the buffer that it names, unless the cache is confused. Then
    it shows what it showed before. -/
theorem switched_view (name : String) (actions : List Action) (handle : String) (filter : Filter)
    (keys : StepKeys) :
    let before := run conventions {} actions
    let after := (before.step conventions (.refresh handle name filter keys)).1
    let view := filter.view conventions keys (before.buffer handle).records
    (¬Confused name handle filter keys actions →
      (after.cache name).visible = view.visibleRecords ∧
        (after.cache name).textMatched = view.matchedRecords) ∧
    (Confused name handle filter keys actions → after.cache name = before.cache name) := by
  intro before after view
  have known : (before.cache name).isStale filter keys (before.buffer handle).version = false ↔
      Confused name handle filter keys actions := isStale_eq_false_iff_confused conventions
  have refreshed : after.cache name =
      ((before.cache name).refresh conventions (before.buffer handle) filter keys).1 :=
    cache_step_refresh conventions handle filter keys
  constructor
  · intro clear
    rw [← known, Bool.not_eq_false] at clear
    have answers : ((before.cache name).refresh conventions (before.buffer handle) filter
        keys).1.Answers conventions filter keys (before.buffer handle) :=
      Cache.refresh_of_stale clear
    rw [refreshed]
    exact ⟨answers.visible, answers.textMatched⟩
  · intro confused
    rw [refreshed]
    exact Cache.refresh_of_fresh (known.mpr confused)

/-- One record each arrives in two buffers, and a cache shows the first. -/
def twoRuns : List Action :=
  [.push "first" started, .push "second" loaded, .refresh "first" "view" {} []]

/-- A cache that goes over to another buffer shows the record of the first under its name. -/
theorem switched_view_of_twoRuns :
    let session := run Conventions.standard {} (twoRuns ++ [.refresh "second" "view" {} []])
    handlesAfter twoRuns "second" ≠ handlesAfter twoRuns "first" ∧
      (session.buffer "second").records = [loaded] ∧
      (session.cache "view").visible = [started] ∧
      (session.cache "view").visible ≠
        ((({} : Filter).view Conventions.standard [] (session.buffer "second").records)
          ).visibleRecords := by
  decide

end Session

end EventLog
