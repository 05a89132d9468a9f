import EventLog.Proofs.KeptView

/-!
# Views of a growing log

A filter looks at each record on its own, so that the view of a longer log is the view of the
shorter one with the view of the new records behind it (`visibleRecords_view_append`). What a cache
shows therefore only grows while its buffer is filled and not cleared, whatever happens to caches in
between (`streamed_view`).
-/

namespace EventLog

namespace Filter

variable (filter : Filter) (conventions : Conventions) (keys : StepKeys)
  (records added : List Record)

theorem visibleRecords_view_append :
    (filter.view conventions keys (records ++ added)).visibleRecords =
      (filter.view conventions keys records).visibleRecords ++
        (filter.view conventions keys added).visibleRecords := by
  simp only [visibleRecords_view, List.filter_append]

theorem matchedRecords_view_append :
    (filter.view conventions keys (records ++ added)).matchedRecords =
      (filter.view conventions keys records).matchedRecords ++
        (filter.view conventions keys added).matchedRecords := by
  simp only [matchedRecords_view, List.filter_append]

end Filter

/-- The records that are appended to a storage in steps after some others. -/
def appendedAfter (earlier : List Action) (home : String) (between : List Action) : List Record :=
  (historyFrom (handlesAfter earlier) home between).flatMap Change.appended

/-- What it takes for a storage not to be cleared in steps after some others. -/
def UnclearedAfter (earlier : List Action) (home : String) (between : List Action) : Prop :=
  ∀ change ∈ historyFrom (handlesAfter earlier) home between, change.isClear = false

instance (earlier : List Action) (home : String) (between : List Action) :
    Decidable (UnclearedAfter earlier home between) :=
  inferInstanceAs (Decidable (∀ change ∈ historyFrom (handlesAfter earlier) home between, _))

namespace Session

variable (conventions : Conventions) {home : String}

/-- A storage that is not cleared keeps its records and gets those that are appended. -/
theorem records_run_append {earlier between : List Action}
    (kept : UnclearedAfter earlier home between) :
    ((run conventions {} (earlier ++ between)).storage home).records =
      ((run conventions {} earlier).storage home).records ++
        appendedAfter earlier home between := by
  rw [run_append, storage_run, storageOf_run_fresh]
  exact History.records_replay _ kept

theorem clearings_append_of_uncleared {earlier between : List Action}
    (kept : UnclearedAfter earlier home between) :
    (historyOf home (earlier ++ between)).clearings = (historyOf home earlier).clearings := by
  rw [clearings_historyOf_append, Nat.add_eq_left, History.clearings, List.countP_eq_zero]
  intro change made
  simp [kept change made]

/-- Two refreshes ask the same of one storage, of the same cache or of two caches, and the storage
    is not cleared between them. Whatever else happens there: the second shows what the first showed
    and behind it what the filter makes of the records that were appended, and so do the matches.
    The caches are refreshed through handles of this storage only, and its clearings can be counted
    in a machine word. -/
theorem streamed_view {earlier between : List Action} {first second handle other : String}
    {filter : Filter} {keys otherKeys : StepKeys}
    (same : ∀ key, key ∈ keys ↔ key ∈ otherKeys)
    (stays : StaysWith first home id (earlier ++ [.refresh handle first filter keys]))
    (alsoStays : StaysWith second home id
      (earlier ++ .refresh handle first filter keys :: between ++
        [.refresh other second filter otherKeys]))
    (kept : UnclearedAfter earlier home between)
    (few : (historyOf home earlier).clearings < UInt64.size) :
    let before := run conventions {} (earlier ++ [.refresh handle first filter keys])
    let after := run conventions {}
      (earlier ++ .refresh handle first filter keys :: between ++
        [.refresh other second filter otherKeys])
    let added := filter.view conventions keys (appendedAfter earlier home between)
    (after.cache second).visible = (before.cache first).visible ++ added.visibleRecords ∧
      (after.cache second).textMatched =
        (before.cache first).textMatched ++ added.matchedRecords := by
  -- The first refresh is no change of the storage.
  have keptThrough :
      UnclearedAfter earlier home (.refresh handle first filter keys :: between) := kept
  have grown := records_run_append conventions keptThrough
  have shown := answers_refresh conventions stays few
  have shownLater := answers_refresh conventions alsoStays
    (clearings_append_of_uncleared keptThrough ▸ few)
  have visible := shownLater.visible
  have matched := shownLater.textMatched
  rw [← filter.view_congr conventions same, grown, Filter.visibleRecords_view_append,
    ← shown.visible] at visible
  rw [← filter.view_congr conventions same, grown, Filter.matchedRecords_view_append,
    ← shown.textMatched] at matched
  rw [run_concat, run_concat]
  exact ⟨visible, matched⟩

def firstPage : List Action :=
  [.share "pane" "feed", .push "feed" loaded, .clear "pane", .pushPage "feed" [started] none]

/-- Records arrive through both handles, and the cache is asked something else and forgets it. -/
def laterPages : List Action :=
  [.pushPage "feed" [loaded, started] (some "third page"), .refresh "feed" "view" {} [],
    .invalidate "view", .push "pane" loaded]

/-- Another cache is asked the question of the first, through the other handle. -/
theorem streamed_view_of_laterPages :
    let before := run Conventions.standard {}
      (firstPage ++ [.refresh "pane" "view" loading ["load", "store"]])
    let after := run Conventions.standard {}
      (firstPage ++ .refresh "pane" "view" loading ["load", "store"] :: laterPages ++
        [.refresh "feed" "glance" loading ["store", "load", "store"]])
    (historyOf "pane" firstPage).clearings = 1 ∧ UnclearedAfter firstPage "pane" laterPages ∧
      (after.cache "glance").visible =
        (before.cache "view").visible ++ [loaded, started, loaded] ∧
      (after.cache "glance").textMatched =
        (before.cache "view").textMatched ++ [loaded, loaded] := by
  have same : ∀ key, key ∈ ["load", "store"] ↔ key ∈ ["store", "load", "store"] := by
    intro key
    grind
  have stays : StaysWith "view" "pane" id
      (firstPage ++ [.refresh "pane" "view" loading ["load", "store"]]) := by
    simp [firstPage, StaysWith, Action.KeepsTo, Action.redirect]
  have alsoStays : StaysWith "glance" "pane" id
      (firstPage ++ .refresh "pane" "view" loading ["load", "store"] :: laterPages ++
        [.refresh "feed" "glance" loading ["store", "load", "store"]]) := by
    simp [firstPage, laterPages, StaysWith, Action.KeepsTo, Action.redirect]
  have kept : UnclearedAfter firstPage "pane" laterPages := by
    decide
  obtain ⟨visible, matched⟩ :=
    streamed_view Conventions.standard same stays alsoStays kept (by decide)
  exact ⟨by decide, kept, visible, matched⟩

end Session

end EventLog
