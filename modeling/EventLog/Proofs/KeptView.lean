import EventLog.Proofs.Selection
import EventLog.Proofs.SharedBuffer

/-!
# Kept views

A cache that is refreshed through handles of one storage only answers, after each refresh, the
question that was asked, about the buffer as it is then (`refreshed_is_current`). The invariant is
`Cache.Follows`: a cache has forgotten its question, or it answers it about the buffer as it was
before some changes. It makes its view again exactly when something happened since the refresh
before (`refresh_answers_undisturbed`). All this is said of clearings that can be counted in a
machine word, and does not hold beyond (`isStale_after_overrun`).
-/

namespace EventLog

namespace Cache

/-- A cache holds the view that a filter makes of a buffer, and knows so. -/
structure Answers (cache : Cache) (conventions : Conventions) (filter : Filter) (keys : StepKeys)
    (buffer : Buffer) : Prop where
  asked : cache.filter = some filter
  steps : ∀ key, key ∈ cache.keys ↔ key ∈ keys
  version : cache.version = buffer.version
  visible : cache.visible = (filter.view conventions keys buffer.records).visibleRecords
  textMatched : cache.textMatched = (filter.view conventions keys buffer.records).matchedRecords

/-- A cache has no filter, or holds the view of a buffer as it was before some changes. The
    generation did not run over in these changes. -/
def Follows (cache : Cache) (conventions : Conventions) (buffer : Buffer) : Prop :=
  cache.filter = none ∨
    ∃ filter keys earlier history, cache.Answers conventions filter keys earlier ∧
      buffer = History.replay history earlier ∧
      earlier.generation.toNat + history.clearings < UInt64.size

theorem isStale_eq_false_iff {cache : Cache} {filter : Filter} {keys : StepKeys}
    {version : Version} :
    cache.isStale filter keys version = false ↔
      cache.filter = some filter ∧ (∀ key, key ∈ cache.keys ↔ key ∈ keys) ∧
        cache.version = version := by
  unfold isStale
  cases cache.filter with
  | none => simp
  | some kept => simp [← StepKeys.same_iff, and_assoc]

theorem refresh_of_fresh {cache : Cache} {conventions : Conventions} {buffer : Buffer}
    {filter : Filter} {keys : StepKeys}
    (fresh : cache.isStale filter keys buffer.version = false) :
    (cache.refresh conventions buffer filter keys).1 = cache := by
  rw [refresh, fresh]
  rfl

theorem refresh_of_stale {cache : Cache} {conventions : Conventions} {buffer : Buffer}
    {filter : Filter} {keys : StepKeys}
    (stale : cache.isStale filter keys buffer.version = true) :
    (cache.refresh conventions buffer filter keys).1.Answers conventions filter keys buffer := by
  rw [refresh, stale]
  exact ⟨rfl, fun _ => Iff.rfl, rfl, rfl, rfl⟩

/-- After a refresh a cache knows the question and the version that it was given, whether it made
    its view again or not. -/
theorem isStale_refresh_eq_false_iff {cache : Cache} {conventions : Conventions} {buffer : Buffer}
    {old filter : Filter} {oldKeys keys : StepKeys} {version : Version} :
    (cache.refresh conventions buffer old oldKeys).1.isStale filter keys version = false ↔
      old = filter ∧ (∀ key, key ∈ oldKeys ↔ key ∈ keys) ∧ buffer.version = version := by
  cases stale : cache.isStale old oldKeys buffer.version with
  | true =>
      have answers : (cache.refresh conventions buffer old oldKeys).1.Answers conventions old
          oldKeys buffer := refresh_of_stale stale
      rw [isStale_eq_false_iff, answers.asked, answers.version, Option.some_inj]
      simp only [answers.steps]
  | false =>
      obtain ⟨asked, steps, known⟩ := isStale_eq_false_iff.mp stale
      rw [refresh_of_fresh stale, isStale_eq_false_iff, asked, known, Option.some_inj]
      simp only [steps]

/-- A cache that answers a question about the buffer as it was answers it now exactly if all
    changes since were idle. -/
theorem Answers.isStale_eq_false_iff {cache : Cache} {conventions : Conventions}
    {old filter : Filter} {oldKeys keys : StepKeys} {earlier : Buffer} {history : History}
    (answers : cache.Answers conventions old oldKeys earlier)
    (few : earlier.generation.toNat + history.clearings < UInt64.size) :
    cache.isStale filter keys (history.replay earlier).version = false ↔
      old = filter ∧ (∀ key, key ∈ oldKeys ↔ key ∈ keys) ∧ ∀ change ∈ history, change.Idle := by
  rw [Cache.isStale_eq_false_iff, answers.asked, answers.version, Option.some_inj,
    ← History.version_replay_eq_iff few, eq_comm (a := earlier.version)]
  simp only [answers.steps]

theorem Answers.follows {cache : Cache} {conventions : Conventions} {filter : Filter}
    {keys : StepKeys} {buffer : Buffer} (answers : cache.Answers conventions filter keys buffer) :
    cache.Follows conventions buffer :=
  .inr ⟨filter, keys, buffer, [], answers, rfl, buffer.generation.toNat_lt⟩

theorem Follows.replay {cache : Cache} {conventions : Conventions} {buffer : Buffer}
    {history : History} (follows : cache.Follows conventions buffer)
    (few : buffer.generation.toNat + history.clearings < UInt64.size) :
    cache.Follows conventions (history.replay buffer) := by
  obtain forgotten | ⟨filter, keys, earlier, past, answers, rfl, counted⟩ := follows
  · exact .inl forgotten
  · refine .inr ⟨filter, keys, earlier, past ++ history, answers, ?_, ?_⟩
    · exact (History.replay_append past history earlier).symm
    · rw [History.toNat_generation_replay counted] at few
      rwa [History.clearings_append, ← Nat.add_assoc]

/-- After a refresh a cache answers what it was asked, whether it made its view again or not. -/
theorem Follows.refresh {cache : Cache} {conventions : Conventions} {buffer : Buffer}
    (follows : cache.Follows conventions buffer) (filter : Filter) (keys : StepKeys) :
    (cache.refresh conventions buffer filter keys).1.Answers conventions filter keys buffer := by
  cases stale : cache.isStale filter keys buffer.version with
  | true => exact refresh_of_stale stale
  | false =>
      rw [refresh_of_fresh stale]
      obtain forgotten | ⟨old, oldKeys, earlier, history, answers, rfl, few⟩ := follows
      -- A cache that has forgotten its question is stale.
      · have kept := (Cache.isStale_eq_false_iff.mp stale).1
        rw [forgotten] at kept
        cases kept
      · obtain ⟨rfl, same, idle⟩ := (answers.isStale_eq_false_iff few).mp stale
        have records := History.records_replay_of_idle earlier idle
        have version := (History.version_replay_eq_iff few).mpr idle
        have view := old.view_congr conventions same earlier.records
        exact {
          asked := answers.asked
          steps := fun key => (answers.steps key).trans (same key)
          version := answers.version.trans version.symm
          visible := by rw [records, ← view]; exact answers.visible
          textMatched := by rw [records, ← view]; exact answers.textMatched }

theorem refresh_snd (cache : Cache) (conventions : Conventions) (buffer : Buffer)
    (filter : Filter) (keys : StepKeys) :
    (cache.refresh conventions buffer filter keys).2 =
      cache.isStale filter keys buffer.version := by
  unfold Cache.refresh
  cases cache.isStale filter keys buffer.version <;> rfl

end Cache

/-! ## Caches of a session -/

def Action.Refreshes (name : String) : Action → Prop
  | .refresh _ cache _ _ => cache = name
  | _ => False

/-- A step that refreshes a cache, if at all, through a handle of a storage. -/
def Action.KeepsTo (name home : String) (handles : Handles) : Action → Prop
  | .refresh handle cache _ _ => cache = name → handles handle = home
  | _ => True

/-- All refreshes of a cache go through handles of one storage. -/
def StaysWith (name home : String) (handles : Handles) : List Action → Prop
  | [] => True
  | action :: actions =>
      action.KeepsTo name home handles ∧ StaysWith name home (action.redirect handles) actions

theorem staysWith_append {name home : String} {handles : Handles} {actions later : List Action} :
    StaysWith name home handles (actions ++ later) ↔
      StaysWith name home handles actions ∧
        StaysWith name home (actions.foldl Action.redirect handles) later := by
  induction actions generalizing handles with
  | nil => exact (and_iff_right trivial).symm
  | cons action actions ih =>
      rw [List.cons_append, StaysWith, StaysWith, ih, and_assoc]
      rfl

namespace Session

variable (conventions : Conventions) {session : Session} {name home : String}

theorem cache_step_refresh (handle : String) (filter : Filter) (keys : StepKeys) :
    (session.step conventions (.refresh handle name filter keys)).1.cache name =
      ((session.cache name).refresh conventions (session.buffer handle) filter keys).1 := by
  simp [step, setCache]

/-- A refresh says whether the kept view was stale. -/
theorem answer_step_refresh (handle : String) (filter : Filter) (keys : StepKeys) :
    (session.step conventions (.refresh handle name filter keys)).2 =
      .verdict ((session.cache name).isStale filter keys (session.buffer handle).version) := by
  rw [← Cache.refresh_snd _ conventions]
  rfl

theorem cache_step_invalidate :
    (session.step conventions (.invalidate name)).1.cache name =
      (session.cache name).invalidate := by
  simp [step, setCache]

/-- A cache is changed by its own refreshes and invalidations alone. -/
theorem cache_step_of_other {action : Action} (unrefreshed : ¬action.Refreshes name)
    (kept : action ≠ .invalidate name) :
    (session.step conventions action).1.cache name = session.cache name := by
  cases action with
  | refresh handle other filter keys =>
      have apart : name ≠ other := fun same => unrefreshed same.symm
      simp [step, setCache, apart]
  | invalidate other =>
      have apart : name ≠ other := by
        rintro rfl
        exact kept rfl
      simp [step, setCache, apart]
  | _ => rfl

theorem filter_step_of_unrefreshed {action : Action} (unrefreshed : ¬action.Refreshes name)
    (forgotten : (session.cache name).filter = none) :
    ((session.step conventions action).1.cache name).filter = none := by
  by_cases invalidated : action = .invalidate name
  · rw [invalidated, cache_step_invalidate]
    rfl
  · rwa [cache_step_of_other conventions unrefreshed invalidated]

/-- A cache without a filter gets none before its next refresh. -/
theorem filter_run_of_unrefreshed {actions : List Action}
    (unrefreshed : ∀ action ∈ actions, ¬action.Refreshes name)
    (forgotten : (session.cache name).filter = none) :
    ((session.run conventions actions).cache name).filter = none := by
  induction actions generalizing session with
  | nil => exact forgotten
  | cons action actions ih =>
      rw [List.forall_mem_cons] at unrefreshed
      exact ih unrefreshed.2 (filter_step_of_unrefreshed conventions unrefreshed.1 forgotten)

theorem filter_run_of_invalidated {actions : List Action}
    (unrefreshed : ∀ action ∈ actions, ¬action.Refreshes name)
    (invalidated : Action.invalidate name ∈ actions) :
    ((session.run conventions actions).cache name).filter = none := by
  obtain ⟨earlier, later, rfl⟩ := List.append_of_mem invalidated
  have after : ∀ action ∈ later, ¬action.Refreshes name := fun action present =>
    unrefreshed action (by simp [present])
  rw [run_append]
  apply filter_run_of_unrefreshed conventions after
  rw [cache_step_invalidate]
  rfl

theorem cache_run_of_untouched {actions : List Action}
    (unrefreshed : ∀ action ∈ actions, ¬action.Refreshes name)
    (kept : Action.invalidate name ∉ actions) :
    (session.run conventions actions).cache name = session.cache name := by
  induction actions generalizing session with
  | nil => rfl
  | cons action actions ih =>
      rw [List.forall_mem_cons] at unrefreshed
      rw [List.mem_cons, not_or] at kept
      have first : (session.step conventions action).1.cache name = session.cache name :=
        cache_step_of_other conventions unrefreshed.1 (Ne.symm kept.1)
      exact (ih unrefreshed.2 kept.2).trans first

/-! ## The invariant along a session -/

theorem toNat_generation_run {actions : List Action}
    (few : (historyOf home actions).clearings < UInt64.size) :
    ((run conventions {} actions).storage home).generation.toNat =
      (historyOf home actions).clearings := by
  rw [storage_run_fresh]
  exact UInt64.toNat_ofNat_of_lt' few

theorem follows_step {action : Action}
    (follows : (session.cache name).Follows conventions (session.storage home))
    (keeps : action.KeepsTo name home session.storageOf)
    (few : (session.storage home).generation.toNat +
      (action.changesOf session.storageOf home).clearings < UInt64.size) :
    ((session.step conventions action).1.cache name).Follows conventions
      ((session.step conventions action).1.storage home) := by
  by_cases refreshes : action.Refreshes name
  · cases action with
    | refresh handle cache filter keys =>
        obtain rfl : cache = name := refreshes
        obtain rfl : session.storageOf handle = home := keeps rfl
        rw [cache_step_refresh]
        exact (follows.refresh filter keys).follows
    | _ => cases refreshes
  · by_cases invalidated : action = .invalidate name
    · rw [invalidated, cache_step_invalidate]
      exact .inl rfl
    · rw [cache_step_of_other conventions refreshes invalidated, storage_step]
      exact follows.replay few

theorem follows_run {actions : List Action} (stays : StaysWith name home id actions)
    (few : (historyOf home actions).clearings < UInt64.size) :
    ((run conventions {} actions).cache name).Follows conventions
      ((run conventions {} actions).storage home) := by
  -- From the end, since the handles before a step are those that all earlier steps leave.
  induction actions using List.reverseRecOn with
  | nil => exact .inl rfl
  | append_singleton actions action ih =>
      obtain ⟨stayed, keeps, _⟩ := staysWith_append.mp stays
      rw [clearings_historyOf_append] at few
      have fewBefore : (historyOf home actions).clearings < UInt64.size := by omega
      rw [run_append]
      apply follows_step conventions (ih stayed fewBefore)
      · rwa [storageOf_run_fresh]
      · rw [toNat_generation_run conventions fewBefore, storageOf_run_fresh]
        simpa [historyFrom] using few

theorem buffer_run_of_staysWith {actions : List Action} {handle : String} {filter : Filter}
    {keys : StepKeys}
    (stays : StaysWith name home id (actions ++ [.refresh handle name filter keys])) :
    (run conventions {} actions).buffer handle = (run conventions {} actions).storage home := by
  obtain ⟨_, keeps, _⟩ := staysWith_append.mp stays
  have reached : handlesAfter actions handle = home := keeps rfl
  rw [buffer, storageOf_run_fresh, reached]

/-- Right after a refresh a cache answers what it was asked. -/
theorem answers_refresh {actions : List Action} {handle : String} {filter : Filter}
    {keys : StepKeys}
    (stays : StaysWith name home id (actions ++ [.refresh handle name filter keys]))
    (few : (historyOf home actions).clearings < UInt64.size) :
    (((run conventions {} actions).step conventions
      (.refresh handle name filter keys)).1.cache name).Answers conventions filter keys
        ((run conventions {} actions).storage home) := by
  have follows := follows_run conventions (staysWith_append.mp stays).1 few
  rw [cache_step_refresh, buffer_run_of_staysWith conventions stays]
  exact follows.refresh filter keys

/-- After every session that ends with a refresh of a cache, whether the view was made again or
    not, the cache holds the records which the filter makes of the buffer as it is then. The cache
    is refreshed through handles of one storage only, and the clearings of that storage can be
    counted in a machine word. -/
theorem refreshed_is_current {actions : List Action} {handle : String} {filter : Filter}
    {keys : StepKeys}
    (stays : StaysWith name home id (actions ++ [.refresh handle name filter keys]))
    (few : (historyOf home actions).clearings < UInt64.size) :
    let session := run conventions {} (actions ++ [.refresh handle name filter keys])
    let view := filter.view conventions keys (session.buffer handle).records
    (session.cache name).visible = view.visibleRecords ∧
      (session.cache name).textMatched = view.matchedRecords := by
  have answers := answers_refresh conventions stays few
  rw [← buffer_run_of_staysWith conventions stays] at answers
  rw [run_append]
  exact ⟨answers.visible, answers.textMatched⟩

def loading : Filter := { query := [⟨.step, "load"⟩], hideNonMatches := false }

/-- A view is kept through one handle while the storage is filled, cleared and filled again through
    another, so that it has as many records as before. -/
def following : List Action :=
  [.share "pane" "feed", .push "feed" started, .refresh "pane" "view" loading [], .clear "feed",
    .pushPage "feed" [loaded] none]

theorem refreshed_is_current_of_following :
    StaysWith "view" "pane" id (following ++ [.refresh "feed" "view" loading []]) ∧
    (historyOf "pane" following).clearings < UInt64.size ∧
    ((run Conventions.standard {} (following ++ [.refresh "feed" "view" loading []])).cache
      "view").visible = [loaded] ∧
    ((run Conventions.standard {} (following ++ [.refresh "feed" "view" loading []])).cache
      "view").textMatched = [loaded] := by
  have stays : StaysWith "view" "pane" id (following ++ [.refresh "feed" "view" loading []]) := by
    simp [following, StaysWith, Action.KeepsTo, Action.redirect]
  have few : (historyOf "pane" following).clearings < UInt64.size := by
    decide
  obtain ⟨visible, matched⟩ := refreshed_is_current Conventions.standard stays few
  exact ⟨stays, few, visible.trans (by decide), matched.trans (by decide)⟩

/-! ## What makes a cache work -/

/-- Nothing happened to a cache and the storage it stays with since its latest refresh, and that
    refresh asked the same. What does not touch the records does not count. -/
def Undisturbed (name home : String) (filter : Filter) (keys : StepKeys) (actions : List Action) :
    Prop :=
  ∃ earlier handle old oldKeys since,
    actions = earlier ++ .refresh handle name old oldKeys :: since ∧
    (∀ action ∈ since, ¬action.Refreshes name) ∧ Action.invalidate name ∉ since ∧
    old = filter ∧ (∀ key, key ∈ oldKeys ↔ key ∈ keys) ∧
    ∀ change ∈ historyFrom (handlesAfter earlier) home since, change.Idle

/-- A session did not refresh a cache, or did so for the last time somewhere. -/
theorem exists_latest_refresh (name : String) (actions : List Action) :
    (∀ action ∈ actions, ¬action.Refreshes name) ∨
      ∃ earlier handle filter keys since,
        actions = earlier ++ .refresh handle name filter keys :: since ∧
        ∀ action ∈ since, ¬action.Refreshes name := by
  induction actions with
  | nil => exact .inl fun _ present => nomatch present
  | cons action actions ih =>
      obtain unrefreshed | ⟨earlier, handle, filter, keys, since, rfl, unrefreshed⟩ := ih
      · by_cases refreshes : action.Refreshes name
        · cases action with
          | refresh handle cache filter keys =>
              obtain rfl : cache = name := refreshes
              exact .inr ⟨[], handle, filter, keys, actions, rfl, unrefreshed⟩
          | _ => cases refreshes
        · exact .inl (List.forall_mem_cons.mpr ⟨refreshes, unrefreshed⟩)
      · exact .inr ⟨action :: earlier, handle, filter, keys, since, rfl, unrefreshed⟩

/-- What a cache knows after its latest refresh, whatever buffer that named. -/
theorem isStale_since_latest_refresh {earlier since : List Action} {handle : String}
    {old filter : Filter} {oldKeys keys : StepKeys} {version : Version}
    (unrefreshed : ∀ action ∈ since, ¬action.Refreshes name) :
    ((run conventions {} (earlier ++ .refresh handle name old oldKeys :: since)).cache name).isStale
        filter keys version = false ↔
      Action.invalidate name ∉ since ∧ old = filter ∧ (∀ key, key ∈ oldKeys ↔ key ∈ keys) ∧
        ((run conventions {} earlier).buffer handle).version = version := by
  rw [run_append]
  change ((run conventions ((run conventions {} earlier).step conventions
    (.refresh handle name old oldKeys)).1 since).cache name).isStale _ _ _ = false ↔ _
  by_cases invalidated : Action.invalidate name ∈ since
  · constructor
    · intro fresh
      have kept := (Cache.isStale_eq_false_iff.mp fresh).1
      rw [filter_run_of_invalidated conventions unrefreshed invalidated] at kept
      cases kept
    · rintro ⟨kept, _⟩
      exact absurd invalidated kept
  · rw [cache_run_of_untouched conventions unrefreshed invalidated, cache_step_refresh,
      Cache.isStale_refresh_eq_false_iff]
    exact (and_iff_right invalidated).symm

theorem isStale_since_refresh {earlier since : List Action} {handle : String}
    {old filter : Filter} {oldKeys keys : StepKeys}
    (stays : StaysWith name home id (earlier ++ .refresh handle name old oldKeys :: since))
    (few : (historyOf home (earlier ++ .refresh handle name old oldKeys :: since)).clearings <
      UInt64.size)
    (unrefreshed : ∀ action ∈ since, ¬action.Refreshes name) :
    let session := run conventions {} (earlier ++ .refresh handle name old oldKeys :: since)
    (session.cache name).isStale filter keys (session.storage home).version = false ↔
      Action.invalidate name ∉ since ∧ old = filter ∧ (∀ key, key ∈ oldKeys ↔ key ∈ keys) ∧
        ∀ change ∈ historyFrom (handlesAfter earlier) home since, change.Idle := by
  rw [clearings_historyOf_append] at few
  have fewBefore : (historyOf home earlier).clearings < UInt64.size := by omega
  -- The refresh itself changes neither the handles nor the storage.
  have fewSince : ((run conventions {} earlier).storage home).generation.toNat +
      (historyFrom (handlesAfter earlier) home since).clearings < UInt64.size := by
    rwa [toNat_generation_run conventions fewBefore]
  have grown : (run conventions {}
      (earlier ++ .refresh handle name old oldKeys :: since)).storage home =
        (historyFrom (handlesAfter earlier) home since).replay
          ((run conventions {} earlier).storage home) := by
    rw [run_append, storage_run, storageOf_run_fresh]
    rfl
  rw [List.append_cons] at stays
  have reached := buffer_run_of_staysWith conventions (staysWith_append.mp stays).1
  intro session
  rw [isStale_since_latest_refresh conventions unrefreshed, reached, grown,
    eq_comm (b := (History.replay _ _).version), History.version_replay_eq_iff fewSince]

/-- A question is answered from what a cache holds exactly if nothing happened since the latest
    refresh. -/
theorem isStale_eq_false_iff_undisturbed {actions : List Action} {filter : Filter}
    {keys : StepKeys} (stays : StaysWith name home id actions)
    (few : (historyOf home actions).clearings < UInt64.size) :
    ((run conventions {} actions).cache name).isStale filter keys
        ((run conventions {} actions).storage home).version = false ↔
      Undisturbed name home filter keys actions := by
  constructor
  · intro fresh
    obtain unrefreshed | ⟨earlier, handle, old, oldKeys, since, rfl, unrefreshed⟩ :=
      exists_latest_refresh name actions
    · have kept := (Cache.isStale_eq_false_iff.mp fresh).1
      rw [filter_run_of_unrefreshed conventions unrefreshed rfl] at kept
      cases kept
    · exact ⟨earlier, handle, old, oldKeys, since, rfl, unrefreshed,
        (isStale_since_refresh conventions stays few unrefreshed).mp fresh⟩
  · rintro ⟨earlier, handle, old, oldKeys, since, rfl, unrefreshed, undisturbed⟩
    exact (isStale_since_refresh conventions stays few unrefreshed).mpr undisturbed

/-- After every session a refresh says that it made the view again unless nothing happened since
    the refresh before. It says what the question whether the view is stale says just before it,
    and just after it that question is answered in the negative. -/
theorem refresh_answers_undisturbed {actions : List Action} {handle : String} {filter : Filter}
    {keys : StepKeys}
    (stays : StaysWith name home id (actions ++ [.refresh handle name filter keys]))
    (few : (historyOf home actions).clearings < UInt64.size) :
    let before := run conventions {} actions
    let after := before.step conventions (.refresh handle name filter keys)
    let version := (before.buffer handle).version
    ∃ renewed, after.2 = .verdict renewed ∧
      (renewed = false ↔ Undisturbed name home filter keys actions) ∧
      renewed = (before.cache name).isStale filter keys version ∧
      (after.1.cache name).isStale filter keys version = false := by
  intro before after version
  have reached : before.storage home = before.buffer handle :=
    (buffer_run_of_staysWith conventions stays).symm
  refine ⟨(before.cache name).isStale filter keys version,
    answer_step_refresh conventions handle filter keys, ?_, rfl, ?_⟩
  · rw [← isStale_eq_false_iff_undisturbed conventions (staysWith_append.mp stays).1 few]
    change _ ↔ (before.cache name).isStale filter keys (before.storage home).version = false
    rw [reached]
  · have answers := answers_refresh conventions stays few
    change (after.1.cache name).Answers conventions filter keys (before.storage home) at answers
    rw [reached] at answers
    exact Cache.isStale_eq_false_iff.mpr ⟨answers.asked, answers.steps, answers.version⟩

/-- A view is kept while nothing but an empty page arrives. -/
def waiting : List Action :=
  [.share "pane" "feed", .push "feed" loaded, .refresh "pane" "view" loading ["load", "store"],
    .pushPage "feed" [] (some "second page"), .snapshot "pane"]

/-- The same steps in another order, and one of them twice, are no other question. -/
theorem refresh_answers_undisturbed_of_waiting :
    StaysWith "view" "pane" id
      (waiting ++ [.refresh "feed" "view" loading ["store", "load", "store"]]) ∧
    (historyOf "pane" waiting).clearings < UInt64.size ∧
    ((run Conventions.standard {} waiting).step Conventions.standard
      (.refresh "feed" "view" loading ["store", "load", "store"])).2 = .verdict false ∧
    Undisturbed "view" "pane" loading ["store", "load", "store"] waiting := by
  have stays : StaysWith "view" "pane" id
      (waiting ++ [.refresh "feed" "view" loading ["store", "load", "store"]]) := by
    simp [waiting, StaysWith, Action.KeepsTo, Action.redirect]
  have few : (historyOf "pane" waiting).clearings < UInt64.size := by
    decide
  obtain ⟨renewed, verdict, undisturbed, asked, _⟩ :=
    refresh_answers_undisturbed Conventions.standard stays few
  have kept : renewed = false := asked.trans (by decide)
  exact ⟨stays, few, by rw [verdict, kept], undisturbed.mp kept⟩

/-! ## When the count runs over -/

/-- A record is shown, dropped by clearings, and another one takes its place. -/
def replacing (name handle : String) (filter : Filter) (keys : StepKeys) (first second : Record)
    (clearings : Nat) : List Action :=
  [.push handle first] ++ .refresh handle name filter keys ::
    (List.replicate clearings (.clear handle) ++ [.push handle second])

theorem buffer_run_push (handle : String) (record : Record) :
    (run conventions {} [.push handle record]).buffer handle = ⟨[record], none, 0⟩ := by
  have reached : handlesAfter [.push handle record] handle = handle := rfl
  have history : historyOf handle [.push handle record] = [.push record] := by
    simp [historyOf, historyFrom, Action.changesOf, Action.change?]
  rw [buffer_run_fresh, reached, history]
  rfl

theorem buffer_run_replacing (name handle : String) (filter : Filter) (keys : StepKeys)
    (first second : Record) (further : Nat) :
    (run conventions {} (replacing name handle filter keys first second (further + 1))).buffer
      handle = ⟨[second], none, UInt64.ofNat (further + 1)⟩ := by
  have reached :
      handlesAfter (replacing name handle filter keys first second (further + 1)) handle =
        handle := by
    simp [replacing, handlesAfter, Action.redirect, foldl_redirect_clear]
  have history : historyOf handle (replacing name handle filter keys first second (further + 1)) =
      [.push first] ++ List.replicate (further + 1) .clear ++ [.push second] := by
    have cleared := historyFrom_clear id handle (further + 1)
    rw [id_eq] at cleared
    simp [replacing, historyOf, historyFrom, historyFrom_append, Action.changesOf, Action.change?,
      Action.redirect, cleared, foldl_redirect_clear]
  have clearings : History.clearings
      ([.push first] ++ List.replicate (further + 1) .clear ++ [.push second]) = further + 1 := by
    simp [History.clearings, List.countP_replicate, Change.isClear]
  rw [buffer_run_fresh, reached, history, clearings, History.records_clear_concat _ _ rfl,
    History.cursor_clear_concat _ _ rfl]
  rfl

/-- Clearings are counted in a machine word. When the count has run over, a cache takes its own
    buffer for the one that it knows, and its refresh leaves the old records there. -/
theorem isStale_after_overrun (name handle : String) (filter : Filter) (keys : StepKeys)
    (first second : Record) {count : Nat} (full : UInt64.size ∣ count) (cleared : 0 < count) :
    let session := run conventions {} (replacing name handle filter keys first second count)
    (session.buffer handle).records = [second] ∧
      (session.cache name).isStale filter keys (session.buffer handle).version = false := by
  obtain ⟨further, rfl⟩ := Nat.exists_eq_add_one_of_ne_zero cleared.ne'
  intro session
  have held : session.buffer handle = ⟨[second], none, 0⟩ := by
    have wrapped : UInt64.ofNat (further + 1) = 0 := by
      rw [← UInt64.toNat_inj]
      exact Nat.mod_eq_zero_of_dvd full
    rw [← wrapped]
    exact buffer_run_replacing conventions name handle filter keys first second further
  have unrefreshed : ∀ action ∈ List.replicate (further + 1) (Action.clear handle) ++
      [.push handle second], ¬action.Refreshes name := by
    simp [Action.Refreshes]
  have kept : Action.invalidate name ∉ List.replicate (further + 1) (Action.clear handle) ++
      [.push handle second] := by
    simp
  rw [held]
  refine ⟨rfl, (isStale_since_latest_refresh conventions unrefreshed).mpr ?_⟩
  rw [buffer_run_push]
  exact ⟨kept, rfl, fun _ => Iff.rfl, rfl⟩

end Session

end EventLog
