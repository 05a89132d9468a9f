import EventLog.Proofs.PlannedRecords
import Mathlib.Data.List.Count

/-!
# Level counts and views

The tally of a buffer and a view of it look at the same records, each in a pass of its own. The
tally counts the records that are not planned, level by level and in all (`count_ofRecords`,
`total_ofRecords`); a view that neither a time floor nor a query narrows shows all of these that are
at a level switched on, and no view shows more of them. Main result: `tally_counts_views`.
-/

namespace EventLog

def countAt (conventions : Conventions) (level : Level) (records : List Record) : Nat :=
  records.countP fun record => conventions.levelOf record = level

def Tally.sumOver (tally : Tally) (levels : List Level) : Nat :=
  levels.foldr (fun level sum => tally.count level + sum) 0

variable (conventions : Conventions)

theorem countAt_cons (level : Level) (record : Record) (records : List Record) :
    countAt conventions level (record :: records) =
      countAt conventions level records + if conventions.levelOf record = level then 1 else 0 := by
  simp only [countAt, List.countP_cons, decide_eq_true_iff]

/-- Of a choice of levels, each counts in full or not at all. -/
theorem countAt_filter (chosen : Level → Prop) [DecidablePred chosen] (level : Level)
    (records : List Record) :
    countAt conventions level (records.filter fun record => chosen (conventions.levelOf record)) =
      if chosen level then countAt conventions level records else 0 := by
  rw [countAt, List.countP_filter]
  split
  case isTrue included =>
    refine List.countP_congr fun record _ => ?_
    rw [Bool.and_eq_true, decide_eq_true_iff, decide_eq_true_iff]
    exact and_iff_left_of_imp fun here => here ▸ included
  case isFalse excluded =>
    refine List.countP_eq_zero.mpr fun record _ counted => ?_
    rw [Bool.and_eq_true, decide_eq_true_iff, decide_eq_true_iff] at counted
    exact excluded (counted.1 ▸ counted.2)

/-! ## Tallies -/

namespace Tally

theorem count_add (tally : Tally) (level other : Level) :
    (tally.add level).count other = tally.count other + if level = other then 1 else 0 := by
  unfold add
  by_cases same : level = other
  · simp [same]
  · simp [same, Ne.symm same]

/-- Records are counted on top of others, each at its level. -/
theorem count_foldl_add (tally : Tally) (level : Level) (records : List Record) :
    (records.foldl (fun tally record => tally.add (conventions.levelOf record)) tally).count
        level =
      tally.count level + countAt conventions level records := by
  induction records generalizing tally with
  | nil => rfl
  | cons record records ih =>
      rw [List.foldl_cons, ih, count_add, countAt_cons, Nat.add_right_comm, Nat.add_assoc]

theorem count_ofRecords (level : Level) (records : List Record) :
    (ofRecords conventions records).count level =
      countAt conventions level (unplanned records) := by
  rw [ofRecords_eq_foldl, count_foldl_add]
  exact Nat.zero_add _

end Tally

/-- Records at a level that is listed once are counted once. -/
theorem countP_mem_cons {level : Level} {levels : List Level} (new : level ∉ levels)
    (records : List Record) :
    records.countP (fun record => conventions.levelOf record ∈ level :: levels) =
      countAt conventions level records +
        records.countP fun record => conventions.levelOf record ∈ levels := by
  induction records with
  | nil => rfl
  | cons record records ih =>
      rw [List.countP_cons, List.countP_cons, countAt_cons, ih]
      by_cases here : conventions.levelOf record = level
      · simp only [here, List.mem_cons_self, new, decide_true, decide_false, if_true,
          Bool.false_eq_true, if_false]
        omega
      · simp only [here, List.mem_cons, false_or, if_false, Nat.add_zero]
        rw [Nat.add_assoc]

theorem Tally.sumOver_ofRecords {levels : List Level} (apart : levels.Nodup)
    (records : List Record) :
    (Tally.ofRecords conventions records).sumOver levels =
      (unplanned records).countP fun record => conventions.levelOf record ∈ levels := by
  induction levels with
  | nil => simp [sumOver]
  | cons level levels ih =>
      obtain ⟨new, apart⟩ := List.nodup_cons.mp apart
      rw [countP_mem_cons conventions new, ← ih apart, ← count_ofRecords]
      rfl

theorem Tally.total_ofRecords (records : List Record) :
    (Tally.ofRecords conventions records).total = (unplanned records).length := by
  have all : Level.all.Nodup := by decide
  calc (Tally.ofRecords conventions records).total
    _ = (Tally.ofRecords conventions records).sumOver Level.all := rfl
    _ = (unplanned records).countP fun record => conventions.levelOf record ∈ Level.all :=
      sumOver_ofRecords conventions all records
    _ = (unplanned records).length :=
      List.countP_eq_length.mpr fun record _ => decide_eq_true (Level.mem_all _)

/-! ## Views -/

namespace Filter

variable {filter : Filter} (keys : StepKeys) (records : List Record)

/-- What neither a time floor nor a query narrows shows all records at the levels switched on. -/
theorem visibleRecords_of_unnarrowed (unbounded : filter.since = none)
    (inactive : ¬filter.Active) :
    (filter.view conventions keys records).visibleRecords =
      (unplanned records).filter fun record =>
        filter.levels (conventions.levelOf record) = some true := by
  rw [visibleRecords_view, ← filter_shows_unplanned]
  refine List.filter_congr fun record kept => ?_
  have unplanned : ¬record.Planned := of_decide_eq_true (List.mem_filter.mp kept).2
  rw [Bool.eq_iff_iff, shows_iff, decide_eq_true_iff]
  constructor
  · exact fun shown => shown.1.enabled
  · intro enabled
    refine ⟨⟨unplanned, enabled, ?_⟩, fun active => absurd active inactive⟩
    rw [unbounded]
    exact nofun

/-- No filter shows more records at a level than there are. -/
theorem countAt_le (level : Level) :
    countAt conventions level (filter.view conventions keys records).visibleRecords ≤
      countAt conventions level (unplanned records) := by
  rw [visibleRecords_view, ← filter_shows_unplanned]
  exact List.filter_sublist.countP_le

variable (unbounded : filter.since = none) (inactive : ¬filter.Active)

include unbounded inactive

theorem countAt_of_unnarrowed (level : Level) :
    countAt conventions level (filter.view conventions keys records).visibleRecords =
      if filter.levels level = some true then countAt conventions level (unplanned records)
      else 0 := by
  rw [visibleRecords_of_unnarrowed conventions keys records unbounded inactive]
  exact countAt_filter conventions (fun level => filter.levels level = some true) level _

theorem length_of_unnarrowed :
    (filter.view conventions keys records).visibleRecords.length =
      (Tally.ofRecords conventions records).sumOver
        (Level.all.filter fun level => filter.levels level = some true) := by
  have all : Level.all.Nodup := by decide
  rw [visibleRecords_of_unnarrowed conventions keys records unbounded inactive,
    Tally.sumOver_ofRecords conventions (all.filter _), ← List.countP_eq_length_filter]
  simp only [List.mem_filter, Level.mem_all, true_and, decide_eq_true_iff]

end Filter

/-- The tally of a buffer counts the records that are not planned, at each level and in all. A
    filter without a time floor and without an active query shows as many records at a level as the
    tally says, if the level is switched on, and none otherwise; together these are the counts of
    the levels switched on. No filter shows more at a level than the tally says. -/
theorem Session.tally_counts_views (session : Session) (handle : String) :
    let records := (session.buffer handle).records
    ∃ tally, (session.step conventions (.tally handle)).2 = .tally tally ∧
      (∀ level, tally.count level = countAt conventions level (unplanned records)) ∧
      tally.total = (unplanned records).length ∧
      (∀ (filter : Filter) (keys : StepKeys), filter.since = none → ¬filter.Active →
        let visible := (filter.view conventions keys records).visibleRecords
        (∀ level, countAt conventions level visible =
          if filter.levels level = some true then tally.count level else 0) ∧
        visible.length =
          tally.sumOver (Level.all.filter fun level => filter.levels level = some true)) ∧
      ∀ (filter : Filter) (keys : StepKeys) (level : Level),
        countAt conventions level (filter.view conventions keys records).visibleRecords ≤
          tally.count level := by
  intro records
  have counted := fun level => Tally.count_ofRecords conventions level records
  refine ⟨Tally.ofRecords conventions records, rfl, counted,
    Tally.total_ofRecords conventions records, fun filter keys unbounded inactive => ?_,
    fun filter keys level => ?_⟩
  · refine ⟨fun level => ?_, ?_⟩
    · rw [counted]
      exact Filter.countAt_of_unnarrowed conventions keys records unbounded inactive level
    · exact Filter.length_of_unnarrowed conventions keys records unbounded inactive
  · rw [counted]
    exact Filter.countAt_le conventions keys records level

/-- Errors are switched off and events have no entry, and one of the records is planned. -/
theorem Session.tally_counts_views_of_mixed :
    let failed : Record := { kind := .logMessage, timestamp := 1, level := some .error }
    let bare : Record := { kind := .logMessage, timestamp := 2 }
    let records := [failed, bare, { bare with kind := .checkEvaluationPlanned },
      { bare with kind := .runStart, level := some .info }, bare]
    let session : Session := { storage := fun _ => { records := records } }
    let filter : Filter :=
      { levels := fun level => match level with
          | .info => some true
          | .error => some false
          | _ => none
        query := [⟨.text, ""⟩, ⟨.text, "failed"⟩] }
    filter.since = none ∧ ¬filter.Active ∧
      ∃ tally, (session.step .standard (.tally "run")).2 = .tally tally ∧
        tally.total = 4 ∧ tally.count .error = 1 ∧ tally.count .event = 1 ∧
        countAt .standard .error (filter.view .standard [] records).visibleRecords = 0 ∧
        (filter.view .standard [] records).visibleRecords.length = tally.count .info := by
  intro failed bare records session filter
  have inactive : ¬filter.Active := by decide
  obtain ⟨tally, answered, counts, total, views, _⟩ :=
    Session.tally_counts_views .standard session "run"
  obtain ⟨perLevel, together⟩ := views filter [] rfl inactive
  exact ⟨rfl, inactive, tally, answered, total, counts .error, counts .event, perLevel .error,
    together⟩

end EventLog
