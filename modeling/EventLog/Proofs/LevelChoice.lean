import EventLog.Proofs.PrintedRows
import EventLog.Proofs.RunStages

/-!
# The choice of levels

Which levels a run shows. The command line comes before the settings and these before the standard
choice, and what the command line hides is hidden in any case (`Arguments.ShowsLevel`). Hiding one
more level takes the rows of its records out of what is printed and leaves the others as they are
(`Arguments.rows_hideLevels`). The lists of levels count as sets
(`Arguments.filter_eq_of_same_levels`).
-/

namespace EventLog

/-! ## Level maps -/

namespace LevelMap

/-- Setting levels one after the other to one entry. -/
theorem foldl_set (levels : List Level) (entry : Option Bool) (map : LevelMap) (level : Level) :
    levels.foldl (fun map level => map.set level entry) map level =
      if level ∈ levels then entry else map level := by
  induction levels generalizing map with
  | nil => simp
  | cons first levels ih =>
      rw [List.foldl_cons, ih, set]
      by_cases same : level = first
      · simp [same]
      · simp [same]

theorem only_apply (levels : List Level) (level : Level) :
    only levels level = some (decide (level ∈ levels)) := by
  rw [only, foldl_set]
  by_cases present : level ∈ levels <;> simp [present, every]

end LevelMap

/-! ## Filters without a level -/

namespace Filter

variable {filter : Filter} {conventions : Conventions} {keys : StepKeys} {record : Record}
  {level : Level}

def withoutLevel (filter : Filter) (level : Level) : Filter :=
  { filter with levels := filter.levels.set level (some false) }

theorem survivor_withoutLevel_iff :
    (filter.withoutLevel level).Survivor conventions record ↔
      conventions.levelOf record ≠ level ∧ filter.Survivor conventions record := by
  have enabled : filter.levels.set level (some false) (conventions.levelOf record) = some true ↔
      conventions.levelOf record ≠ level ∧
        filter.levels (conventions.levelOf record) = some true := by
    rw [LevelMap.set]
    split <;> simp_all
  constructor
  · rintro ⟨unplanned, switched, time⟩
    obtain ⟨other, still⟩ := enabled.mp switched
    exact ⟨other, unplanned, still, time⟩
  · rintro ⟨other, unplanned, still, time⟩
    exact ⟨unplanned, enabled.mpr ⟨other, still⟩, time⟩

theorem shows_withoutLevel (filter : Filter) (conventions : Conventions) (keys : StepKeys)
    (level : Level) (record : Record) :
    (filter.withoutLevel level).shows conventions keys record =
      (decide (conventions.levelOf record ≠ level) && filter.shows conventions keys record) := by
  rw [Bool.eq_iff_iff, Bool.and_eq_true, decide_eq_true_iff, shows_iff, shows_iff,
    survivor_withoutLevel_iff, and_assoc]
  rfl

/-- Switching off a level is nothing to the matches at other levels. -/
theorem picks_withoutLevel (other : conventions.levelOf record ≠ level) :
    (filter.withoutLevel level).picks conventions keys record =
      filter.picks conventions keys record := by
  rw [Bool.eq_iff_iff, picks_iff, picks_iff, Match, Match, survivor_withoutLevel_iff,
    and_iff_right other]
  rfl

end Filter

/-- Switching off a level takes out the rows of its records, and no others change. -/
theorem Layout.rows_withoutLevel (layout : Layout) (filter : Filter) (conventions : Conventions)
    (keys : StepKeys) (records : List Record) (level : Level) :
    layout.rows ((filter.withoutLevel level).view conventions keys records) =
      (layout.rows (filter.view conventions keys records)).filter fun (record, _) =>
        conventions.levelOf record ≠ level := by
  rw [rows_view, rows_view, List.filter_map]
  have shown : (records.filter (filter.shows conventions keys)).filter
      (fun record => conventions.levelOf record ≠ level) =
        records.filter ((filter.withoutLevel level).shows conventions keys) := by
    rw [List.filter_filter]
    exact List.filter_congr fun record _ =>
      (filter.shows_withoutLevel conventions keys level record).symm
  rw [← shown]
  refine List.map_congr_left fun record kept => ?_
  have other : conventions.levelOf record ≠ level :=
    of_decide_eq_true (List.mem_filter.mp kept).2
  rw [Filter.picks_withoutLevel other]

/-! ## The filter of a run -/

namespace Arguments

variable {arguments : Arguments} {settings : Settings}

/-- What it takes for a level to be shown: the command line does not hide it, and it is among the
    levels that the command line names, or where it names none, among those of the settings, if
    these say which. -/
structure ShowsLevel (arguments : Arguments) (settings : Settings) (level : Level) : Prop where
  unhidden : level ∉ arguments.hideLevels
  named : arguments.levels ≠ [] → level ∈ arguments.levels
  configured : arguments.levels = [] → ∀ levels, settings.levels = some levels → level ∈ levels

/-- The entry of each level, hidden or not, named or not. -/
theorem levels_filter (arguments : Arguments) (settings : Settings) (level : Level) :
    (arguments.filter settings).levels level =
      if level ∈ arguments.hideLevels then some false
      else if arguments.levels = [] then
        some (settings.levels.all fun levels => decide (level ∈ levels))
      else some (decide (level ∈ arguments.levels)) := by
  simp only [filter, LevelMap.foldl_set, List.isEmpty_iff]
  by_cases unnamed : arguments.levels = []
  · rw [if_pos unnamed, if_pos unnamed]
    cases settings.levels with
    | none => rfl
    | some levels => simp only [LevelMap.only_apply, Option.all_some]
  · rw [if_neg unnamed, if_neg unnamed, LevelMap.only_apply]

theorem enabled_filter_iff {level : Level} :
    (arguments.filter settings).levels.enabled level = true ↔
      arguments.ShowsLevel settings level := by
  rw [LevelMap.enabled_iff, levels_filter]
  constructor
  · intro switched
    split at switched
    · cases switched
    · rename_i unhidden
      split at switched
      · rename_i unnamed
        exact ⟨unhidden, absurd unnamed, fun _ => by simpa [Option.all_eq_true] using switched⟩
      · rename_i named
        exact ⟨unhidden, fun _ => by simpa using switched, fun unnamed => absurd unnamed named⟩
  · rintro ⟨unhidden, named, configured⟩
    rw [if_neg unhidden]
    split
    · rename_i unnamed
      simpa [Option.all_eq_true] using configured unnamed
    · rename_i some_named
      simpa using named some_named

theorem hideNonMatches_filter_iff :
    (arguments.filter settings).hideNonMatches = false ↔
      arguments.showNonMatches = true ∨ settings.hideNonMatches = some false := by
  rw [filter]
  cases arguments.showNonMatches <;> rcases settings.hideNonMatches with _ | _ | _ <;> simp

/-- The lists of levels on the command line count as sets. -/
theorem filter_eq_of_same_levels {levels hideLevels : List Level}
    (same : ∀ level, level ∈ levels ↔ level ∈ arguments.levels)
    (sameHidden : ∀ level, level ∈ hideLevels ↔ level ∈ arguments.hideLevels) :
    { arguments with levels := levels, hideLevels := hideLevels }.filter settings =
      arguments.filter settings := by
  have none_named : levels = [] ↔ arguments.levels = [] := by
    simp only [List.eq_nil_iff_forall_not_mem, same]
  have entries : ({ arguments with levels := levels, hideLevels := hideLevels }.filter
      settings).levels = (arguments.filter settings).levels := by
    funext level
    simp only [levels_filter, same, sameHidden, none_named]
  calc { arguments with levels := levels, hideLevels := hideLevels }.filter settings
    _ = { arguments.filter settings with
          levels := ({ arguments with levels := levels, hideLevels := hideLevels }.filter
            settings).levels } := rfl
    _ = arguments.filter settings := by rw [entries]

theorem filter_hideLevels (before after : List Level) (level : Level) :
    { arguments with hideLevels := before ++ level :: after }.filter settings =
      ({ arguments with hideLevels := before ++ after }.filter settings).withoutLevel level := by
  have entries : ({ arguments with hideLevels := before ++ level :: after }.filter
      settings).levels =
        ({ arguments with hideLevels := before ++ after }.filter settings).levels.set level
          (some false) := by
    funext other
    simp only [levels_filter, LevelMap.set, List.mem_append, List.mem_cons]
    by_cases same : other = level <;> simp [same]
  rw [Filter.withoutLevel, ← entries]
  rfl

/-! ## The rows of a run -/

def rows (arguments : Arguments) (settings : Settings) (zone : Int) (records : List Record) :
    List (Record × String) :=
  (arguments.lineLayout settings zone).rows
    ((arguments.filter settings).view .standard (arguments.stepKeys settings) records)

/-- What a run prints is the counts of all records, if they are wanted, and its rows. -/
theorem report_eq_rows (arguments : Arguments) (settings : Settings) (zone : Int)
    (records : List Record) :
    arguments.report settings zone records =
      (if arguments.counts then (Tally.ofRecords .standard records).print ++ "\n" else "") ++
        String.join ((arguments.rows settings zone records).map (·.2)) := by
  have union : ∀ key, key ∈ arguments.stepKeys settings ↔
      key ∈ settings.relevantStepKeys ∨ key ∈ arguments.scopeSteps := fun key => List.mem_append
  rw [report_eq arguments settings zone records union, Layout.print_eq_rows, rows]

theorem rows_hideLevels (arguments : Arguments) (settings : Settings) (zone : Int)
    (records : List Record) (before after : List Level) (level : Level) :
    { arguments with hideLevels := before ++ level :: after }.rows settings zone records =
      ({ arguments with hideLevels := before ++ after }.rows settings zone records).filter
        fun (record, _) => Conventions.standard.levelOf record ≠ level := by
  rw [rows, filter_hideLevels, Layout.rows_withoutLevel]
  rfl

section

variable {levels hideLevels : List Level}
  (same : ∀ level, level ∈ levels ↔ level ∈ arguments.levels)
  (sameHidden : ∀ level, level ∈ hideLevels ↔ level ∈ arguments.hideLevels)

include same sameHidden

theorem report_eq_of_same_levels (settings : Settings) (zone : Int) (records : List Record) :
    { arguments with levels := levels, hideLevels := hideLevels }.report settings zone records =
      arguments.report settings zone records := by
  rw [report, layout, view, filter_eq_of_same_levels same sameHidden]
  rfl

theorem run_eq_of_same_levels (files : Files) (zone : Int) :
    { arguments with levels := levels, hideLevels := hideLevels }.run files zone =
      arguments.run files zone := by
  rw [run_eq, run_eq]
  simp only [report_eq_of_same_levels same sameHidden]
  rfl

end

/-- A record in view is at a level that is shown. -/
theorem showsLevel_of_visible {keys : StepKeys} {records : List Record} {record : Record}
    (visible : record ∈ ((arguments.filter settings).view .standard keys records).visibleRecords) :
    arguments.ShowsLevel settings (Conventions.standard.levelOf record) := by
  rw [Filter.visibleRecords_view, List.mem_filter] at visible
  exact enabled_filter_iff.mp (LevelMap.enabled_iff.mpr (Filter.shows_iff.mp visible.2).1.enabled)

/-- The filter of a run takes each of its parts from the command line, or else from the settings, or
    else from the standard choice, and a level that the command line hides is never shown. Hiding
    one more level only takes the rows of its records out of the report, and neither the order nor
    the repetition of levels on the command line changes anything that is printed. -/
theorem filter_by_precedence (arguments : Arguments) (settings : Settings) :
    let filter := arguments.filter settings
    (∀ level, filter.levels.enabled level = true ↔ arguments.ShowsLevel settings level) ∧
    filter.since = arguments.since ∧ filter.query = parseQuery arguments.query ∧
    (filter.hideNonMatches = false ↔
      arguments.showNonMatches = true ∨ settings.hideNonMatches = some false) ∧
    (∀ keys records, ∀ record ∈ (filter.view .standard keys records).visibleRecords,
      Conventions.standard.levelOf record ∉ arguments.hideLevels) ∧
    (∀ before after level zone records, arguments.hideLevels = before ++ after →
      let counts :=
        if arguments.counts then (Tally.ofRecords .standard records).print ++ "\n" else ""
      let rows := arguments.rows settings zone records
      arguments.report settings zone records = counts ++ String.join (rows.map (·.2)) ∧
      { arguments with hideLevels := before ++ level :: after }.report settings zone records =
        counts ++ String.join ((rows.filter fun (record, _) =>
          Conventions.standard.levelOf record ≠ level).map (·.2))) ∧
    ∀ levels hideLevels, (∀ level, level ∈ levels ↔ level ∈ arguments.levels) →
      (∀ level, level ∈ hideLevels ↔ level ∈ arguments.hideLevels) →
      ∀ files zone,
        { arguments with levels := levels, hideLevels := hideLevels }.run files zone =
          arguments.run files zone := by
  intro filter
  refine ⟨fun level => enabled_filter_iff, rfl, rfl, hideNonMatches_filter_iff, ?_, ?_, ?_⟩
  · intro keys records record visible
    exact (showsLevel_of_visible visible).unhidden
  · intro before after level zone records parted counts rows
    have same : { arguments with hideLevels := before ++ after } = arguments := by
      rw [← parted]
    refine ⟨report_eq_rows .., ?_⟩
    rw [report_eq_rows, rows_hideLevels, same]
  · intro levels hideLevels same sameHidden files zone
    exact run_eq_of_same_levels same sameHidden files zone

/-- The command line names levels of which it hides one, and the settings have others. -/
theorem filter_by_precedence_of_both :
    let failed : Record := { kind := .runFailure, timestamp := 2, message := "stopped" }
    let ran : Record :=
      { kind := .logMessage, timestamp := 1, message := "ran", level := some .info }
    let settings : Settings := { levels := some [.debug], hideNonMatches := some true }
    let arguments : Arguments := { file := "run.log", levels := [.info, .event, .info] }
    arguments.ShowsLevel settings .info ∧ ¬arguments.ShowsLevel settings .debug ∧
    arguments.hideLevels = [] ++ [] ∧
    arguments.report settings 0 [ran, failed] =
      "00:00:00.001 INFO     -                        ran\n" ++
        "00:00:00.002 EVENT    -                        stopped\n" ∧
    { arguments with hideLevels := [Level.event] }.report settings 0 [ran, failed] =
      "00:00:00.001 INFO     -                        ran\n" ∧
    (∀ level, level ∈ [Level.event, .info] ↔ level ∈ arguments.levels) ∧
    (∀ level, level ∈ ([] : List Level) ↔ level ∈ arguments.hideLevels) ∧
    ∀ files, { arguments with levels := [.event, .info], hideLevels := [] }.run files 0 =
      arguments.run files 0 := by
  intro failed ran settings arguments
  obtain ⟨enabled, _, _, _, _, hidden, sets⟩ := filter_by_precedence arguments settings
  obtain ⟨all, fewer⟩ := hidden [] [] .event 0 [ran, failed] rfl
  have same : ∀ level, level ∈ [Level.event, .info] ↔ level ∈ arguments.levels := by
    intro level
    cases level <;> decide
  have sameHidden : ∀ level, level ∈ ([] : List Level) ↔ level ∈ arguments.hideLevels :=
    fun _ => Iff.rfl
  refine ⟨(enabled .info).mp (by decide), mt (enabled .debug).mpr (by decide), rfl,
    all.trans ?_, fewer.trans ?_, same, sameHidden, fun files => sets _ _ same sameHidden files 0⟩
  · decide +kernel
  · decide +kernel

end Arguments

end EventLog
