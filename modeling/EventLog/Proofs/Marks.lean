import EventLog.Proofs.Selection
import Mathlib.Data.List.Basic

/-!
# Marks

The marks of a view are given along one pass that awaits a single match at a time and never looks
back. That is enough, since the matches of a view stand among its visible entries in the same
order, and since no position stands there twice (`markAlong_of_sublist`). So the marks are exact by
position, also where a log holds equal records (`marked_view_exact`).
-/

namespace EventLog

/-! ## The pass -/

/-- An entry at a position that no match has is passed without a mark. -/
theorem markAlong_cons_of_unmatched {entry : Entry} {matched : List Entry}
    (unmatched : entry.position ∉ positions matched) (visible : List Entry) :
    markAlong (entry :: visible) matched = (entry, false) :: markAlong visible matched := by
  cases matched with
  | nil => rfl
  | cons awaited matched =>
      have apart : awaited.position ≠ entry.position := fun same =>
        unmatched (List.mem_map.mpr ⟨awaited, List.mem_cons_self, same⟩)
      rw [markAlong, if_neg apart]

theorem markAlong_cons_of_awaited (entry : Entry) (visible matched : List Entry) :
    markAlong (entry :: visible) (entry :: matched) =
      (entry, true) :: markAlong visible matched := by
  rw [markAlong, if_pos rfl]

/-- Matches that stand among the visible entries in the same order are all marked, and nothing
    else is. -/
theorem markAlong_of_sublist {visible matched : List Entry} (sublist : matched.Sublist visible)
    (apart : (positions visible).Nodup) :
    markAlong visible matched =
      visible.map fun entry => (entry, decide (entry.position ∈ positions matched)) := by
  induction sublist with
  | slnil => rfl
  | @cons matched visible entry sublist ih =>
      obtain ⟨new, apart⟩ := List.nodup_cons.mp apart
      have unmatched : entry.position ∉ positions matched := fun taken =>
        new ((sublist.map _).subset taken)
      rw [markAlong_cons_of_unmatched unmatched, ih apart, List.map_cons,
        decide_eq_false unmatched]
  | @cons_cons matched visible entry sublist ih =>
      obtain ⟨new, apart⟩ := List.nodup_cons.mp apart
      have first : entry.position ∈ positions (entry :: matched) := List.mem_cons_self
      -- No later entry stands at the position of the match that was just passed.
      have later : ∀ other ∈ visible, (other.position ∈ positions matched ↔
          other.position ∈ positions (entry :: matched)) := by
        intro other present
        have different : other.position ≠ entry.position := fun same =>
          new (List.mem_map.mpr ⟨other, present, same⟩)
        exact (or_iff_right different).symm.trans List.mem_cons.symm
      have others : visible.map (fun other =>
            (other, decide (other.position ∈ positions matched))) =
          visible.map fun other =>
            (other, decide (other.position ∈ positions (entry :: matched))) :=
        List.map_congr_left fun other present => by rw [decide_eq_decide.mpr (later other present)]
      rw [markAlong_cons_of_awaited, ih apart, others, List.map_cons, decide_eq_true first]

/-- What is marked in such a pass are the matches, each as often as it is one. -/
theorem filter_markAlong_of_sublist {visible matched : List Entry}
    (sublist : matched.Sublist visible) (apart : (positions visible).Nodup) :
    ((markAlong visible matched).filter (·.2)).map (·.1) = matched := by
  induction sublist with
  | slnil => rfl
  | @cons matched visible entry sublist ih =>
      obtain ⟨new, apart⟩ := List.nodup_cons.mp apart
      have unmatched : entry.position ∉ positions matched := fun taken =>
        new ((sublist.map _).subset taken)
      rw [markAlong_cons_of_unmatched unmatched, List.filter_cons_of_neg Bool.false_ne_true,
        ih apart]
  | @cons_cons matched visible entry sublist ih =>
      obtain ⟨_, apart⟩ := List.nodup_cons.mp apart
      rw [markAlong_cons_of_awaited, List.filter_cons_of_pos rfl, List.map_cons, ih apart]

/-! ## Marks of a view -/

namespace Filter

variable (filter : Filter) (conventions : Conventions) (keys : StepKeys) (records : List Record)

/-- The matches of a view stand among its visible entries, in the same order. -/
theorem textMatched_sublist_visible :
    (filter.view conventions keys records).textMatched.Sublist
      (filter.view conventions keys records).visible := by
  rw [visible_view, textMatched_view]
  apply List.monotone_filter_right
  intro entry picked
  obtain ⟨_, survivor, meets⟩ := picks_iff.mp picked
  exact shows_iff.mpr ⟨survivor, fun _ _ => meets⟩

theorem nodup_positions_visible :
    (positions (filter.view conventions keys records).visible).Nodup := by
  rw [visible_view]
  exact (positions_rise List.filter_sublist).imp Nat.ne_of_lt

/-- A mark says whether the record is one that the query picks out. -/
theorem marked_view :
    (filter.view conventions keys records).marked =
      (filter.view conventions keys records).visible.map fun entry =>
        (entry, filter.picks conventions keys entry.record) := by
  have sublist := filter.textMatched_sublist_visible conventions keys records
  have apart := filter.nodup_positions_visible conventions keys records
  rw [View.marked, markAlong_of_sublist sublist apart]
  refine List.map_congr_left fun entry shown => ?_
  have listed : records[entry.position]? = some entry.record :=
    mem_entries.mp (mem_entries_of_mem_view (.inl shown))
  have exact_at : entry.position ∈ positions (filter.view conventions keys records).textMatched ↔
      filter.picks conventions keys entry.record = true := by
    rw [textMatched_view, mem_positions_filter]
    simp [HoldsAt, listed]
  simp only [exact_at, Bool.decide_eq_true]

/-- The marks of a view are exact by position: the visible entries are paired in order with whether
    their very position is that of a match, the marked ones are the matches in order, and no
    position is paired twice. -/
theorem marked_view_exact :
    let view := filter.view conventions keys records
    view.marked =
      view.visible.map (fun entry =>
        (entry, decide (entry.position ∈ positions view.textMatched))) ∧
    (view.marked.filter (·.2)).map (·.1) = view.textMatched ∧
    (positions view.visible).Nodup := by
  have sublist := filter.textMatched_sublist_visible conventions keys records
  have apart := filter.nodup_positions_visible conventions keys records
  exact ⟨markAlong_of_sublist sublist apart, filter_markAlong_of_sublist sublist apart, apart⟩

/-- Equal records on both sides of another one are marked, each at its own place. -/
example :
    let same : Record := { kind := .logMessage, timestamp := 1, message := "same" }
    let records := [same, same, { same with message := "other" }, same]
    let filter : Filter := { query := [⟨.text, "same"⟩], hideNonMatches := false }
    (filter.view .standard [] records).marked.map (fun (entry, mark) => (entry.position, mark)) =
      [(0, true), (1, true), (2, false), (3, true)] := by
  decide +kernel

end Filter

end EventLog
