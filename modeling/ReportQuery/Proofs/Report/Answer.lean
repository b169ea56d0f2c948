import ReportQuery.Session

/-!
# What an answer depends on

The rows of a bound statement depend on its output columns, on the number of
report columns and on the clauses that are applied to the records. They depend
neither on the report that the records come from nor on the names of its
columns.
-/

namespace ReportQuery

/-- An output column without the name of its report column. -/
def BoundColumn.bare (column : BoundColumn) : BoundColumn :=
  { column with name := "" }

namespace BoundSelect

/-- A bound statement without its report: the report columns have no names. -/
def bare (bound : BoundSelect) : BoundSelect :=
  { bound with
    source := ""
    columns := bound.columns.map BoundColumn.bare
    reportColumns := bound.reportColumns.map fun _ => ""
    conditions := []
    during := none }

variable (bound : BoundSelect)

theorem collapses_bare : bound.bare.collapses = bound.collapses := by
  change (bound.columns.map BoundColumn.bare).any _ = _
  rw [List.any_map]
  rfl

theorem keepsRecords_bare : bound.bare.keepsRecords = bound.keepsRecords := by
  rw [keepsRecords, collapses_bare]
  rfl

theorem keyColumns_bare :
    bound.bare.keyColumns = bound.keyColumns.map BoundColumn.bare := by
  unfold keyColumns
  change (if bound.groupBy.isEmpty then (bound.columns.map
    BoundColumn.bare).filter _
    else bound.groupBy.filterMap fun i =>
      (bound.columns.map BoundColumn.bare)[i]?) = _
  split
  · rw [List.filter_map]
    rfl
  · rw [List.map_filterMap]
    simp only [List.getElem?_map]

theorem groupKey_bare (record : List String) :
    bound.bare.groupKey record = bound.groupKey record := by
  rw [groupKey, keyColumns_bare, List.map_map]
  rfl

theorem emptyTallies_bare : bound.bare.emptyTallies = bound.emptyTallies := by
  unfold emptyTallies
  change (bound.columns.map BoundColumn.bare).map _ = _
  rw [List.map_map]
  rfl

theorem advance_bare (record : List String) (tallies : List Tally) :
    bound.bare.advance record tallies = bound.advance record tallies := by
  unfold advance
  have hlength : bound.bare.reportColumns.length =
      bound.reportColumns.length := by simp [bare]
  have hsteps : (bound.bare.columns.zip tallies).mapM
        (fun entry => entry.1.step record entry.2) =
      (bound.columns.zip tallies).mapM fun entry =>
        entry.1.step record entry.2 := by
    change ((bound.columns.map BoundColumn.bare).zip tallies).mapM _ = _
    rw [List.zip_map_left, List.mapM_map]
    rfl
  rw [hlength]
  exact congrArg (ite _ _) hsteps

theorem addRecord_bare (record : List String) (groups : List Group) :
    bound.bare.addRecord record groups = bound.addRecord record groups := by
  induction groups with
  | nil => simp only [addRecord, advance_bare, emptyTallies_bare, groupKey_bare]
  | cons group rest ih => simp only [addRecord, advance_bare, groupKey_bare, ih]

theorem fold_bare (records : List (List String)) :
    bound.bare.fold records = bound.fold records := by
  unfold fold
  simp only [keepsRecords_bare, advance_bare, emptyTallies_bare, addRecord_bare]

theorem finishRow_bare (tallies : List Tally) :
    bound.bare.finishRow tallies = bound.finishRow tallies := by
  unfold finishRow
  change List.zipWith _ (bound.columns.map BoundColumn.bare) tallies = _
  rw [List.zipWith_map_left]
  rfl

theorem aggregate_bare (records : List (List String)) :
    bound.bare.aggregate records = bound.aggregate records := by
  unfold aggregate
  rw [fold_bare, funext bound.finishRow_bare]

/-- The report and the names of its columns do not matter for the rows. -/
theorem answer_bare (records : Records) :
    bound.bare.answer records = bound.answer records := by
  have hlabels : bound.bare.labels = bound.labels := by
    unfold labels
    change (bound.columns.map BoundColumn.bare).map _ = _
    rw [List.map_map]
    rfl
  have hlength : bound.bare.columns.length = bound.columns.length := by
    simp [bare]
  rw [answer, aggregate_bare, hlabels, hlength]
  rfl

variable {bound}

theorem answer_eq_of_bare_eq {other : BoundSelect} (h : bound.bare = other.bare)
    (records : Records) : bound.answer records = other.answer records := by
  rw [← answer_bare, h, answer_bare]

end BoundSelect

end ReportQuery
