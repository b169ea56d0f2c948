import ReportQuery.Proofs.Report.Rectangular

/-!
# Column widths

A column of a result is as wide as its name and the texts of its cells need.
The widths that are tracked for the rows of a report leave the names out, and
the widths that are taken of a whole result start from them; with the names
added at the end both come to the same. Sorting a result or cutting a page out
of it takes no width away that a row needs.
-/

namespace ReportQuery

/-- The widths after one more row. -/
def widen (widths : List Nat) (row : List Cell) : List Nat :=
  List.zipWith max widths (row.map Cell.width)

namespace ResultSet

/-- Every row has a cell for every column, and every column is as wide as its
name and its cells. -/
structure Fitted (set : ResultSet) : Prop where
  names : ∀ column ∈ set.columns, column.name.length ≤ column.width
  rows : ∀ row ∈ set.rows,
    List.Forall₂ (fun column cell => Cell.width cell ≤ column.width)
      set.columns row

/-- How results come about: from rows with a cell for every name, or from the
records of a report with the widths tracked for them; the output may be
vertical, and the rows are sorted and cut. -/
inductive Built : ResultSet → Prop
  | ofRows {names : List String} {rows : List (List Cell)}
      (h : ∀ row ∈ rows, row.length = names.length) : Built (ofRows names rows)
  | ofRecords {bound : BoundSelect} {records : List (List String)}
      {rows : List (List Cell)} (h : bound.aggregate records = .ok rows) :
      Built (withWidths bound.labels rows
        (columnWidths bound.columns.length rows))
  | vertical {set : ResultSet} (h : Built set) (vertical : Bool) :
      Built { set with vertical }
  | sort {set : ResultSet} (h : Built set) (keys : List SortKey) :
      Built (set.sort keys)
  | paginate {set : ResultSet} (h : Built set) (limit : Limit) :
      Built (set.paginate limit)

end ResultSet

/-! ## Widening -/

theorem zipWith_max_assoc (a b c : List Nat) :
    List.zipWith max (List.zipWith max a b) c =
      List.zipWith max a (List.zipWith max b c) := by
  induction a generalizing b c with
  | nil => rfl
  | cons x a ih =>
      cases b with
      | nil => rfl
      | cons y b =>
          cases c with
          | nil => rfl
          | cons z c => simp only [List.zipWith_cons_cons, ih, Nat.max_assoc]

theorem zipWith_max_zero (widths : List Nat) :
    List.zipWith max widths (List.replicate widths.length 0) = widths := by
  induction widths with
  | nil => rfl
  | cons width widths ih =>
      rw [List.length_cons, List.replicate_succ, List.zipWith_cons_cons, ih,
        Nat.max_zero]

/-- Widths that were there before can be added at the end. -/
theorem foldl_widen_zipWith (start more : List Nat) (rows : List (List Cell)) :
    rows.foldl widen (List.zipWith max start more) =
      List.zipWith max start (rows.foldl widen more) := by
  induction rows generalizing more with
  | nil => rfl
  | cons row rows ih =>
      rw [List.foldl_cons, List.foldl_cons, widen, zipWith_max_assoc]
      exact ih (widen more row)

theorem length_widen {widths : List Nat} {row : List Cell}
    (h : row.length = widths.length) :
    (widen widths row).length = widths.length := by
  simp [widen, h]

theorem columnWidths_append (n : Nat) (rows : List (List Cell))
    (row : List Cell) :
    columnWidths n (rows ++ [row]) = widen (columnWidths n rows) row := by
  simp [columnWidths, widen]

theorem length_columnWidths {n : Nat} {rows : List (List Cell)}
    (h : ∀ row ∈ rows, row.length = n) : (columnWidths n rows).length = n := by
  induction rows using List.reverseRecOn with
  | nil => exact List.length_replicate
  | append_singleton rows row ih =>
      rw [List.forall_mem_append, List.forall_mem_singleton] at h
      have hrows := ih h.1
      rw [columnWidths_append, length_widen (h.2.trans hrows.symm), hrows]

/-- Widening takes nothing away from the widths before, and makes room for the
row. -/
theorem forall₂_widen {widths : List Nat} {row : List Cell}
    (h : row.length = widths.length) :
    List.Forall₂ (fun wide width => width ≤ wide) (widen widths row) widths ∧
      List.Forall₂ (fun wide cell => Cell.width cell ≤ wide)
        (widen widths row) row := by
  induction widths generalizing row with
  | nil =>
      obtain rfl := List.eq_nil_of_length_eq_zero h
      exact ⟨.nil, .nil⟩
  | cons width widths ih =>
      obtain ⟨cell, row, rfl⟩ := List.exists_cons_of_length_eq_add_one h
      obtain ⟨hbefore, hrow⟩ := ih (Nat.succ.inj h)
      exact ⟨.cons (Nat.le_max_left _ _) hbefore,
        .cons (Nat.le_max_right _ _) hrow⟩

/-- The tracked widths are wide enough for every row. -/
theorem forall₂_columnWidths {n : Nat} {rows : List (List Cell)}
    (h : ∀ row ∈ rows, row.length = n) :
    ∀ row ∈ rows, List.Forall₂ (fun width cell => Cell.width cell ≤ width)
      (columnWidths n rows) row := by
  induction rows using List.reverseRecOn with
  | nil => simp
  | append_singleton rows last ih =>
      rw [List.forall_mem_append, List.forall_mem_singleton] at h
      obtain ⟨hbefore, hlast⟩ :=
        forall₂_widen (h.2.trans (length_columnWidths h.1).symm)
      rw [columnWidths_append, List.forall_mem_append,
        List.forall_mem_singleton]
      refine ⟨fun row hrow => ?_, hlast⟩
      exact List.forall₂_comp hbefore (ih h.1 row hrow) fun _ _ _ hwide hcell =>
        Nat.le_trans hcell hwide

namespace ResultSet

variable {names : List String} {rows : List (List Cell)}

/-- The widths that names and cells need are the tracked ones with those of the
names added. -/
theorem neededWidths_eq (h : ∀ row ∈ rows, row.length = names.length) :
    neededWidths names rows =
      List.zipWith max (names.map String.length)
        (columnWidths names.length rows) := by
  have hfold : ∀ widths : List Nat, widths.length = names.length →
      rows.foldl (fun widths row =>
        List.zipWith max widths (row.map Cell.width) ++ widths.drop row.length)
          widths =
      rows.foldl widen widths := by
    induction rows with
    | nil => exact fun _ _ => rfl
    | cons row rows ih =>
        rw [List.forall_mem_cons] at h
        intro widths hwidths
        have hdrop : widths.drop row.length = [] := by simp [h.1, hwidths]
        rw [List.foldl_cons, List.foldl_cons, hdrop, List.append_nil]
        exact ih h.2 _ ((length_widen (h.1.trans hwidths.symm)).trans hwidths)
  have hzero := zipWith_max_zero (names.map String.length)
  rw [List.length_map] at hzero
  calc neededWidths names rows = rows.foldl widen (names.map String.length) :=
        hfold _ (List.length_map _)
    _ = rows.foldl widen
          (List.zipWith max (names.map String.length)
            (List.replicate names.length 0)) := by
        rw [hzero]
    _ = _ := foldl_widen_zipWith _ _ _

/-- The tracked widths make the same result as those that are taken of it as a
whole. -/
theorem withWidths_columnWidths (h : ∀ row ∈ rows, row.length = names.length) :
    withWidths names rows (columnWidths names.length rows) =
      ofRows names rows := by
  have hcolumns : ∀ (names : List String) (widths : List Nat),
      List.zipWith
        (fun name width => (⟨name, max width name.length⟩ : ResultColumn)) names
        (List.zipWith max (names.map String.length) widths) =
      List.zipWith (fun name width => ⟨name, max width name.length⟩) names
        widths := by
    intro names widths
    induction names generalizing widths with
    | nil => rfl
    | cons name names ih =>
        cases widths with
        | nil => rfl
        | cons width widths =>
            have hname : max (max name.length width) name.length =
                max width name.length := by
              omega
            simp only [List.map_cons, List.zipWith_cons_cons, ih, hname]
  rw [ofRows, neededWidths_eq h, withWidths, withWidths, hcolumns]

theorem fitted_ofRows (h : ∀ row ∈ rows, row.length = names.length) :
    (ofRows names rows).Fitted := by
  rw [← withWidths_columnWidths h]
  constructor
  · intro column hcolumn
    obtain ⟨i, hi, rfl⟩ := List.mem_iff_getElem.mp hcolumn
    simp only [withWidths, List.getElem_zipWith]
    exact Nat.le_max_right _ _
  · intro row hrow
    obtain ⟨hlength, hcells⟩ :=
      List.forall₂_iff_get.mp (forall₂_columnWidths h row hrow)
    have hwidths := length_columnWidths h
    refine List.forall₂_iff_get.mpr ⟨by simp [withWidths, hwidths, h row hrow],
      fun i hi hi' => ?_⟩
    simp only [withWidths, List.get_eq_getElem, List.getElem_zipWith]
    exact Nat.le_trans (hcells i (by omega) hi') (Nat.le_max_left _ _)

theorem length_of_aggregate {bound : BoundSelect} {records : List (List String)}
    (h : bound.aggregate records = .ok rows) :
    bound.columns.length = bound.labels.length ∧
      ∀ row ∈ rows, row.length = bound.labels.length := by
  have hlabels : bound.columns.length = bound.labels.length :=
    (List.length_map _).symm
  refine ⟨hlabels, fun row hrow => ?_⟩
  rw [← hlabels, (BoundSelect.fits_of_aggregate h row hrow).length_eq]

/-- The result of a report is the one that is made of its rows as a whole. -/
theorem withWidths_of_aggregate {bound : BoundSelect}
    {records : List (List String)} (h : bound.aggregate records = .ok rows) :
    withWidths bound.labels rows (columnWidths bound.columns.length rows) =
      ofRows bound.labels rows := by
  obtain ⟨hlabels, hrows⟩ := length_of_aggregate h
  rw [hlabels, withWidths_columnWidths hrows]

theorem Built.fitted {set : ResultSet} (h : set.Built) : set.Fitted := by
  induction h with
  | ofRows h => exact fitted_ofRows h
  | ofRecords h =>
      rw [withWidths_of_aggregate h]
      exact fitted_ofRows (length_of_aggregate h).2
  | vertical _ _ ih => exact ⟨ih.names, ih.rows⟩
  | sort _ keys ih =>
      exact ⟨ih.names, fun row hrow =>
        ih.rows row ((perm_rows_sort keys _).mem_iff.mp hrow)⟩
  | paginate _ limit ih =>
      exact ⟨ih.names, fun row hrow =>
        ih.rows row (List.mem_of_mem_drop (List.mem_of_mem_take hrow))⟩

end ResultSet

end ReportQuery
