import Mathlib.Data.List.Nodup
import ReportQuery.Proofs.Lists
import ReportQuery.Proofs.Plan.Bind
import ReportQuery.Proofs.Plan.Chain
import ReportQuery.Proofs.Report.Answer

/-!
# Plain views

A plain view shows different columns of a report under different names. A
statement on it names columns of the view, and unfolds to a statement that
names the columns of the report behind them. Bound to the report, or to the
view taken as a report, the two statements have the same output up to the names
of the report columns.
-/

namespace ReportQuery

/-- A SELECT of different columns as they are, all rows in the order of the
source. -/
structure Select.Plain (s : Select) : Prop where
  name : ∀ item ∈ s.items, item.name ≠ starName
  function : ∀ item ∈ s.items, item.function = none
  distinct : ∀ item ∈ s.items, item.distinct = false
  names : (s.items.map SelectItem.name).Nodup
  groupBy : s.groupBy = []
  orderBy : s.orderBy = []
  limit : s.limit = none

theorem SelectItem.isStar_of_name {item : SelectItem}
    (h : item.name ≠ starName) : item.isStar = false := by
  have hbeq : (item.name == starName) = false := beq_eq_false_iff_ne.mpr h
  simp [SelectItem.isStar, hbeq]

namespace Table

/-- A view as a report: its columns have the names that they are queried
with. -/
def asReport (view : Table) : Table :=
  { view with
    columns := view.columns.map TableColumn.exposed
    view := none }

/-- The name in its source of the column that a view is queried with under a
label. -/
def sourceColumn (view : Table) (label : String) : String :=
  ((view.column? label).map TableColumn.name).getD label

/-- The columns of a view are different columns of a report, unchanged but for
their labels. -/
structure PlainOver (view report : Table) : Prop where
  name : ∀ column ∈ view.columns, column.name ≠ starName
  method : ∀ column ∈ view.columns, column.method = none
  distinct : ∀ column ∈ view.columns, column.distinct = false
  origin : ∀ column ∈ view.columns, ∃ origin,
    report.column? column.name = some origin ∧
    origin.name = column.name ∧ origin.kind = column.kind
  names : (view.columns.map TableColumn.name).Nodup
  labels : (view.columns.map TableColumn.label).Nodup

theorem column?_asReport (view : Table) (label : String) :
    view.asReport.column? label =
      (view.column? label).map TableColumn.exposed := by
  unfold column? asReport
  rw [List.find?_map]
  rfl

theorem PlainOver.sourceColumn_label {view report : Table}
    (hview : view.PlainOver report) {column : TableColumn}
    (h : column ∈ view.columns) :
    view.sourceColumn column.label = column.name := by
  rw [sourceColumn, column?_label hview.labels h]
  rfl

end Table

/-- A plain SELECT is stored as a plain view. -/
theorem CreateView.Describes.plainOver {create : CreateView} {report : Table}
    {blocks : List (List TableColumn)} (h : create.Describes report blocks)
    (hplain : create.select.Plain)
    (haliases : ∀ column ∈ report.columns, column.aliasName = none)
    (hlabels : (blocks.flatten.map TableColumn.label).Nodup) :
    (create.table report blocks).PlainOver report := by
  have hstar : ∀ item ∈ create.select.items, item.isStar = false :=
    fun item hitem => SelectItem.isStar_of_name (hplain.name item hitem)
  have hcolumns := h.viewColumns hstar
  have hbecomes : ∀ column ∈ blocks.flatten, ∃ item ∈ create.select.items,
      ∃ given, item.BecomesColumn given column ∧
      report.viewColumn item given = .ok column := by
    intro column hcolumn
    obtain ⟨entry, hentry, hstored⟩ :=
      List.exists_left_of_forall₂ hcolumns hcolumn
    exact ⟨entry.1, List.fst_mem_of_mem_zipIdx hentry, _,
      Table.becomesColumn_of_viewColumn hstored, hstored⟩
  refine ⟨?_, ?_, ?_, ?_, ?_, hlabels⟩
  · intro column hcolumn
    obtain ⟨item, hitem, given, hbecomes, -⟩ := hbecomes column hcolumn
    exact hbecomes.name ▸ hplain.name item hitem
  · intro column hcolumn
    obtain ⟨item, hitem, given, hbecomes, -⟩ := hbecomes column hcolumn
    rw [hbecomes.method, hplain.function item hitem, Option.map_none]
  · intro column hcolumn
    obtain ⟨item, hitem, given, hbecomes, -⟩ := hbecomes column hcolumn
    rw [hbecomes.distinct, hplain.distinct item hitem]
  · intro column hcolumn
    obtain ⟨item, hitem, given, hbecomes, hstored⟩ := hbecomes column hcolumn
    obtain ⟨origin, horigin, hkind⟩ :=
      Table.origin_of_viewColumn (hplain.name item hitem) hstored
    obtain ⟨hmem, hlabel⟩ := Table.mem_of_column? horigin
    refine ⟨origin, hbecomes.name ▸ horigin, ?_, hkind⟩
    rw [hbecomes.name, ← hlabel, TableColumn.label, haliases origin hmem,
      Option.getD_none]
  · change (blocks.flatten.map TableColumn.name).Nodup
    rw [h.names hstar]
    exact hplain.names

namespace Plan

/-! ## Images of entries -/

/-- The image of an entry that shows a column as it is. -/
def plainImage (item : SelectItem) (column : TableColumn) : SelectItem :=
  { column := {
      name := column.name
      aliasName := (some item.label).filter fun name => name != column.name }
    function := item.function
    distinct := item.distinct }

theorem label_plainImage (item : SelectItem) (column : TableColumn) :
    (plainImage item column).column.aliasName.getD column.name =
      item.label := by
  by_cases hname : item.label = column.name <;>
    simp [plainImage, Option.filter, hname]

variable {view report : Table}

theorem mapItem_of_plainOver (hview : view.PlainOver report)
    {item image : SelectItem} (hname : item.name ≠ starName)
    (h : mapItem view item = .ok image) :
    ∃ column, view.column? item.name = some column ∧
      plainImage item column = image := by
  rcases mapItem_eq_ok_iff.mp h with ⟨hstar, -⟩ | ⟨-, column, hcolumn, hmap⟩
  · exact absurd hstar hname
  · refine ⟨column, hcolumn, ?_⟩
    obtain ⟨hmem, -⟩ := Table.mem_of_column? hcolumn
    have hmethod : mappedMethod item column = .ok item.function := by
      have hstar : (column.name == starName) = false :=
        beq_eq_false_iff_ne.mpr (hview.name column hmem)
      rw [mappedMethod]
      cases item.function with
      | some function => rfl
      | none => simp [viewMethod, hview.method column hmem, hstar]
    rw [mapColumn, hmethod, hview.distinct column hmem, Bool.or_false] at hmap
    exact Except.ok.inj hmap

theorem forall₂_mapItem_of_plainOver (hview : view.PlainOver report)
    {items mapped : List SelectItem}
    (hnames : ∀ item ∈ items, item.name ≠ starName)
    (h : List.Forall₂ (fun item image => mapItem view item = .ok image)
      items mapped) :
    ∃ columns, List.Forall₂
      (fun item column => view.column? item.name = some column) items
        columns ∧ List.zipWith plainImage items columns = mapped := by
  induction h with
  | nil => exact ⟨[], .nil, rfl⟩
  | @cons item image _ _ himage _ ih =>
      obtain ⟨column, hcolumn, rfl⟩ :=
        mapItem_of_plainOver hview (hnames item (by simp)) himage
      obtain ⟨columns, hcolumns, rfl⟩ :=
        ih fun other hother => hnames other (by simp [hother])
      exact ⟨column :: columns, .cons hcolumn hcolumns, rfl⟩

theorem mem_columns_of_named {items : List SelectItem}
    {columns : List TableColumn}
    (h : List.Forall₂ (fun item column => view.column? item.name = some column)
      items columns) :
    ∀ column ∈ columns, column ∈ view.columns := by
  intro column hcolumn
  obtain ⟨item, -, hnamed⟩ := List.exists_left_of_forall₂ h hcolumn
  exact (Table.mem_of_column? hnamed).1

/-! ## Bound columns -/

/-- The column of the report that a column of a plain view shows. -/
def originOf (report : Table) (column : TableColumn) : TableColumn :=
  (report.column? column.name).getD column

theorem originOf_spec (hview : view.PlainOver report) {column : TableColumn}
    (h : column ∈ view.columns) :
    report.column? column.name = some (originOf report column) ∧
      (originOf report column).name = column.name ∧
      (originOf report column).kind = column.kind := by
  obtain ⟨origin, horigin, hname, hkind⟩ := hview.origin column h
  rw [originOf, horigin]
  exact ⟨rfl, hname, hkind⟩

/-- The images of entries are bound to the columns of the report behind those
of the view. -/
theorem forall₂_boundColumn_image (hview : view.PlainOver report)
    {items : List SelectItem} {columns : List TableColumn}
    (h : List.Forall₂ (fun item column => view.column? item.name = some column)
      items columns) :
    List.Forall₂ (fun image column => boundColumn report image = .ok column)
      (List.zipWith plainImage items columns)
      (columns.map (originOf report)) := by
  induction h with
  | nil => exact .nil
  | @cons item column _ _ hcolumn _ ih =>
      obtain ⟨hmem, -⟩ := Table.mem_of_column? hcolumn
      obtain ⟨horigin, -, -⟩ := originOf_spec hview hmem
      have hname : (plainImage item column).name ≠ starName :=
        hview.name column hmem
      exact .cons ((boundColumn_eq_ok_iff hname).mpr horigin) ih

/-- The entries themselves are bound to the columns of the view as a report. -/
theorem forall₂_boundColumn_asReport {items : List SelectItem}
    {columns : List TableColumn} (hnames : ∀ item ∈ items, item.name ≠ starName)
    (h : List.Forall₂ (fun item column => view.column? item.name = some column)
      items columns) :
    List.Forall₂ (fun item column => boundColumn view.asReport item =
      .ok column) items
      (columns.map TableColumn.exposed) := by
  induction h with
  | nil => exact .nil
  | @cons item column _ _ hcolumn _ ih =>
      refine .cons ((boundColumn_eq_ok_iff (hnames item (by simp))).mpr ?_)
        (ih fun other hother => hnames other (by simp [hother]))
      rw [Table.column?_asReport, hcolumn, Option.map_some]

theorem names_injective (hview : view.PlainOver report)
    {columns : List TableColumn}
    (h : ∀ column ∈ columns, column ∈ view.columns) :
    ∀ a ∈ columns, ∀ b ∈ columns, a.name = b.name → a = b :=
  fun a ha b hb hname => List.inj_on_of_nodup_map hview.names (h a ha)
    (h b hb) hname

theorem labels_injective (hview : view.PlainOver report)
    {columns : List TableColumn}
    (h : ∀ column ∈ columns, column ∈ view.columns) :
    ∀ a ∈ columns, ∀ b ∈ columns, a.label = b.label → a = b :=
  fun a ha b hb hlabel => List.inj_on_of_nodup_map hview.labels (h a ha)
    (h b hb) hlabel

/-- The report columns of the unfolded statement are the names of the columns
that it names. -/
theorem reportColumns_image (hview : view.PlainOver report)
    {columns : List TableColumn}
    (h : ∀ column ∈ columns, column ∈ view.columns) :
    ((columns.map (originOf report)).map TableColumn.name).eraseDups =
      columns.eraseDups.map TableColumn.name := by
  rw [List.map_map, ← List.eraseDups_map (names_injective hview h)]
  have hnames : columns.map (TableColumn.name ∘ originOf report) =
      columns.map TableColumn.name := by
    refine List.map_congr_left fun column hcolumn => ?_
    exact (originOf_spec hview (h column hcolumn)).2.1
  rw [hnames]

theorem reportColumns_asReport (hview : view.PlainOver report)
    {columns : List TableColumn}
    (h : ∀ column ∈ columns, column ∈ view.columns) :
    ((columns.map TableColumn.exposed).map TableColumn.name).eraseDups =
      columns.eraseDups.map TableColumn.label := by
  rw [List.map_map, ← List.eraseDups_map (labels_injective hview h)]
  rfl

/-- An output column of both statements, up to the name of its report column. -/
theorem bare_bindItem (hview : view.PlainOver report)
    {columns : List TableColumn} (h : ∀ column ∈ columns, column ∈ view.columns)
    {item : SelectItem} {column : TableColumn}
    (hcolumn : view.column? item.name = some column) :
    (bindItem (columns.map TableColumn.name) (plainImage item column)
        (originOf report column)).bare =
      (bindItem (columns.map TableColumn.label) item column.exposed).bare := by
  obtain ⟨hmem, hlabel⟩ := Table.mem_of_column? hcolumn
  obtain ⟨-, hname, hkind⟩ := originOf_spec hview hmem
  have hindex : (columns.map TableColumn.name).idxOf column.name =
      (columns.map TableColumn.label).idxOf column.label := by
    rw [List.idxOf_map fun b hb hb' =>
      List.inj_on_of_nodup_map hview.names (h b hb) hmem hb',
      List.idxOf_map fun b hb hb' =>
        List.inj_on_of_nodup_map hview.labels (h b hb) hmem hb']
  have hshown : item.label = item.column.aliasName.getD column.label := by
    rw [hlabel]
    rfl
  unfold bindItem BoundColumn.bare
  simp only [hname, hkind, label_plainImage, hindex, hshown]
  rfl

/-- Both bound statements are the same up to their reports. -/
theorem bare_boundSelect (hview : view.PlainOver report) {s r : Select}
    {columns : List TableColumn}
    (hcolumns : List.Forall₂
      (fun item column => view.column? item.name = some column) s.items columns)
    (hitems : r.items = List.zipWith plainImage s.items columns)
    (hgroupBy : r.groupBy.map ColumnPosition.position =
      s.groupBy.map ColumnPosition.position)
    (horderBy : r.orderBy.map OrderEntry.place = s.orderBy.map OrderEntry.place)
    (hlimit : r.limit = s.limit) (hterminator : r.terminator = s.terminator) :
    (boundSelect r report (columns.map (originOf report))).bare =
      (boundSelect s view.asReport (columns.map TableColumn.exposed)).bare := by
  have hmem := mem_columns_of_named hcolumns
  have hmem' : ∀ column ∈ columns.eraseDups, column ∈ view.columns :=
    fun column hcolumn => hmem column (List.mem_eraseDups.mp hcolumn)
  have hgroup : r.groupBy.map (fun p => p.position - 1) =
      s.groupBy.map fun p => p.position - 1 := by
    have h := congrArg (List.map fun i => i - 1) hgroupBy
    rwa [List.map_map, List.map_map] at h
  have horder :
      r.orderBy.map
        (fun entry => SortKey.mk (entry.target.position - 1) entry.descending) =
        s.orderBy.map fun entry =>
          SortKey.mk (entry.target.position - 1) entry.descending := by
    have h := congrArg
      (List.map fun place : Nat × Bool => SortKey.mk (place.1 - 1) place.2)
        horderBy
    rwa [List.map_map, List.map_map] at h
  unfold boundSelect BoundSelect.bare
  simp only [BoundSelect.mk.injEq, true_and]
  refine ⟨?_, ?_, hgroup, horder, hlimit, by rw [hterminator]⟩
  · rw [reportColumns_image hview hmem, reportColumns_asReport hview hmem,
      hitems, List.zipWith_zipWith_map, List.zipWith_map_right,
      List.map_zipWith, List.map_zipWith]
    exact List.zipWith_congr_of_forall₂ hcolumns fun item column hcolumn =>
      bare_bindItem hview hmem' hcolumn
  · rw [reportColumns_image hview hmem, reportColumns_asReport hview hmem,
      List.map_map, List.map_map]
    rfl

end Plan

end ReportQuery
