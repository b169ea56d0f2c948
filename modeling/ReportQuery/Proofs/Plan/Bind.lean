import ReportQuery.Plan.Bind
import ReportQuery.Proofs.Catalog.StoredView

/-!
# Binding a statement to its report

A statement is bound when its report exists, every entry has a column there,
and so has every condition. The bound statement is then made of these columns.
-/

namespace ReportQuery.Plan

theorem checkConditions_eq_ok_iff {table : Table}
    {conditions : List Condition} :
    checkConditions table conditions = .ok () ↔
      ∀ c ∈ conditions, table.hasColumn c.column = true := by
  induction conditions with
  | nil => simp [checkConditions]
  | cons c rest ih =>
      by_cases hcolumn : table.hasColumn c.column = true
      · simp [checkConditions, hcolumn, ih]
      · simp [checkConditions, hcolumn]

/-- The bound statement of entries with columns. -/
def boundSelect (s : Select) (table : Table) (columns : List TableColumn) :
    BoundSelect :=
  let reportColumns := (columns.map TableColumn.name).eraseDups
  { source := table.name
    columns := List.zipWith (bindItem reportColumns) s.items columns
    reportColumns
    conditions := s.conditions
    during := s.during
    groupBy := s.groupBy.map fun p => p.position - 1
    orderBy := s.orderBy.map fun entry =>
      ⟨entry.target.position - 1, entry.descending⟩
    limit := s.limit
    vertical := s.terminator == .vertical }

theorem bind_eq_ok_iff {catalog : Catalog} {s : Select} {bound : BoundSelect} :
    bind catalog s = .ok bound ↔
      ∃ table columns, catalog.table? s.source = some table ∧
        List.Forall₂ (fun item column => boundColumn table item = .ok column)
          s.items columns ∧
        (∀ c ∈ s.conditions, table.hasColumn c.column = true) ∧
        boundSelect s table columns = bound := by
  constructor
  · intro h
    obtain ⟨table, htable, h⟩ := Except.bind_eq_ok_iff.mp h
    obtain ⟨columns, hcolumns, h⟩ := Except.bind_eq_ok_iff.mp h
    obtain ⟨⟨⟩, hconditions, h⟩ := Except.bind_eq_ok_iff.mp h
    exact ⟨table, columns,
      Catalog.table_eq_ok_iff.mp (Except.mapError_eq_ok_iff.mp htable),
      Except.mapM_eq_ok_iff.mp hcolumns,
      checkConditions_eq_ok_iff.mp hconditions, Except.ok.inj h⟩
  · rintro ⟨table, columns, htable, hcolumns, hconditions, rfl⟩
    refine Except.bind_eq_ok_iff.mpr
      ⟨table, Except.mapError_eq_ok_iff.mpr
        (Catalog.table_eq_ok_iff.mpr htable), ?_⟩
    refine Except.bind_eq_ok_iff.mpr
      ⟨columns, Except.mapM_eq_ok_iff.mpr hcolumns, ?_⟩
    exact Except.bind_eq_ok_iff.mpr
      ⟨(), checkConditions_eq_ok_iff.mpr hconditions, rfl⟩

/-- An entry whose name is no star is bound to the column that is queried with
its name. -/
theorem boundColumn_eq_ok_iff {table : Table} {item : SelectItem}
    (hname : item.name ≠ starName) {column : TableColumn} :
    boundColumn table item = .ok column ↔
      table.column? item.name = some column := by
  have hbeq : (item.name == starName) = false := by
    rw [beq_eq_false_iff_ne]
    exact hname
  have hstar : item.isStar = false := by simp [SelectItem.isStar, hbeq]
  rw [boundColumn, hstar, hbeq]
  change (table.column item.name).mapError QueryError.catalog = .ok column ↔ _
  rw [Except.mapError_eq_ok_iff]
  rw [Table.column]
  cases table.column? item.name <;> simp

theorem exists_boundColumn_iff {table : Table} {item : SelectItem}
    (hstar : item.isStar = false) :
    (∃ column, boundColumn table item = .ok column) ↔
      table.serves item.name = true := by
  simp only [boundColumn, hstar, Table.serves, Table.hasColumn, Table.column]
  cases table.column?
    (if item.name == starName then table.aggregateColumn else item.name) with
  | none => simp
  | some column => simp

/-- A statement without a star is bound when its report has the columns of its
entries and of its conditions. -/
theorem exists_bind_iff {catalog : Catalog} {s : Select} {report : Table}
    (htable : catalog.table? s.source = some report)
    (hstar : ∀ item ∈ s.items, item.isStar = false) :
    (∃ bound, bind catalog s = .ok bound) ↔
      (∀ item ∈ s.items, report.serves item.name = true) ∧
        ∀ c ∈ s.conditions, report.hasColumn c.column = true := by
  have hcolumns :
      (∃ columns, List.Forall₂
        (fun item column => boundColumn report item = .ok column)
      s.items columns) ↔ ∀ item ∈ s.items, report.serves item.name = true := by
    rw [List.exists_forall₂_iff]
    exact forall₂_congr fun item hitem =>
      exists_boundColumn_iff (hstar item hitem)
  rw [← hcolumns]
  constructor
  · rintro ⟨bound, hbound⟩
    obtain ⟨table, columns, htable', hforall, hconditions, -⟩ :=
      bind_eq_ok_iff.mp hbound
    obtain rfl := Option.some.inj (htable.symm.trans htable')
    exact ⟨⟨columns, hforall⟩, hconditions⟩
  · rintro ⟨⟨columns, hforall⟩, hconditions⟩
    exact ⟨_, bind_eq_ok_iff.mpr ⟨report, columns, htable, hforall,
      hconditions, rfl⟩⟩

end ReportQuery.Plan
