import ReportQuery.Catalog

/-!
# Storing views

A CREATE VIEW statement describes a table: its columns are the entries of the
select list with the metadata of their source columns, and the other clauses
are kept beside them. A stored view takes the place of the view with its name,
when the statement says OR REPLACE, or comes after all tables.
-/

namespace ReportQuery

/-- A column of a source as a view shows it without change. -/
def TableColumn.exposed (column : TableColumn) : TableColumn :=
  { column with name := column.label, aliasName := none, method := none,
                distinct := false }

/-- The source column whose metadata an entry takes; `COUNT(*)` takes that of
the column it counts. -/
def Table.metadata (source : Table) (item : SelectItem) :
    Except CatalogError TableColumn :=
  let label :=
    if item.name == starName then source.aggregateColumn else item.name
  match source.column? label with
  | some column => .ok column
  | none => .error (.unknownColumn source.name item.name)

/-- The column that an entry with an optional given name becomes. -/
def Table.viewColumn (source : Table) (item : SelectItem)
    (given : Option String) : Except CatalogError TableColumn :=
  (source.metadata item).map fun metadata =>
    { metadata with
      name := item.name
      aliasName := (given.or item.column.aliasName).filter fun name =>
        name != item.name
      method := item.function.map AggregateFunction.name
      distinct := item.distinct }

/-- The columns that the entry at an index becomes; a star becomes all columns
of the source, and then no names can be given. -/
def Table.viewColumns (source : Table) (names : List String) (item : SelectItem)
    (index : Nat) : Except CatalogError (List TableColumn) :=
  if item.isStar then
    if names.isEmpty then .ok (source.columns.map TableColumn.exposed)
    else .error (.columnCount source.columns.length names.length)
  else (source.viewColumn item names[index]?).map fun column => [column]

namespace Catalog

/-- Refuse the name of a report, and the name of a view unless it may be
replaced. -/
def checkName (catalog : Catalog) (statement : CreateView) :
    Except CatalogError Unit :=
  match catalog.table? statement.name with
  | some existing =>
    if statement.replace && existing.isView then .ok ()
    else .error (.tableExists statement.name)
  | none => .ok ()

/-- The table that a CREATE VIEW statement describes. -/
def viewTable (catalog : Catalog) (statement : CreateView) :
    Except CatalogError Table := do
  catalog.checkName statement
  let select := statement.select
  let names := statement.columns
  let source ← catalog.table select.source
  if !names.isEmpty && names.length != select.items.length then
    throw (.columnCount select.items.length names.length)
  let columns ← select.items.zipIdx.mapM fun (item, index) =>
      source.viewColumns names item index
  return {
    name := statement.name
    aggregateColumn := source.aggregateColumn
    columns := columns.flatten
    view := some {
      source := source.name
      primaryKey := source.aggregateColumn
      conditions := select.conditions
      during := select.during
      groupBy := select.groupBy
      orderBy := select.orderBy
      limit := select.limit } }

/-- Put a table in the place of the first one with its name, or after all
tables. -/
def put (table : Table) : List Table → List Table
  | [] => [table]
  | other :: rest =>
    if other.name == table.name then table :: rest else other :: put table rest

theorem find?_put_same (table : Table) (tables : List Table) :
    (put table tables).find? (fun other => other.name == table.name) =
      some table := by
  induction tables with
  | nil => simp [put]
  | cons other rest ih =>
    by_cases h : other.name = table.name
    · simp [put, h]
    · simpa [put, h] using ih

theorem find?_put_other {table : Table} {name : String} (h : name ≠ table.name)
    (tables : List Table) :
    (put table tables).find? (fun other => other.name == name) =
      tables.find? fun other => other.name == name := by
  induction tables with
  | nil => simp [put, h.symm]
  | cons other rest ih =>
    by_cases hname : other.name = table.name
    · simp [put, hname, h.symm]
    · by_cases hfound : other.name = name
      · simp [put, hfound, h]
      · simpa [put, hname, hfound] using ih

/-- Store the view that a statement describes. -/
def addView (catalog : Catalog) (statement : CreateView) :
    Except CatalogError Catalog :=
  (catalog.viewTable statement).map fun view =>
    { catalog with tables := put view catalog.tables }

end Catalog

end ReportQuery
