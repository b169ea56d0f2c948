import ReportQuery.Plan.Unfold

/-!
# Binding columns

The entries of a SELECT on a report are bound to the report's columns. A bound
statement knows the type of every output column, its function, and where its
raw value stands in a downloaded record. Each report column is downloaded once,
in the order of first use.
-/

namespace ReportQuery

/-- An output column. -/
structure BoundColumn where
  /-- The report column that the values come from. -/
  name : String
  label : String
  /-- The tag of the column's type. -/
  kind : String
  function : Option AggregateFunction
  distinct : Bool
  /-- Where the raw value stands in a record. -/
  index : Nat
deriving DecidableEq, Repr

/-- A key of a sort: an output column and a direction. -/
structure SortKey where
  index : Nat
  descending : Bool
deriving DecidableEq, Repr

/-- A SELECT that is ready to run. -/
structure BoundSelect where
  source : String
  columns : List BoundColumn
  /-- The report columns to download, in the order of first use. -/
  reportColumns : List String
  conditions : List Condition
  during : Option During
  /-- Indices of output columns. -/
  groupBy : List Nat
  orderBy : List SortKey
  limit : Option Limit
  vertical : Bool
deriving DecidableEq, Repr

namespace BoundSelect

/-- Whether rows collapse even without GROUP BY. -/
def collapses (bound : BoundSelect) : Bool :=
  bound.columns.any fun column => column.distinct || column.function.isSome

/-- The statement that asks the service for the report columns. -/
def request (bound : BoundSelect) : Select :=
  { items := bound.reportColumns.map fun name => { column := { name } }
    source := bound.source
    conditions := bound.conditions
    during := bound.during }

/-- The text of the statement that asks for the report. -/
def query (bound : BoundSelect) : String :=
  bound.request.reducedText

/-- The names of the output columns. -/
def labels (bound : BoundSelect) : List String :=
  bound.columns.map BoundColumn.label

end BoundSelect

namespace Plan

/-- The report column of an entry; a star is no column, and `COUNT(*)` counts
one. -/
def boundColumn (table : Table) (item : SelectItem) :
    Except QueryError TableColumn :=
  if item.isStar then .error (.catalog (.unknownColumn table.name starName))
  else
    let label :=
      if item.name == starName then table.aggregateColumn else item.name
    (table.column label).mapError .catalog

/-- An entry bound to its column among the columns to download. -/
def bindItem (reportColumns : List String) (item : SelectItem)
    (column : TableColumn) : BoundColumn :=
  { name := column.name
    label := item.column.aliasName.getD column.name
    kind := column.kind
    function := item.function
    distinct := item.distinct
    index := reportColumns.idxOf column.name }

/-- Every condition has to be on a column of the report. -/
def checkConditions (table : Table) : List Condition → Except QueryError Unit
  | [] => .ok ()
  | c :: rest =>
    if table.hasColumn c.column then checkConditions table rest
    else .error (.catalog (.unknownColumn table.name c.column))

/-- Bind a SELECT on a report. -/
def bind (catalog : Catalog) (select : Select) :
    Except QueryError BoundSelect := do
  let table ← (catalog.table select.source).mapError QueryError.catalog
  let columns ← select.items.mapM (boundColumn table)
  let reportColumns := (columns.map TableColumn.name).eraseDups
  checkConditions table select.conditions
  return {
    source := table.name
    columns := List.zipWith (bindItem reportColumns) select.items columns
    reportColumns
    conditions := select.conditions
    during := select.during
    groupBy := select.groupBy.map fun p => p.position - 1
    orderBy := select.orderBy.map fun entry =>
      ⟨entry.target.position - 1, entry.descending⟩
    limit := select.limit
    vertical := select.terminator == .vertical }

/-- Unfold the views of a SELECT and bind it to its report. -/
def prepare (catalog : Catalog) (today : Day) (select : Select) :
    Except QueryError BoundSelect :=
  (unfold catalog today select).bind (bind catalog)

end Plan

end ReportQuery
