import ReportQuery.Catalog
import ReportQuery.Report.ResultSet

/-!
# Showing the catalog

DESC shows the columns of a table, and SHOW TABLES the names of tables, as
result sets of texts.
-/

namespace ReportQuery

/-- The part of a column in the keys of its table. -/
def TableColumn.keyText (column : TableColumn) (table : Table) : String :=
  if column.segment then "MUL"
  else if column.label = table.aggregateColumn then "PRI" else ""

/-- The row of a column in the answer to DESC. -/
def TableColumn.describeRow (column : TableColumn) (table : Table)
    (full : Bool) : List Cell :=
  [Cell.text column.label, Cell.text column.kind,
    Cell.text (column.keyText table),
    Cell.text (if column.zeroImpressions then "YES" else "NO")] ++ if full then
      [Cell.text (Text.join ", " column.enumValues),
        Cell.text (Text.join ", " column.incompatible)]
    else []

/-- The row of a table in the answer to SHOW TABLES. -/
def Table.showRow (table : Table) (full : Bool) : List Cell :=
  Cell.text table.name ::
    if full then [Cell.text (if table.isView then "VIEW" else "BASE TABLE")]
    else []

namespace Catalog

/-- The names of the columns in the answer to DESC. -/
def describeNames (full : Bool) : List String :=
  ["Field", "Type", "Key", "Supports_Zero_Impressions"] ++
    if full then ["Enum", "Not_compatible_with"] else []

/-- The columns that a DESC statement asks for. -/
def describedColumns (statement : Describe) (table : Table) :
    Except CatalogError (List TableColumn) :=
  match statement.column with
  | some label => (table.column label).map fun column => [column]
  | none => .ok table.columns

/-- The answer to a DESC statement. -/
def describe (catalog : Catalog) (statement : Describe) :
    Except CatalogError ResultSet := do
  let table ← catalog.table statement.source
  let columns ← describedColumns statement table
  let rows := columns.map fun column => column.describeRow table statement.full
  return { ResultSet.ofRows (describeNames statement.full) rows with
    vertical := statement.terminator == .vertical }

/-- The tables whose names fit a pattern. -/
def matching (catalog : Catalog) : NamePattern → List Table
  | .exactly name => (catalog.table? name).toList
  | .leading start => catalog.startingWith start
  | .trailing stop => catalog.endingWith stop
  | .within part => catalog.containing part

/-- The tables that a SHOW TABLES statement asks for. -/
def shownTables (catalog : Catalog) (statement : ShowTables) :
    Except CatalogError (List Table) :=
  match statement.like, statement.column with
  | some pattern, some label =>
    .ok ((catalog.matching pattern).filter fun table => table.hasColumn label)
  | some pattern, none => .ok (catalog.matching pattern)
  | none, some label => .ok (catalog.withColumn label)
  | none, none => catalog.listAll

/-- The names of the columns in the answer to SHOW TABLES. -/
def showNames (catalog : Catalog) (full : Bool) : List String :=
  ("Tables_in_" ++ catalog.version) :: if full then ["Table_type"] else []

/-- The answer to a SHOW TABLES statement. -/
def showTables (catalog : Catalog) (statement : ShowTables) :
    Except CatalogError ResultSet := do
  let tables ← catalog.shownTables statement
  let rows := tables.map fun table => table.showRow statement.full
  return { ResultSet.ofRows (catalog.showNames statement.full) rows with
    vertical := statement.terminator == .vertical }

end Catalog

end ReportQuery
