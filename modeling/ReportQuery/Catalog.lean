import ReportQuery.Statement
import ReportQuery.Text.Search

/-!
# The catalog

A catalog holds the reports that a service offers and the views that users
stored on top of them. A table is looked up by its name, a column by the name
it is queried with. Reports are listed before views, each kind in the order of
the catalog.
-/

namespace ReportQuery

/-- A column of a table. -/
structure TableColumn where
  /-- The name in the table that the values come from. -/
  name : String
  /-- The name that a view gives to the column, when it is another. -/
  aliasName : Option String := none
  /-- The tag of the column's type. -/
  kind : String := "STRING"
  segment : Bool := false
  zeroImpressions : Bool := false
  enumValues : List String := []
  /-- Columns that cannot be selected together with this one. -/
  incompatible : List String := []
  /-- The aggregate method that a view applies to the column. -/
  method : Option String := none
  distinct : Bool := false
deriving DecidableEq, Repr

/-- The name that the column is queried with. -/
def TableColumn.label (column : TableColumn) : String :=
  column.aliasName.getD column.name

/-- The clauses that a view stores; its columns are those of its table. -/
structure View where
  source : String
  primaryKey : String
  conditions : List Condition := []
  during : Option During := none
  groupBy : List ColumnPosition := []
  orderBy : List OrderEntry := []
  limit : Option Limit := none
deriving DecidableEq, Repr

/-- A report or a view. -/
structure Table where
  name : String
  /-- The column that `COUNT(*)` counts. -/
  aggregateColumn : String
  columns : List TableColumn
  view : Option View := none
deriving DecidableEq, Repr

namespace Table

/-- Whether the table is a view. -/
def isView (table : Table) : Bool :=
  table.view.isSome

/-- The first column that is queried with a name. -/
def column? (table : Table) (label : String) : Option TableColumn :=
  table.columns.find? fun column => column.label == label

/-- Whether a column is queried with a name. -/
def hasColumn (table : Table) (label : String) : Bool :=
  (table.column? label).isSome

end Table

/-- Why the catalog refuses a request. -/
inductive CatalogError where
  | unknownTable (name : String)
  | unknownColumn (table column : String)
  /-- A report has the name, or a view that the statement may not replace. -/
  | tableExists (name : String)
  /-- The names given to a view's columns do not fit its select list. -/
  | columnCount (expected found : Nat)
  /-- The catalog is empty. -/
  | noTable
deriving DecidableEq, Repr

/-- The message of the error. -/
def CatalogError.message : CatalogError → String
  | unknownTable name => "DatabaseError.UNKNOWN_TABLE (" ++ name ++ ")"
  | unknownColumn table column =>
    "DatabaseError.UNKNOWN_COLUMN (" ++ column ++ " in " ++ table ++ ")"
  | tableExists name => "DatabaseError.TABLE_EXISTS (" ++ name ++ ")"
  | columnCount expected found =>
    "DatabaseError.COLUMNS_NOT_MATCH (" ++ expected.repr ++ " != " ++
      found.repr ++ ")"
  | noTable => "DatabaseError.NO_TABLE"

/-- The column that a table is queried with under a name. -/
def Table.column (table : Table) (label : String) :
    Except CatalogError TableColumn :=
  match table.column? label with
  | some column => .ok column
  | none => .error (.unknownColumn table.name label)

/-- The tables of one version of the reporting service. -/
structure Catalog where
  version : String
  tables : List Table
deriving DecidableEq, Repr

namespace Catalog

/-- The first table with a name. -/
def table? (catalog : Catalog) (name : String) : Option Table :=
  catalog.tables.find? fun table => table.name == name

/-- The table with a name. -/
def table (catalog : Catalog) (name : String) : Except CatalogError Table :=
  match catalog.table? name with
  | some table => .ok table
  | none => .error (.unknownTable name)

/-- A column of the table with a name. -/
def column (catalog : Catalog) (name label : String) :
    Except CatalogError TableColumn :=
  (catalog.table name).bind fun table =>
    match table.column? label with
    | some column => .ok column
    | none => .error (.unknownColumn name label)

/-- Reports, then views. -/
def listing (catalog : Catalog) : List Table :=
  catalog.tables.filter (fun table => !table.isView) ++
    catalog.tables.filter Table.isView

/-- Every table; an empty catalog has none to show. -/
def listAll (catalog : Catalog) : Except CatalogError (List Table) :=
  if catalog.tables.isEmpty then .error .noTable else .ok catalog.listing

/-- The tables whose name begins with a text. -/
def startingWith (catalog : Catalog) (start : String) : List Table :=
  catalog.listing.filter fun table =>
    Text.startsWith start.toList table.name.toList

/-- The tables whose name ends with a text. -/
def endingWith (catalog : Catalog) (stop : String) : List Table :=
  catalog.listing.filter fun table =>
    Text.endsWith stop.toList table.name.toList

/-- The tables whose name holds a text. -/
def containing (catalog : Catalog) (part : String) : List Table :=
  catalog.listing.filter fun table =>
    Text.contains part.toList table.name.toList

/-- The tables that are queried with a column. -/
def withColumn (catalog : Catalog) (label : String) : List Table :=
  catalog.listing.filter fun table => table.hasColumn label

theorem table_eq_ok_iff {catalog : Catalog} {name : String} {table : Table} :
    catalog.table name = .ok table ↔ catalog.table? name = some table := by
  unfold Catalog.table
  split <;> simp_all

end Catalog

end ReportQuery
