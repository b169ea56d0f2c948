import ReportQuery.Calendar.Layout
import ReportQuery.Catalog
import ReportQuery.Json.Printer
import ReportQuery.Json.Reader

/-!
# Catalog documents

A catalog is stored as a JSON document. Members that hold nothing are left out,
and a missing member reads as nothing. A record may also be an array of its
members in order, the two days of a DURING clause apart. Unknown members are
passed over, and a member that is given twice makes the document malformed.
-/

namespace ReportQuery

namespace JsonValue

/-- The member of a name, when at most one member has it. -/
def uniqueMember (members : List (String × JsonValue)) (name : String) :
    Option (Option JsonValue) :=
  match members.filter fun member => member.1 == name with
  | [] => some none
  | [member] => some (some member.2)
  | _ => none

/-- The members of a record by name, or by position when the record is an
array. -/
def record? (names : List String) : JsonValue → Option (List (Option JsonValue))
  | object members => names.mapM (uniqueMember members)
  | array items =>
    if items.length ≤ names.length then
      some (items.map some ++ List.replicate (names.length - items.length) none)
    else none
  | _ => none

/-- A member that has to be there. -/
def required {α : Type} (read : JsonValue → Option α)
    (member : Option JsonValue) : Option α :=
  member.bind read

/-- A member that may be missing. -/
def withDefault {α : Type} (default : α) (read : JsonValue → Option α) :
    Option JsonValue → Option α
  | none => some default
  | some value => read value

/-- A member that may be missing or null. -/
def optionalMember {α : Type} (read : JsonValue → Option α) :
    Option JsonValue → Option (Option α)
  | none => some none
  | some null => some none
  | some value => (read value).map some

/-- A text. -/
def readText? : JsonValue → Option String
  | text s => some s
  | _ => none

/-- A truth value. -/
def readBool? : JsonValue → Option Bool
  | bool b => some b
  | _ => none

/-- A whole number of an unsigned word. -/
def readWord? : JsonValue → Option Nat
  | integer n => if 0 ≤ n ∧ n < Numeral.wordBound then some n.toNat else none
  | _ => none

/-- An array of values of one form. -/
def readList? {α : Type} (read : JsonValue → Option α) :
    JsonValue → Option (List α)
  | array items => items.mapM read
  | _ => none

/-- The name of a variant: a text, or an object with null under that name. -/
def readVariant? : JsonValue → Option String
  | text s => some s
  | object [(name, null)] => some name
  | _ => none

/-- A day with hyphens, where blanks may stand around the numbers. -/
def readDay? (value : JsonValue) : Option Day :=
  (readText? value).bind Calendar.Layout.spacedDate.readDay?

/-- How deep the value of a DURING clause may be nested inside its document. -/
def duringDepth : Nat := 123

/-- A member that is written only when there is something to write. -/
def memberUnless (absent : Bool) (name : String) (value : JsonValue) :
    List (String × JsonValue) :=
  if absent then [] else [(name, value)]

/-- A member that is written only when it has a value. -/
def optionMember {α : Type} (name : String) (write : α → JsonValue) :
    Option α → List (String × JsonValue)
  | none => []
  | some a => [(name, write a)]

/-- A member that is written only when it has items. -/
def listMember {α : Type} (name : String) (write : α → JsonValue)
    (items : List α) : List (String × JsonValue) :=
  memberUnless items.isEmpty name (array (items.map write))

end JsonValue

open JsonValue

namespace ColumnRef

/-- The document form of a column. -/
def toJson (column : ColumnRef) : JsonValue :=
  object ([("name", text column.name)] ++
    optionMember "alias" text column.aliasName)

/-- The column that a document form denotes. -/
def ofJson? (value : JsonValue) : Option ColumnRef := do
  match ← record? ["name", "alias"] value with
  | [name, other] =>
    some { name := ← required readText? name,
           aliasName := ← optionalMember readText? other }
  | _ => none

end ColumnRef

namespace ColumnPosition

/-- The document form of a position. -/
def toJson (position : ColumnPosition) : JsonValue :=
  object [("column", position.column.toJson),
    ("position", nat position.position)]

/-- The position that a document form denotes. -/
def ofJson? (value : JsonValue) : Option ColumnPosition := do
  match ← record? ["column", "position"] value with
  | [column, position] =>
    some {
      column := ← required ColumnRef.ofJson? column
      position := ← required readWord? position }
  | _ => none

end ColumnPosition

namespace Condition

/-- The document form of a condition. -/
def toJson (condition : Condition) : JsonValue :=
  object [("column", text condition.column),
    ("operator", text condition.operator.documentName),
    ("values", texts condition.values), ("literal", bool condition.literal)]

/-- The condition that a document form denotes. -/
def ofJson? (value : JsonValue) : Option Condition := do
  match ← record? ["column", "operator", "values", "literal"] value with
  | [column, operator, values, literal] =>
    some {
      column := ← required readText? column
      operator :=
        ← required (fun v => (readVariant? v).bind Operator.ofDocumentName?)
          operator
      values := ← required (readList? readText?) values
      literal := ← withDefault false readBool? literal }
  | _ => none

end Condition

namespace During

/-- The document form of the days of a clause: a name, or an object with two
days. -/
def toJson : During → JsonValue
  | named range => text range.word
  | days span =>
    object [("start", text (Calendar.Layout.date.writeDay span.start)),
      ("end", text (Calendar.Layout.date.writeDay span.stop))]

/-- The two days that an object denotes. -/
def spanOfJson? : JsonValue → Option DaySpan
  | object members => do
    let start ← required readDay? (← uniqueMember members "start")
    let stop ← required readDay? (← uniqueMember members "end")
    some ⟨start, stop⟩
  | _ => none

/-- The days that a document form denotes: a name where one is meant, else two
days. -/
def ofJson? (value : JsonValue) : Option During :=
  if value.isReadable && value.depth ≤ duringDepth then
    match (readVariant? value).bind NamedRange.ofExactWord? with
    | some range => some (named range)
    | none => (spanOfJson? value).map days
  else none

end During

namespace OrderEntry

/-- The document form of an ORDER BY entry. -/
def toJson (entry : OrderEntry) : JsonValue :=
  object [("column", entry.target.toJson), ("desc", bool entry.descending)]

/-- The ORDER BY entry that a document form denotes. -/
def ofJson? (value : JsonValue) : Option OrderEntry := do
  match ← record? ["column", "desc"] value with
  | [target, descending] =>
    some {
      target := ← required ColumnPosition.ofJson? target
      descending := ← withDefault false readBool? descending }
  | _ => none

end OrderEntry

namespace Limit

/-- The document form of a LIMIT clause. -/
def toJson (limit : Limit) : JsonValue :=
  object [("offset", nat limit.offset), ("row_count", nat limit.count)]

/-- The LIMIT clause that a document form denotes. -/
def ofJson? (value : JsonValue) : Option Limit := do
  match ← record? ["offset", "row_count"] value with
  | [offset, count] =>
    some { offset := ← withDefault 0 readWord? offset,
           count := ← required readWord? count }
  | _ => none

end Limit

namespace View

/-- The document form of a view's clauses. -/
def toJson (view : View) : JsonValue :=
  object ([("source", text view.source),
    ("primary_key", text view.primaryKey)] ++
    listMember "conditions" Condition.toJson view.conditions ++
    optionMember "during" During.toJson view.during ++
    listMember "group_by" ColumnPosition.toJson view.groupBy ++
    listMember "order_by" OrderEntry.toJson view.orderBy ++
    optionMember "limit" Limit.toJson view.limit)

/-- The clauses of a view that a document form denotes. -/
def ofJson? (value : JsonValue) : Option View := do
  let names :=
    ["source", "primary_key", "conditions", "during", "group_by",
      "order_by", "limit"]
  match ← record? names value with
  | [source, primaryKey, conditions, during, groupBy, orderBy, limit] =>
    some {
      source := ← required readText? source
      primaryKey := ← required readText? primaryKey
      conditions := ← withDefault [] (readList? Condition.ofJson?) conditions
      during := ← optionalMember During.ofJson? during
      groupBy := ← withDefault [] (readList? ColumnPosition.ofJson?) groupBy
      orderBy := ← withDefault [] (readList? OrderEntry.ofJson?) orderBy
      limit := ← optionalMember Limit.ofJson? limit }
  | _ => none

end View

namespace TableColumn

/-- The document form of a column. -/
def toJson (column : TableColumn) : JsonValue :=
  object ([("name", text column.name)] ++
    optionMember "alias" text column.aliasName ++
    [("type", text column.kind), ("segment", bool column.segment),
      ("zero_impressions", bool column.zeroImpressions)] ++
    listMember "enum_values" text column.enumValues ++
    listMember "incompatible" text column.incompatible ++
    optionMember "method" text column.method ++
    memberUnless (!column.distinct) "distinct" (bool column.distinct))

/-- The column that a document form denotes. -/
def ofJson? (value : JsonValue) : Option TableColumn := do
  let names := ["name", "alias", "type", "segment", "zero_impressions",
    "enum_values", "incompatible", "method", "distinct"]
  match ← record? names value with
  | [name, other, kind, segment, zeroImpressions, enumValues, incompatible,
      method, distinct] =>
    some {
      name := ← required readText? name
      aliasName := ← optionalMember readText? other
      kind := ← withDefault "STRING" readText? kind
      segment := ← withDefault false readBool? segment
      zeroImpressions := ← withDefault false readBool? zeroImpressions
      enumValues := ← withDefault [] (readList? readText?) enumValues
      incompatible := ← withDefault [] (readList? readText?) incompatible
      method := ← optionalMember readText? method
      distinct := ← withDefault false readBool? distinct }
  | _ => none

end TableColumn

namespace Table

/-- The document form of a table. -/
def toJson (table : Table) : JsonValue :=
  object ([("name", text table.name),
      ("aggregate_field", text table.aggregateColumn),
      ("fields", array (table.columns.map TableColumn.toJson))] ++
    optionMember "view" View.toJson table.view)

/-- The table that a document form denotes. -/
def ofJson? (value : JsonValue) : Option Table := do
  match ← record? ["name", "aggregate_field", "fields", "view"] value with
  | [name, aggregateColumn, columns, view] =>
    some {
      name := ← required readText? name
      aggregateColumn := ← required readText? aggregateColumn
      columns := ← required (readList? TableColumn.ofJson?) columns
      view := ← optionalMember View.ofJson? view }
  | _ => none

end Table

namespace Catalog

/-- The document form of a catalog. -/
def toJson (catalog : Catalog) : JsonValue :=
  object [("version", text catalog.version),
    ("tables", array (catalog.tables.map Table.toJson))]

/-- The catalog that a document form denotes. -/
def ofJson? (value : JsonValue) : Option Catalog := do
  match ← record? ["version", "tables"] value with
  | [version, tables] =>
    some {
      version := ← required readText? version
      tables := ← required (readList? Table.ofJson?) tables }
  | _ => none

/-- The text of the document that stores a catalog. -/
def document (catalog : Catalog) : String :=
  catalog.toJson.toText

/-- The catalog that a document stores. -/
def ofDocument? (document : String) : Option Catalog :=
  (JsonValue.ofText? document).bind ofJson?

end Catalog

end ReportQuery
