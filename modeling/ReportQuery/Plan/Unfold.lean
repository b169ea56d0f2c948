import ReportQuery.QueryError

/-!
# Unfolding views

A SELECT on a view becomes a SELECT on the view's source, one level at a time.
Columns of the view turn into columns of its source and take over its aggregate
methods. Conditions of both apply, days are those in both ranges, and the limit
stays within the view's. GROUP BY and ORDER BY of the view apply when the
statement has none, as far as their columns are still selected.
-/

namespace ReportQuery.Plan

/-- How many levels of views a statement may go through. -/
def maxDepth : Nat := 16

/-- The aggregate method that a view applies to a column; a star without method
counts rows. -/
def viewMethod (column : TableColumn) :
    Except QueryError (Option AggregateFunction) :=
  match column.method with
  | some name =>
    match AggregateFunction.ofName? name with
    | some function => .ok (some function)
    | none => .error (.unknownMethod name)
  | none => .ok (if column.name == starName then some .count else none)

/-- The entry of the source that a star shows for a column of the view. -/
def expandColumn (column : TableColumn) : Except QueryError SelectItem :=
  (viewMethod column).map fun function =>
    { column := { name := column.name, aliasName := column.aliasName }
      function
      distinct := column.distinct }

/-- The aggregate method of an entry: its own, or else that of the view's
column. -/
def mappedMethod (item : SelectItem) (column : TableColumn) :
    Except QueryError (Option AggregateFunction) :=
  match item.function with
  | some function => .ok (some function)
  | none => viewMethod column

/-- The entry of the source that shows a column of the view as an entry asks
for it. -/
def mapColumn (item : SelectItem) (column : TableColumn) :
    Except QueryError SelectItem :=
  (mappedMethod item column).map fun function =>
    { column := {
        name := column.name
        aliasName := (some item.label).filter fun name => name != column.name }
      function
      distinct := item.distinct || column.distinct }

/-- The entry of the source for an entry that is no star; `COUNT(*)` counts
rows of the source. -/
def mapItem (table : Table) (item : SelectItem) :
    Except QueryError SelectItem :=
  if item.name == starName then .ok item
  else
    match table.column? item.name with
    | some column => mapColumn item column
    | none => .error (.catalog (.unknownColumn table.name item.name))

/-- The entries of the source for an entry of the statement: one, or all
columns for a star. -/
def images (table : Table) (item : SelectItem) :
    Except QueryError (List SelectItem) :=
  if item.isStar then table.columns.mapM expandColumn
  else (mapItem table item).map fun image => [image]

/-- The entry at an index of a select list, as a position. -/
def positionAt? (items : List SelectItem) (index : Nat) :
    Option ColumnPosition :=
  items[index]?.map fun item => ⟨item.column, index + 1⟩

/-- A position of the statement in the select list made of `blocks`: the first
image of its entry. -/
def remapPosition (blocks : List (List SelectItem)) (p : ColumnPosition) :
    Option ColumnPosition :=
  if 1 ≤ p.position ∧ p.position ≤ blocks.length then
    positionAt? blocks.flatten (blocks.take (p.position - 1)).flatten.length
  else none

/-- The name in the source of a column that a clause of the view refers to. -/
def sourceName (table : Table) (p : ColumnPosition) : String :=
  if p.position = 0 then p.column.name
  else ((table.columns[p.position - 1]?).map TableColumn.name).getD
    p.column.name

/-- A position of the view in a select list on its source: the first entry with
its column. -/
def adoptPosition (table : Table) (items : List SelectItem)
    (p : ColumnPosition) : Option ColumnPosition :=
  (items.findIdx? fun item => item.name == sourceName table p).bind
    (positionAt? items)

/-- Positions without those that came before. -/
def distinctPositions (positions : List ColumnPosition) : List ColumnPosition :=
  positions.foldl
    (fun kept p =>
      if kept.any (fun q => q.position == p.position) then kept
      else kept ++ [p]) []

/-- The GROUP BY clause on the source. -/
def mergeGroupBy (own shown : List ColumnPosition) (table : Table)
    (blocks : List (List SelectItem)) : List ColumnPosition :=
  let kept := own.filterMap (remapPosition blocks)
  if kept.isEmpty then
    distinctPositions (shown.filterMap (adoptPosition table blocks.flatten))
  else kept

/-- An ORDER BY entry whose target moves. -/
def retarget (move : ColumnPosition → Option ColumnPosition)
    (entry : OrderEntry) : Option OrderEntry :=
  (move entry.target).map fun target => { entry with target }

/-- The ORDER BY clause on the source. -/
def mergeOrderBy (own shown : List OrderEntry) (table : Table)
    (blocks : List (List SelectItem)) : List OrderEntry :=
  let kept := own.filterMap (retarget (remapPosition blocks))
  if kept.isEmpty then
    shown.filterMap (retarget (adoptPosition table blocks.flatten))
  else kept

/-- A condition on a column of a view as a condition on the source. -/
def renameCondition (table : Table) (c : Condition) :
    Except QueryError Condition :=
  match table.column? c.column with
  | some column => .ok { c with column := column.name }
  | none => .error (.catalog (.unknownColumn table.name c.column))

/-- The conditions of a view that are not among those of the statement; on a
column that both filter, all conditions of the statement have to be that of the
view. -/
def addedConditions (view : String) (own : List Condition) :
    List Condition → Except QueryError (List Condition)
  | [] => .ok []
  | c :: rest =>
    let same := own.filter fun d => d.column == c.column
    if same.isEmpty then
      (addedConditions view own rest).map fun added => c :: added
    else if same.all fun d => d == c then addedConditions view own rest
    else .error (.outOfScope (.filteredByView c.column view))

/-- The WHERE clause on the source. -/
def mergeConditions (own shown : List Condition) (table : Table) :
    Except QueryError (List Condition) :=
  (own.mapM (renameCondition table)).bind fun own =>
    (addedConditions table.name own shown).map fun added => own ++ added

/-- The days that a clause asks for on a given day. -/
def resolveDays (today : Day) : During → DaySpan
  | .named range => range.resolve today
  | .days span => span

/-- The DURING clause on the source: the days in both ranges. -/
def mergeDuring (today : Day) (own shown : Option During) :
    Except QueryError (Option During) :=
  match own, shown with
  | some own, some shown =>
    if own = shown then .ok (some own)
    else
      let asked := resolveDays today own
      let allowed := resolveDays today shown
      if asked.stop < allowed.start ∨ allowed.stop < asked.start then
        .error (.outOfScope (.disjointDays own shown))
      else
        let start := Day.later asked.start allowed.start
        let stop := Day.earlier asked.stop allowed.stop
        .ok (some (.days ⟨start, stop⟩))
  | own, shown => .ok (own.or shown)

/-- The LIMIT clause on the source: the greater offset and the smaller number
of rows. -/
def mergeLimit (own shown : Option Limit) : Option Limit :=
  match own, shown with
  | some own, some shown =>
    some ⟨max own.offset shown.offset, min own.count shown.count⟩
  | own, shown => own.or shown

/-- A SELECT on a view as a SELECT on the view's source. -/
def merge (today : Day) (select : Select) (table : Table) (view : View) :
    Except QueryError Select := do
  let blocks ← select.items.mapM (images table)
  let conditions ← mergeConditions select.conditions view.conditions table
  let during ← mergeDuring today select.during view.during
  return {
    items := blocks.flatten
    source := view.source
    conditions
    during
    groupBy := mergeGroupBy select.groupBy view.groupBy table blocks
    orderBy := mergeOrderBy select.orderBy view.orderBy table blocks
    limit := mergeLimit select.limit view.limit
    terminator := select.terminator }

/-- Unfold at most `depth` tests for a view. -/
def unfoldWithin (catalog : Catalog) (today : Day) :
    Nat → Select → Except QueryError Select
  | 0, _ => .error (.outOfScope (.tooManyViews maxDepth))
  | depth + 1, select =>
    match catalog.table? select.source with
    | none => .error (.catalog (.unknownTable select.source))
    | some table =>
      match table.view with
      | none => .ok select
      | some view =>
          (merge today select table view).bind
            (unfoldWithin catalog today depth)

/-- Unfold every view that a SELECT reads from. -/
def unfold (catalog : Catalog) (today : Day) (select : Select) :
    Except QueryError Select :=
  unfoldWithin catalog today maxDepth select

end ReportQuery.Plan
