import ReportQuery.Cell.Cast
import ReportQuery.Decimal.Fixed
import ReportQuery.Hash
import ReportQuery.Plan.Bind

/-!
# Aggregation

The records of a report are typed and folded into groups. With GROUP BY a group
holds the records that agree on the grouped columns; without it, a statement
that collapses groups by its DISTINCT columns, all records together when there
is none. Agreement is that of the hashes of the raw values. Otherwise every
record is a row of its own. Groups keep the order of their first records.
-/

namespace ReportQuery

/-- The running state of an aggregate function within a group. -/
structure Accumulator where
  /-- The number of records. -/
  rows : Nat := 0
  /-- The number of records with a value that is set. -/
  valid : Nat := 0
  value : Option Float := none

namespace Accumulator

/-- The value after one more input, when `n` inputs gave the value before. -/
def combine (function : AggregateFunction) (n : Nat) (before : Option Float)
    (input : Float) : Option Float :=
  match function, before with
  | .count, _ => before
  | _, none => some input
  | .sum, some acc => some (acc + input)
  | .avg, some acc =>
    some ((acc * Float.ofNat n + input) / (Float.ofNat n + 1.0))
  | .max, some acc => some (if acc < input ∨ acc.isNaN then input else acc)
  | .min, some acc => some (if input < acc ∨ acc.isNaN then input else acc)

/-- Take one more input; an unset one only counts as a record. -/
def update (function : AggregateFunction) (state : Accumulator)
    (input : Option Float) : Accumulator :=
  match input with
  | none => { state with rows := state.rows + 1 }
  | some x =>
    { rows := state.rows + 1
      valid := state.valid + 1
      value := combine function state.valid state.value x }

/-- The cell of a finished group in a column of a kind. -/
def finish (function : AggregateFunction) (kind : Kind) (state : Accumulator) :
    Cell :=
  match function with
  | .count => Cell.float (some (Float.ofNat state.rows)) 0
  | .sum => Cell.float (some (state.value.getD 0.0)) kind.precision
  | .avg => Cell.float state.value kind.precision
  | .min | .max =>
    if kind.isCalendar then
      Cell.ofSeconds (state.value.map Decimal.wholePart) kind
    else Cell.float state.value kind.precision

end Accumulator

/-- What is known of one output column within a group. -/
structure Tally where
  /-- The cell of the latest record, for a column without function. -/
  cell : Cell := Cell.unset .text
  accumulator : Accumulator := {}

/-- A raw value as the input of a function, `none` when it is unset. -/
def numericInput (raw kind : String) : Except QueryError (Option Float) :=
  (Cell.cast raw kind).bind fun cell =>
    if cell.isUnset then .ok none
    else
      match cell.toFloat? with
      | some x => .ok (some x)
      | none => .error (.cast raw kind)

namespace BoundColumn

/-- The raw value of the column in a record. -/
def raw (column : BoundColumn) (record : List String) : String :=
  record[column.index]?.getD ""

/-- Take the value of one more record. -/
def step (column : BoundColumn) (record : List String) (tally : Tally) :
    Except QueryError Tally :=
  match column.function with
  | none =>
    (Cell.cast (column.raw record) column.kind).map fun cell =>
      { tally with cell }
  | some .count =>
    .ok { tally with accumulator := tally.accumulator.update .count none }
  | some function =>
    (numericInput (column.raw record) column.kind).map fun input =>
      { tally with accumulator := tally.accumulator.update function input }

/-- The cell of a finished group. -/
def finish (column : BoundColumn) (tally : Tally) : Cell :=
  match column.function with
  | none => tally.cell
  | some function => tally.accumulator.finish function (Kind.ofTag column.kind)

end BoundColumn

/-- The hashes that tell groups apart. -/
abbrev GroupKey := List UInt64

/-- A group of records. -/
structure Group where
  key : GroupKey
  tallies : List Tally

namespace BoundSelect

/-- Whether every record is a row of its own. -/
def keepsRecords (bound : BoundSelect) : Bool :=
  bound.groupBy.isEmpty && !bound.collapses

/-- The output columns that tell groups apart. -/
def keyColumns (bound : BoundSelect) : List BoundColumn :=
  if bound.groupBy.isEmpty then bound.columns.filter BoundColumn.distinct
  else bound.groupBy.filterMap fun i => bound.columns[i]?

/-- The key of the group that a record belongs to. -/
def groupKey (bound : BoundSelect) (record : List String) : GroupKey :=
  bound.keyColumns.map fun column => Hash.ofText (column.raw record)

/-- The tallies before any record. -/
def emptyTallies (bound : BoundSelect) : List Tally :=
  bound.columns.map fun _ => {}

/-- Take one more record into the tallies of its group. -/
def advance (bound : BoundSelect) (record : List String)
    (tallies : List Tally) : Except QueryError (List Tally) :=
  if record.length < bound.reportColumns.length then
    .error (.malformedRow bound.reportColumns.length record.length)
  else (bound.columns.zip tallies).mapM fun (column, tally) =>
    column.step record tally

/-- Take one more record into the group with its key, or into a new group after
all others. -/
def addRecord (bound : BoundSelect) (record : List String) :
    List Group → Except QueryError (List Group)
  | [] =>
    (bound.advance record bound.emptyTallies).map fun tallies =>
      [⟨bound.groupKey record, tallies⟩]
  | group :: rest =>
    if group.key = bound.groupKey record then
      (bound.advance record group.tallies).map fun tallies =>
        ⟨group.key, tallies⟩ :: rest
    else (bound.addRecord record rest).map fun rest => group :: rest

/-- The tallies of all groups, or of all records. -/
def fold (bound : BoundSelect) (records : List (List String)) :
    Except QueryError (List (List Tally)) :=
  if bound.keepsRecords then
    records.mapM fun record => bound.advance record bound.emptyTallies
  else
    (records.foldlM (fun groups record => bound.addRecord record groups) []).map
      fun groups => groups.map Group.tallies

/-- The row of a finished group. -/
def finishRow (bound : BoundSelect) (tallies : List Tally) : List Cell :=
  List.zipWith BoundColumn.finish bound.columns tallies

/-- The rows that the records of a report give. -/
def aggregate (bound : BoundSelect) (records : List (List String)) :
    Except QueryError (List (List Cell)) :=
  (bound.fold records).map fun groups => groups.map bound.finishRow

end BoundSelect

/-- The widest text in each of `n` columns. -/
def columnWidths (n : Nat) (rows : List (List Cell)) : List Nat :=
  rows.foldl (fun widths row => List.zipWith max widths (row.map Cell.width))
    (List.replicate n 0)

end ReportQuery
