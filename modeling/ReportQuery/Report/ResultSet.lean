import ReportQuery.Cell
import ReportQuery.Plan.Bind

/-!
# Result sets

The rows of a result with named columns. A set is sorted and cut to a page, and
then its rows are read one after the other. Each column knows the width that
its name and its cells need.
-/

namespace ReportQuery

/-- An output column with its width in characters. -/
structure ResultColumn where
  name : String
  width : Nat
deriving DecidableEq, Repr

/-- The rows of a statement. -/
structure ResultSet where
  columns : List ResultColumn
  rows : List (List Cell)
  /-- Whether vertical output was asked for. -/
  vertical : Bool := false
  /-- The number of rows that were read. -/
  position : Nat := 0
  closed : Bool := false

namespace ResultSet

/-- A set whose cells have known widths; a column is at least as wide as its
name. -/
def withWidths (names : List String) (rows : List (List Cell))
    (widths : List Nat) : ResultSet :=
  { columns := List.zipWith (fun name width => ⟨name, max width name.length⟩)
      names widths
    rows }

/-- The widths that names and cells need. -/
def neededWidths (names : List String) (rows : List (List Cell)) : List Nat :=
  let widen (widths : List Nat) (row : List Cell) : List Nat :=
    List.zipWith max widths (row.map Cell.width) ++ widths.drop row.length
  rows.foldl widen (names.map String.length)

/-- A set with the widths that names and cells need. -/
def ofRows (names : List String) (rows : List (List Cell)) : ResultSet :=
  withWidths names rows (neededWidths names rows)

/-- The order of two rows under one key; a row without the column equals every
other. -/
def compareKey (key : SortKey) (a b : List Cell) : Ordering :=
  match a[key.index]?, b[key.index]? with
  | some x, some y => if key.descending then (x.compare y).swap else x.compare y
  | _, _ => .eq

/-- The order of two rows: each key breaks the ties of those before it. -/
def compareRows (keys : List SortKey) (a b : List Cell) : Ordering :=
  keys.foldr (fun key rest => (compareKey key a b).then rest) .eq

/-- The rows in the order of the keys; rows that are equal keep their order. -/
def sort (keys : List SortKey) (set : ResultSet) : ResultSet :=
  { set with rows := set.rows.mergeSort fun a b => compareRows keys a b != .gt }

theorem perm_rows_sort (keys : List SortKey) (set : ResultSet) :
    (set.sort keys).rows.Perm set.rows :=
  List.mergeSort_perm _ _

/-- The rows within a limit, as far as they exist. -/
def paginate (limit : Limit) (set : ResultSet) : ResultSet :=
  { set with rows := (set.rows.drop limit.offset).take limit.count }

/-- The next row, and the set after reading it. -/
def next (set : ResultSet) : Option (List Cell) × ResultSet :=
  if set.closed then (none, set)
  else
    match set.rows[set.position]? with
    | some row => (some row, { set with position := set.position + 1 })
    | none => (none, set)

/-- The set without its rows, after which there is none to read. -/
def close (set : ResultSet) : ResultSet :=
  { set with rows := [], closed := true }

/-- The names of the columns. -/
def names (set : ResultSet) : List String :=
  set.columns.map ResultColumn.name

end ResultSet

end ReportQuery
