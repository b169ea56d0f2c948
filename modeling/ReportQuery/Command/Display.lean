import ReportQuery.Report.ResultSet
import ReportQuery.Session

/-!
# Printed results

A result is printed as a table with borders, as one line per value when
vertical output was asked for, or in a batch, with tabs between values and
nothing around them.
-/

namespace ReportQuery

namespace ResultSet

/-- How many rows there are, in words. -/
def summary (set : ResultSet) : String :=
  let n := set.rows.length
  Numeral.ofNat n ++ (if n = 1 then " row" else " rows") ++ " in set"

/-- Lines as a text, each with a line break after it. -/
def ofLines (lines : List String) : String :=
  Text.join "" (lines.map fun line => line ++ "\n")

/-- The values of a row as they are printed. -/
def rowTexts (row : List Cell) : List String :=
  row.map Cell.render

/-- The border of a table. -/
def border (set : ResultSet) : String :=
  "+" ++
    Text.join "+" (set.columns.map fun column =>
      Text.replicate (column.width + 2) '-') ++ "+"

/-- A line of a table. -/
def tableLine (set : ResultSet) (values : List String) : String :=
  let cells := List.zipWith
    (fun value column => " " ++ Text.padRight (ResultColumn.width column)
      value ++ " ")
    values set.columns
  "|" ++ Text.join "|" cells ++ "|"

/-- The lines of a table with borders; without rows there is none. -/
def tableLines (set : ResultSet) : List String :=
  if set.rows.isEmpty then ["Empty set"]
  else
    [set.border, set.tableLine set.names, set.border] ++
      set.rows.map (fun row => set.tableLine (rowTexts row)) ++
      [set.border, set.summary]

/-- The width of the longest column name. -/
def longestName (set : ResultSet) : Nat :=
  (set.names.map String.length).foldl max 0

/-- The line above a row in vertical output. -/
def rowTitle (number : Nat) : String :=
  Text.replicate 27 '*' ++ " " ++ Numeral.ofNat number ++ ". row " ++
    Text.replicate 27 '*'

/-- The lines of a row in vertical output. -/
def verticalRow (set : ResultSet) (index : Nat) (row : List Cell) :
    List String :=
  rowTitle (index + 1) ::
    List.zipWith (fun name value => Text.padLeft set.longestName name ++
      ": " ++ value) set.names (rowTexts row)

/-- The lines of vertical output. -/
def verticalLines (set : ResultSet) : List String :=
  (set.rows.mapIdx set.verticalRow).flatten ++ [set.summary]

/-- The lines of a batch. -/
def batchLines (set : ResultSet) : List String :=
  Text.join "\t" set.names :: set.rows.map fun row =>
    Text.join "\t" (rowTexts row)

/-- The printed form; a batch is never vertical. -/
def print (batch : Bool) (set : ResultSet) : String :=
  ofLines
    (if batch then set.batchLines
    else if set.vertical then set.verticalLines
    else set.tableLines)

end ResultSet

/-- What a statement prints. -/
def Outcome.print (batch : Bool) : Outcome → String
  | rows set => set.print batch
  | viewStored name => ResultSet.ofLines ["View " ++ name ++ " stored"]

end ReportQuery
