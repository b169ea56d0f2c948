import ReportQuery.Calendar.DateRange
import ReportQuery.Operator

/-!
# Statements

The four statements of the language and the clauses of a SELECT. A column of
the select list may carry an alias, an aggregate function and a DISTINCT mark;
GROUP BY and ORDER BY refer to the select list by position, counted from one.
-/

namespace ReportQuery

/-- A column with an optional alias. -/
structure ColumnRef where
  name : String
  aliasName : Option String := none
deriving DecidableEq, Repr

/-- The name under which the column is shown. -/
def ColumnRef.label (column : ColumnRef) : String :=
  column.aliasName.getD column.name

/-- The functions that collapse the rows of a group into one value. -/
inductive AggregateFunction where
  | avg
  | count
  | max
  | min
  | sum
deriving DecidableEq, Repr

namespace AggregateFunction

/-- Every aggregate function. -/
def all : List AggregateFunction := [avg, count, max, min, sum]

/-- The name of the function. -/
def name : AggregateFunction → String
  | avg => "AVG"
  | count => "COUNT"
  | max => "MAX"
  | min => "MIN"
  | sum => "SUM"

/-- The function with a name, in any letter case. -/
def ofName? (s : String) : Option AggregateFunction :=
  all.find? fun function => function.name == Text.upper s

theorem ofName?_name (function : AggregateFunction) :
    ofName? function.name = some function := by
  cases function <;> decide

end AggregateFunction

/-- The name that stands for all columns, or for the rows in `COUNT(*)`. -/
def starName : String := "*"

/-- An entry of a select list. -/
structure SelectItem where
  column : ColumnRef
  function : Option AggregateFunction := none
  distinct : Bool := false
deriving DecidableEq, Repr

namespace SelectItem

/-- The name of the entry's column. -/
def name (item : SelectItem) : String := item.column.name

/-- The name under which the entry is shown. -/
def label (item : SelectItem) : String := item.column.label

/-- Whether the entry stands for all columns. -/
def isStar (item : SelectItem) : Bool :=
  item.name == starName && item.function.isNone

/-- Whether the entry collapses rows. -/
def aggregates (item : SelectItem) : Bool :=
  item.distinct || item.function.isSome

end SelectItem

/-- A column of the select list with its position, counted from one. -/
structure ColumnPosition where
  column : ColumnRef
  position : Nat
deriving DecidableEq, Repr

/-- A predicate of a WHERE clause. -/
structure Condition where
  column : String
  operator : Operator
  /-- One value, or several from a list in brackets. -/
  values : List String
  /-- Whether the values were written without quotes. -/
  literal : Bool
deriving DecidableEq, Repr

/-- The days a statement asks for. -/
inductive During where
  | named (range : NamedRange)
  | days (span : DaySpan)
deriving DecidableEq, Repr

/-- An entry of an ORDER BY clause. -/
structure OrderEntry where
  target : ColumnPosition
  descending : Bool
deriving DecidableEq, Repr

/-- The rows kept of a result: `count` rows after the first `offset`. -/
structure Limit where
  offset : Nat
  count : Nat
deriving DecidableEq, Repr

/-- How a statement ends. -/
inductive Terminator where
  | ending
  | semicolon
  /-- The mark that asks for vertical output. -/
  | vertical
deriving DecidableEq, Repr

/-- A SELECT statement. -/
structure Select where
  items : List SelectItem
  source : String
  conditions : List Condition := []
  during : Option During := none
  groupBy : List ColumnPosition := []
  orderBy : List OrderEntry := []
  limit : Option Limit := none
  terminator : Terminator := .ending
deriving DecidableEq, Repr

/-- Whether an entry of the select list collapses rows. -/
def Select.aggregates (select : Select) : Bool :=
  select.items.any SelectItem.aggregates

/-- A DESC statement. -/
structure Describe where
  full : Bool
  source : String
  column : Option String
  terminator : Terminator
deriving DecidableEq, Repr

/-- A pattern for table names; a percent sign at either end stands for any
text. -/
inductive NamePattern where
  | exactly (text : String)
  | leading (text : String)
  | trailing (text : String)
  | within (text : String)
deriving DecidableEq, Repr

namespace NamePattern

/-- The pattern that a list of characters without its leading percent sign
is. -/
def ofTail (tail : List Char) : NamePattern :=
  if tail.getLast? = some '%' then within (String.ofList tail.dropLast)
  else trailing (String.ofList tail)

/-- The pattern that a text spells. -/
def ofText (s : String) : NamePattern :=
  match s.toList with
  | '%' :: tail => ofTail tail
  | cs =>
    if cs.getLast? = some '%' then leading (String.ofList cs.dropLast)
    else exactly s

/-- The text that spells the pattern. -/
def text : NamePattern → String
  | exactly s => s
  | leading s => s ++ "%"
  | trailing s => "%" ++ s
  | within s => "%" ++ s ++ "%"

end NamePattern

/-- A SHOW TABLES statement. -/
structure ShowTables where
  full : Bool
  like : Option NamePattern
  column : Option String
  terminator : Terminator
deriving DecidableEq, Repr

/-- A CREATE VIEW statement. -/
structure CreateView where
  replace : Bool
  name : String
  /-- The names given to the columns, none when the statement has no list of
  names. -/
  columns : List String
  select : Select
deriving DecidableEq, Repr

/-- A statement of the language. -/
inductive Statement where
  | select (statement : Select)
  | describe (statement : Describe)
  | showTables (statement : ShowTables)
  | createView (statement : CreateView)
deriving DecidableEq, Repr

namespace Statement

/-- How the statement ends. -/
def terminator : Statement → Terminator
  | select s => s.terminator
  | describe s => s.terminator
  | showTables s => s.terminator
  | createView s => s.select.terminator

/-- Whether the statement asks for vertical output. -/
def isVertical (statement : Statement) : Bool :=
  statement.terminator == .vertical

end Statement

end ReportQuery
