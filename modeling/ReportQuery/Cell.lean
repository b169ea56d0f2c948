import ReportQuery.Calendar.Layout
import ReportQuery.Decimal.Fixed
import ReportQuery.Decimal.Reading
import ReportQuery.Text.Characters

/-!
# Cells

A cell is a typed value of a report or a result. It may be unset, and it
carries two marks of the service: that a bidding strategy set the value, and
that the value is excluded. The text of a cell follows the conventions of the
service's reports.
-/

namespace ReportQuery

/-- How the values of a column are stored, from the tag of its type. -/
inductive Kind where
  | int
  | double
  | date
  | dateTime
  | text
deriving DecidableEq, Repr

namespace Kind

/-- The kind of a type tag, in any letter case. -/
def ofTag (tag : String) : Kind :=
  match Text.upper tag with
  | "BID" | "INT" | "INTEGER" | "LONG" | "MONEY" => int
  | "DOUBLE" => double
  | "DATE" => date
  | "DATETIME" => dateTime
  | _ => text

/-- Whether values of the kind are days or moments. -/
def isCalendar : Kind → Bool
  | date | dateTime => true
  | _ => false

/-- The decimals of a number of this kind that a function computes. -/
def precision : Kind → Nat
  | double => 2
  | _ => 0

end Kind

/-- How a date cell is written. -/
inductive DateStyle where
  | day
  | moment
deriving DecidableEq, Repr

namespace DateStyle

/-- The style of a kind. -/
def ofKind : Kind → DateStyle
  | .dateTime => moment
  | _ => day

/-- The layout of the style. -/
def layout : DateStyle → Calendar.Layout
  | day => Calendar.Layout.date
  | moment => Calendar.Layout.dateTime

end DateStyle

/-- How a number is written: its decimals, a percent sign, and whether it only
marks a bound. -/
structure FloatStyle where
  precision : Nat
  percent : Bool := false
  almost : Bool := false
deriving DecidableEq, Repr

/-- The value of a cell, unset when it is `none`. -/
inductive CellValue where
  | int (value : Option Int)
  | float (value : Option Float) (style : FloatStyle)
  | date (value : Option Moment) (style : DateStyle)
  | text (value : Option String)

/-- A value with its marks. -/
structure Cell where
  value : CellValue
  /-- A bidding strategy set the value. -/
  auto : Bool := false
  /-- The value is left out of the report. -/
  excluded : Bool := false

namespace CellValue

/-- An unset value of a kind. -/
def unset : Kind → CellValue
  | .int => int none
  | .double => float none { precision := Kind.precision .double }
  | .date => date none .day
  | .dateTime => date none .moment
  | .text => text none

/-- Whether the value is unset. -/
def isUnset : CellValue → Bool
  | int value => value.isNone
  | float value _ => value.isNone
  | date value _ => value.isNone
  | text value => value.isNone

/-- The text of an unset value. -/
def unsetText : String := " --"

/-- The text of a number that only marks a bound. -/
def boundText (value : Float) : String :=
  if value > 90.0 then "> 90" else "< 10"

/-- The text of a number. -/
def floatText (value : Float) (style : FloatStyle) : String :=
  (if style.almost then boundText value else Decimal.fixed
    style.precision value) ++ (if style.percent then "%" else "")

/-- The text of a value without its marks. -/
def render : CellValue → String
  | int (some n) => Numeral.ofInt n
  | float (some x) style => floatText x style
  | date (some m) style => style.layout.write m
  | text (some s) => s
  | _ => unsetText

/-- The order of two optional values, unset ones first. -/
def compareOptions {α : Type} (compare : α → α → Ordering) :
    Option α → Option α → Ordering
  | none, none => .eq
  | none, some _ => .lt
  | some _, none => .gt
  | some a, some b => compare a b

/-- The order of two numbers; a number that is none equals every other. -/
def compareFloats (a b : Float) : Ordering :=
  if a < b then .lt else if b < a then .gt else .eq

/-- The order of two values of a column; values of different kinds are equal. -/
def compare : CellValue → CellValue → Ordering
  | int a, int b => compareOptions Ord.compare a b
  | float a _, float b _ => compareOptions compareFloats a b
  | date a _, date b _ => compareOptions Moment.compare a b
  | text a, text b => compareOptions Ord.compare a b
  | _, _ => .eq

/-- The value as a number; days and moments count in seconds. -/
def toFloat? : CellValue → Option Float
  | int value => value.map Float.ofInt
  | float value _ => value
  | date value _ => value.map fun m => Float.ofInt m.timestamp
  | text value => value.bind fun s => Decimal.float? (Text.trim s.toList)

end CellValue

namespace Cell

/-- An unset cell of a kind. -/
def unset (kind : Kind) : Cell :=
  { value := CellValue.unset kind }

/-- A number as functions compute it. -/
def float (value : Option Float) (precision : Nat) : Cell :=
  { value := .float value { precision } }

/-- A text. -/
def text (s : String) : Cell :=
  { value := .text (some s) }

/-- The day or moment a number of seconds after the start of 1970, in the style
of a kind. -/
def ofSeconds (seconds : Option Int) (kind : Kind) : Cell :=
  { value := .date (seconds.bind Moment.ofTimestamp?) (DateStyle.ofKind kind) }

/-- Whether the cell is unset. -/
def isUnset (cell : Cell) : Bool :=
  cell.value.isUnset

/-- The text of a cell: the marks come before the value. -/
def render (cell : Cell) : String :=
  if cell.excluded then "Excluded"
  else if cell.auto then
    if cell.isUnset then "auto" else "auto: " ++ cell.value.render
  else cell.value.render

/-- The number of characters of the text. -/
def width (cell : Cell) : Nat :=
  cell.render.length

/-- The order of two cells of a column. -/
def compare (a b : Cell) : Ordering :=
  a.value.compare b.value

/-- The cell as a number. -/
def toFloat? (cell : Cell) : Option Float :=
  cell.value.toFloat?

end Cell

end ReportQuery
