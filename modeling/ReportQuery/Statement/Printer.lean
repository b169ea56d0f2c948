import ReportQuery.Calendar.Layout
import ReportQuery.Statement
import ReportQuery.Text.Search

/-!
# Writing statements

Every statement has a text that reads back as the statement itself, ended by
the end of the text. A SELECT also has a reduced text, which a report service
accepts: plain column names, WHERE and DURING alone.
-/

namespace ReportQuery

/-- The characters of a text with a backslash before each double quote and
backslash. -/
def escapeQuoted : List Char → List Char
  | [] => []
  | c :: cs =>
    if c = '"' ∨ c = '\\' then '\\' :: c :: escapeQuoted cs
    else c :: escapeQuoted cs

/-- A text between double quotes. -/
def quoteText (s : String) : String :=
  String.ofList ('"' :: escapeQuoted s.toList ++ ['"'])

/-- An entry of a select list: function around DISTINCT around the name, then
the alias. -/
def SelectItem.text (item : SelectItem) : String :=
  let marked := (if item.distinct then "DISTINCT " else "") ++ item.name
  let applied := match item.function with
    | some function => function.name ++ "(" ++ marked ++ ")"
    | none => marked
  match item.column.aliasName with
  | some name => applied ++ " AS " ++ name
  | none => applied

/-- The values of a condition: several stand in brackets. -/
def Condition.valueText (condition : Condition) : String :=
  let values := condition.values.map fun value =>
    if condition.literal then value else quoteText value
  if values.length > 1 then "[" ++ Text.join ", " values ++ "]"
  else Text.join "" values

/-- A condition: column, operator and values. -/
def Condition.text (condition : Condition) : String :=
  condition.column ++ " " ++ condition.operator.spelling ++ " " ++
    condition.valueText

/-- The days of a DURING clause: a name, or two dates with a comma between
them. -/
def During.text : During → String
  | .named range => range.word
  | .days span =>
    Calendar.Layout.compact.writeDay span.start ++ "," ++
      Calendar.Layout.compact.writeDay span.stop

/-- An entry of an ORDER BY clause, by its position. -/
def OrderEntry.text (entry : OrderEntry) : String :=
  Numeral.ofNat entry.target.position ++
    (if entry.descending then " DESC" else "")

/-- The numbers of a LIMIT clause; an offset of zero is left out. -/
def Limit.text (limit : Limit) : String :=
  (if 0 < limit.offset then Numeral.ofNat limit.offset ++ ", " else "") ++
    Numeral.ofNat limit.count

namespace Select

/-- A clause that is left out when it has no entries. -/
def clauseText (opening between : String) (entries : List String) : String :=
  if entries.isEmpty then "" else opening ++ Text.join between entries

/-- The WHERE clause. -/
def whereText (select : Select) : String :=
  clauseText " WHERE " " AND " (select.conditions.map Condition.text)

/-- The DURING clause. -/
def duringText (select : Select) : String :=
  match select.during with
  | some during => " DURING " ++ during.text
  | none => ""

/-- The GROUP BY clause. -/
def groupByText (select : Select) : String :=
  clauseText " GROUP BY " ", "
    (select.groupBy.map fun entry => Numeral.ofNat entry.position)

/-- The ORDER BY clause. -/
def orderByText (select : Select) : String :=
  clauseText " ORDER BY " ", " (select.orderBy.map OrderEntry.text)

/-- The LIMIT clause. -/
def limitText (select : Select) : String :=
  match select.limit with
  | some limit => " LIMIT " ++ limit.text
  | none => ""

/-- The full text. -/
def text (select : Select) : String :=
  "SELECT " ++ Text.join ", " (select.items.map SelectItem.text) ++ " FROM " ++
    select.source ++
    select.whereText ++ select.duringText ++ select.groupByText ++
    select.orderByText ++
    select.limitText

/-- The reduced text: names of columns without functions, aliases or local
clauses. -/
def reducedText (select : Select) : String :=
  "SELECT " ++ Text.join ", " (select.items.map SelectItem.name) ++ " FROM " ++
    select.source ++ select.whereText ++ select.duringText

end Select

/-- The text of a DESC statement. -/
def Describe.text (statement : Describe) : String :=
  "DESC " ++ (if statement.full then "FULL " else "") ++ statement.source ++
    match statement.column with
    | some column => " " ++ column
    | none => ""

/-- The quoted text of a pattern. -/
def NamePattern.quotedText (pattern : NamePattern) : String :=
  quoteText pattern.text

/-- The text of a SHOW TABLES statement. -/
def ShowTables.text (statement : ShowTables) : String :=
  "SHOW " ++ (if statement.full then "FULL " else "") ++ "TABLES" ++
    (match statement.like with
      | some pattern => " LIKE " ++ pattern.quotedText
      | none => "") ++
    match statement.column with
    | some column => " WITH " ++ quoteText column
    | none => ""

/-- The text of a CREATE VIEW statement. -/
def CreateView.text (statement : CreateView) : String :=
  "CREATE " ++ (if statement.replace then "OR REPLACE " else "") ++ "VIEW " ++
    statement.name ++ (if statement.columns.isEmpty then ""
      else " (" ++ Text.join ", " statement.columns ++ ")") ++
    " AS " ++ statement.select.text

/-- The text of a statement. -/
def Statement.text : Statement → String
  | .select s => s.text
  | .describe s => s.text
  | .showTables s => s.text
  | .createView s => s.text

end ReportQuery
