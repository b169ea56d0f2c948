import ReportQuery.Calendar.Layout
import ReportQuery.Statement
import ReportQuery.Statement.Parser

/-!
# The grammar of statements

One parser for each clause, and from them the parsers of statements and
scripts. GROUP BY and ORDER BY refer to the select list by position, name or
alias; a numeral as the argument of a function stands for the column at that
position of the list so far.
-/

namespace ReportQuery

open ReportQuery.Parser

/-- The entry at a position of a select list, counted from one. -/
def itemAt? (items : List SelectItem) (position : Nat) : Option SelectItem :=
  if position = 0 then none else items[position - 1]?

/-- Whether a word is the name or the alias of a select-list entry. -/
def SelectItem.answersTo (item : SelectItem) (word : String) : Bool :=
  item.name == word || item.column.aliasName == some word

/-- The first entry of a select list with this name or alias. -/
def positionOfName? (items : List SelectItem) (word : String) :
    Option ColumnPosition :=
  (items.findIdx? fun item => item.answersTo word).bind fun i =>
    items[i]?.map fun item => ⟨item.column, i + 1⟩

/-- The entry of a select list that a token refers to: by position, or by name
or alias. -/
def resolveReference (items : List SelectItem) (token : Token) :
    Option ColumnPosition :=
  match token.kind with
  | .digits =>
    (Numeral.natural? token.literal.toList).bind fun position =>
      (itemAt? items position).map fun item => ⟨item.column, position⟩
  | .identifier => positionOfName? items token.literal
  | _ => none

/-- A reference to the select list. -/
def reference (items : List SelectItem) (code : SyntaxCode) :
    Parser ColumnPosition := do
  let token ← nextToken
  match resolveReference items token with
  | some position => pure position
  | none => failAt code token

/-- The column of a DISTINCT entry. -/
def distinctItem : Parser SelectItem := do
  let name ← identifier .invalidField
  pure { column := { name }, distinct := true }

/-- The argument of a function, after the opening parenthesis. -/
def argument (function : AggregateFunction) (before : List SelectItem) :
    Parser SelectItem := do
  let token ← nextToken
  match token.kind with
  | .asterisk =>
    if function = .count then pure { column := { name := starName } }
    else failAt .syntaxNear token
  | .keyword .distinct => distinctItem
  | .digits =>
    match (Numeral.natural? token.literal.toList).bind (itemAt? before) with
    | some item => pure { column := { name := item.name } }
    | none => failAt .syntaxNear token
  | .identifier => pure { column := { name := token.literal } }
  | _ => fail (.unknownFunction token.literal)

/-- A function call, after its opening parenthesis. -/
def call (name : String) (before : List SelectItem) : Parser SelectItem := do
  match AggregateFunction.ofName? name with
  | none => fail (.unknownFunction name)
  | some function =>
    let item ← argument function before
    let _ ← expect .closeParen .syntaxNear
    pure { item with function := some function }

/-- An entry of a select list without its alias. -/
def plainItem (before : List SelectItem) : Parser SelectItem := do
  let token ← nextToken
  match token.kind with
  | .asterisk => pure { column := { name := starName } }
  | .keyword .distinct => distinctItem
  | .identifier =>
    if ← acceptCall then call token.literal before
    else pure { column := { name := token.literal } }
  | _ => failAt .invalidField token

/-- An optional alias, with or without AS. -/
def aliasName? : Parser (Option String) := do
  if ← accept (.keyword .asWord) then
    let name ← identifier .invalidField
    pure (some name)
  else identifier?

/-- An entry of a select list. -/
def selectItem (before : List SelectItem) : Parser SelectItem := do
  let item ← plainItem before
  let aliasName ← aliasName?
  pure { item with column := { item.column with aliasName } }

/-- A value of a condition, with whether it was written without quotes. -/
def conditionValue (token : Token) : Option (String × Bool) :=
  if token.kind.isBareValue then some (token.literal, true)
  else if token.kind = .quoted then some (token.literal, false)
  else none

/-- A value of a list in brackets: it is quoted exactly when the values before
it are. -/
def listValue (before : List (String × Bool)) : Parser (String × Bool) := do
  let token ← nextToken
  match conditionValue token with
  | none => failAt .syntaxNear token
  | some value =>
    if before.all fun other => other.2 == value.2 then pure value
    else failAt .syntaxNear token

/-- The values of a list, after its opening bracket. -/
def valueList : Parser (List (String × Bool)) := do
  let values ← separated .comma listValue []
  let _ ← expect .closeBracket .syntaxNear
  pure values

/-- The values of a condition: one value, or a list in brackets. -/
def conditionValues : Parser (List (String × Bool)) := do
  let token ← nextToken
  match conditionValue token with
  | some value => pure [value]
  | none =>
      if token.kind = .openBracket then valueList else failAt .syntaxNear token

/-- A comparison operator. -/
def comparison : Parser Operator := do
  let token ← nextToken
  match token.kind with
  | .operator op => pure op
  | _ => failAt .syntaxNear token

/-- A predicate of a WHERE clause. -/
def condition : Parser Condition := do
  let column ← identifier .invalidField
  let operator ← comparison
  let values ← conditionValues
  pure { column, operator, values := values.map (·.1),
         literal := values.all (·.2) }

/-- An entry of a DURING clause. -/
inductive DuringEntry where
  | date (day : Day)
  | name (range : NamedRange)
deriving DecidableEq, Repr

/-- The entry of a DURING clause that a token stands for. -/
def DuringEntry.ofToken? (token : Token) : Option DuringEntry :=
  match token.kind with
  | .digits => (Calendar.compactDay? token.literal).map date
  | .identifier => (NamedRange.ofWord? token.literal).map name
  | _ => none

/-- An entry of a DURING clause. -/
def duringEntry : Parser DuringEntry := do
  let token ← nextToken
  match DuringEntry.ofToken? token with
  | some entry => pure entry
  | none => fail (.during (.unknownDays token.literal))

/-- The days that the entries of a DURING clause ask for: one name, or two
dates. -/
def During.ofEntries : List DuringEntry → Except DuringFault During
  | [.name range] => .ok (.named range)
  | [.date start, .date stop] => .ok (.days ⟨start, stop⟩)
  | [] | [.date _] => .error .nameExpected
  | [_, _] => .error .dateExpected
  | _ => .error .tooManyDays

/-- The days of a DURING clause, after its keyword. -/
def duringClause : Parser During := do
  let entries ← separated .comma (fun _ => duringEntry) []
  match During.ofEntries entries with
  | .ok during => pure during
  | .error fault => fail (.during fault)

/-- The entries of a GROUP BY clause, after its first keyword. -/
def groupByClause (items : List SelectItem) : Parser (List ColumnPosition) := do
  let _ ← expect (.keyword .byWord) .invalidGroupBy
  separated .comma (fun _ => reference items .invalidGroupBy) []

/-- A direction; ascending unless DESC is written. -/
def isDescending : Parser Bool := do
  if ← accept (.keyword .desc) then pure true
  else
    let _ ← accept (.keyword .asc)
    pure false

/-- An entry of an ORDER BY clause. -/
def orderEntry (items : List SelectItem) : Parser OrderEntry := do
  let target ← reference items .invalidOrderBy
  let descending ← isDescending
  pure { target, descending }

/-- The entries of an ORDER BY clause, after its first keyword. -/
def orderByClause (items : List SelectItem) : Parser (List OrderEntry) := do
  let _ ← expect (.keyword .byWord) .invalidOrderBy
  separated .comma (fun _ => orderEntry items) []

/-- A number of rows. -/
def rowNumber : Parser Nat := do
  let token ← nextToken
  match token.kind, Numeral.natural? token.literal.toList with
  | .digits, some n => pure n
  | _, _ => failAt .invalidLimit token

/-- The numbers of a LIMIT clause, after its keyword. -/
def limitClause : Parser Limit := do
  let first ← rowNumber
  if ← accept .comma then
    let count ← rowNumber
    pure { offset := first, count }
  else pure { offset := 0, count := first }

/-- The end of a statement. -/
def statementEnd : Parser Terminator := do
  let token ← nextToken
  match token.kind with
  | .vertical => pure .vertical
  | .semicolon => pure .semicolon
  | .ending => pure .ending
  | _ => failAt .syntaxNear token

/-- What follows the SELECT keyword. -/
def selectBody : Parser Select := do
  let items ← separated .comma selectItem []
  let _ ← expect (.keyword .fromWord) .missingSource
  let source ← identifier .invalidSource
  let conditions ←
    clause (.keyword .whereWord)
      (separated (.keyword .and) (fun _ => condition) [])
  let during ← optional (.keyword .during) duringClause
  let groupBy ← clause (.keyword .group) (groupByClause items)
  let orderBy ← clause (.keyword .order) (orderByClause items)
  let limit ← optional (.keyword .limit) limitClause
  let terminator ← statementEnd
  pure { items, source, conditions, during, groupBy, orderBy, limit,
         terminator }

/-- What follows the DESC keyword. -/
def describeBody : Parser Describe := do
  let full ← accept (.keyword .full)
  let source ← identifier .invalidSource
  let column ← identifier?
  let terminator ← statementEnd
  pure { full, source, column, terminator }

/-- The pattern of a LIKE clause, after its keyword. -/
def likeClause : Parser NamePattern := do
  let text ← expect .quoted .syntaxNear
  pure (NamePattern.ofText text)

/-- The column of a WITH clause, after its keyword: an identifier or a quoted
text. -/
def withClause : Parser String := do
  let token ← nextToken
  if token.kind = .identifier ∨ token.kind = .quoted then pure token.literal
  else failAt .syntaxNear token

/-- What follows the SHOW keyword. -/
def showBody : Parser ShowTables := do
  let full ← accept (.keyword .full)
  let _ ← expect (.keyword .tables) .invalidMethod
  let like ← optional (.keyword .like) likeClause
  let column ← optional (.keyword .withWord) withClause
  let terminator ← statementEnd
  pure { full, like, column, terminator }

/-- The column names of a view, after the opening parenthesis. -/
def viewColumns : Parser (List String) := do
  let names ← separated .comma (fun _ => identifier .invalidField) []
  let _ ← expect .closeParen .syntaxNear
  pure names

/-- OR REPLACE, when it comes next. -/
def orReplace : Parser Bool := do
  if ← accept (.keyword .or) then
    let _ ← expect (.keyword .replace) .invalidMethod
    pure true
  else pure false

/-- What follows the CREATE keyword. -/
def createBody : Parser CreateView := do
  let replace ← orReplace
  let _ ← expect (.keyword .view) .invalidMethod
  let name ← identifier .invalidSource
  let columns ← clause .openParen viewColumns
  let _ ← expect (.keyword .asWord) .syntaxNear
  let _ ← expect (.keyword .select) .invalidMethod
  let select ← selectBody
  if columns.isEmpty || columns.length == select.items.length then
    pure { replace, name, columns, select }
  else fail (.columnCount select.items.length columns.length)

/-- One statement. -/
def statement : Parser Statement := do
  let token ← nextToken
  match token.kind with
  | .keyword .desc | .keyword .describe => do
    let s ← describeBody
    pure (.describe s)
  | .keyword .create => do
    let s ← createBody
    pure (.createView s)
  | .keyword .select => do
    let s ← selectBody
    pure (.select s)
  | .keyword .showWord => do
    let s ← showBody
    pure (.showTables s)
  | _ => failAt .syntaxNear token

/-- The statements of a list of words; semicolons alone are empty statements. -/
def scriptOfWords (words : List Word) : Except ParseError (List Statement) :=
  match words with
  | [] => .ok []
  | word :: rest =>
    if word.token.kind = .semicolon then scriptOfWords rest
    else
      match statement (word :: rest) with
      | (.error error, _) => .error error
      | (.ok s, rest') =>
        if rest'.length < rest.length + 1 then
          (scriptOfWords rest').map (s :: ·)
        else .ok [s]
termination_by words.length

/-- Every statement of a script. -/
def parseScript (text : String) : Except ParseError (List Statement) :=
  scriptOfWords (Word.ofText text)

/-- The first statement of a text. -/
def parseStatement (text : String) : Except ParseError Statement :=
  match Word.ofText text with
  | [] => .error (.unexpected .unknownStatement "")
  | words => (statement words).1

/-- What each of a number of attempts to read a statement gives; an error ends
its attempt only. -/
def attempts : Nat → List Word → List (Except ParseError Statement)
  | 0, _ => []
  | n + 1, words => (statement words).1 :: attempts n (statement words).2

end ReportQuery
