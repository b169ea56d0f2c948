import ReportQuery.Proofs.Calendar.Compact
import ReportQuery.Proofs.Statement.TakenTokens

/-!
# How statements are written

The tokens that a statement is written in, clause by clause. An entry of GROUP
BY or ORDER BY is one token, a position or the name or alias of the first entry
of the select list that has it; days are two dates in eight digits or one name;
a value of a condition is one token.
-/

namespace ReportQuery

open ReportQuery.Calendar

/-- The position is written as a token: its number, or a name or alias that the
entry there is the first one to have. -/
inductive ColumnPosition.WrittenAs (p : ColumnPosition)
    (items : List SelectItem) : Token → Prop
  | number {literal : String} (h : Numeral.natural? literal.toList =
      some p.position) : WrittenAs p items ⟨.digits, literal⟩
  | name {literal : String}
      (h : ∃ item, items[p.position - 1]? = some item ∧
        (item.name = literal ∨ item.column.aliasName = some literal))
      (hfirst : ∀ i < p.position - 1, ∀ item, items[i]? = some item →
        item.name ≠ literal ∧ item.column.aliasName ≠ some literal) :
      WrittenAs p items ⟨.identifier, literal⟩

/-- The direction is written as a word, or left out. -/
inductive DirectionWrittenAs : Bool → List Token → Prop
  | descending (literal : String) :
      DirectionWrittenAs true [⟨.keyword .desc, literal⟩]
  | ascending (literal : String) :
      DirectionWrittenAs false [⟨.keyword .asc, literal⟩]
  | leftOut : DirectionWrittenAs false []

/-- The entry of ORDER BY is written as a token with a direction behind it. -/
def OrderEntry.WrittenAs (items : List SelectItem) (entry : OrderEntry)
    (tokens : List Token) : Prop :=
  ∃ token direction, tokens = token :: direction ∧
    entry.target.WrittenAs items token ∧
    DirectionWrittenAs entry.descending direction

/-- The argument of a function is written as a star, a name, DISTINCT and a
name, or as the position of an entry that has the name. -/
inductive ArgumentWrittenAs : SelectItem → List Token → Prop
  | star (literal : String) :
      ArgumentWrittenAs { column := { name := starName } }
        [⟨.asterisk, literal⟩]
  | name (name : String) :
      ArgumentWrittenAs { column := { name } } [⟨.identifier, name⟩]
  | distinct (literal name : String) :
      ArgumentWrittenAs { column := { name }, distinct := true }
        [⟨.keyword .distinct, literal⟩, ⟨.identifier, name⟩]
  | position (literal name : String) :
      ArgumentWrittenAs { column := { name } } [⟨.digits, literal⟩]

/-- An entry without its alias is written as a star, a name, DISTINCT and a
name, or as a call. -/
inductive PlainWrittenAs : SelectItem → List Token → Prop
  | star (literal : String) :
      PlainWrittenAs { column := { name := starName } } [⟨.asterisk, literal⟩]
  | name (name : String) :
      PlainWrittenAs { column := { name } } [⟨.identifier, name⟩]
  | distinct (literal name : String) :
      PlainWrittenAs { column := { name }, distinct := true }
        [⟨.keyword .distinct, literal⟩, ⟨.identifier, name⟩]
  | call {name : String} {function : AggregateFunction} {item : SelectItem}
      {tokens : List Token}
      (opening : Token) (closing : String)
      (hname : AggregateFunction.ofName? name = some function)
      (h : ArgumentWrittenAs item tokens) :
      PlainWrittenAs { item with function := some function }
        (⟨.identifier, name⟩ :: opening :: (tokens ++ [⟨.closeParen, closing⟩]))

/-- An alias is written with or without AS. -/
inductive AliasWrittenAs : Option String → List Token → Prop
  | leftOut : AliasWrittenAs none []
  | alone (name : String) : AliasWrittenAs (some name) [⟨.identifier, name⟩]
  | behindAs (literal name : String) :
      AliasWrittenAs (some name) [⟨.keyword .asWord, literal⟩,
        ⟨.identifier, name⟩]

/-- An entry of a select list is written as the entry without its alias and the
alias. -/
inductive SelectItem.WrittenAs : SelectItem → List Token → Prop
  | mk {item : SelectItem} {aliasName : Option String}
      {plain tokens : List Token}
      (hplain : PlainWrittenAs item plain)
      (halias : AliasWrittenAs aliasName tokens) :
      WrittenAs { item with column := { item.column with aliasName } }
        (plain ++ tokens)

/-- The value of a condition is written as one token. -/
def ValueWrittenAs (value : String × Bool) (tokens : List Token) : Prop :=
  ∃ token, tokens = [token] ∧ conditionValue token = some value

/-- The values of a condition are written as one value or as a list in
brackets. -/
inductive ValuesWrittenAs : List (String × Bool) → List Token → Prop
  | one {value : String × Bool} {tokens : List Token}
      (h : ValueWrittenAs value tokens) : ValuesWrittenAs [value] tokens
  | list {values : List (String × Bool)} {tokens : List Token}
      (opening closing : String)
      (h : Listed .comma ValueWrittenAs values tokens) :
      ValuesWrittenAs values
        (⟨.openBracket, opening⟩ :: (tokens ++ [⟨.closeBracket, closing⟩]))

/-- A condition is written as its column, its operator and its values. -/
inductive Condition.WrittenAs : Condition → List Token → Prop
  | mk {column : String} {operator : Operator} {values : List (String × Bool)}
      {tokens : List Token} (literal : String)
      (h : ValuesWrittenAs values tokens) :
      WrittenAs { column, operator, values := values.map (·.1),
                  literal := values.all (·.2) }
        (⟨.identifier, column⟩ :: ⟨.operator operator, literal⟩ :: tokens)

/-- Days are written as the name of a range, or as two dates in eight digits. -/
inductive During.WrittenAs : During → List Token → Prop
  | named {range : NamedRange} {literal : String}
      (h : NamedRange.ofWord? literal = some range) :
      WrittenAs (.named range) [⟨.identifier, literal⟩]
  | days {start stop : Day} (comma : String) (hstart : InFourDigits start)
      (hstop : InFourDigits stop) :
      WrittenAs (.days ⟨start, stop⟩)
        [⟨.digits, Layout.compact.writeDay start⟩, ⟨.comma, comma⟩,
          ⟨.digits, Layout.compact.writeDay stop⟩]

/-- A limit is written as one number or as two. -/
inductive Limit.WrittenAs : Limit → List Token → Prop
  | count {count : Nat} {literal : String}
      (h : Numeral.natural? literal.toList = some count) :
      WrittenAs ⟨0, count⟩ [⟨.digits, literal⟩]
  | offset {offset count : Nat} {literal literal' : String} (comma : String)
      (h : Numeral.natural? literal.toList = some offset)
      (h' : Numeral.natural? literal'.toList = some count) :
      WrittenAs ⟨offset, count⟩ [⟨.digits, literal⟩, ⟨.comma, comma⟩,
        ⟨.digits, literal'⟩]

/-- The entries behind BY, with commas between them. -/
def ListedBy {α : Type} (P : α → List Token → Prop) (as : List α)
    (tokens : List Token) : Prop :=
  ∃ literal rest, tokens = ⟨.keyword .byWord, literal⟩ :: rest ∧
    Listed .comma P as rest

/-- A SELECT is written, behind its keyword, as its clauses one after the
other. -/
inductive Select.WrittenAs (s : Select) : List Token → Prop
  | mk {items conditions during groupBy orderBy limit ending : List Token}
      (fromWord : String)
      (hitems : Listed .comma SelectItem.WrittenAs s.items items)
      (hconditions : Opened (.keyword .whereWord)
        (Listed (.keyword .and) Condition.WrittenAs) s.conditions conditions)
      (hduring : Announced (.keyword .during) During.WrittenAs s.during during)
      (hgroupBy : Opened (.keyword .group)
        (ListedBy fun p tokens => ∃ token, tokens = [token] ∧
          p.WrittenAs s.items token)
        s.groupBy groupBy)
      (horderBy : Opened (.keyword .order)
        (ListedBy (OrderEntry.WrittenAs s.items)) s.orderBy orderBy)
      (hlimit : Announced (.keyword .limit) Limit.WrittenAs s.limit limit)
      (hending : ending.length ≤ 1) :
      WrittenAs s (items ++ ⟨.keyword .fromWord, fromWord⟩ :: ⟨.identifier,
        s.source⟩ ::
        (conditions ++ (during ++ (groupBy ++ (orderBy ++ (limit ++ ending))))))

/-- Whether FULL is written. -/
inductive FullWrittenAs : Bool → List Token → Prop
  | present (literal : String) : FullWrittenAs true [⟨.keyword .full, literal⟩]
  | leftOut : FullWrittenAs false []

/-- A DESC statement is written, behind its keyword, as its names. -/
inductive Describe.WrittenAs (s : Describe) : List Token → Prop
  | mk {full column ending : List Token} (hfull : FullWrittenAs s.full full)
      (hcolumn : (∃ name, s.column = some name ∧
        column = [⟨.identifier, name⟩]) ∨ s.column = none ∧ column = [])
      (hending : ending.length ≤ 1) :
      WrittenAs s (full ++ ⟨.identifier, s.source⟩ :: (column ++ ending))

/-- A SHOW TABLES statement is written, behind its first keyword, as its
clauses. -/
inductive ShowTables.WrittenAs (s : ShowTables) : List Token → Prop
  | mk {full like column ending : List Token} (tables : String)
      (hfull : FullWrittenAs s.full full)
      (hlike : Announced (.keyword .like) (fun pattern tokens =>
        ∃ text, tokens = [⟨.quoted, text⟩] ∧ pattern = NamePattern.ofText text)
          s.like like)
      (hcolumn : Announced (.keyword .withWord) (fun name tokens =>
        tokens = [⟨.identifier, name⟩] ∨ tokens = [⟨.quoted, name⟩])
          s.column column)
      (hending : ending.length ≤ 1) :
      WrittenAs s (full ++ ⟨.keyword .tables, tables⟩ :: (like ++
        (column ++ ending)))

/-- A CREATE VIEW statement is written, behind its first keyword, as the name
of the view, the names of its columns and its SELECT. -/
inductive CreateView.WrittenAs (s : CreateView) : List Token → Prop
  | mk {replace columns body : List Token} (view asWord select : String)
      (hcolumns : Opened .openParen ClosesColumns s.columns columns)
      (hselect : s.select.WrittenAs body) :
      WrittenAs s (replace ++ ⟨.keyword .view, view⟩ :: ⟨.identifier, s.name⟩ ::
        (columns ++ ⟨.keyword .asWord, asWord⟩ :: ⟨.keyword .select,
          select⟩ :: body))

/-- A statement is written as its first keyword and what follows it. -/
inductive Statement.WrittenAs : Statement → List Token → Prop
  | select {s : Select} {tokens : List Token} (literal : String)
      (h : s.WrittenAs tokens) :
      WrittenAs (.select s) (⟨.keyword .select, literal⟩ :: tokens)
  | describe {s : Describe} {tokens : List Token} (word : Keyword)
      (literal : String)
      (hword : word = .desc ∨ word = .describe) (h : s.WrittenAs tokens) :
      WrittenAs (.describe s) (⟨.keyword word, literal⟩ :: tokens)
  | showTables {s : ShowTables} {tokens : List Token} (literal : String)
      (h : s.WrittenAs tokens) :
      WrittenAs (.showTables s) (⟨.keyword .showWord, literal⟩ :: tokens)
  | createView {s : CreateView} {tokens : List Token} (literal : String)
      (h : s.WrittenAs tokens) :
      WrittenAs (.createView s) (⟨.keyword .create, literal⟩ :: tokens)

end ReportQuery
