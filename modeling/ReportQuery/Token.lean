import ReportQuery.Operator
import ReportQuery.Text.Characters

/-!
# Tokens

The kinds of token a statement is made of, the reserved words, and the classes
of characters that separate tokens. Reserved words are recognised in any letter
case.
-/

namespace ReportQuery

/-- A reserved word that is not an operator. -/
inductive Keyword where
  | describe
  | select
  | create
  | replace
  | view
  | showWord
  | full
  | tables
  | distinct
  | asWord
  | fromWord
  | whereWord
  | like
  | withWord
  | and
  | or
  | during
  | group
  | order
  | byWord
  | asc
  | desc
  | limit
deriving DecidableEq, Repr

namespace Keyword

/-- Every reserved word that is not an operator. -/
def all : List Keyword :=
  [describe, select, create, replace, view, showWord, full, tables, distinct,
    asWord, fromWord, whereWord, like, withWord, and, or, during, group, order,
    byWord, asc, desc, limit]

/-- The spelling in upper case. -/
def spelling : Keyword → String
  | describe => "DESCRIBE"
  | select => "SELECT"
  | create => "CREATE"
  | replace => "REPLACE"
  | view => "VIEW"
  | showWord => "SHOW"
  | full => "FULL"
  | tables => "TABLES"
  | distinct => "DISTINCT"
  | asWord => "AS"
  | fromWord => "FROM"
  | whereWord => "WHERE"
  | like => "LIKE"
  | withWord => "WITH"
  | and => "AND"
  | or => "OR"
  | during => "DURING"
  | group => "GROUP"
  | order => "ORDER"
  | byWord => "BY"
  | asc => "ASC"
  | desc => "DESC"
  | limit => "LIMIT"

end Keyword

/-- The kind of a token. -/
inductive TokenKind where
  /-- An unknown character, a malformed number, or a quoted text that is not
  closed. -/
  | illegal
  /-- The end of the text. -/
  | ending
  /-- A run of blanks. -/
  | blank
  | identifier
  /-- A word with a point in it. -/
  | dotted
  /-- A quoted text, without its quotes and escapes. -/
  | quoted
  /-- Digits that fit a signed word. -/
  | digits
  /-- Any other number. -/
  | decimal
  | asterisk
  | comma
  | semicolon
  | openParen
  | closeParen
  | openBracket
  | closeBracket
  /-- The mark that asks for vertical output. -/
  | vertical
  | operator (op : Operator)
  | keyword (word : Keyword)
deriving DecidableEq, Repr

namespace TokenKind

/-- The operators that are spelled as words. -/
def operatorWords : List Operator :=
  [.isIn, .notIn, .startsWith, .startsWithIgnoreCase, .contains,
    .containsIgnoreCase, .doesNotContain, .doesNotContainIgnoreCase]

/-- Reserved words in upper case with the kinds they stand for. -/
def reserved : List (String × TokenKind) :=
  Keyword.all.map (fun word => (word.spelling, keyword word)) ++
    operatorWords.map (fun op => (op.spelling, operator op))

/-- The kind of a reserved word, in any letter case. -/
def ofWord? (word : String) : Option TokenKind :=
  (reserved.find? fun entry => entry.1 == Text.upper word).map (·.2)

/-- Whether the token is a comparison operator. -/
def isOperator : TokenKind → Bool
  | operator _ => true
  | _ => false

/-- Whether the token may stand as a value without quotes. -/
def isBareValue : TokenKind → Bool
  | identifier | dotted | digits | decimal => true
  | _ => false

end TokenKind

/-- A kind with the text the token stands for. -/
structure Token where
  kind : TokenKind
  literal : String
deriving DecidableEq, Repr

namespace Token

/-- The token at the end of a text. -/
def ending : Token := ⟨.ending, ""⟩

@[simp] theorem kind_ending : ending.kind = .ending := rfl

/-- Whether a character separates tokens. -/
def isSpace (c : Char) : Bool :=
  c == ' ' || c == '\t' || c == '\n' || c == '\r'

/-- Whether a character may follow the first letter of a word. -/
def isWordChar (c : Char) : Bool :=
  c == '_' || c == '.' || Text.isLetterOrDigit c

/-- Whether a character may follow the first digit of a number. -/
def isNumberChar (c : Char) : Bool :=
  c == '.' || c.isDigit

/-- Whether a character opens and closes quoted texts. -/
def isQuote (c : Char) : Bool :=
  c == '"' || c == '\''

end Token

end ReportQuery
