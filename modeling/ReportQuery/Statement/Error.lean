import ReportQuery.Numeral

/-!
# Malformed statements

Why a text is not a statement. Each cause has a machine-readable code and names
the literal it is about; the message puts both together.
-/

namespace ReportQuery

/-- The machine-readable codes of syntax errors. -/
inductive SyntaxCode where
  | syntaxNear
  | unknownStatement
  | missingSource
  | invalidSource
  | invalidField
  | invalidColumn
  | invalidFunction
  | invalidDuring
  | invalidGroupBy
  | invalidOrderBy
  | invalidLimit
  | invalidMethod
  | columnsNotMatch
deriving DecidableEq, Repr

namespace SyntaxCode

/-- Every code, in the order of declaration. -/
def all : List SyntaxCode :=
  [syntaxNear, unknownStatement, missingSource, invalidSource, invalidField,
    invalidColumn, invalidFunction, invalidDuring, invalidGroupBy,
    invalidOrderBy, invalidLimit, invalidMethod, columnsNotMatch]

/-- The text of the code. -/
def word : SyntaxCode → String
  | syntaxNear => "SYNTAX_NEAR"
  | unknownStatement => "UNKNOWN_STATEMENT"
  | missingSource => "MISSING_SOURCE"
  | invalidSource => "INVALID_SOURCE"
  | invalidField => "INVALID_FIELD"
  | invalidColumn => "INVALID_COLUMN"
  | invalidFunction => "INVALID_FUNCTION"
  | invalidDuring => "INVALID_DURING"
  | invalidGroupBy => "INVALID_GROUP_BY"
  | invalidOrderBy => "INVALID_ORDER_BY"
  | invalidLimit => "INVALID_LIMIT"
  | invalidMethod => "INVALID_METHOD"
  | columnsNotMatch => "COLUMNS_NOT_MATCH"

end SyntaxCode

/-- What is wrong with the days of a DURING clause. -/
inductive DuringFault where
  /-- An entry is neither a date nor the name of a range. -/
  | unknownDays (literal : String)
  /-- There are more than two entries. -/
  | tooManyDays
  /-- A single entry is a date. -/
  | nameExpected
  /-- One of two entries is a name. -/
  | dateExpected
deriving DecidableEq, Repr

/-- The reason that the message gives. -/
def DuringFault.reason : DuringFault → String
  | unknownDays literal => literal
  | tooManyDays => "UNEXPECTED_NUMBER_OF_DATE_RANGE"
  | nameExpected => "EXPECTED_DATE_RANGE_LITERAL"
  | dateExpected => "EXPECTED_NO_LITERAL_DATE"

/-- Why a text is not a statement. -/
inductive ParseError where
  /-- A token that the grammar does not allow. -/
  | unexpected (code : SyntaxCode) (literal : String)
  /-- A function that the language does not have. -/
  | unknownFunction (name : String)
  /-- A view with a list of names that does not fit its select list. -/
  | columnCount (expected found : Nat)
  | during (fault : DuringFault)
deriving DecidableEq, Repr

namespace ParseError

/-- The machine-readable code. -/
def code : ParseError → SyntaxCode
  | unexpected code _ => code
  | unknownFunction _ => .invalidFunction
  | columnCount _ _ => .columnsNotMatch
  | during _ => .invalidDuring

/-- The literal that the error is about. -/
def literal : ParseError → String
  | unexpected _ literal => literal
  | unknownFunction name => name
  | columnCount _ found => Numeral.ofNat found
  | during fault => fault.reason

/-- What the message has between its parentheses. -/
def detail : ParseError → String
  | columnCount expected found =>
      Numeral.ofNat expected ++ " != " ++ Numeral.ofNat found
  | error => error.literal

/-- The message. -/
def message (error : ParseError) : String :=
  "ParserError." ++ error.code.word ++ " (" ++ error.detail ++ ")"

end ParseError

end ReportQuery
