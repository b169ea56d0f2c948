/-!
# Comparison operators

The fourteen operators that a condition may use, with their spelling in a
statement and their name in a catalog document.
-/

namespace ReportQuery

/-- How a condition compares a column with its values. -/
inductive Operator where
  | equal
  | different
  | greater
  | greaterOrEqual
  | less
  | lessOrEqual
  | isIn
  | notIn
  | startsWith
  | startsWithIgnoreCase
  | contains
  | containsIgnoreCase
  | doesNotContain
  | doesNotContainIgnoreCase
deriving DecidableEq, Repr

namespace Operator

/-- Every operator. -/
def all : List Operator :=
  [equal, different, greater, greaterOrEqual, less, lessOrEqual, isIn,
    notIn, startsWith, startsWithIgnoreCase, contains, containsIgnoreCase,
    doesNotContain, doesNotContainIgnoreCase]

/-- The spelling in a statement. -/
def spelling : Operator → String
  | equal => "="
  | different => "!="
  | greater => ">"
  | greaterOrEqual => ">="
  | less => "<"
  | lessOrEqual => "<="
  | isIn => "IN"
  | notIn => "NOT_IN"
  | startsWith => "STARTS_WITH"
  | startsWithIgnoreCase => "STARTS_WITH_IGNORE_CASE"
  | contains => "CONTAINS"
  | containsIgnoreCase => "CONTAINS_IGNORE_CASE"
  | doesNotContain => "DOES_NOT_CONTAIN"
  | doesNotContainIgnoreCase => "DOES_NOT_CONTAIN_IGNORE_CASE"

/-- The name in a catalog document. -/
def documentName : Operator → String
  | equal => "EQUAL"
  | different => "DIFFERENT"
  | greater => "GREATER"
  | greaterOrEqual => "GREATER_OR_EQUAL"
  | less => "LESS"
  | lessOrEqual => "LESS_OR_EQUAL"
  | op => op.spelling

/-- The operator with a name in a catalog document. -/
def ofDocumentName? (s : String) : Option Operator :=
  all.find? fun op => op.documentName == s

theorem ofDocumentName?_documentName (op : Operator) :
    ofDocumentName? op.documentName = some op := by
  cases op <;> decide

end Operator

end ReportQuery
