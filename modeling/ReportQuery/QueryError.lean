import ReportQuery.Catalog
import ReportQuery.Service.Error
import ReportQuery.Statement.Error
import ReportQuery.Statement.Printer

/-!
# Failed statements

Why a statement gives no result: its text is malformed, the catalog refuses it,
it asks for more than a view shows, the report cannot be downloaded, or its
values do not fit their columns.
-/

namespace ReportQuery

/-- How a statement asks for more than a view shows. -/
inductive ScopeFault where
  /-- Views are nested deeper than they are unfolded. -/
  | tooManyViews (allowed : Nat)
  /-- A column is filtered by the view and, in another way, by the statement. -/
  | filteredByView (column view : String)
  /-- The days of the statement and of the view have none in common. -/
  | disjointDays (asked shown : During)
deriving DecidableEq, Repr

/-- The text of the fault. -/
def ScopeFault.text : ScopeFault → String
  | tooManyViews allowed =>
      "more than " ++ Numeral.ofNat allowed ++ " nested views"
  | filteredByView column view => column ++ " is already filtered by " ++ view
  | disjointDays asked shown =>
      "DURING " ++ asked.text ++ " is outside of " ++ shown.text

/-- Why a statement gives no result. -/
inductive QueryError where
  | parse (error : ParseError)
  | catalog (error : CatalogError)
  | outOfScope (fault : ScopeFault)
  /-- A view applies a method that is no aggregate function. -/
  | unknownMethod (name : String)
  /-- A raw value does not fit the type of its column. -/
  | cast (value kind : String)
  /-- A record has fewer values than columns were asked for. -/
  | malformedRow (expected found : Nat)
  | fetch (error : FetchError)
  /-- A text does not hold exactly one statement. -/
  | multipleStatements (count : Nat)
deriving DecidableEq, Repr

/-- The message of the error. -/
def QueryError.message : QueryError → String
  | parse error => error.message
  | catalog error => error.message
  | outOfScope fault => "QueryError.OUT_OF_SCOPE (" ++ fault.text ++ ")"
  | unknownMethod name => "QueryError.UNKNOWN_METHOD (" ++ name ++ ")"
  | cast value kind => "QueryError.INVALID_VALUE (" ++ value ++
      " as " ++ kind ++ ")"
  | malformedRow expected found =>
    "QueryError.MALFORMED_ROW (" ++ Numeral.ofNat found ++ " < " ++
      Numeral.ofNat expected ++ ")"
  | fetch error => error.message
  | multipleStatements count =>
    "QueryError.MULTIPLE_STATEMENTS (" ++ Numeral.ofNat count ++ ")"

end ReportQuery
