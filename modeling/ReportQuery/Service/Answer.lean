import ReportQuery.Csv
import ReportQuery.Service.ErrorDocument
import ReportQuery.Service.Request

/-!
# Answers of the service

A status of success carries the records of the report, a refusal explains
itself in a document unless its body is blank, and any other status means that
the service is not available. Nothing is asked of the service when no request
can be made.
-/

namespace ReportQuery

/-- What the service answers. -/
structure Answer where
  status : Nat
  body : String
deriving DecidableEq, Repr

/-- Why a request has no answer. -/
inductive TransportFault where
  | timeout
  | network (reason : String)
deriving DecidableEq, Repr

/-- How requests are answered. -/
abbrev Transport := Request → Except TransportFault Answer

namespace Answer

/-- The status of success. -/
def okStatus : Nat := 200

/-- The status of a refusal. -/
def refusedStatus : Nat := 400

/-- The body without a byte order mark at its front. -/
def text (answer : Answer) : List Char :=
  (Text.dropLeading? ['\uFEFF'] answer.body.toList).getD answer.body.toList

/-- The records of a report. -/
def report (cs : List Char) : Except FetchError Records :=
  match Csv.decode? (Csv.bytesOf (String.ofList cs)) with
  | some records => .ok records
  | none => .error .invalidReport

/-- Why a query was refused. -/
def refusal (cs : List Char) : FetchError :=
  if cs.all Text.isBlank then .serviceUnavailable refusedStatus
  else .api (ApiError.ofRefusal (String.ofList cs))

/-- The records that an answer carries, or why it carries none. -/
def records (answer : Answer) : Except FetchError Records :=
  if answer.status = okStatus then report answer.text
  else if answer.status = refusedStatus then .error (refusal answer.text)
  else .error (.serviceUnavailable answer.status)

end Answer

/-- The error of a request without an answer. -/
def TransportFault.error : TransportFault → FetchError
  | timeout => .timeout
  | network reason => .network reason

namespace ServiceSettings

/-- The records of a query, asked of the service. -/
def fetch (settings : ServiceSettings) (transport : Transport)
    (query : String) : Except FetchError Records :=
  (settings.request query).bind fun request =>
    ((transport request).mapError TransportFault.error).bind Answer.records

/-- The requests that queries lead to. -/
def requests (settings : ServiceSettings) (queries : List String) :
    List Request :=
  queries.filterMap fun query => (settings.request query).toOption

end ServiceSettings

end ReportQuery
