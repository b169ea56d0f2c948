import ReportQuery.Numeral

/-!
# Failed downloads

Why a report could not be downloaded. An error of the service itself names its
kind, the text that triggered it and, at times, the path of a field.
-/

namespace ReportQuery

/-- A credential that a request cannot do without. -/
inductive Credential where
  | accountId
  | developerToken
deriving DecidableEq, Repr

/-- The name of the credential. -/
def Credential.name : Credential → String
  | accountId => "account id"
  | developerToken => "developer token"

/-- An error that the service reports. -/
structure ApiError where
  kind : String
  trigger : String
  field : Option String
deriving DecidableEq, Repr

/-- The message names the field, unless it is the whole selector, and else the
trigger. -/
def ApiError.message (error : ApiError) : String :=
  match error.field.getD "" with
  | "" =>
    if error.trigger.isEmpty || error.trigger == "<null>" then error.kind
    else error.kind ++ " (" ++ error.trigger ++ ")"
  | "selector" => error.kind
  | field => error.kind ++ " on " ++ field

/-- Why a report could not be downloaded. -/
inductive FetchError where
  | api (error : ApiError)
  /-- The service answered with a status that is neither success nor a report
  error. -/
  | serviceUnavailable (status : Nat)
  /-- No answer came. -/
  | network (reason : String)
  | timeout
  /-- The answer is no table of values. -/
  | invalidReport
  | missingCredentials (credential : Credential)
deriving DecidableEq, Repr

/-- The message of the error. -/
def FetchError.message : FetchError → String
  | api error => error.message
  | serviceUnavailable status =>
    "ConnectionError.SERVICE_UNAVAILABLE (" ++ Numeral.ofNat status ++ ")"
  | network reason => "ConnectionError.NETWORK (" ++ reason ++ ")"
  | timeout => "ConnectionError.TIMEOUT"
  | invalidReport => "ConnectionError.INVALID_REPORT"
  | missingCredentials credential =>
    "ConnectionError.MISSING_CREDENTIALS (" ++ credential.name ++ ")"

end ReportQuery
