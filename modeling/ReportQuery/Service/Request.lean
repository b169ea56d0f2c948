import ReportQuery.Service.Error
import ReportQuery.Text.Characters
import ReportQuery.Text.Percent
import ReportQuery.Text.Search
import ReportQuery.Url

/-!
# Requests

The request for the report of a query. It carries who asks in its headers and
the query in its body, and goes to the address of the service, behind which
stands the version of its interface. A request is made only when there are an
account and a developer token, when no header holds control characters, and
when the address can be read.

The body is that of a form: a name and a value are joined by an equals sign,
and neighbours by an ampersand. A blank becomes a plus sign, and every
character but letters, digits and `*-._` is percent encoded.
-/

namespace ReportQuery

/-- Who asks the report service, and where it is. -/
structure ServiceSettings where
  accountId : String := ""
  apiVersion : String := "v201809"
  developerToken : String := ""
  accessToken : String := ""
  /-- Whether reports have rows without impressions. -/
  zeroImpressions : Bool := false
  timeoutSeconds : Nat := 600
  endpoint : String := "https://adwords.google.com/api/adwords/reportdownload/"
deriving DecidableEq, Repr

/-- The address that reports are requested from. -/
def ServiceSettings.address (settings : ServiceSettings) : String :=
  settings.endpoint ++ settings.apiVersion

/-! ## The body of a form -/

namespace Form

/-- Whether a character stands for itself. -/
def isKept (c : Char) : Bool :=
  c.isAlphanum || c == '*' || c == '-' || c == '.' || c == '_'

/-- The written form of a character. -/
def encodeChar (c : Char) : List Char :=
  if c = ' ' then ['+'] else if isKept c then [c] else Percent.ofChar c

/-- The written form of a name or value. -/
def encodeText (s : String) : String :=
  String.ofList (s.toList.flatMap encodeChar)

/-- The written form of named values. -/
def encode (values : List (String × String)) : String :=
  Text.join "&" (values.map fun (name, value) => encodeText name ++ "=" ++
    encodeText value)

end Form

/-! ## The request for a report -/

/-- A header of a request. -/
structure Header where
  name : String
  value : String
deriving DecidableEq, Repr

namespace Header

/-- Whether a character may stand in the value of a header. -/
def isAllowed (c : Char) : Bool :=
  c == '\t' || (0x20 ≤ c.toNat && c.toNat != 0x7F)

/-- Whether the value of a header can be sent. -/
def isValid (header : Header) : Bool :=
  header.value.toList.all isAllowed

/-- The header as it is sent, without blanks around its value. -/
def trimmed (header : Header) : Header :=
  { header with value := Text.trimmed header.value }

end Header

/-- A request to the report service. -/
structure Request where
  method : String := "POST"
  url : Url
  headers : List Header
  body : String
deriving DecidableEq, Repr

namespace ServiceSettings

/-- The credential that a request needs and the settings lack. -/
def missingCredential? (settings : ServiceSettings) : Option Credential :=
  if settings.accountId.isEmpty then some .accountId
  else if settings.developerToken.isEmpty then some .developerToken
  else none

/-- A truth value as a header says it. -/
def flag (b : Bool) : String :=
  if b then "true" else "false"

/-- The header that holds the access token, when there is one. -/
def authorization (settings : ServiceSettings) : List Header :=
  if settings.accessToken.isEmpty then []
  else [⟨"authorization", "Bearer " ++ settings.accessToken⟩]

/-- The headers of every request. -/
def headers (settings : ServiceSettings) : List Header :=
  [⟨"accept", "*/*"⟩,
    ⟨"clientcustomerid", settings.accountId⟩,
    ⟨"developertoken", settings.developerToken⟩,
    ⟨"includezeroimpressions", flag settings.zeroImpressions⟩,
    ⟨"skipcolumnheader", flag true⟩,
    ⟨"skipreportheader", flag true⟩,
    ⟨"skipreportsummary", flag true⟩,
    ⟨"userawenumvalues", flag false⟩,
    ⟨"content-type", "application/x-www-form-urlencoded"⟩] ++
    settings.authorization

/-- The body that asks for the report of a query. -/
def body (query : String) : String :=
  Form.encode [("__rdquery", query), ("__fmt", "CSV")]

/-- The request for the report of a query. -/
def request (settings : ServiceSettings) (query : String) :
    Except FetchError Request :=
  match settings.missingCredential?, Url.ofText? settings.address with
  | some credential, _ => .error (.missingCredentials credential)
  | none, none => .error (.network "the address cannot be read")
  | none, some url =>
    if settings.headers.all Header.isValid then
      .ok { url, headers := settings.headers.map Header.trimmed,
            body := body query }
    else .error (.network "a header cannot be sent")

end ServiceSettings

end ReportQuery
