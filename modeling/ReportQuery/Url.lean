import ReportQuery.Numeral
import ReportQuery.Text.Characters
import ReportQuery.Text.Percent
import ReportQuery.Text.Search
import ReportQuery.Text.Utf8
import ReportQuery.Url.HostTable

/-!
# Web addresses

The parts of an `http` or `https` address that a request depends on: its
scheme, its host and its path. Control characters and blanks around an address
do not belong to it, and neither do tabs and line breaks inside. A backslash
divides like a slash, any number of slashes may precede the host, and dot
segments are resolved. A host is put into its plain form, which is ASCII in
lower case; one without a plain form cannot be asked. Credentials, the number
after the host, query and fragment are read and dropped.
-/

namespace ReportQuery

/-- A web address. -/
structure Url where
  scheme : String
  host : String
  path : String
deriving DecidableEq, Repr

namespace Url

/-- Whether a character may surround an address. -/
def isPadding (c : Char) : Bool :=
  c.toNat ≤ 0x20

/-- Whether a character is passed over inside an address. -/
def isIgnored (c : Char) : Bool :=
  c == '\t' || c == '\n' || c == '\r'

/-- The characters that belong to an address. -/
def significant (cs : List Char) : List Char :=
  (((cs.dropWhile isPadding).reverse.dropWhile isPadding).reverse).filter
    fun c => !isIgnored c

/-- Whether a character may stand in a scheme after its first letter. -/
def isSchemeChar (c : Char) : Bool :=
  Text.isLetterOrDigit c || c == '+' || c == '-' || c == '.'

/-- The scheme in lower case, and what follows its colon. -/
def scheme? (cs : List Char) : Option (String × List Char) :=
  match cs.takeWhile isSchemeChar, cs.dropWhile isSchemeChar with
  | c :: name, ':' :: rest =>
    if Text.isLetter c then some (Text.lower (String.ofList (c :: name)), rest)
    else none
  | _, _ => none

/-- Whether a character divides the segments of a path. -/
def isSlash (c : Char) : Bool :=
  c == '/' || c == '\\'

/-- Whether a character ends the path. -/
def endsPath (c : Char) : Bool :=
  c == '?' || c == '#'

/-- Whether a character belongs to the part between the slashes and the path. -/
def inAuthority (c : Char) : Bool :=
  !isSlash c && !endsPath c

/-- What follows the last at sign, or everything without one. -/
def dropCredentials (cs : List Char) : List Char :=
  (cs.reverse.takeWhile (· != '@')).reverse

/-- Whether a text may follow a host: nothing, or a numeral of sixteen bits
after a colon. -/
def mayFollowHost : List Char → Bool
  | [] => true
  | [':'] => true
  | ':' :: digits => (Numeral.natural? digits).any (· < 0x10000)
  | _ => false

/-- Whether a character may not stand in a host. -/
def isForbiddenInHost (c : Char) : Bool :=
  c.toNat ≤ 0x20 || c.toNat == 0x7F || "#%/:<>?@[\\]^|".toList.contains c

/-- The plain form of a character of a host, when it has one. -/
def plainChar? (c : Char) : Option (List Char) :=
  if Text.inRanges omittedRanges c then some []
  else
    match plainRuns.find? fun run => run.first ≤ c.toNat &&
      c.toNat ≤ run.last with
    | some run => some [Char.ofNat (run.plain.toNat + (c.toNat - run.first))]
    | none =>
      match plainTexts.find? fun entry => entry.1 == c.toNat with
      | some entry => some entry.2.toList
      | none => if c.toNat < 0x80 then some [c] else none

/-- The host that a text denotes, in its plain form. -/
def host? (cs : List Char) : Option String := do
  let decoded ← Text.utf8Text? (Percent.decode cs)
  let plain ← decoded.toList.mapM plainChar?
  let host := plain.flatten
  if host.isEmpty || host.any isForbiddenInHost then none
  else some (String.ofList host)

/-- Whether a character of a path stands for itself. -/
def keptInPath (c : Char) : Bool :=
  0x20 < c.toNat && c.toNat < 0x7F && !"\"#<>?`\x7b\x7d".toList.contains c

/-- The texts between the slashes. -/
def segments : List Char → List (List Char)
  | [] => [[]]
  | c :: cs =>
    match isSlash c, segments cs with
    | true, rest => [] :: rest
    | false, segment :: rest => (c :: segment) :: rest
    | false, [] => [[c]]

/-- Whether a segment means the place where it stands. -/
def isHere (segment : String) : Bool :=
  [".", "%2e"].contains (Text.lower segment)

/-- Whether a segment means the place above. -/
def isAbove (segment : String) : Bool :=
  ["..", ".%2e", "%2e.", "%2e%2e"].contains (Text.lower segment)

/-- Whether a segment names a drive: a letter and a mark. -/
def isDrive (segment : String) : Bool :=
  match segment.toList with
  | [letter, mark] => Text.isLetter letter && (mark == ':' || mark == '|')
  | _ => false

/-- The segments without the last, which stays when it names a drive. -/
def dropLast (done : List String) : List String :=
  if done.getLast?.any isDrive then done else done.dropLast

/-- The segments after `done` with their dot segments resolved. -/
def resolve (done : List String) : List String → List String
  | [] => done
  | [last] =>
    if isAbove last then dropLast done ++ [""]
    else if isHere last then done ++ [""]
    else done ++ [last]
  | segment :: rest =>
    if isAbove segment then resolve (dropLast done) rest
    else if isHere segment then resolve done rest
    else resolve (done ++ [segment]) rest

/-- The path at the front of a text. -/
def pathOf (cs : List Char) : String :=
  let path := cs.takeWhile fun c => !endsPath c
  let inner := match path with
    | c :: rest => if isSlash c then rest else path
    | [] => []
  let names := (segments inner).map fun segment =>
    String.ofList (Percent.encode keptInPath segment)
  "/" ++ Text.join "/" (resolve [] names)

/-- The address that a text denotes, when its scheme is one of the web. -/
def ofText? (s : String) : Option Url := do
  let (scheme, rest) ← scheme? (significant s.toList)
  if scheme != "http" && scheme != "https" then none
  let rest := rest.dropWhile isSlash
  let place := dropCredentials (rest.takeWhile inAuthority)
  let host ← host? (place.takeWhile (· != ':'))
  if mayFollowHost (place.dropWhile (· != ':')) then
    some { scheme, host, path := pathOf (rest.dropWhile inAuthority) }
  else none

end Url

end ReportQuery
