import ReportQuery.Numeral
import ReportQuery.Text.Quoted

/-!
# XML documents

What can be wrong with a document and how a message says so. A document that
breaks off inside some markup, or whose tags do not match, can be read up to
that place.
-/

namespace ReportQuery.Xml

/-- What is wrong with a reference to a character. Places are counted in bytes
of the text that the reference stands in. -/
inductive ReferenceFault where
  | unknown (start stop : Nat) (name : String)
  | unterminated (start stop : Nat)
  | null (start stop : Nat)
  | tooLong (hexadecimal : Bool)
  | badDigit (hexadecimal : Bool) (digit : Char)
  | noCharacter (number : Nat)
deriving DecidableEq, Repr

/-- What is wrong with the attributes of a tag. Places are counted in bytes
from the name of the tag. -/
inductive AttributeFault where
  /-- A name is not followed by an equals sign. -/
  | expectedEquals (place : Nat)
  /-- The tag ends after an equals sign. -/
  | expectedValue (place : Nat)
  | unquotedValue (place : Nat)
  /-- The tag ends inside a value. -/
  | unclosedValue (place : Nat) (quote : Char)
  | repeated (place before : Nat)
deriving DecidableEq, Repr

/-- What is wrong with a document. -/
inductive Fault where
  /-- There is text where an element has to be. -/
  | expectedElement
  /-- There is an element where text has to be. -/
  | unexpectedElement (name : String)
  /-- The document ends inside an element. -/
  | unexpectedEnd
  /-- The innermost open element is not the one that a tag closes. -/
  | mismatchedTag (expected found : String)
  /-- The document ends inside some markup. -/
  | unclosed (markup : String)
  /-- A document type declaration declares nothing. -/
  | emptyDoctype
  /-- Markup with an exclamation mark is none that is known; it goes on with
  this byte. -/
  | unknownMarkup (byte : UInt8)
  | inAttributes (fault : AttributeFault)
  | reference (fault : ReferenceFault)
  | missingMember (name : String)
  | repeatedMember (name : String)
deriving DecidableEq, Repr

/-- A span of bytes as a message shows it. -/
def spanText (start stop : Nat) : String :=
  Numeral.ofNat start ++ ".." ++ Numeral.ofNat stop

/-- The base of a numeric reference as a message names it. -/
def baseName (hexadecimal : Bool) : String :=
  if hexadecimal then "hexadecimal" else "decimal"

/-- A byte as a message shows it: the character of that number. -/
def byteText (b : UInt8) : String :=
  (Char.ofNat b.toNat).toString

/-- The first byte of a character. -/
def firstByte (c : Char) : UInt8 :=
  (String.utf8EncodeChar c).headD 0

/-- The message of the fault. -/
def ReferenceFault.message : ReferenceFault → String
  | unknown start stop name =>
    "Error while escaping character at range " ++ spanText start stop ++
      ": Unrecognized escape symbol: " ++ Text.quoted name
  | unterminated start stop =>
    "Error while escaping character at range " ++ spanText start stop ++
      ": Cannot find ';' after '&'"
  | null start stop =>
    "Error while escaping character at range " ++ spanText start stop ++
      ": Null character entity not allowed"
  | tooLong hexadecimal =>
      "Cannot convert " ++ baseName hexadecimal ++ " to utf8"
  | badDigit hexadecimal digit =>
    "'" ++ byteText (firstByte digit) ++ "' is not a valid " ++
      baseName hexadecimal ++ " character"
  | noCharacter number =>
      "'" ++ Numeral.ofNat number ++ "' is not a valid codepoint"

/-- The message of the fault. -/
def AttributeFault.message : AttributeFault → String
  | expectedEquals place =>
    "position " ++ Numeral.ofNat place ++
      ": attribute key must be directly followed by `=` or space"
  | expectedValue place =>
    "position " ++ Numeral.ofNat place ++
      ": `=` must be followed by an attribute value"
  | unquotedValue place =>
    "position " ++ Numeral.ofNat place ++
      ": attribute value must be enclosed in `\"` or `'`"
  | unclosedValue place quote =>
    "position " ++ Numeral.ofNat place ++ ": missing closing quote `" ++
      quote.toString ++ "` in attribute value"
  | repeated place before =>
    "position " ++ Numeral.ofNat place ++
      ": duplicated attribute, previous declaration at position " ++
      Numeral.ofNat before

/-- The message of the fault. -/
def Fault.message : Fault → String
  | expectedElement => "Expecting `Event::Start`"
  | unexpectedElement name =>
      "Unexpected `Event::Start(" ++ Text.quotedBytes name ++ ")`"
  | unexpectedEnd => "Unexpected `Event::Eof`"
  | mismatchedTag expected found =>
      "Expecting </" ++ expected ++ "> found </" ++ found ++ ">"
  | unclosed markup => "Unexpected EOF during reading " ++ markup
  | emptyDoctype => "DOCTYPE declaration must not be empty"
  | unknownMarkup byte =>
    "Only Comment (`--`), CDATA (`[CDATA[`) and DOCTYPE (`DOCTYPE`) nodes " ++
      "can start with a '!', but symbol `" ++ byteText byte ++ "` found"
  | inAttributes fault => "error while parsing attribute: " ++ fault.message
  | reference fault => fault.message
  | missingMember name => "missing field `" ++ name ++ "`"
  | repeatedMember name => "duplicate field `" ++ name ++ "`"

/-- A tag that opens an element: its name, and what follows it up to the end of
the tag. -/
structure Tag where
  name : String
  attributes : List Char := []
deriving DecidableEq, Repr

/-- The number of bytes of some characters. -/
def byteCount (cs : List Char) : Nat :=
  (String.ofList cs).utf8ByteSize

/-- The name without the part up to its first colon. -/
def localName (name : String) : String :=
  match name.toList.dropWhile (· != ':') with
  | _ :: rest => String.ofList rest
  | [] => name

end ReportQuery.Xml
