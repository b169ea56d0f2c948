import ReportQuery.Text.Utf8

/-!
# Comma-separated records

Records of texts as bytes and back. A field is quoted only when it holds a
comma, a quote or a line break, and a quote inside it is written twice. Reading
accepts records of any length, passes over empty lines, takes either line break
or both together, and reads a quote as one only where a field begins. A byte
order mark at the front is dropped.
-/

namespace ReportQuery

/-- The records of a report: rows of raw values. -/
abbrev Records := List (List String)

namespace Csv

/-- The byte that divides the fields of a record. -/
def comma : UInt8 := 44

/-- The byte around quoted fields. -/
def quote : UInt8 := 34

/-- The byte that ends a written record. -/
def lineFeed : UInt8 := 10

/-- The other byte that ends a record when reading. -/
def carriageReturn : UInt8 := 13

/-- Whether a byte ends a record. -/
def endsRecord (b : UInt8) : Bool :=
  b == lineFeed || b == carriageReturn

/-- Whether a byte makes it necessary to quote its field. -/
def needsQuotes (b : UInt8) : Bool :=
  b == comma || b == quote || endsRecord b

/-- The bytes of a field with every quote doubled. -/
def doubleQuotes : List UInt8 → List UInt8
  | [] => []
  | b :: bs =>
    if b = quote then quote :: quote :: doubleQuotes bs
    else b :: doubleQuotes bs

/-- The written form of a field. -/
def encodeField (field : List UInt8) : List UInt8 :=
  if field.any needsQuotes then quote :: doubleQuotes field ++ [quote]
  else field

/-- The written form of fields with a comma between neighbours. -/
def encodeFields : List (List UInt8) → List UInt8
  | [] => []
  | [field] => encodeField field
  | field :: next :: rest =>
    encodeField field ++ comma :: encodeFields (next :: rest)

/-- The written form of a record; one that would be an empty line is a pair of
quotes. -/
def encodeRecord (record : List (List UInt8)) : List UInt8 :=
  let bytes := encodeFields record
  (if bytes.isEmpty then [quote, quote] else bytes) ++ [lineFeed]

/-- The bytes of a text. -/
def bytesOf (s : String) : List UInt8 :=
  s.toUTF8.data.toList

/-- The written form of records. -/
def encode (records : Records) : List UInt8 :=
  records.flatMap fun record => encodeRecord (record.map bytesOf)

/-- Where the reader stands. -/
inductive Place where
  /-- At the start of a line. -/
  | line
  /-- At the start of a field. -/
  | field
  /-- Inside a field without quotes. -/
  | plain
  /-- Inside quotes. -/
  | quoted
  /-- After a quote inside quotes. -/
  | quoteInQuoted
deriving DecidableEq, Repr

/-- What a byte does to the field being read. -/
inductive Action where
  /-- The byte belongs to the field. -/
  | keep
  /-- The byte is passed over. -/
  | skip
  | endField
  | endRecord
deriving DecidableEq, Repr

/-- What a byte does outside quotes when it is not a quote at the start of a
field. -/
def plainAction (b : UInt8) : Action × Place :=
  if b = comma then (.endField, .field)
  else if endsRecord b then (.endRecord, .line)
  else (.keep, .plain)

/-- What a byte does at the start of a field. -/
def fieldAction (b : UInt8) : Action × Place :=
  if b = quote then (.skip, .quoted) else plainAction b

/-- What a byte does, and where the reader stands after it. -/
def action (place : Place) (b : UInt8) : Action × Place :=
  match place with
  | .line => if endsRecord b then (.skip, .line) else fieldAction b
  | .field => fieldAction b
  | .plain => plainAction b
  | .quoted => if b = quote then (.skip, .quoteInQuoted) else (.keep, .quoted)
  | .quoteInQuoted => if b = quote then (.keep, .quoted) else plainAction b

/-- The records in bytes, when some bytes of a field and some fields of its
record were read before, both in reverse. -/
def decodeFrom (place : Place) (field : List UInt8)
    (record : List (List UInt8)) :
    List UInt8 → List (List (List UInt8))
  | [] => if place = .line then [] else [(field.reverse :: record).reverse]
  | b :: bs =>
    match action place b with
    | (.keep, place) => decodeFrom place (b :: field) record bs
    | (.skip, place) => decodeFrom place field record bs
    | (.endField, place) => decodeFrom place [] (field.reverse :: record) bs
    | (.endRecord, place) =>
      (field.reverse :: record).reverse :: decodeFrom place [] [] bs

/-- The bytes after an optional byte order mark. -/
def dropMark : List UInt8 → List UInt8
  | 0xEF :: 0xBB :: 0xBF :: bs => bs
  | bs => bs

/-- The records in bytes; every field has to be UTF-8. -/
def decode? (bytes : List UInt8) : Option Records :=
  (decodeFrom .line [] [] (dropMark bytes)).mapM fun record =>
    record.mapM Text.utf8Text?

end Csv

end ReportQuery
