import ReportQuery.Cell
import ReportQuery.QueryError

/-!
# Raw values as cells

A report gives every value as text. Two hyphens mean an unset value, one word
an excluded one, and another word, alone or before a value, a bidding strategy.
What is left is read as the kind of its column.
-/

namespace ReportQuery.Cell

/-- Whether a raw value means an unset one. -/
def meansUnset (raw : String) : Bool :=
  raw == CellValue.unsetText || Text.trimmed raw == "--"

/-- A raw value without its marks. -/
inductive Raw where
  | unset
  | excluded
  /-- Only the mark of a bidding strategy. -/
  | autoAlone
  | plain (payload : String)
  | auto (payload : String)
deriving DecidableEq, Repr

/-- The mark of a raw value and what it marks. -/
def Raw.ofText (raw : String) : Raw :=
  if meansUnset raw then unset
  else
    let trimmed := Text.trimmed raw
    if trimmed = "Excluded" then excluded
    else if trimmed = "auto" then autoAlone
    else
      match Text.dropLeading? "auto: ".toList trimmed.toList with
      | some rest =>
        let payload := String.ofList (Text.trim rest)
        if payload.isEmpty then autoAlone else auto payload
      | none => plain raw

/-- A whole number of 64 bits, with blanks around it. -/
def readInt? (payload : String) : Option CellValue :=
  (Numeral.signedWord? (Text.trim payload.toList)).map fun n => .int (some n)

/-- A number, with an optional percent sign; two texts stand for numbers beyond
a bound. -/
def readDouble? (payload : String) : Option CellValue :=
  let trimmed := Text.trim payload.toList
  let (digits, percent) := match Text.dropTrailing? ['%'] trimmed with
    | some rest => (rest, true)
    | none => (trimmed, false)
  let precision := Kind.precision .double
  if digits = "< 10".toList then
    some (.float (some 9.999) { precision, percent, almost := true })
  else if digits = "> 90".toList then
    some (.float (some 90.001) { precision, percent, almost := true })
  else
    (Decimal.float? (Text.trim digits)).map fun x =>
      .float (some x) { precision, percent }

/-- A day or a moment, with blanks around it. -/
def readDate? (payload : String) (style : DateStyle) : Option CellValue :=
  (style.layout.readMoment? (Text.trimmed payload)).map fun m =>
    .date (some m) style

/-- A value of a kind. -/
def readValue? (payload : String) : Kind → Option CellValue
  | .int => readInt? payload
  | .double => readDouble? payload
  | .date => readDate? payload .day
  | .dateTime => readDate? payload .moment
  | .text => some (.text (some payload))

/-- The cell that a raw value of a kind denotes, when it denotes one. -/
def cast? (raw : String) (kind : Kind) : Option Cell :=
  match Raw.ofText raw with
  | .unset => some (unset kind)
  | .excluded => some { unset kind with excluded := true }
  | .autoAlone => some { unset kind with auto := true }
  | .plain payload => (readValue? payload kind).map fun value => { value }
  | .auto payload => (readValue? payload kind).map fun value =>
    { value, auto := true }

/-- The cell that a raw value of a type tag denotes. -/
def cast (raw tag : String) : Except QueryError Cell :=
  match cast? raw (Kind.ofTag tag) with
  | some cell => .ok cell
  | none => .error (.cast raw tag)

end ReportQuery.Cell
