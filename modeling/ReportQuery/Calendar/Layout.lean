import ReportQuery.Calendar.Moment
import ReportQuery.Numeral
import ReportQuery.Text.Characters

/-!
# Layouts of days and moments

A layout is a sequence of parts. Reading takes each part from the front of a
text: a number may have blanks before it, a year without sign has at most four
digits and the other numbers at most two, a space stands for any run of blanks,
and nothing may be left over. Writing pads a year to four digits and the other
numbers to two, and gives a year outside 0 to 9999 its sign.
-/

namespace ReportQuery.Calendar

/-- One part of a layout. -/
inductive LayoutPart where
  | year
  | month
  | day
  | hour
  | minute
  | second
  | mark (c : Char)
  | space
deriving DecidableEq, Repr

/-- The parts of a written day or moment, in order. -/
abbrev Layout := List LayoutPart

namespace Layout

open LayoutPart

/-- Eight digits: year, month and day. -/
def compact : Layout := [year, month, day]

/-- Year, month and day with hyphens between them. -/
def date : Layout := [year, mark '-', month, mark '-', day]

/-- A day with hyphens, where blanks may stand around every number. -/
def spacedDate : Layout :=
  [year, space, mark '-', month, space, mark '-', day, space]

/-- A day with slashes, a space, and a time with colons. -/
def dateTime : Layout :=
  [year, mark '/', month, mark '/', day, space, hour, mark ':', minute,
    mark ':', second]

end Layout

/-- The numbers read so far, zero where the layout has none. -/
structure Reading where
  year : Int := 0
  month : Nat := 0
  day : Nat := 0
  hour : Nat := 0
  minute : Nat := 0
  second : Nat := 0
deriving DecidableEq, Repr

/-- At most `width` leading digits, at least one, and what follows them. -/
def takeNumber (width : Option Nat) (cs : List Char) :
    Option (Nat × List Char) :=
  let digits := cs.takeWhile Char.isDigit
  let digits := match width with
    | some n => digits.take n
    | none => digits
  (Numeral.natural? digits).map fun n => (n, cs.drop digits.length)

/-- A year: four digits at most, or any number of them after a sign. -/
def takeYear : List Char → Option (Int × List Char)
  | '-' :: cs => (takeNumber none cs).map fun (n, rest) => (-(n : Int), rest)
  | '+' :: cs => (takeNumber none cs).map fun (n, rest) => ((n : Int), rest)
  | cs => (takeNumber (some 4) cs).map fun (n, rest) => ((n : Int), rest)

/-- A number of one or two digits after optional blanks. -/
def takePair (cs : List Char) : Option (Nat × List Char) :=
  takeNumber (some 2) (Text.trimStart cs)

/-- One part taken from the front of a text. -/
def LayoutPart.read (part : LayoutPart) (r : Reading) (cs : List Char) :
    Option (Reading × List Char) :=
  match part with
  | .year => (takeYear (Text.trimStart cs)).map fun (n, rest) =>
    ({ r with year := n }, rest)
  | .month => (takePair cs).map fun (n, rest) => ({ r with month := n }, rest)
  | .day => (takePair cs).map fun (n, rest) => ({ r with day := n }, rest)
  | .hour => (takePair cs).map fun (n, rest) => ({ r with hour := n }, rest)
  | .minute => (takePair cs).map fun (n, rest) => ({ r with minute := n }, rest)
  | .second => (takePair cs).map fun (n, rest) => ({ r with second := n }, rest)
  | .space => some (r, Text.trimStart cs)
  | .mark c => match cs with
    | d :: rest => if c = d then some (r, rest) else none
    | [] => none

/-- All parts taken from a text, with nothing left over. -/
def Layout.readFrom : Layout → Reading → List Char → Option Reading
  | [], r, [] => some r
  | [], _, _ :: _ => none
  | part :: layout, r, cs => (part.read r cs).bind fun (r, rest) =>
    readFrom layout r rest

/-- The numbers of a text laid out in a given way. -/
def Layout.read? (layout : Layout) (s : String) : Option Reading :=
  layout.readFrom {} s.toList

/-- The day that the numbers denote. -/
def Reading.toDay? (r : Reading) : Option Day :=
  Day.ofCivil? ⟨r.year, r.month, r.day⟩

/-- The moment that the numbers denote. -/
def Reading.toMoment? (r : Reading) : Option Moment :=
  r.toDay?.bind fun day => Moment.ofClock? day r.hour r.minute r.second

/-- Four digits at least, with a sign when the year is outside 0 to 9999. -/
def yearText (year : Int) : List Char :=
  if 0 ≤ year ∧ year ≤ 9999 then Numeral.padded 4 year.toNat
  else (if year < 0 then '-' else '+') :: Numeral.padded 4 year.natAbs

/-- The text of one part of a moment. -/
def LayoutPart.write (part : LayoutPart) (m : Moment) : List Char :=
  match part with
  | .year => yearText m.day.civil.year
  | .month => Numeral.padded 2 m.day.civil.month
  | .day => Numeral.padded 2 m.day.civil.day
  | .hour => Numeral.padded 2 m.hour
  | .minute => Numeral.padded 2 m.minute
  | .second => Numeral.padded 2 m.secondOfMinute
  | .mark c => [c]
  | .space => [' ']

/-- The text of a moment. -/
def Layout.write (layout : Layout) (m : Moment) : String :=
  String.ofList (layout.flatMap fun part => part.write m)

/-- The text of a day. -/
def Layout.writeDay (layout : Layout) (day : Day) : String :=
  layout.write (Moment.midnight day)

/-- The day that a text laid out in a given way denotes. -/
def Layout.readDay? (layout : Layout) (s : String) : Option Day :=
  (layout.read? s).bind Reading.toDay?

/-- The moment that a text laid out in a given way denotes. -/
def Layout.readMoment? (layout : Layout) (s : String) : Option Moment :=
  (layout.read? s).bind Reading.toMoment?

/-- The day that exactly eight bytes of text denote in the compact layout. -/
def compactDay? (s : String) : Option Day :=
  if s.utf8ByteSize = 8 then Layout.compact.readDay? s else none

end ReportQuery.Calendar
