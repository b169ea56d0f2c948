import ReportQuery.Calendar.Day
import ReportQuery.Decimal.Reading
import ReportQuery.Toml.Quoted

/-!
# TOML values

A value keeps what settings are made of. Of a floating-point number and of a
moment only the kind is kept, and the entries of a table have different names.

Whole numbers are decimal, with an optional sign and no leading zero, or
hexadecimal, octal or binary after a prefix; they fit a signed word of 64 bits.
A single underscore may stand between two digits. Moments are dates, times of
day with seconds, or both, and then perhaps with a distance from universal
time.
-/

namespace ReportQuery

/-- A TOML value. -/
inductive TomlValue where
  | text (s : String)
  | integer (n : Int)
  | float
  | bool (b : Bool)
  /-- A date, a time of day, or both. -/
  | moment
  | array (items : List TomlValue)
  | table (entries : List (String × TomlValue))

namespace Toml

/-! ## Numbers and moments -/

/-- The digits at the front, without the underscores between them, and what
follows. -/
def digitRun (isDigit : Char → Bool) : List Char → List Char × List Char
  | '_' :: c :: cs =>
    if isDigit c then
      let (digits, rest) := digitRun isDigit cs
      (c :: digits, rest)
    else ([], '_' :: c :: cs)
  | c :: cs =>
    if isDigit c then
      let (digits, rest) := digitRun isDigit cs
      (c :: digits, rest)
    else ([], c :: cs)
  | [] => ([], [])

/-- The digits at the front, of which the first stands at once. -/
def digits? (isDigit : Char → Bool) : List Char → Option (List Char × List Char)
  | c :: cs => if isDigit c then some (digitRun isDigit (c :: cs)) else none
  | [] => none

/-- The value of a digit below eight. -/
def octalDigit? (c : Char) : Option Nat :=
  (Numeral.decimalDigit? c).filter (· < 8)

/-- The value of a digit below two. -/
def binaryDigit? (c : Char) : Option Nat :=
  (Numeral.decimalDigit? c).filter (· < 2)

/-- A whole number of a signed word. -/
def wholeNumber? (n : Int) : Option TomlValue :=
  if -(Numeral.signedBound : Int) ≤ n ∧ n < Numeral.signedBound then
    some (.integer n)
  else none

/-- A whole number of a base, after its prefix. -/
def basedNumber? (digit? : Char → Option Nat) (base : Nat) (cs : List Char) :
    Option (TomlValue × List Char) := do
  let (digits, rest) ← digits? (fun c => (digit? c).isSome) cs
  let value ← wholeNumber? (← Numeral.digits? digit? base digits)
  some (value, rest)

/-- The exponent of a number after its letter: its value, and what follows. -/
def exponent? (cs : List Char) : Option (Int × List Char) := do
  let (negative, rest) := match cs with
    | '-' :: rest => (true, rest)
    | '+' :: rest => (false, rest)
    | _ => (false, cs)
  let (digits, rest) ← digits? Char.isDigit rest
  let n ← Numeral.natural? digits
  some (if negative then -(n : Int) else n, rest)

/-- An optional exponent. -/
def exponentPart? (cs : List Char) : Option (Option Int × List Char) :=
  match cs with
  | c :: rest =>
    if c = 'e' ∨ c = 'E' then
      (exponent? rest).map fun (n, rest) => (some n, rest)
    else some (none, cs)
  | [] => some (none, cs)

/-- The optional digits after a point. -/
def fraction? (cs : List Char) : Option (Option (List Char) × List Char) :=
  match cs with
  | '.' :: rest => (digits? Char.isDigit rest).map fun (digits, rest) =>
    (some digits, rest)
  | _ => some (none, cs)

/-- A floating-point number; a positive one must be within the doubles. -/
def floatValue? (negative : Bool) (d : Decimal.Scaled) : Option TomlValue :=
  if d.toFloat.isInf && !negative then none else some .float

/-- A decimal number after its sign. -/
def decimalNumber? (negative : Bool) (cs : List Char) :
    Option (TomlValue × List Char) := do
  let (whole, rest) ← digits? Char.isDigit cs
  if whole.head? = some '0' ∧ 1 < whole.length then none
  let (places, rest) ← fraction? rest
  let (exponent, rest) ← exponentPart? rest
  let n := Nat.ofDigitChars 10 (whole ++ places.getD []) 0
  let value ←
    if places.isNone && exponent.isNone then
      wholeNumber? (if negative then -(n : Int) else n)
    else floatValue? negative ⟨n, exponent.getD 0 - (places.getD []).length⟩
  some (value, rest)

/-- A number after its sign. -/
def signedNumber? (negative : Bool) (cs : List Char) :
    Option (TomlValue × List Char) :=
  match cs with
  | 'i' :: 'n' :: 'f' :: rest => some (.float, rest)
  | 'n' :: 'a' :: 'n' :: rest => some (.float, rest)
  | _ => decimalNumber? negative cs

/-- A number. -/
def number? (cs : List Char) : Option (TomlValue × List Char) :=
  match cs with
  | '+' :: rest => signedNumber? false rest
  | '-' :: rest => signedNumber? true rest
  | '0' :: 'x' :: rest => basedNumber? Numeral.hexDigit? 16 rest
  | '0' :: 'o' :: rest => basedNumber? octalDigit? 8 rest
  | '0' :: 'b' :: rest => basedNumber? binaryDigit? 2 rest
  | _ => signedNumber? false cs

/-- A number of exactly `length` digits up to a bound, and what follows. -/
def field? (length bound : Nat) (cs : List Char) :
    Option (Nat × List Char) := do
  let n ← Numeral.natural? (cs.take length)
  if (cs.take length).length = length ∧ n ≤ bound then some (n, cs.drop length)
  else none

/-- What follows a date. -/
def afterDate? (cs : List Char) : Option (List Char) := do
  let (year, rest) ← field? 4 9999 cs
  let rest ← Text.dropLeading? ['-'] rest
  let (month, rest) ← field? 2 12 rest
  let rest ← Text.dropLeading? ['-'] rest
  let (day, rest) ← field? 2 31 rest
  if (Day.ofCivil? ⟨year, month, day⟩).isSome then some rest else none

/-- What follows the fraction of a second, when there is one. -/
def afterFraction? : List Char → Option (List Char)
  | '.' :: c :: rest =>
    if c.isDigit then some (rest.dropWhile Char.isDigit) else none
  | '.' :: [] => none
  | cs => some cs

/-- What follows hours and minutes. -/
def afterMinutes? (cs : List Char) : Option (List Char) := do
  let (_, rest) ← field? 2 23 cs
  let rest ← Text.dropLeading? [':'] rest
  let (_, rest) ← field? 2 59 rest
  some rest

/-- What follows a time of day. -/
def afterTime? (cs : List Char) : Option (List Char) := do
  let rest ← Text.dropLeading? [':'] (← afterMinutes? cs)
  let (_, rest) ← field? 2 60 rest
  afterFraction? rest

/-- What follows a distance from universal time, when there is one. -/
def afterOffset? : List Char → Option (List Char)
  | 'Z' :: rest => some rest
  | 'z' :: rest => some rest
  | '+' :: rest => afterMinutes? rest
  | '-' :: rest => afterMinutes? rest
  | cs => some cs

/-- Whether a time of day begins here. -/
def beginsTime : List Char → Bool
  | a :: b :: ':' :: _ => a.isDigit && b.isDigit
  | _ => false

/-- Whether a date begins here. -/
def beginsDate : List Char → Bool
  | a :: b :: c :: d :: '-' :: _ =>
    a.isDigit && b.isDigit && c.isDigit && d.isDigit
  | _ => false

/-- What follows a date and the time after it, when there is one. -/
def afterDateTime? (cs : List Char) : Option (List Char) := do
  let rest ← afterDate? cs
  match rest with
  | c :: time =>
    if (c = 'T' ∨ c = 't' ∨ c = ' ') ∧ beginsTime time then
      afterOffset? (← afterTime? time)
    else some rest
  | [] => some rest

/-- A number or a moment. -/
def numberOrMoment? (cs : List Char) : Option (TomlValue × List Char) :=
  if beginsDate cs then (afterDateTime? cs).map fun rest => (.moment, rest)
  else if beginsTime cs then (afterTime? cs).map fun rest => (.moment, rest)
  else number? cs

end Toml

end ReportQuery
