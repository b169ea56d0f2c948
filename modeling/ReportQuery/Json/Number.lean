import ReportQuery.Decimal.Reading
import ReportQuery.Json

/-!
# Numbers in JSON

A number is digits without leading zeros, then perhaps a fraction and an
exponent. A whole number of 64 bits is kept exactly. Any other is read as a
word of 64 bits times a power of ten: the digits are taken into the word as
long as it holds them. It is unreadable when the product of the two, as
doubles, is beyond every double; a number just below the largest double may be
lost in that way.
-/

namespace ReportQuery.JsonValue

/-- The digits of a numeral: a single zero, or digits that do not begin with
one. -/
def wholeDigits? : List Char → Option (List Char × List Char)
  | '0' :: c :: rest => if c.isDigit then none else some (['0'], c :: rest)
  | cs =>
    let digits := cs.takeWhile Char.isDigit
    if digits.isEmpty then none else some (digits, cs.dropWhile Char.isDigit)

/-- An optional fraction, with at least one digit after its point. -/
def fractionDigits? : List Char → Option (List Char × List Char)
  | '.' :: rest =>
    let digits := rest.takeWhile Char.isDigit
    if digits.isEmpty then none else some (digits, rest.dropWhile Char.isDigit)
  | cs => some ([], cs)

/-- The sign and the digits of an exponent, after its letter. -/
def exponentDigits? (cs : List Char) : Option (Int × List Char) :=
  let (negative, rest) := match cs with
    | '-' :: rest => (true, rest)
    | '+' :: rest => (false, rest)
    | _ => (false, cs)
  let digits := rest.takeWhile Char.isDigit
  (Numeral.natural? digits).map fun n =>
    (if negative then -(n : Int) else n, rest.dropWhile Char.isDigit)

/-- An optional exponent. -/
def exponentPart? (cs : List Char) : Option (Option Int × List Char) :=
  match cs with
  | 'e' :: rest => (exponentDigits? rest).map fun (e, rest) => (some e, rest)
  | 'E' :: rest => (exponentDigits? rest).map fun (e, rest) => (some e, rest)
  | _ => some (none, cs)

/-- The word after taking in digits from the front as long as it holds them,
and the digits left. -/
def takeIntoWord (word : Nat) : List Char → Nat × List Char
  | [] => (word, [])
  | c :: cs =>
    let next := word * 10 + (c.toNat - '0'.toNat)
    if next < Numeral.wordBound then takeIntoWord next cs else (word, c :: cs)

/-- The largest power of ten that is a double. -/
def topPower : Int := 308

/-- Whether a word times a power of ten is beyond every double. -/
def isBeyondDoubles (word : Nat) (exponent : Int) : Bool :=
  if word = 0 ∨ exponent < 0 then false
  else if topPower < exponent then true
  else (Float.ofNat word * Float.ofScientific 1 false exponent.toNat).isInf

/-- The value of digits before and after a point, times a power of ten. -/
def scaledNumber (whole places : List Char) (exponent : Int) : JsonValue :=
  let (word, more) := takeIntoWord 0 whole
  let (word, rest) := takeIntoWord word places
  if isBeyondDoubles word
    (more.length + rest.length - places.length + exponent) then unreadable
  else fraction

/-- Whether a whole number is one of 64 bits. A negative zero is none. -/
def isWord (negative : Bool) (n : Nat) : Bool :=
  if negative then 0 < n && n ≤ Numeral.signedBound else n < Numeral.wordBound

/-- A number after its sign. -/
def number? (negative : Bool) (cs : List Char) :
    Option (JsonValue × List Char) := do
  let (whole, rest) ← wholeDigits? cs
  let (places, rest) ← fractionDigits? rest
  let (exponent, rest) ← exponentPart? rest
  let n := Nat.ofDigitChars 10 whole 0
  if places.isEmpty && exponent.isNone && isWord negative n then
    some (integer (if negative then -n else n), rest)
  else some (scaledNumber whole places (exponent.getD 0), rest)

end ReportQuery.JsonValue
