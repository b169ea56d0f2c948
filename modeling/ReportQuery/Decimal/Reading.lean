import ReportQuery.Numeral
import ReportQuery.Text.Characters

/-!
# Reading floating-point text

A decimal has an optional sign, digits with at most one point among them, and
an optional exponent; at least one digit stands before or after the point. The
words for infinity and for the absence of a number are read in any letter case.
The value is the double nearest to the decimal.
-/

namespace ReportQuery.Decimal

/-- The decimal `mantissa · 10 ^ exponent`. -/
structure Scaled where
  mantissa : Nat
  exponent : Int
deriving DecidableEq, Repr

/-- Beyond this power of ten every decimal is larger than the largest double. -/
def topMagnitude : Int := 310

/-- Below this power of ten every decimal rounds to zero. -/
def bottomMagnitude : Int := -330

namespace Scaled

/-- The power of ten just above the value, for a mantissa that is not zero. -/
def magnitude (d : Scaled) : Int :=
  (Nat.toDigits 10 d.mantissa).length + d.exponent

/-- The double nearest to the decimal. -/
def toFloat (d : Scaled) : Float :=
  if d.mantissa = 0 then 0.0
  else if topMagnitude < d.magnitude then 1.0 / 0.0
  else if d.magnitude < bottomMagnitude then 0.0
  else Float.ofScientific d.mantissa (d.exponent < 0) d.exponent.natAbs

end Scaled

/-- The exponent part of a decimal: nothing, or `e` followed by a signed
numeral. -/
def exponent? : List Char → Option Int
  | [] => some 0
  | c :: cs => if c = 'e' ∨ c = 'E' then Numeral.integer? cs else none

/-- A decimal without sign. -/
def unsigned? (cs : List Char) : Option Scaled := do
  let whole := cs.takeWhile Char.isDigit
  let rest := cs.dropWhile Char.isDigit
  let (fraction, rest) := match rest with
    | '.' :: rest => (rest.takeWhile Char.isDigit, rest.dropWhile Char.isDigit)
    | _ => ([], rest)
  if whole.isEmpty && fraction.isEmpty then none
  let e ← exponent? rest
  some ⟨Nat.ofDigitChars 10 (whole ++ fraction) 0, e - fraction.length⟩

/-- A floating-point text without sign. -/
def magnitude? (cs : List Char) : Option Float :=
  let word := Text.lower (String.ofList cs)
  if word = "inf" ∨ word = "infinity" then some (1.0 / 0.0)
  else if word = "nan" then some (0.0 / 0.0)
  else (unsigned? cs).map Scaled.toFloat

/-- The double that a text denotes. -/
def float? : List Char → Option Float
  | '-' :: cs => (magnitude? cs).map Float.neg
  | '+' :: cs => magnitude? cs
  | cs => magnitude? cs

end ReportQuery.Decimal
