import ReportQuery.Numeral

/-!
# Decimals with a fixed number of places

A finite double is an integer times a power of two. Its text with a given
number of places is the exact value rounded to that many places, a tie going to
the even neighbour.

The whole part of a double is what is left of it without its places after the
point. As a signed word of 64 bits it stops at the largest and at the smallest
word, and the absence of a number counts as zero.
-/

namespace ReportQuery.Decimal

/-- A finite double as `± mantissa · 2 ^ exponent`. -/
structure Binary where
  negative : Bool
  mantissa : Nat
  exponent : Int
deriving DecidableEq, Repr

/-- What a double stands for. -/
inductive FloatClass where
  | finite (value : Binary)
  | infinite (negative : Bool)
  | notANumber
deriving DecidableEq, Repr

/-- The parts of a double, from the layout of its bits. -/
def classify (x : Float) : FloatClass :=
  let bits : Nat := x.toBits.toNat
  let negative := bits / Nat.pow 2 63 == 1
  let biased : Nat := bits / Nat.pow 2 52 % Nat.pow 2 11
  let fraction : Nat := bits % Nat.pow 2 52
  if biased = 2047 then
    if fraction = 0 then .infinite negative else .notANumber
  else if biased = 0 then .finite ⟨negative, fraction, -1074⟩
  else .finite ⟨negative, fraction + Nat.pow 2 52, (biased : Int) - 1075⟩

/-- The quotient rounded to the nearest integer, a tie to the even one. -/
def roundDiv (num den : Nat) : Nat :=
  let quotient := num / den
  let twice := 2 * (num % den)
  if den < twice ∨ (twice = den ∧ quotient % 2 = 1) then quotient + 1
  else quotient

/-- The value times `10 ^ places`, rounded to an integer. -/
def Binary.scaled (b : Binary) (places : Nat) : Nat :=
  let tens := b.mantissa * Nat.pow 10 places
  if 0 ≤ b.exponent then tens * Nat.pow 2 b.exponent.toNat
  else roundDiv tens (Nat.pow 2 (-b.exponent).toNat)

/-- The digits of `n` with a point before the last `places` of them. -/
def pointed (n places : Nat) : List Char :=
  let digits := Numeral.padded (places + 1) n
  if places = 0 then digits
  else digits.take (digits.length - places) ++
    '.' :: digits.drop (digits.length - places)

/-- The text of a double with a fixed number of places. -/
def fixed (places : Nat) (x : Float) : String :=
  match classify x with
  | .notANumber => "NaN"
  | .infinite negative => if negative then "-inf" else "inf"
  | .finite b =>
    String.ofList ((if b.negative then ['-'] else []) ++
      pointed (b.scaled places) places)

/-! ## Whole parts -/

/-- The value without its places after the point. -/
def Binary.wholePart (b : Binary) : Int :=
  let magnitude : Nat :=
    if 0 ≤ b.exponent then b.mantissa * Nat.pow 2 b.exponent.toNat
    else b.mantissa / Nat.pow 2 (-b.exponent).toNat
  if b.negative then -(magnitude : Int) else magnitude

/-- The whole part of a double as a signed word of 64 bits. -/
def wholePart (x : Float) : Int :=
  match classify x with
  | .notANumber => 0
  | .infinite negative =>
    if negative then -(Numeral.signedBound : Int) else Numeral.signedBound - 1
  | .finite b =>
    max (-(Numeral.signedBound : Int))
      (min b.wholePart (Numeral.signedBound - 1))

end ReportQuery.Decimal
