/-!
# Decimal numerals

Whole numbers as text. A numeral is a non-empty run of ASCII digits; a signed
numeral may have one sign in front. Leading zeros carry no meaning.
-/

namespace ReportQuery.Numeral

/-- The largest value of an unsigned word of 64 bits, plus one. -/
def wordBound : Nat := Nat.pow 2 64

/-- The largest value of a signed word of 64 bits, plus one. -/
def signedBound : Nat := Nat.pow 2 63

/-- The number that a non-empty run of digits denotes. -/
def natural? (cs : List Char) : Option Nat :=
  if cs.isEmpty || !cs.all Char.isDigit then none
  else some (Nat.ofDigitChars 10 cs 0)

/-- The number that digits denote, after an optional sign. -/
def integer? : List Char → Option Int
  | '-' :: cs => (natural? cs).map fun n => -(n : Int)
  | '+' :: cs => (natural? cs).map fun n => (n : Int)
  | cs => (natural? cs).map fun n => (n : Int)

/-- A signed numeral whose value fits a signed word of 64 bits. -/
def signedWord? (cs : List Char) : Option Int :=
  (integer? cs).filter fun n => -(signedBound : Int) ≤ n && n < signedBound

/-- The value of a digit below ten. -/
def decimalDigit? (c : Char) : Option Nat :=
  if c.isDigit then some (c.toNat - '0'.toNat) else none

/-- The value of a hexadecimal digit in either letter case. -/
def hexDigit? (c : Char) : Option Nat :=
  if 'a' ≤ c ∧ c ≤ 'f' then some (c.toNat - 'a'.toNat + 10)
  else if 'A' ≤ c ∧ c ≤ 'F' then some (c.toNat - 'A'.toNat + 10)
  else decimalDigit? c

/-- The number that digits of a base denote; no digits denote zero. -/
def digits? (digit? : Char → Option Nat) (base : Nat) (cs : List Char) :
    Option Nat :=
  cs.foldlM (fun n c => (digit? c).map fun d => n * base + d) 0

/-- The shortest numeral of a number. -/
def ofNat (n : Nat) : String :=
  n.repr

/-- The shortest numeral of a number, with a minus sign when it is negative. -/
def ofInt : Int → String
  | .ofNat n => ofNat n
  | .negSucc n => "-" ++ ofNat (n + 1)

/-- The digits of a number, with zeros in front up to a width. -/
def padded (width n : Nat) : List Char :=
  let digits := Nat.toDigits 10 n
  List.replicate (width - digits.length) '0' ++ digits

theorem all_isDigit_toDigits (n : Nat) :
    ∀ c ∈ Nat.toDigits 10 n, c.isDigit = true := fun _ h =>
  Nat.isDigit_of_mem_toDigits (b := 10) (n := n) (by decide) (by decide) h

theorem natural?_toDigits (n : Nat) :
    natural? (Nat.toDigits 10 n) = some n := by
  have h : (Nat.toDigits 10 n).all Char.isDigit = true := by
    simpa using all_isDigit_toDigits n
  simp [natural?, h, Nat.toDigits_ne_nil, Nat.ofDigitChars_toDigits]

theorem natural?_padded (width n : Nat) :
    natural? (padded width n) = some n := by
  have h : (padded width n).all Char.isDigit = true := by
    simp only [List.all_eq_true, padded, List.mem_append, List.mem_replicate]
    rintro c (⟨-, rfl⟩ | hc)
    · decide
    · exact all_isDigit_toDigits n c hc
  have hne : (padded width n).isEmpty = false := by
    simp [padded, Nat.toDigits_ne_nil]
  have hn : Nat.ofDigitChars 10 (padded width n) 0 = n := by
    simp [padded, Nat.ofDigitChars_append, Nat.ofDigitChars_replicate_zero]
  simp [natural?, hne, h, hn]

end ReportQuery.Numeral
