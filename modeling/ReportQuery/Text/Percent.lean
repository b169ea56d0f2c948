import ReportQuery.Numeral

/-!
# Percent encoding

A character that may not stand for itself is written as the bytes of its UTF-8
form, each as a percent sign and two upper-case hexadecimal digits. Decoding
leaves a percent sign alone that no two digits follow.
-/

namespace ReportQuery.Percent

/-- The upper-case hexadecimal digit of a number below sixteen. -/
def digit (n : Nat) : Char :=
  (Nat.digitChar n).toUpper

/-- The written form of a byte. -/
def ofByte (b : UInt8) : List Char :=
  ['%', digit (b.toNat / 16), digit (b.toNat % 16)]

/-- The written form of a character. -/
def ofChar (c : Char) : List Char :=
  (String.utf8EncodeChar c).flatMap ofByte

/-- The text with every character encoded that may not be kept. -/
def encode (keep : Char → Bool) (cs : List Char) : List Char :=
  cs.flatMap fun c => if keep c then [c] else ofChar c

/-- The byte that two hexadecimal digits denote. -/
def byte? (high low : Char) : Option UInt8 :=
  (Numeral.digits? Numeral.hexDigit? 16 [high, low]).map UInt8.ofNat

/-- The bytes that a text denotes. -/
def decode : List Char → List UInt8
  | '%' :: high :: low :: cs =>
    match byte? high low with
    | some b => b :: decode cs
    | none => String.utf8EncodeChar '%' ++ decode (high :: low :: cs)
  | c :: cs => String.utf8EncodeChar c ++ decode cs
  | [] => []

end ReportQuery.Percent
