import ReportQuery.Text.Characters
import ReportQuery.Text.HiddenTable

/-!
# Quoted text in messages

A message shows a name between double quotes. Quotes, backslashes and
characters that cannot be seen by themselves are escaped, so that what stands
between the quotes can be told exactly. Names may also be shown byte by byte.
-/

namespace ReportQuery.Text

/-- Whether a character is shown by its number. -/
def isHidden (c : Char) : Bool :=
  inRanges hiddenRanges c

/-- The shown form of a character. -/
def escapeChar (c : Char) : List Char :=
  match c with
  | '\x00' => ['\\', '0']
  | '\t' => ['\\', 't']
  | '\n' => ['\\', 'n']
  | '\r' => ['\\', 'r']
  | '\\' => ['\\', '\\']
  | '"' => ['\\', '"']
  | c =>
    if isHidden c then
      ['\\', 'u', '\x7b'] ++ Nat.toDigits 16 c.toNat ++ ['\x7d']
    else [c]

/-- A text between double quotes. -/
def quoted (s : String) : String :=
  "\"" ++ String.ofList (s.toList.flatMap escapeChar) ++ "\""

/-- The shown form of a byte: a character of ASCII that can be seen, or the
number. -/
def escapeByte (b : UInt8) : List Char :=
  if b = 0x22 then ['\\', '"']
  else if 0x20 ≤ b ∧ b < 0x7F then [Char.ofNat b.toNat]
  else ['0', 'x'] ++ (Nat.toDigits 16 b.toNat).map Char.toUpper

/-- The bytes of a text between double quotes. -/
def quotedBytes (s : String) : String :=
  "\"" ++ String.ofList ((s.toList.flatMap String.utf8EncodeChar).flatMap
    escapeByte) ++ "\""

end ReportQuery.Text
