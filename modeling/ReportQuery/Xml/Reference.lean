import ReportQuery.Xml

/-!
# References in XML text

An ampersand begins a reference and a semicolon ends it. It names one of five
characters, or gives the number of a character in decimal or hexadecimal
digits.
-/

namespace ReportQuery.Xml

/-- The character of a name. -/
def namedChar? : List Char → Option Char
  | ['l', 't'] => some '<'
  | ['g', 't'] => some '>'
  | ['a', 'm', 'p'] => some '&'
  | ['a', 'p', 'o', 's'] => some '\''
  | ['q', 'u', 'o', 't'] => some '"'
  | _ => none

/-- How many digits of a base a numeric reference may have. -/
def longestNumber (hexadecimal : Bool) : Nat :=
  if hexadecimal then 6 else 7

/-- The number of a numeric reference. -/
def referenceNumber (hexadecimal : Bool) (digits : List Char) :
    Except ReferenceFault Nat :=
  let digit? := if hexadecimal then Numeral.hexDigit? else Numeral.decimalDigit?
  if longestNumber hexadecimal < byteCount digits then
    .error (.tooLong hexadecimal)
  else
    match digits.find? fun c => (digit? c).isNone with
    | some c => .error (.badDigit hexadecimal c)
    | none =>
        .ok ((Numeral.digits? digit? (if hexadecimal then 16 else 10)
          digits).getD 0)

/-- The character of a numeric reference that stands at some bytes. -/
def numberedChar (start stop : Nat) (digits : List Char) :
    Except ReferenceFault Char := do
  let n ← match digits with
    | 'x' :: digits => referenceNumber true digits
    | _ => referenceNumber false digits
  if n = 0 then .error (.null start stop)
  else if Nat.isValidChar n then .ok (Char.ofNat n)
  else .error (.noCharacter n)

/-- The character of a reference that stands at some bytes. -/
def referencedChar (start stop : Nat) (name : List Char) :
    Except ReferenceFault Char :=
  match name with
  | '#' :: digits => numberedChar start stop digits
  | _ =>
    match namedChar? name with
    | some c => .ok c
    | none => .error (.unknown (start + 1) stop (String.ofList name))

/-- A reference that has begun: the byte where it begins, and its name so far
in reverse. -/
abbrev OpenReference := Nat × List Char

/-- The characters of raw text of `size` bytes, from byte `place` on. -/
def resolveFrom (size place : Nat) :
    Option OpenReference → List Char → Except ReferenceFault (List Char)
  | none, [] => .ok []
  | some (start, _), [] => .error (.unterminated start size)
  | none, c :: cs =>
    if c = '&' then resolveFrom size (place + c.utf8Size) (some (place, [])) cs
    else (resolveFrom size (place + c.utf8Size) none cs).map (c :: ·)
  | some (start, name), c :: cs =>
    if c = '&' then .error (.unterminated start size)
    else if c = ';' then
      (referencedChar start place name.reverse).bind fun d =>
        (resolveFrom size (place + c.utf8Size) none cs).map (d :: ·)
    else resolveFrom size (place + c.utf8Size) (some (start, c :: name)) cs

/-- The characters that raw text denotes. -/
def resolve (raw : List Char) : Except ReferenceFault (List Char) :=
  resolveFrom (byteCount raw) 0 none raw

end ReportQuery.Xml
